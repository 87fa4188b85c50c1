import Mathlib.Data.List.Basic
import TableMapper.Sql.Fragment

/-!
# Fragments in the middle of a statement

Of the pieces before it a fragment sees only how many arguments they send.

* `Fragment.sqlAfter` is the text of a fragment after some arguments, `Fragment.sqlsAfter` and
  `Fragment.writtenAfter` are those of several fragments one after the other.
* `Fragment.sqlAfter_join`: fragments that are joined by a separator give their texts with the
  separator between them.
* `Fragment.stands_texts` and `Fragment.stands_writtenAfter`: each text stands for its piece, be it
  as it is or as the placeholder of an argument.
-/

namespace TableMapper

/-- The text stands for the piece in a statement with these arguments: it is the text of the piece
itself, or the placeholder of its value. -/
def Piece.Stands (binding : Binding) (tag : DollarTag) (args : List Value) (p : Piece)
    (s : String) : Prop :=
  match p.argument? binding with
  | none => s = p.text tag
  | some (v, cast) => ∃ k, args[k]? = some v ∧ s = Fragment.placeholder (k + 1) cast

namespace Fragment

variable (binding : Binding) (tag : DollarTag)

/-- How many arguments a fragment sends. -/
def count (f : Fragment) : Nat := (arguments binding f).length

/-- The text of a fragment after `n` arguments. -/
def sqlAfter (n : Nat) (f : Fragment) : String := String.join (texts binding tag n f)

/-- The texts of fragments one after the other, after `n` arguments. -/
def sqlsAfter : Nat → List Fragment → List String
  | _, [] => []
  | n, f :: fs => sqlAfter binding tag n f :: sqlsAfter (n + count binding f) fs

/-- The texts of the pieces of fragments one after the other, after `n` arguments. -/
def writtenAfter : Nat → List Fragment → List (List String)
  | _, [] => []
  | n, f :: fs => texts binding tag n f :: writtenAfter (n + count binding f) fs

variable {binding : Binding} {tag : DollarTag}

/-! ### Counting arguments -/

theorem arguments_append (f g : Fragment) :
    arguments binding (f ++ g) = arguments binding f ++ arguments binding g :=
  List.filterMap_append

theorem count_append (f g : Fragment) :
    count binding (f ++ g) = count binding f + count binding g := by
  rw [count, arguments_append, List.length_append]
  rfl

theorem arguments_sql_cons (s : String) (f : Fragment) :
    arguments binding (.sql s :: f) = arguments binding f := rfl

theorem count_sql_cons (s : String) (f : Fragment) :
    count binding (.sql s :: f) = count binding f := rfl

theorem arguments_join (separator : String) (fs : List Fragment) :
    arguments binding (join separator fs) = arguments binding fs.flatten := by
  induction fs with
  | nil => rfl
  | cons f fs ih =>
    cases fs with
    | nil => simp [join]
    | cons g fs =>
      rw [join, arguments_append, arguments_sql_cons, ih, ← arguments_append]
      rfl

/-! ### Texts -/

theorem texts_append (n : Nat) (f g : Fragment) :
    texts binding tag n (f ++ g) =
      texts binding tag n f ++ texts binding tag (n + count binding f) g := by
  induction f generalizing n with
  | nil => rfl
  | cons p f ih =>
    cases h : p.argument? binding with
    | none =>
      have hc : count binding (p :: f) = count binding f := by
        rw [count, count, arguments, arguments, List.filterMap_cons, h]
        rfl
      simp only [List.cons_append, texts, h, ih, hc]
    | some a =>
      have hc : count binding (p :: f) = count binding f + 1 := by
        rw [count, count, arguments, arguments, List.filterMap_cons, h]
        rfl
      have hn : n + (count binding f + 1) = n + 1 + count binding f := by omega
      simp only [List.cons_append, texts, h, ih, hc, hn]

theorem sqlAfter_nil (n : Nat) : sqlAfter binding tag n [] = "" := rfl

theorem sqlAfter_append (n : Nat) (f g : Fragment) :
    sqlAfter binding tag n (f ++ g) =
      sqlAfter binding tag n f ++ sqlAfter binding tag (n + count binding f) g := by
  rw [sqlAfter, texts_append, String.join_append]
  rfl

theorem sqlAfter_sql_cons (n : Nat) (s : String) (f : Fragment) :
    sqlAfter binding tag n (.sql s :: f) = s ++ sqlAfter binding tag n f := by
  rw [sqlAfter, show texts binding tag n (.sql s :: f) = s :: texts binding tag n f from rfl,
    String.join_cons]
  rfl

theorem sqlAfter_ofText (n : Nat) (s : String) : sqlAfter binding tag n (ofText s) = s := by
  rw [ofText, sqlAfter_sql_cons, sqlAfter_nil, String.append_empty]

theorem sqlsAfter_append (n : Nat) (fs gs : List Fragment) :
    sqlsAfter binding tag n (fs ++ gs) =
      sqlsAfter binding tag n fs ++ sqlsAfter binding tag (n + count binding fs.flatten) gs := by
  induction fs generalizing n with
  | nil => rfl
  | cons f fs ih =>
    rw [List.cons_append, sqlsAfter, ih, sqlsAfter, List.flatten_cons, count_append,
      ← Nat.add_assoc]
    rfl

theorem sqlsAfter_singletons (n : Nat) (f : Fragment) :
    sqlsAfter binding tag n (f.map ([·])) = texts binding tag n f := by
  induction f generalizing n with
  | nil => rfl
  | cons p f ih =>
    have all : texts binding tag n ([p] ++ f) = _ := texts_append n [p] f
    have one : texts binding tag n [p] = [sqlAfter binding tag n [p]] := by
      cases h : p.argument? binding <;> simp [sqlAfter, texts, h]
    rw [List.map_cons, sqlsAfter, ih, ← List.singleton_append, ← one]
    exact all.symm

/-- Joined fragments give their texts with the separator between neighbours. -/
theorem sqlAfter_join (separator : String) (n : Nat) (fs : List Fragment) :
    sqlAfter binding tag n (join separator fs) =
      separator.intercalate (sqlsAfter binding tag n fs) := by
  induction fs generalizing n with
  | nil => rfl
  | cons f fs ih =>
    cases fs with
    | nil => rw [join, sqlsAfter, sqlsAfter, String.intercalate_singleton]
    | cons g fs =>
      have rest : sqlsAfter binding tag (n + count binding f) (g :: fs) ≠ [] :=
        List.cons_ne_nil _ _
      have all : sqlsAfter binding tag n (f :: g :: fs) =
          sqlAfter binding tag n f :: sqlsAfter binding tag (n + count binding f) (g :: fs) := rfl
      rw [join, sqlAfter_append, sqlAfter_sql_cons, ih, all,
        String.intercalate_cons_of_ne_nil rest, String.append_assoc]

/-- Joining joined fragments is joining all of them, if none of the inner lists is empty. -/
theorem join_flatten {separator : String} {fss : List (List Fragment)} (h : ∀ fs ∈ fss, fs ≠ []) :
    join separator (fss.map (join separator)) = join separator fss.flatten := by
  have append : ∀ fs gs : List Fragment, fs ≠ [] → gs ≠ [] →
      join separator (fs ++ gs) = join separator fs ++ .sql separator :: join separator gs := by
    intro fs gs hf hg
    induction fs with
    | nil => exact absurd rfl hf
    | cons f fs ih =>
      cases fs with
      | nil =>
        obtain ⟨g, gs, rfl⟩ := List.exists_cons_of_ne_nil hg
        rfl
      | cons f' fs =>
        rw [List.cons_append, List.cons_append, join, ← List.cons_append, ih (by simp), join,
          List.append_assoc, List.cons_append]
  induction fss with
  | nil => rfl
  | cons fs fss ih =>
    have hfs := h fs List.mem_cons_self
    have rest := ih fun gs hgs => h gs (List.mem_cons_of_mem fs hgs)
    cases fss with
    | nil => simp [join]
    | cons gs fss =>
      have hne : (gs :: fss).flatten ≠ [] := by
        have hgs := h gs (by simp)
        simp [hgs]
      rw [List.map_cons, List.map_cons, join, ← List.map_cons, rest, ← append fs _ hfs hne]
      rfl

/-- Fragments behind some that are joined already. -/
theorem join_cons_join {separator : String} {fs : List Fragment} (some : fs ≠ [])
    (gs : List Fragment) :
    join separator (join separator fs :: gs) = join separator (fs ++ gs) := by
  have each : ∀ hs ∈ fs :: gs.map ([·]), hs ≠ [] := by simpa using some
  have joined : (fs :: gs.map ([·])).map (join separator) = join separator fs :: gs := by
    rw [List.map_cons, List.map_map]
    exact congrArg _ (List.map_id gs)
  have flattened : (fs :: gs.map ([·])).flatten = fs ++ gs := by
    rw [List.flatten_cons, ← List.flatMap_def, List.flatMap_singleton']
  rw [← joined, join_flatten each, flattened]

/-! ### Texts of several fragments -/

variable (binding tag) in
/-- The texts of a fragment stand for its pieces, wherever the fragment stands in a statement. -/
theorem stands_texts (before after : List Value) (f : Fragment) :
    List.Forall₂ (Piece.Stands binding tag (before ++ arguments binding f ++ after)) f
      (texts binding tag before.length f) := by
  -- the arguments before the rest of the fragment grow by one with each placeholder
  induction f generalizing before with
  | nil => exact .nil
  | cons p f ih =>
    cases h : p.argument? binding with
    | none =>
      have ha : arguments binding (p :: f) = arguments binding f := by
        rw [arguments, List.filterMap_cons, h]
        rfl
      rw [texts, h, ha]
      refine .cons ?_ (ih before)
      simp [Piece.Stands, h]
    | some a =>
      obtain ⟨v, cast⟩ := a
      have ha : arguments binding (p :: f) = v :: arguments binding f := by
        rw [arguments, List.filterMap_cons, h]
        rfl
      have rest := ih (before ++ [v])
      rw [List.length_append, List.length_singleton] at rest
      rw [texts, h, ha]
      refine .cons ?_ (by simpa using rest)
      simp only [Piece.Stands, h]
      exact ⟨before.length, by simp, rfl⟩

variable (binding tag) in
/-- The texts of fragments one after the other stand for their pieces. -/
theorem stands_writtenAfter (before after : List Value) (fs : List Fragment) :
    List.Forall₂
      (List.Forall₂ (Piece.Stands binding tag (before ++ arguments binding fs.flatten ++ after)))
      fs (writtenAfter binding tag before.length fs) := by
  induction fs generalizing before with
  | nil => exact .nil
  | cons f fs ih =>
    -- the arguments of the first fragment come before those of the others
    have here := stands_texts binding tag before
      (arguments binding fs.flatten ++ after) f
    have rest := ih (before ++ arguments binding f)
    rw [List.length_append] at rest
    rw [List.flatten_cons, arguments_append]
    simp only [List.append_assoc] at here rest ⊢
    exact .cons here rest

end Fragment

end TableMapper
