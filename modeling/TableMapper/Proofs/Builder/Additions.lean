import TableMapper.Proofs.Builder.Grouping
import TableMapper.Proofs.Builder.Restriction

/-!
# Additions to conditions

A condition that is made of entries takes more of them, one with each call; a template does not.

* `Addition` is a call that adds an entry, and `Condition.extend` are several calls.
* `Filter.Conjuncts` are what the condition came to before the calls and one fragment for each call.
* `Condition.additions_kept`: the filter has AND between the conjuncts, and requires all of them
  unless one of them has an OR.
-/

namespace TableMapper

/-- A call that adds an entry to a condition. -/
inductive Addition where
  | eq (column : String) (value : Value)
  | isIn (column : String) (values : List Value)
  | op (column operator : String) (value : Value)
  | raw (expression : String) (arguments : List Value)

namespace Addition

/-- The condition after the call. -/
def apply (c : Condition) : Addition → Condition
  | .eq column value => c.eq column value
  | .isIn column values => c.isIn column values
  | .op column operator value => c.op column operator value
  | .raw expression args => c.raw expression args

/-- The entry of the call. -/
def entry : Addition → String × Comparison
  | .eq column value => (column, .eq value)
  | .isIn column values => (column, .among values)
  | .op column operator value => (column, .ops [(operator, value)])
  | .raw expression args => (expression, .raw args)

/-- The fragment of the entry. -/
def compile? (decl : Option TableDecl) (a : Addition) : Except String (Option Fragment) :=
  Filter.entry? decl a.entry.1 a.entry.2

theorem apply_entries (es : List (String × Comparison)) (a : Addition) :
    apply (.entries es) a = .entries (es ++ [a.entry]) := by
  cases a <;> rfl

theorem apply_template (sql : String) (args : List Value) (a : Addition) :
    apply (.template sql args) a = .template sql args := by
  cases a <;> rfl

/-- Each call requires something. -/
theorem compile?_ne_none (decl : Option TableDecl) (a : Addition) :
    a.compile? decl ≠ .ok none := by
  intro none
  have hollow := (Filter.entry?_eq_none_iff decl _ _).mp none
  cases a <;> cases hollow

end Addition

namespace Condition

/-- The condition after several calls. -/
def extend (c : Condition) (calls : List Addition) : Condition := calls.foldl Addition.apply c

theorem extend_entries (es : List (String × Comparison)) (calls : List Addition) :
    (entries es).extend calls = .entries (es ++ calls.map Addition.entry) := by
  unfold extend
  induction calls generalizing es with
  | nil => simp
  | cons a calls ih => rw [List.foldl_cons, Addition.apply_entries, ih, List.map_cons,
      List.append_assoc, List.singleton_append]

theorem extend_template (sql : String) (args : List Value) (calls : List Addition) :
    (template sql args).extend calls = .template sql args := by
  unfold extend
  induction calls with
  | nil => rfl
  | cons a calls ih => rw [List.foldl_cons, Addition.apply_template, ih]

end Condition

namespace Filter

variable {decl : Option TableDecl} {es : List (String × Comparison)} {calls : List Addition}
  {fs : List Fragment}

/-- What the entries come to, if they require anything, and the fragments of the calls after it. -/
def Conjuncts (decl : Option TableDecl) (es : List (String × Comparison)) (calls : List Addition)
    (fs : List Fragment) : Prop :=
  ∃ first own, fragment? decl (.entries es) = .ok first ∧
    List.Forall₂ (fun a g => a.compile? decl = .ok (some g)) calls own ∧ fs = first.toList ++ own

/-- The filter after calls has AND between the conjuncts. -/
theorem fragment?_extend (called : calls ≠ []) (h : Conjuncts decl es calls fs) :
    fragment? decl (.entries (es ++ calls.map Addition.entry)) =
      .ok (some (Fragment.join " AND " fs)) := by
  obtain ⟨first, own, before, added, rfl⟩ := h
  obtain ⟨parts, compiled, rfl⟩ := exists_compiles before
  have all : Compiles decl (es ++ calls.map Addition.entry) (parts ++ own.map some) :=
    List.rel_append compiled (List.forall₂_map_left_iff.mpr (List.forall₂_map_right_iff.mpr added))
  have given : own ≠ [] := by
    rintro rfl
    exact called (List.forall₂_nil_right_iff.mp added)
  have kept : (parts ++ own.map some).filterMap id = parts.filterMap id ++ own := by
    rw [List.filterMap_append, List.filterMap_map]
    exact congrArg _ List.filterMap_some
  rw [fragment?_of_compiles (by simp [called]) all, kept, if_neg (by simp [given])]
  split_ifs with none
  · rw [List.isEmpty_iff.mp none]
    rfl
  · have some : parts.filterMap id ≠ [] := by simpa using none
    rw [← Fragment.join_cons_join some]
    rfl

/-- The filter after calls can be written if what was there before can, and each call. -/
theorem exists_conjuncts_iff :
    (∃ part, fragment? decl (.entries (es ++ calls.map Addition.entry)) = .ok part) ↔
      ∃ fs, Conjuncts decl es calls fs := by
  constructor
  · intro written
    have each := exists_fragment?_iff.mp written
    obtain ⟨first, before⟩ : ∃ first, fragment? decl (.entries es) = .ok first :=
      exists_fragment?_iff.mpr fun e he => each e (List.mem_append_left _ he)
    obtain ⟨own, added⟩ : ∃ own,
        List.Forall₂ (fun a g => Addition.compile? decl a = .ok (some g)) calls own := by
      refine exists_forall₂ fun a ha => ?_
      obtain ⟨part, compiled⟩ := each a.entry
        (List.mem_append_right _ (List.mem_map_of_mem ha))
      obtain ⟨g, rfl⟩ := Option.ne_none_iff_exists'.mp fun none =>
        a.compile?_ne_none decl (none ▸ compiled)
      exact ⟨g, compiled⟩
    exact ⟨_, first, own, before, added, rfl⟩
  · rintro ⟨fs, h⟩
    by_cases called : calls = []
    · obtain ⟨first, own, before, -, -⟩ := h
      subst called
      exact ⟨first, by rwa [List.map_nil, List.append_nil]⟩
    · exact ⟨_, fragment?_extend called h⟩

end Filter

namespace Condition

open Reading (chain)

/-- **Additions to a condition are kept.**  A template takes in no entry: the calls change nothing.
Otherwise the entries of the calls stand behind those of the condition, in order.  The filter can be
written if what the condition came to before can, and each call; it has AND between these conjuncts.
Let each of them be an expression of its own; a comparison of a named column is one, and has no OR.
If there is only one, or none has an OR outside of brackets, the filter is true on exactly the rows
on which all conjuncts are.  Otherwise, provided that no operand is repeated, it is true for some
values of the operands for which one of the conjuncts is not. -/
theorem additions_kept (decl : Option TableDecl) (calls : List Addition) :
    (∀ sql args, (template sql args).extend calls = .template sql args) ∧
      ∀ es, (entries es).extend calls = .entries (es ++ calls.map Addition.entry) ∧
        ((∃ part, Filter.fragment? decl ((entries es).extend calls) = .ok part) ↔
          ∃ fs, Filter.Conjuncts decl es calls fs) ∧
        (∀ a ∈ calls, a.entry.2.IsTest → Sql.isPlain a.entry.1 = true →
          ∀ g, a.compile? decl = .ok (some g) → ∃ operands, g.reading? = some [operands]) ∧
        ∀ fs, Filter.Conjuncts decl es calls fs → calls ≠ [] →
          Filter.fragment? decl ((entries es).extend calls) =
              .ok (some (Fragment.join " AND " fs)) ∧
            ∀ rs, List.Forall₂ (fun g r => Fragment.reading? g = some r) fs rs →
              (Fragment.join " AND " fs).reading? = some (chain rs) ∧
              ((rs.length = 1 ∨ ∀ r ∈ rs, r.length = 1) →
                ∀ ν, (chain rs).truth ν = some true ↔ ∀ r ∈ rs, r.truth ν = some true) ∧
              (rs.flatten.flatten.Nodup → ¬ (rs.length = 1 ∨ ∀ r ∈ rs, r.length = 1) →
                ∃ ν, (chain rs).truth ν = some true ∧ ∃ r ∈ rs, r.truth ν ≠ some true) := by
  refine ⟨fun sql args => extend_template sql args calls, fun es => ?_⟩
  rw [extend_entries]
  refine ⟨rfl, Filter.exists_conjuncts_iff, fun a _ test plain g written =>
    Filter.reading?_entry plain test written, fun fs conjuncts called => ?_⟩
  refine ⟨Filter.fragment?_extend called conjuncts, fun rs reads => ?_⟩
  have given : fs ≠ [] := by
    obtain ⟨first, own, -, added, rfl⟩ := conjuncts
    refine List.append_ne_nil_of_right_ne_nil _ ?_
    rintro rfl
    exact called (List.forall₂_nil_right_iff.mp added)
  have full : ∀ r ∈ rs, r.IsFull := by
    intro r hr
    obtain ⟨g, -, own⟩ := exists_of_forall₂ reads r hr
    exact Fragment.isFull_of_reading? own
  have read : rs ≠ [] := by
    rintro rfl
    exact given (List.forall₂_nil_right_iff.mp reads)
  exact ⟨Fragment.reading?_join given reads, fun single ν => Reading.truth_chain_iff read single ν,
    Reading.exists_truth_chain full⟩

example : Builder.outcome
    (Builder.users.add (.filter ((empty.eq "name" (.text "Ann")).raw "age < 18 OR age > 60" [])))
    .delete Builder.still = .ok
      { sql := "DELETE FROM public.users WHERE (name = $1 AND age < 18 OR age > 60)"
        args := [.text "Ann"] } := rfl

end Condition

end TableMapper
