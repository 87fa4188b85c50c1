import TableMapper.Proofs.Sql.DollarTag
import TableMapper.Sql.Fragment

/-!
# Filled templates and comments

Two dashes start a comment.  In a filled template they may stand in the own text of the template or
in a quoted argument, but a dash of the template may also meet the minus sign of an argument.

* `Template.Filled` is what a template becomes: each mark gives way to the next argument.
* `Fragment.Holds` says which stretch of the text holds two dashes, and `Fragment.Meets` that they
  are a dash of the template and the minus sign of a number.
* `Template.dashes_filled` says that there are no others, and when there are dashes of the second
  kind.
-/

namespace TableMapper

/-- Two dashes stand at a place of a text. -/
def DashesAt (s : List Char) (i : Nat) : Prop := s[i]? = some '-' ∧ s[i + 1]? = some '-'

/-- A number with a minus sign. -/
def Value.isNegative : Value → Bool
  | .int n => n < 0
  | .double (.finite negative _ _) => negative
  | _ => false

/-! ### Literals -/

namespace Binary64

theorem positional_ne_nil {ds : List Char} (h : ds ≠ []) (k : Int) : positional ds k ≠ [] := by
  unfold positional
  dsimp only
  split_ifs <;> simp [h]

theorem dash_not_mem_positional {ds : List Char} (h : '-' ∉ ds) (k : Int) :
    '-' ∉ positional ds k := by
  unfold positional
  dsimp only
  split_ifs
  · simp [h, List.mem_replicate]
  · simp only [List.mem_append, List.mem_cons, not_or]
    exact ⟨fun d => h (List.mem_of_mem_take d), by decide, fun d => h (List.mem_of_mem_drop d)⟩
  · simp [h, List.mem_replicate]

end Binary64

namespace DollarTag

variable {t : DollarTag} {v : Value}

theorem dash_not_mem_nat (n : Nat) : '-' ∉ (toString n).toList := fun h =>
  absurd (Text.isDigit_of_mem_nat h) (by decide)

theorem toList_nat_ne_nil (n : Nat) : (toString n).toList ≠ [] := by
  rw [Nat.toString_eq_repr, Nat.toList_repr]
  exact Nat.toDigits_ne_nil

/-- A value that is written bare has a dash at most at its start, as the sign of a number. -/
theorem literal_bare (bare : quotedText? v = none) :
    ∃ body, body ≠ [] ∧ '-' ∉ body ∧
      (t.literal v).toList = (if v.isNegative then ['-'] else []) ++ body := by
  cases v with
  | null => exact ⟨"NULL".toList, by decide, by decide, rfl⟩
  | bool b =>
    cases b with
    | true => exact ⟨"TRUE".toList, by decide, by decide, rfl⟩
    | false => exact ⟨"FALSE".toList, by decide, by decide, rfl⟩
  | int n =>
    rw [literal, Int.toString_eq_repr, Int.repr_eq_if, Value.isNegative]
    by_cases negative : n < 0
    · refine ⟨_, toList_nat_ne_nil (-n).toNat, dash_not_mem_nat _, ?_⟩
      rw [if_neg (by omega), String.toList_append]
      simp [negative]
    · refine ⟨_, toList_nat_ne_nil n.toNat, dash_not_mem_nat _, ?_⟩
      rw [if_pos (by omega)]
      simp [negative]
  | double x =>
    cases x with
    | nan => cases bare
    | infinite negative => cases bare
    | finite negative m e =>
      refine ⟨Binary64.positional (toString (Binary64.shortest m e).1).toList
        (Binary64.shortest m e).2, Binary64.positional_ne_nil (toList_nat_ne_nil _) _,
        Binary64.dash_not_mem_positional (dash_not_mem_nat _) _, ?_⟩
      cases negative <;>
        simp [literal, Binary64.isFinite, Binary64.plain, Binary64.signText, Value.isNegative]
  | text s => cases bare
  | json d => cases bare

/-- No two dashes are next to each other in a value that is written bare. -/
theorem not_dashesAt_of_bare (bare : quotedText? v = none) (i : Nat) :
    ¬ DashesAt (t.literal v).toList i := by
  obtain ⟨body, -, none, same⟩ := literal_bare (t := t) bare
  rintro ⟨-, second⟩
  -- the second of them would stand behind the sign
  rw [same] at second
  refine none (List.mem_of_getElem? (i := i + 1 - (if v.isNegative then ['-'] else []).length) ?_)
  rw [← List.getElem?_append_right]
  · exact second
  · split <;> simp

/-- A value that is quoted stands between two tags. -/
theorem literal_quoted {s : String} (quoted : quotedText? v = some s) :
    (t.literal v).toList = t.chars ++ t.body s.toList ++ t.chars := by
  cases v with
  | double x =>
    by_cases finite : x.isFinite = true
    · simp [quotedText?, finite] at quoted
    · simp only [quotedText?, finite, Bool.false_eq_true, if_false, Option.some.injEq] at quoted
      simp [literal, finite, quote, quoted]
  | text s' =>
    cases quoted
    simp [literal, quote]
  | json d =>
    cases quoted
    simp [literal, quote]
  | _ => cases quoted

theorem literal_ne_nil (t : DollarTag) (v : Value) : (t.literal v).toList ≠ [] := by
  cases h : quotedText? v with
  | none =>
    obtain ⟨body, some, -, same⟩ := literal_bare (t := t) h
    rw [same]
    exact List.append_ne_nil_of_right_ne_nil _ some
  | some s =>
    rw [literal_quoted h]
    exact List.append_ne_nil_of_right_ne_nil _ (List.cons_ne_nil _ _)

/-- A literal does not end in a dash. -/
theorem getLast?_literal (t : DollarTag) (v : Value) :
    (t.literal v).toList.getLast? ≠ some '-' := by
  cases h : quotedText? v with
  | none =>
    obtain ⟨body, some, none, same⟩ := literal_bare (t := t) h
    rw [same, List.getLast?_append_of_ne_nil _ some]
    exact fun last => none (List.mem_of_getLast? last)
  | some s =>
    rw [literal_quoted h, chars_eq, ← List.append_assoc, List.getLast?_concat]
    decide

/-- A literal starts with a dash if it is that of a number with a minus sign. -/
theorem head?_literal (t : DollarTag) (v : Value) :
    (t.literal v).toList.head? = some '-' ↔ v.isNegative = true := by
  cases h : quotedText? v with
  | none =>
    obtain ⟨body, some, none, same⟩ := literal_bare (t := t) h
    rw [same]
    cases v.isNegative with
    | true => simp
    | false => simpa using fun first => none (List.mem_of_head? first)
  | some s =>
    have positive : v.isNegative = false := by
      cases v with
      | int n => cases h
      | double x => cases x <;> first | rfl | cases h
      | _ => rfl
    rw [literal_quoted h, positive]
    simp [chars_eq, opening]

end DollarTag

/-! ### Stretches -/

namespace Fragment

/-- The characters of a fragment that is written with literals. -/
def chars (t : DollarTag) (f : Fragment) : List Char := f.flatMap fun p => (p.text t).toList

/-- Both characters at a place of the text stand in the stretch of this piece. -/
def Holds (t : DollarTag) (f : Fragment) (i : Nat) (p : Piece) : Prop :=
  ∃ before after, f = before ++ p :: after ∧ (chars t before).length ≤ i ∧
    i + 2 ≤ (chars t before).length + (p.text t).length

/-- At a place of the text stand the dash at the end of a stretch of SQL and the minus sign of the
argument after it. -/
def Meets (t : DollarTag) (f : Fragment) (i : Nat) : Prop :=
  ∃ before s v after, f = before ++ .sql s :: .untyped v :: after ∧
    s.toList.getLast? = some '-' ∧ v.isNegative = true ∧
    (chars t before).length + s.length = i + 1

variable {t : DollarTag}

theorem chars_append (f g : Fragment) : chars t (f ++ g) = chars t f ++ chars t g :=
  List.flatMap_append

theorem chars_cons (p : Piece) (f : Fragment) : chars t (p :: f) = (p.text t).toList ++ chars t f :=
  List.flatMap_cons

end Fragment

namespace DashesAt

variable {a b c : List Char} {i : Nat}

theorem append_right_iff (low : a.length ≤ i) :
    DashesAt (a ++ b) i ↔ DashesAt b (i - a.length) := by
  unfold DashesAt
  rw [List.getElem?_append_right low, List.getElem?_append_right (by omega),
    show i + 1 - a.length = i - a.length + 1 by omega]

theorem append_left_iff (high : i + 2 ≤ a.length) : DashesAt (a ++ b) i ↔ DashesAt a i := by
  unfold DashesAt
  rw [List.getElem?_append_left (by omega), List.getElem?_append_left (by omega)]

/-- Two dashes on both sides of a border. -/
theorem border_iff (border : i + 1 = a.length) :
    DashesAt (a ++ b) i ↔ a.getLast? = some '-' ∧ b.head? = some '-' := by
  unfold DashesAt
  rw [List.getElem?_append_left (by omega), List.getElem?_append_right (by omega), border,
    Nat.sub_self, List.getLast?_eq_getElem?, List.head?_eq_getElem?, ← border, Nat.add_sub_cancel]

end DashesAt

namespace Fragment

variable {t : DollarTag} {f : Fragment} {i : Nat} {p : Piece}

theorem Holds.dashesAt (h : f.Holds t i p) (dashes : DashesAt (f.chars t) i) :
    ∃ j, DashesAt (p.text t).toList j := by
  obtain ⟨before, after, rfl, low, high⟩ := h
  rw [String.length_toList.symm] at high
  rw [chars_append, chars_cons, DashesAt.append_right_iff low,
    DashesAt.append_left_iff (by omega)] at dashes
  exact ⟨_, dashes⟩

theorem Holds.cons (h : f.Holds t i p) (q : Piece) :
    Holds t (q :: f) ((q.text t).length + i) p := by
  obtain ⟨before, after, rfl, low, high⟩ := h
  refine ⟨q :: before, after, rfl, ?_, ?_⟩ <;>
    rw [chars_cons, List.length_append, String.length_toList] <;> omega

/-- Two dashes stand in one stretch, or on both sides of the end of one. -/
theorem holds_of_dashesAt (dashes : DashesAt (f.chars t) i) :
    (∃ p, f.Holds t i p) ∨
      ∃ before p after, f = before ++ p :: after ∧ (p.text t).toList.getLast? = some '-' ∧
        (chars t after).head? = some '-' ∧ (chars t before).length + (p.text t).length = i + 1 := by
  induction f generalizing i with
  | nil => exact absurd dashes.1 (by simp [chars])
  | cons q f ih =>
    rw [chars_cons] at dashes
    have size : (q.text t).toList.length = (q.text t).length := String.length_toList
    by_cases inside : i + 2 ≤ (q.text t).toList.length
    · exact .inl ⟨q, [], f, rfl, Nat.zero_le _, by simpa [chars, size] using inside⟩
    by_cases border : i + 1 = (q.text t).toList.length
    · obtain ⟨last, first⟩ := (DashesAt.border_iff border).mp dashes
      exact .inr ⟨[], q, f, rfl, last, first, by simp [chars, ← size, border]⟩
    · have later : (q.text t).toList.length ≤ i := by omega
      rw [DashesAt.append_right_iff later] at dashes
      have back : (q.text t).length + (i - (q.text t).toList.length) = i := by omega
      rcases ih dashes with ⟨p, held⟩ | ⟨before, p, after, rfl, last, first, place⟩
      · exact .inl ⟨p, back ▸ held.cons q⟩
      · refine .inr ⟨q :: before, p, after, rfl, last, first, ?_⟩
        rw [chars_cons, List.length_append, size]
        omega

/-- Where a dash meets a minus sign there are two dashes, which no single stretch holds. -/
theorem Meets.dashesAt (h : f.Meets t i) : DashesAt (f.chars t) i := by
  obtain ⟨before, s, v, after, rfl, last, negative, place⟩ := h
  have border : i + 1 = (chars t before ++ s.toList).length := by
    rw [List.length_append, String.length_toList, place]
  have some : s.toList ≠ [] := fun none => by simp [none] at last
  rw [chars_append, chars_cons, ← List.append_assoc]
  refine (DashesAt.border_iff border).mpr ⟨?_, ?_⟩
  · rw [List.getLast?_append_of_ne_nil _ some, last]
  · rw [chars_cons, List.head?_append, show (Piece.untyped v).text t = t.literal v from rfl,
      (DollarTag.head?_literal t v).mpr negative]
    rfl

theorem Meets.not_holds (h : f.Meets t i) (p : Piece) : ¬ f.Holds t i p := by
  obtain ⟨before, s, v, after, rfl, -, -, place⟩ := h
  rintro ⟨before', after', same, low, high⟩
  -- the stretch ends where the dash of the template does, or starts after it
  rcases List.append_eq_append_iff.mp same with ⟨gap, rfl, rest⟩ | ⟨gap, rfl, rest⟩
  · cases gap with
    | nil =>
      obtain ⟨rfl, -⟩ := List.cons.inj rest
      rw [List.append_nil, show (Piece.sql s).text t = s from rfl] at high
      omega
    | cons q gap =>
      obtain ⟨rfl, -⟩ := List.cons.inj rest
      rw [chars_append, chars_cons, List.length_append, List.length_append,
        String.length_toList, show (Piece.sql s).text t = s from rfl] at low
      omega
  · cases gap with
    | nil =>
      obtain ⟨rfl, -⟩ := List.cons.inj rest
      rw [List.append_nil, show (Piece.sql s).text t = s from rfl] at *
      omega
    | cons q gap =>
      obtain ⟨rfl, -⟩ := List.cons.inj rest
      rw [chars_append, chars_cons, List.length_append, List.length_append,
        String.length_toList] at place
      omega

end Fragment

/-! ### Templates -/

namespace Template

/-- The text with its marks, each of which has given way to the next value. -/
inductive Filled : List Char → List Value → Fragment → Prop where
  | nothing : Filled [] [] []
  | text (part : List Char) (own : '?' ∉ part) : Filled part [] [.sql (String.ofList part)]
  | mark {cs : List Char} {args : List Value} {f : Fragment} (v : Value)
      (rest : Filled cs args f) : Filled ('?' :: cs) (v :: args) (.untyped v :: f)
  | part {cs : List Char} {args : List Value} {f : Fragment} (part : List Char) (v : Value)
      (own : '?' ∉ part) (some : part ≠ []) (rest : Filled cs args f) :
    Filled (part ++ '?' :: cs) (v :: args) (.sql (String.ofList part) :: .untyped v :: f)

theorem filled_textPiece {part : List Char} (own : '?' ∉ part) : Filled part [] (textPiece part) := by
  unfold textPiece
  cases part with
  | nil => exact .nothing
  | cons c cs => exact .text _ own

theorem filled_interleave {cs : List Char} {args : List Value}
    (h : cs.count '?' = args.length) : Filled cs args (interleave (cs.splitOn '?') args) := by
  induction args generalizing cs with
  | nil =>
    have own : '?' ∉ cs := List.count_eq_zero.mp h
    rw [List.splitOn_eq_singleton own]
    exact filled_textPiece own
  | cons v args ih =>
    obtain ⟨part, cs, rfl, own⟩ := List.eq_append_cons_of_mem
      (List.count_pos_iff.mp (by rw [h]; exact Nat.succ_pos _))
    have rest : cs.count '?' = args.length := by
      simpa [List.count_append, List.count_eq_zero.mpr own] using h
    have split : (part ++ '?' :: cs).splitOn '?' = part :: cs.splitOn '?' :=
      List.splitOnP_append_cons_of_forall_mem
        (fun c hc => beq_false_of_ne (ne_of_mem_of_not_mem hc own)) '?' rfl cs
    -- the part after the mark is there, even if it is empty
    obtain ⟨next, others, more⟩ :=
      List.exists_cons_of_ne_nil (List.splitOn_ne_nil '?' cs)
    have filled := ih rest
    rw [split, more]
    rw [more] at filled
    have step : interleave (part :: next :: others) (v :: args) =
        textPiece part ++ .untyped v :: interleave (next :: others) args := by
      rw [interleave]
      exact fun none => absurd none (List.cons_ne_nil _ _)
    rw [step]
    cases part with
    | nil => exact .mark v filled
    | cons c part => exact .part _ v own (List.cons_ne_nil _ _) filled

/-- A template expands to what it is filled to. -/
theorem filled_of_expand {sql : String} {args : List Value} {f : Fragment}
    (h : expand sql args = .ok f) : Filled sql.toList args f := by
  unfold expand at h
  dsimp only at h
  split_ifs at h with plain counted
  · cases h
    simp only [Bool.and_eq_true, decide_eq_true_eq, List.isEmpty_iff] at plain
    obtain ⟨none, rfl⟩ := plain
    have filled := Filled.text sql.toList (List.count_eq_zero.mp none)
    rwa [String.ofList_toList] at filled
  · cases h
    exact filled_interleave (not_not.mp counted)

namespace Filled

variable {cs : List Char} {args : List Value} {f : Fragment} {t : DollarTag}

theorem sql_or_untyped (h : Filled cs args f) {p : Piece} (hp : p ∈ f) :
    (∃ s, p = .sql s) ∨ ∃ v, p = .untyped v := by
  induction h with
  | nothing => cases hp
  | text part own => exact .inl ⟨_, List.mem_singleton.mp hp⟩
  | mark v rest ih =>
    rcases List.mem_cons.mp hp with rfl | hp
    · exact .inr ⟨v, rfl⟩
    · exact ih hp
  | part part v own some rest ih =>
    rcases List.mem_cons.mp hp with rfl | hp
    · exact .inl ⟨_, rfl⟩
    rcases List.mem_cons.mp hp with rfl | hp
    · exact .inr ⟨v, rfl⟩
    · exact ih hp

/-- Nothing in a template has a type, so all of it is written with literals. -/
theorem chars_eq (h : Filled cs args f) (binding : Binding) (t : DollarTag) :
    (Fragment.render binding t f).sql.toList = f.chars t := by
  have untyped : ∀ p ∈ f, p.argument? binding = none := by
    intro p hp
    rcases h.sql_or_untyped hp with ⟨s, rfl⟩ | ⟨v, rfl⟩ <;> rfl
  have texts : Fragment.texts binding t 0 f = f.map (Piece.text t) := by
    clear h
    induction f with
    | nil => rfl
    | cons p f ih =>
      rw [Fragment.texts, untyped p List.mem_cons_self, List.map_cons]
      exact congrArg _ (ih fun q hq => untyped q (List.mem_cons_of_mem p hq))
  rw [Fragment.render, texts, String.toList_join, Fragment.chars, List.flatMap_map]

/-- Behind a stretch of text stands an argument, if anything does. -/
theorem next (h : Filled cs args f) {before after : Fragment} {s : String}
    (split : f = before ++ .sql s :: after) :
    after = [] ∨ ∃ v rest, after = .untyped v :: rest := by
  induction h generalizing before with
  | nothing => simp at split
  | text part own =>
    cases before with
    | nil => exact .inl (List.cons.inj split).2.symm
    | cons p before => simp at split
  | mark v rest ih =>
    cases before with
    | nil => cases split
    | cons p before => exact ih (List.cons.inj split).2
  | part part v own some rest ih =>
    rcases before with _ | ⟨p, _ | ⟨q, before⟩⟩
    · exact .inr ⟨v, _, (List.cons.inj split).2.symm⟩
    · cases split
    · exact ih (List.cons.inj (List.cons.inj split).2).2

/-- A dash right before a mark ends a stretch, and the argument of the mark stands right after
it. -/
theorem dash_iff (h : Filled cs args f) (v : Value) :
    (∃ before s after, f = before ++ .sql s :: .untyped v :: after ∧
        s.toList.getLast? = some '-') ↔
      ∃ before after, cs = before ++ '-' :: '?' :: after ∧ args[before.count '?']? = some v := by
  induction h with
  | nothing => simp
  | text part own =>
    constructor
    · rintro ⟨_ | ⟨p, before⟩, s, after, split, -⟩ <;> simp at split
    · rintro ⟨before, after, -, none⟩
      cases none
  | mark w rest ih =>
    constructor
    · rintro ⟨_ | ⟨p, before⟩, s, after, split, last⟩
      · cases split
      · obtain ⟨before, after, rfl, there⟩ := ih.mp ⟨before, s, after, (List.cons.inj split).2, last⟩
        exact ⟨'?' :: before, after, rfl, by simpa using there⟩
    · rintro ⟨_ | ⟨c, before⟩, after, split, there⟩
      · cases split
      · obtain ⟨rfl, rest⟩ := List.cons.inj split
        obtain ⟨before, s, after, rfl, last⟩ := ih.mpr ⟨before, after, rest, by simpa using there⟩
        exact ⟨.untyped w :: before, s, after, rfl, last⟩
  | @part cs args f part w own some rest ih =>
    constructor
    · rintro ⟨_ | ⟨p, _ | ⟨q, before⟩⟩, s, after, split, last⟩
      · cases split
        obtain ⟨before, rfl⟩ := List.getLast?_eq_some_iff.mp (by simpa using last)
        have none : before.count '?' = 0 :=
          List.count_eq_zero.mpr fun mark => own (List.mem_append_left _ mark)
        exact ⟨before, _, List.append_assoc .., by rw [none]; rfl⟩
      · cases split
      · obtain ⟨before, after, rfl, there⟩ :=
          ih.mp ⟨before, s, after, (List.cons.inj (List.cons.inj split).2).2, last⟩
        refine ⟨part ++ '?' :: before, after, by simp, ?_⟩
        simpa [List.count_append, List.count_eq_zero.mpr own] using there
    · rintro ⟨before, after, split, there⟩
      have cut := Text.cutAtChars?_singleton own cs
      -- the mark behind the part is the one behind the dash, or one before that
      by_cases marked : '?' ∈ before
      · obtain ⟨first, before, rfl, free⟩ := List.eq_append_cons_of_mem marked
        rw [List.append_assoc, List.cons_append] at split
        rw [split, Text.cutAtChars?_singleton free] at cut
        cases cut
        simp only [List.count_append, List.count_eq_zero.mpr free, List.count_cons_self,
          Nat.zero_add, List.getElem?_cons_succ] at there
        obtain ⟨before, s, after, rfl, last⟩ := ih.mpr ⟨before, after, rfl, there⟩
        exact ⟨_ :: _ :: before, s, after, rfl, last⟩
      · have free : '?' ∉ before ++ ['-'] := by simpa using marked
        rw [split, List.append_cons, Text.cutAtChars?_singleton free] at cut
        cases cut
        rw [List.count_eq_zero.mpr marked] at there
        cases there
        exact ⟨[], _, _, rfl, by simp⟩

end Filled

/-- **Dashes in filled templates.**  Let a template be filled with the arguments that it takes, with
any tag.  Two dashes in the text that is written stand in one stretch of the template's own text, or
in the quotation of one argument, or else the template has a dash right before a mark and the
argument of that mark is a number with a minus sign, which are the two dashes.  Such dashes stand in
no single stretch, so there are none of them exactly if no mark with a dash before it has such an
argument. -/
theorem dashes_filled {sql : String} {args : List Value} {f : Fragment}
    (h : expand sql args = .ok f) (binding : Binding) (t : DollarTag) :
    Filled sql.toList args f ∧
      (∀ i, DashesAt (Fragment.render binding t f).sql.toList i →
        (∃ s, f.Holds t i (.sql s)) ∨
          (∃ v, (DollarTag.quotedText? v).isSome = true ∧ f.Holds t i (.untyped v)) ∨
          f.Meets t i) ∧
      (∀ i, f.Meets t i → DashesAt (Fragment.render binding t f).sql.toList i ∧
        ∀ p, ¬ f.Holds t i p) ∧
      ((∃ i, f.Meets t i) ↔ ∃ before after v, sql.toList = before ++ '-' :: '?' :: after ∧
        args[before.count '?']? = some v ∧ v.isNegative = true) := by
  have filled := filled_of_expand h
  rw [filled.chars_eq binding t]
  refine ⟨filled, fun i dashes => ?_, fun i meets => ⟨meets.dashesAt, meets.not_holds⟩, ?_⟩
  · rcases Fragment.holds_of_dashesAt dashes with
      ⟨p, held⟩ | ⟨before, p, after, split, last, first, place⟩
    · have ⟨before, after, split, _⟩ := held
      rcases filled.sql_or_untyped (split ▸ List.mem_append_right _ List.mem_cons_self) with
        ⟨s, rfl⟩ | ⟨v, rfl⟩
      · exact .inl ⟨s, held⟩
      · refine .inr (.inl ⟨v, ?_, held⟩)
        obtain ⟨j, here⟩ := held.dashesAt dashes
        by_contra bare
        exact DollarTag.not_dashesAt_of_bare (Option.not_isSome_iff_eq_none.mp bare) j here
    · rcases filled.sql_or_untyped (split ▸ List.mem_append_right _ List.mem_cons_self) with
        ⟨s, rfl⟩ | ⟨v, rfl⟩
      · rcases filled.next split with rfl | ⟨v, rest, rfl⟩
        · cases first
        · refine .inr (.inr ⟨before, s, v, rest, split, last, ?_, place⟩)
          rw [Fragment.chars_cons, show (Piece.untyped v).text t = t.literal v from rfl,
            List.head?_append_of_ne_nil _ (DollarTag.literal_ne_nil t v)] at first
          exact (DollarTag.head?_literal t v).mp first
      · exact absurd last (DollarTag.getLast?_literal t v)
  · constructor
    · rintro ⟨i, before, s, v, after, split, last, negative, -⟩
      obtain ⟨before, after, same, there⟩ :=
        (filled.dash_iff v).mp ⟨before, s, after, split, last⟩
      exact ⟨before, after, v, same, there, negative⟩
    · rintro ⟨before, after, v, same, there, negative⟩
      obtain ⟨before, s, after, split, last⟩ := (filled.dash_iff v).mpr ⟨before, after, same, there⟩
      have some : s.toList ≠ [] := fun none => by simp [none] at last
      refine ⟨_, before, s, v, after, split, last, negative, (Nat.succ_pred_eq_of_pos ?_).symm⟩
      have size := List.length_pos_iff.mpr some
      rw [String.length_toList] at size
      omega

/-- A dash before a mark and a negative number start a comment, which the rest of the filter is
lost in. -/
theorem dashes_filled_debts :
    let sql := "age = 60 -? AND name = ?"
    let args : List Value := [.int (-5), .text "x -- y"]
    let f : Fragment :=
      [.sql "age = 60 -", .untyped (.int (-5)), .sql " AND name = ", .untyped (.text "x -- y")]
    let t : DollarTag := ⟨"ouvxwz"⟩
    expand sql args = .ok f ∧
      (Fragment.render .parameterized t f).sql =
        "age = 60 --5 AND name = $_ouvxwz_$x -- y$_ouvxwz_$" ∧
      (∃ i, f.Meets t i ∧ DashesAt (Fragment.render .parameterized t f).sql.toList i ∧
        ∀ p, ¬ f.Holds t i p) := by
  intro sql args f t
  have marks : sql.toList.count '?' = 2 := by decide
  have parts : sql.toList.splitOn '?' = ["age = 60 -".toList, " AND name = ".toList, []] := by
    decide
  have expanded : expand sql args = .ok f := by
    unfold expand
    rw [marks, parts]
    rfl
  obtain ⟨-, -, met, iff⟩ := dashes_filled expanded .parameterized t
  obtain ⟨i, meets⟩ := iff.mpr ⟨"age = 60 ".toList, " AND name = ?".toList, .int (-5), by decide,
    rfl, rfl⟩
  exact ⟨expanded, by decide +kernel, i, meets, met i meets⟩

end Template

end TableMapper
