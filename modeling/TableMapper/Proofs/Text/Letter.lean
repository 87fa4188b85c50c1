import TableMapper.Proofs.Text.Numeral
import TableMapper.Proofs.Text.Search

/-!
# Letters in lower case

`Text.toLower_cases` says what the lower case of a character is.  Digits, signs and other marks are
the same in lower case, and nothing else becomes one of them (`Text.toLower_eq_iff`).

`Text.lowerAscii` leaves characters beyond ASCII alone.  The full mapping to lower case also has a
character or several for each capital beyond ASCII, which are beyond ASCII again, with two
exceptions: the sign for the kelvin becomes a k, and the capital I with a dot becomes an i with a
combining dot.

* `Text.Lowered` is any such mapping; what it makes of a character may depend on the others.
* `Text.infix_lowered_iff` says that a word without a k, and without an i at its end, stands in the
  lower case of a text if and only if it stands in its ASCII lower case.
-/

namespace TableMapper

namespace Text

variable {c : Char}

/-- A character is in lower case, or it is a capital. -/
theorem toLower_cases (c : Char) : c.toLower = c ∨
    (65 ≤ c.toNat ∧ c.toNat ≤ 90 ∧ c.toLower.toNat = c.toNat + 32) := by
  unfold Char.toLower
  split
  next capital =>
    have low : 65 ≤ c.toNat := UInt32.le_iff_toNat_le.mp capital.1
    have high : c.toNat ≤ 90 := UInt32.le_iff_toNat_le.mp capital.2
    refine .inr ⟨low, high, ?_⟩
    have sum : (c.val + ('a'.val - 'A'.val)).toNat = (c.val.toNat + 32) % 2 ^ 32 :=
      UInt32.toNat_add _ _
    refine sum.trans (Nat.mod_eq_of_lt ?_)
    change c.toNat + 32 < 2 ^ 32
    omega
  next => exact .inl rfl

/-- A character other than a letter is the same in lower case, and no other becomes it. -/
theorem toLower_eq_iff {mark : Char} (other : mark.toNat < 65) : c.toLower = mark ↔ c = mark := by
  obtain same | ⟨low, high, lowered⟩ := toLower_cases c
  · rw [same]
  · refine iff_of_false ?_ ?_ <;>
      · rintro rfl
        omega

theorem toLower_of_isDigit (digit : isDigit c = true) : c.toLower = c :=
  toLower_of_isScientific (isScientific_of_isDigit digit)

theorem isDigit_toLower : isDigit c.toLower = isDigit c := by
  rw [Bool.eq_iff_iff, isDigit_iff, isDigit_iff]
  obtain same | ⟨low, high, lowered⟩ := toLower_cases c
  · rw [same]
  · omega

theorem toLower_toLower : c.toLower.toLower = c.toLower := by
  obtain same | ⟨low, high, lowered⟩ := toLower_cases c
  · rw [same, same]
  · obtain same | ⟨low', high', -⟩ := toLower_cases c.toLower
    · exact same
    · omega

theorem lowerAscii_lowerAscii (s : String) :
    lowerAscii (lowerAscii s) = lowerAscii s := by
  simp only [lowerAscii, String.toList_ofList, List.map_map]
  congr 2
  exact funext fun c => toLower_toLower

end Text

namespace Text

/-- A character beyond ASCII. -/
def IsForeign (c : Char) : Prop := 128 ≤ c.toNat

instance (c : Char) : Decidable (IsForeign c) := inferInstanceAs (Decidable (_ ≤ _))

/-- The lower case of a character. -/
def LowersTo (c : Char) (lower : List Char) : Prop :=
  if IsForeign c then
    lower = ['k'] ∨ lower = ['i', '\u0307'] ∨ lower ≠ [] ∧ ∀ d ∈ lower, IsForeign d
  else lower = [c.toLower]

/-- The second text is the lower case of the first one. -/
inductive Lowered : List Char → List Char → Prop
  | nil : Lowered [] []
  | cons {c : Char} {lower cs ds : List Char} (first : LowersTo c lower) (rest : Lowered cs ds) :
    Lowered (c :: cs) (lower ++ ds)

/-- Letters that the lower case of a character beyond ASCII does not have, or not at its end. -/
def IsWord (w : List Char) : Prop :=
  (∀ c ∈ w, ¬ IsForeign c ∧ c ≠ 'k') ∧ w.getLast? ≠ some 'i'

instance (w : List Char) : Decidable (IsWord w) :=
  decidable_of_iff
    ((w.all fun c => !decide (IsForeign c) && c != 'k') = true ∧ w.getLast? ≠ some 'i')
    (by simp [IsWord])

variable {w cs ds : List Char}

theorem lowersTo_of_ascii {c : Char} {lower : List Char} (ascii : ¬ IsForeign c) :
    LowersTo c lower ↔ lower = [c.toLower] := by
  rw [LowersTo, if_neg ascii]

theorem toLower_of_isForeign {c : Char} (foreign : IsForeign c) : c.toLower = c := by
  obtain same | ⟨-, high, -⟩ := toLower_cases c
  · exact same
  · unfold IsForeign at foreign
    omega

/-- A text of ASCII characters has one lower case. -/
theorem lowered_of_ascii (ascii : ∀ c ∈ cs, ¬ IsForeign c) : Lowered cs (cs.map Char.toLower) := by
  induction cs with
  | nil => exact .nil
  | cons c cs ih =>
    have first := (lowersTo_of_ascii (ascii c List.mem_cons_self)).mpr rfl
    exact .cons first (ih fun d inside => ascii d (List.mem_cons_of_mem c inside))

theorem Lowered.eq_of_ascii (h : Lowered cs ds) (ascii : ∀ c ∈ cs, ¬ IsForeign c) :
    ds = cs.map Char.toLower := by
  induction h with
  | nil => rfl
  | cons first rest ih =>
    rw [(lowersTo_of_ascii (ascii _ List.mem_cons_self)).mp first,
      ih fun d inside => ascii d (List.mem_cons_of_mem _ inside)]
    rfl

/-- Of a character beyond ASCII something is left that no word has. -/
theorem Lowered.exists_odd (h : Lowered cs ds) (foreign : ∃ c ∈ cs, IsForeign c) :
    ∃ d ∈ ds, IsForeign d ∨ d = 'k' := by
  induction h with
  | nil =>
    obtain ⟨c, inside, -⟩ := foreign
    cases inside
  | @cons c lower cs ds first rest ih =>
    by_cases here : IsForeign c
    · rw [LowersTo, if_pos here] at first
      obtain rfl | rfl | ⟨some, all⟩ := first
      · exact ⟨'k', List.mem_cons_self, .inr rfl⟩
      · exact ⟨'\u0307', by simp, .inl (by decide)⟩
      · obtain ⟨d, more, rfl⟩ := List.exists_cons_of_ne_nil some
        exact ⟨d, List.mem_cons_self, .inl (all d List.mem_cons_self)⟩
    · obtain ⟨d, inside, odd⟩ := foreign
      obtain rfl | later := List.mem_cons.mp inside
      · exact absurd odd here
      · obtain ⟨e, there, odd⟩ := ih ⟨d, later, odd⟩
        exact ⟨e, List.mem_append_right lower there, odd⟩

/-! ### Words in lower case -/

theorem IsWord.tail {c : Char} (word : IsWord (c :: w)) (some : w ≠ []) : IsWord w := by
  obtain ⟨letters, last⟩ := word
  refine ⟨fun d inside => letters d (List.mem_cons_of_mem c inside), ?_⟩
  rwa [List.getLast?_cons_of_ne_nil some] at last

/-- No word starts in the lower case of a character beyond ASCII. -/
theorem not_prefix_of_foreign {c : Char} {lower : List Char} (word : IsWord w) (some : w ≠ [])
    (foreign : IsForeign c) (first : LowersTo c lower) : ¬ w <+: lower ++ ds := by
  obtain ⟨a, rest, rfl⟩ := List.exists_cons_of_ne_nil some
  have letter := word.1 a List.mem_cons_self
  rw [LowersTo, if_pos foreign] at first
  obtain rfl | rfl | ⟨some, all⟩ := first
  · intro found
    exact letter.2 (List.cons_prefix_cons.mp found).1
  -- an i is allowed, but not at the end, and a combining dot comes after this one
  · intro found
    obtain ⟨rfl, next⟩ := List.cons_prefix_cons.mp found
    cases rest with
    | nil => exact word.2 rfl
    | cons b rest =>
      obtain ⟨rfl, -⟩ := List.cons_prefix_cons.mp next
      exact (word.1 '\u0307' (by simp)).1 (by decide)
  · obtain ⟨d, more, rfl⟩ := List.exists_cons_of_ne_nil some
    intro found
    obtain ⟨rfl, -⟩ := List.cons_prefix_cons.mp found
    exact letter.1 (all a List.mem_cons_self)

theorem prefix_lowered_iff (h : Lowered cs ds) (word : IsWord w) :
    w <+: ds ↔ w <+: cs.map Char.toLower := by
  induction h generalizing w with
  | nil => rfl
  | @cons c lower cs ds first rest ih =>
    cases w with
    | nil => simp
    | cons a w =>
      by_cases foreign : IsForeign c
      · refine iff_of_false (not_prefix_of_foreign word (List.cons_ne_nil a w) foreign first) ?_
        intro found
        obtain ⟨rfl, -⟩ := List.cons_prefix_cons.mp found
        exact (word.1 _ List.mem_cons_self).1 ((toLower_of_isForeign foreign).symm ▸ foreign)
      · rw [(lowersTo_of_ascii foreign).mp first, List.singleton_append, List.map_cons,
          List.cons_prefix_cons, List.cons_prefix_cons]
        by_cases last : w = []
        · subst last
          simp
        · rw [ih (word.tail last)]

/-- A word stands behind characters that it does not have if it stands in the rest. -/
theorem infix_append_iff_of_foreign {before : List Char} (word : IsWord w) (some : w ≠ [])
    (foreign : ∀ c ∈ before, IsForeign c) : w <:+: before ++ ds ↔ w <:+: ds := by
  induction before with
  | nil => rfl
  | cons c before ih =>
    obtain ⟨a, rest, rfl⟩ := List.exists_cons_of_ne_nil some
    have start : ¬ a :: rest <+: c :: (before ++ ds) := by
      intro found
      obtain ⟨rfl, -⟩ := List.cons_prefix_cons.mp found
      exact (word.1 a List.mem_cons_self).1 (foreign a List.mem_cons_self)
    rw [List.cons_append, List.infix_cons_iff, or_iff_right start,
      ih fun d inside => foreign d (List.mem_cons_of_mem c inside)]

/-- **Where a word stands** does not depend on the lower case of characters beyond ASCII. -/
theorem infix_lowered_iff (h : Lowered cs ds) (word : IsWord w) (some : w ≠ []) :
    w <:+: ds ↔ w <:+: cs.map Char.toLower := by
  induction h with
  | nil => rfl
  | @cons c lower cs ds first rest ih =>
    have start := prefix_lowered_iff (.cons first rest) word
    by_cases foreign : IsForeign c
    -- no word starts in what is left of the character, so it stands in the rest if anywhere
    · have later : w <:+: lower ++ ds ↔ w <:+: ds := by
        have none : ¬ w <+: lower ++ ds := not_prefix_of_foreign word some foreign first
        rw [LowersTo, if_pos foreign] at first
        obtain rfl | rfl | ⟨-, all⟩ := first
        · rw [List.singleton_append] at none ⊢
          rw [List.infix_cons_iff, or_iff_right none]
        · rw [List.cons_append] at none ⊢
          have dot : ∀ d ∈ ['\u0307'], IsForeign d := by simp [IsForeign]
          rw [List.infix_cons_iff, or_iff_right none, infix_append_iff_of_foreign word some dot]
        · exact infix_append_iff_of_foreign word some all
      have none : ¬ w <+: (c :: cs).map Char.toLower :=
        mt start.mpr (not_prefix_of_foreign word some foreign first)
      rw [later, ih, List.map_cons, List.infix_cons_iff, ← List.map_cons, or_iff_right none]
    · have lower := (lowersTo_of_ascii foreign).mp first
      rw [lower, List.singleton_append] at start ⊢
      rw [List.infix_cons_iff, start, ih, List.map_cons, ← List.infix_cons_iff]

end Text

end TableMapper
