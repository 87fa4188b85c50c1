import Mathlib.Algebra.Group.Nat.Defs
import Mathlib.Tactic.SplitIfs
import TableMapper.Binary64.Decimal
import TableMapper.Text.Letter

/-!
# The characters of numbers

Integers and finite doubles are written with digits, a minus sign and a decimal point only
(`Text.isNumeral_of_mem_int`, `Text.isNumeral_of_mem_plain`), so no number can be taken for
something else in a statement.  With an exponent there may be the letter e and a plus sign besides
(`Text.isScientific`).  An integer is read back from its digits (`Text.integer?_toString`), and the
first digits of a number are those of a quotient (`Text.decimalValue_take`).  `Text.IsNatural` says
which texts are natural numbers, however many zeros are in front.
-/

namespace TableMapper

namespace Text

/-- A digit, a minus sign or a decimal point. -/
def isNumeral (c : Char) : Bool := c.isDigit || c == '-' || c == '.'

theorem isNumeral_of_mem_nat {n : Nat} {c : Char} (h : c ∈ (toString n).toList) :
    isNumeral c = true := by
  rw [Nat.toString_eq_repr, Nat.toList_repr] at h
  simp [isNumeral, Nat.isDigit_of_mem_toDigits (by decide) (by decide) h]

theorem isNumeral_of_mem_int {n : Int} {c : Char} (h : c ∈ (toString n).toList) :
    isNumeral c = true := by
  rw [Int.toString_eq_repr, Int.repr_eq_if] at h
  split_ifs at h
  · exact isNumeral_of_mem_nat h
  · rw [String.toList_append, List.mem_append] at h
    rcases h with h | h
    · obtain rfl : c = '-' := by simpa using h
      rfl
    · exact isNumeral_of_mem_nat h

theorem isNumeral_of_mem_signText {negative : Bool} {c : Char}
    (h : c ∈ (Binary64.signText negative).toList) : isNumeral c = true := by
  cases negative with
  | false => simp [Binary64.signText] at h
  | true =>
    obtain rfl : c = '-' := by simpa [Binary64.signText] using h
    rfl

theorem isNumeral_of_mem_positional {ds : List Char} (hd : ∀ c ∈ ds, isNumeral c = true) {k : Int}
    {c : Char} (h : c ∈ Binary64.positional ds k) : isNumeral c = true := by
  have hzero : ∀ n : Nat, c ∈ List.replicate n '0' → isNumeral c = true := by
    intro n hn
    rw [List.eq_of_mem_replicate hn]
    rfl
  unfold Binary64.positional at h
  simp only at h
  split_ifs at h
  · rcases List.mem_append.1 h with h | h
    · exact hd c h
    · exact hzero _ h
  · rcases List.mem_append.1 h with h | h
    · exact hd c (List.mem_of_mem_take h)
    · rcases List.mem_cons.1 h with rfl | h
      · rfl
      · exact hd c (List.mem_of_mem_drop h)
  · rcases List.mem_cons.1 h with rfl | h
    · rfl
    · rcases List.mem_cons.1 h with rfl | h
      · rfl
      · rcases List.mem_append.1 h with h | h
        · exact hzero _ h
        · exact hd c h

theorem isNumeral_of_mem_plain {x : Binary64} (hx : x.isFinite = true) {c : Char}
    (h : c ∈ x.plain.toList) : isNumeral c = true := by
  cases x with
  | nan => cases hx
  | infinite negative => cases hx
  | finite negative m e =>
    rw [Binary64.plain, String.toList_append, String.toList_ofList, List.mem_append] at h
    rcases h with h | h
    · exact isNumeral_of_mem_signText h
    · exact isNumeral_of_mem_positional (fun _ => isNumeral_of_mem_nat) h

/-! ### Exponents -/

/-- A character of a number that may have an exponent. -/
def isScientific (c : Char) : Bool := isNumeral c || c == 'e' || c == '+'

theorem isScientific_of_isNumeral {c : Char} (h : isNumeral c = true) : isScientific c = true := by
  simp [isScientific, h]

theorem isScientific_of_isDigit {c : Char} (h : isDigit c = true) : isScientific c = true := by
  have digit : c.isDigit = true := by simpa [Char.isDigit, isDigit, Char.le_def] using h
  simp [isScientific, isNumeral, digit]

/-- Numbers have no capitals. -/
theorem toLower_of_isScientific {c : Char} (h : isScientific c = true) : c.toLower = c := by
  simp only [isScientific, isNumeral, Bool.or_eq_true, beq_iff_eq] at h
  obtain (((digit | rfl) | rfl) | rfl) | rfl := h
  · have range : 48 ≤ c.toNat ∧ c.toNat ≤ 57 := by
      simpa [Char.isDigit, UInt32.le_iff_toNat_le] using digit
    unfold Char.toLower
    split
    next capital =>
      have low : 65 ≤ c.toNat := UInt32.le_iff_toNat_le.mp capital.1
      omega
    next => rfl
  all_goals rfl

/-- Characters that are in lower case already stay as they are. -/
theorem map_toLower_eq_self {cs : List Char} (low : ∀ c ∈ cs, c.toLower = c) :
    cs.map Char.toLower = cs :=
  (List.map_congr_left low).trans (List.map_id cs)

/-! ### Blanks -/

/-- Printable ASCII characters are not blank. -/
theorem isBlank_eq_false {c : Char} (low : 33 ≤ c.toNat) (high : c.toNat < 0x7F) :
    isBlank c = false := by
  simp only [isBlank, Bool.or_eq_false_iff, Bool.and_eq_false_iff, decide_eq_false_iff_not,
    beq_eq_false_iff_ne]
  omega

theorem isBlank_of_isNumeral {c : Char} (h : isNumeral c = true) : isBlank c = false := by
  simp only [isNumeral, Bool.or_eq_true, beq_iff_eq] at h
  obtain (digit | rfl) | rfl := h
  · have range : 48 ≤ c.toNat ∧ c.toNat ≤ 57 := by
      simpa [Char.isDigit, UInt32.le_iff_toNat_le] using digit
    exact isBlank_eq_false (by omega) (by omega)
  · rfl
  · rfl

/-! ### The value of digits -/

theorem isDigit_iff {c : Char} : isDigit c = true ↔ 48 ≤ c.toNat ∧ c.toNat ≤ 57 := by
  simp [isDigit, Char.le_def, UInt32.le_iff_toNat_le]

theorem decimalValue_nat (n : Nat) : decimalValue (toString n).toList = n := by
  rw [Nat.toString_eq_repr, Nat.toList_repr]
  exact Nat.ofDigitChars_ten_toDigits

theorem decimalValue_zeros (n : Nat) : decimalValue (List.replicate n '0') = 0 :=
  Nat.ofDigitChars_replicate_zero

theorem decimalValue_append (cs ds : List Char) :
    decimalValue (cs ++ ds) = decimalValue cs * 10 ^ ds.length + decimalValue ds := by
  have split : decimalValue (cs ++ ds) = Nat.ofDigitChars 10 ds (decimalValue cs) :=
    Nat.ofDigitChars_append 0
  rw [split, Nat.ofDigitChars_eq_ofDigitChars_zero, Nat.mul_comm]
  rfl

theorem decimalValue_lt {cs : List Char} (digits : ∀ c ∈ cs, isDigit c = true) :
    decimalValue cs < 10 ^ cs.length := by
  induction cs with
  | nil => exact Nat.zero_lt_one
  | cons c cs ih =>
    have first : decimalValue [c] = c.toNat - 48 := Nat.zero_add _
    have bound := isDigit_iff.mp (digits c List.mem_cons_self)
    have rest := ih fun d inside => digits d (List.mem_cons_of_mem c inside)
    have most : (c.toNat - 48) * 10 ^ cs.length ≤ 9 * 10 ^ cs.length :=
      Nat.mul_le_mul_right _ (by omega)
    rw [← List.singleton_append, decimalValue_append, first, List.length_append,
      List.length_singleton, Nat.pow_add, Nat.pow_one]
    omega

/-- The first digits are those of a quotient. -/
theorem decimalValue_take {cs : List Char} (digits : ∀ c ∈ cs, isDigit c = true) (n : Nat) :
    decimalValue (cs.take n) = decimalValue cs / 10 ^ (cs.length - n) := by
  have rest := decimalValue_lt fun c inside => digits c (List.mem_of_mem_drop (i := n) inside)
  have parts : decimalValue cs =
      10 ^ (cs.length - n) * decimalValue (cs.take n) + decimalValue (cs.drop n) := by
    rw [Nat.mul_comm, ← List.length_drop, ← decimalValue_append, List.take_append_drop]
  rw [List.length_drop] at rest
  rw [parts, Nat.mul_add_div (Nat.pow_pos (by decide)), Nat.div_eq_of_lt rest, Nat.add_zero]

/-! ### Reading integers back -/

theorem isDigit_of_mem_nat {n : Nat} {c : Char} (h : c ∈ (toString n).toList) :
    isDigit c = true := by
  rw [Nat.toString_eq_repr, Nat.toList_repr] at h
  have digit := Nat.isDigit_of_mem_toDigits (by decide) (by decide) h
  simpa [Char.isDigit, isDigit, Char.le_def] using digit

theorem digits?_of_digits {cs : List Char} (some : cs ≠ [])
    (digits : ∀ c ∈ cs, isDigit c = true) : digits? cs = .some (decimalValue cs) := by
  have all : cs.all isDigit = true := List.all_eq_true.mpr digits
  rw [digits?, List.isEmpty_eq_false_iff.mpr some, all]
  rfl

theorem digits?_eq_some_iff {cs : List Char} {n : Nat} :
    digits? cs = some n ↔ cs ≠ [] ∧ (∀ c ∈ cs, isDigit c = true) ∧ decimalValue cs = n := by
  constructor
  · intro read
    unfold digits? at read
    split at read
    next => cases read
    next digits =>
      rw [Bool.or_eq_true, not_or, Bool.not_eq_true', Bool.not_eq_false, List.isEmpty_iff,
        List.all_eq_true] at digits
      exact ⟨digits.1, digits.2, Option.some.inj read⟩
  · rintro ⟨some, digits, rfl⟩
    exact digits?_of_digits some digits

/-- The text is a natural number: decimal digits, with a plus sign or without. -/
def IsNatural (s : String) (n : Nat) : Prop :=
  ∃ ds, (s.toList = ds ∨ s.toList = '+' :: ds) ∧ ds ≠ [] ∧ (∀ c ∈ ds, isDigit c = true) ∧
    decimalValue ds = n

theorem natural?_eq_some_iff {s : String} {n : Nat} : natural? s = some n ↔ IsNatural s n := by
  unfold natural? IsNatural
  split
  next cs plus =>
    rw [digits?_eq_some_iff, plus]
    constructor
    · exact fun digits => ⟨cs, .inr rfl, digits⟩
    · rintro ⟨ds, rfl | same, some, digits, value⟩
      · exact absurd (digits '+' List.mem_cons_self) (by decide)
      · obtain rfl := (List.cons.inj same).2
        exact ⟨some, digits, value⟩
  next _ unsigned =>
    rw [digits?_eq_some_iff]
    constructor
    · exact fun digits => ⟨s.toList, .inl rfl, digits⟩
    · rintro ⟨ds, rfl | plus, digits⟩
      · exact digits
      · exact absurd plus (unsigned ds)

theorem naturalBelow?_eq_some_iff {bound : Nat} {s : String} {n : Nat} :
    naturalBelow? bound s = some n ↔ IsNatural s n ∧ n < bound := by
  rw [naturalBelow?, Option.filter_eq_some_iff, natural?_eq_some_iff, decide_eq_true_eq]

theorem digits?_toString (n : Nat) : digits? (toString n).toList = some n := by
  have some : (toString n).toList ≠ [] := by
    rw [Nat.toString_eq_repr, Nat.toList_repr]
    exact Nat.toDigits_ne_nil
  rw [digits?_of_digits some fun c => isDigit_of_mem_nat, decimalValue_nat]

theorem integer?_natural (n : Nat) : integer? (toString n) = some (n : Int) := by
  have digit {c : Char} (h : c ∈ (toString n).toList) := isDigit_of_mem_nat h
  unfold integer?
  split
  next eq => exact absurd (digit (eq ▸ List.mem_cons_self)) (by decide)
  next eq => exact absurd (digit (eq ▸ List.mem_cons_self)) (by decide)
  next => rw [digits?_toString]; rfl

/-- An integer is read back from its text. -/
theorem integer?_toString (n : Int) : integer? (toString n) = some n := by
  rw [Int.toString_eq_repr, Int.repr_eq_if]
  split
  next nonneg =>
    have read := integer?_natural n.toNat
    rwa [Int.toNat_of_nonneg nonneg] at read
  next negative =>
    have read : integer? ("-" ++ toString (-n).toNat) = some (-((-n).toNat : Int)) := by
      rw [integer?, String.toList_append]
      change Option.map (fun n : Int => -n) (do
        let m ← digits? (toString (-n).toNat).toList
        pure (m : Int)) = _
      rw [digits?_toString]
      rfl
    refine read.trans (congrArg some ?_)
    omega

end Text

end TableMapper
