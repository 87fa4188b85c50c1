import TableMapper.Json.Printer
import TableMapper.Proofs.Text.Numeral
import TableMapper.Proofs.Text.Search

/-!
# The text of a number

`Unsigned` is how JSON writes a number after its sign: digits without a leading zero, then perhaps
a fraction, then perhaps an exponent.  Natural numbers and finite doubles are written so
(`unsigned_nat`, `unsigned_scientific`), and such a text is read to its end, whatever separator
follows (`readNumber_append`).  Besides digits it has few characters (`isScientific_of_mem_double`).
-/

namespace TableMapper

namespace Document

/-- What may follow a value: nothing, or what separates values and closes lists of them. -/
def Follows (rest : List Char) : Prop := ∀ c ∈ rest.head?, c = ',' ∨ c = ']' ∨ c = '\x7d'

/-- One or more decimal digits. -/
def Digits (cs : List Char) : Prop := cs ≠ [] ∧ ∀ c ∈ cs, Text.isDigit c = true

/-- Digits of which the first is no zero, unless it is the only one. -/
def Whole (cs : List Char) : Prop := Digits cs ∧ ∀ rest, cs = '0' :: rest → rest = []

/-- A fraction, which may be missing. -/
inductive Fraction : List Char → Prop
  | missing : Fraction []
  | digits {ds : List Char} (h : Digits ds) : Fraction ('.' :: ds)

/-- An exponent, which may be missing. -/
inductive Exponent : List Char → Prop
  | missing : Exponent []
  | plus {ds : List Char} (h : Digits ds) : Exponent ('e' :: '+' :: ds)
  | minus {ds : List Char} (h : Digits ds) : Exponent ('e' :: '-' :: ds)

/-- The text of a number after its sign. -/
def Unsigned (cs : List Char) : Prop :=
  ∃ whole fraction exponent, Whole whole ∧ Fraction fraction ∧ Exponent exponent ∧
    cs = whole ++ (fraction ++ exponent)

/-! ### Reading -/

variable {ds rest : List Char}

/-- The list does not start with a digit. -/
def NoDigit (rest : List Char) : Prop := ∀ c ∈ rest.head?, Text.isDigit c = false

theorem noDigit_cons {c : Char} (h : Text.isDigit c = false) : NoDigit (c :: rest) := by
  rintro _ ⟨⟩
  exact h

theorem Follows.noDigit (h : Follows rest) : NoDigit rest := by
  intro c hc
  rcases h c hc with rfl | rfl | rfl <;> rfl

theorem takeWhile_digits (hd : Digits ds) (hr : NoDigit rest) :
    (ds ++ rest).takeWhile Text.isDigit = ds := by
  rw [List.takeWhile_append_of_pos hd.2]
  cases rest with
  | nil => simp
  | cons c rest => simp [hr c rfl]

theorem dropWhile_digits (hd : Digits ds) (hr : NoDigit rest) :
    (ds ++ rest).dropWhile Text.isDigit = rest :=
  Text.dropWhile_append hd.2 hr

theorem Digits.isEmpty (hd : Digits ds) : ds.isEmpty = false := by
  cases ds with
  | nil => exact absurd rfl hd.1
  | cons c ds => rfl

theorem Exponent.noDigit {exponent : List Char} (h : Exponent exponent) (hr : Follows rest) :
    NoDigit (exponent ++ rest) := by
  cases h with
  | missing => exact hr.noDigit
  | plus | minus => exact noDigit_cons rfl

theorem Fraction.noDigit {fraction : List Char} (h : Fraction fraction) (hr : NoDigit rest) :
    NoDigit (fraction ++ rest) := by
  cases h with
  | missing => exact hr
  | digits => exact noDigit_cons rfl

/-- An exponent is read to its end. -/
theorem readExponent_append {exponent : List Char} (h : Exponent exponent) :
    ∃ x, ∀ {rest}, Follows rest → readExponent (exponent ++ rest) = some (x, rest) := by
  cases h with
  | missing =>
    refine ⟨none, fun {rest} hr => ?_⟩
    cases rest with
    | nil => rfl
    | cons c rest =>
      rcases hr c rfl with rfl | rfl | rfl <;> rfl
  | @plus ds hd =>
    refine ⟨some (1 * Text.decimalValue ds), fun hr => ?_⟩
    simp [readExponent, takeWhile_digits hd hr.noDigit, dropWhile_digits hd hr.noDigit, hd.isEmpty]
  | @minus ds hd =>
    refine ⟨some (-1 * Text.decimalValue ds), fun hr => ?_⟩
    simp [readExponent, takeWhile_digits hd hr.noDigit, dropWhile_digits hd hr.noDigit, hd.isEmpty]

/-- A fraction is read to its end. -/
theorem readFraction_append {fraction : List Char} (h : Fraction fraction) :
    ∃ x, ∀ {exponent rest}, Exponent exponent → Follows rest →
      readFraction (fraction ++ (exponent ++ rest)) = some (x, exponent ++ rest) := by
  cases h with
  | missing =>
    refine ⟨none, fun {exponent rest} he hr => ?_⟩
    cases he with
    | missing =>
      cases rest with
      | nil => rfl
      | cons c rest => rcases hr c rfl with rfl | rfl | rfl <;> rfl
    | plus | minus => rfl
  | @digits ds hd =>
    refine ⟨some ds, fun he hr => ?_⟩
    have after := he.noDigit hr
    simp [readFraction, takeWhile_digits hd after, dropWhile_digits hd after, hd.isEmpty]

/-- A number is read to its end, whatever follows. -/
theorem readNumber_append {cs : List Char} (h : Unsigned cs) (negative : Bool) :
    ∃ d, ∀ {rest}, Follows rest → readNumber negative (cs ++ rest) = some (d, rest) := by
  obtain ⟨whole, fraction, exponent, hw, hf, he, rfl⟩ := h
  obtain ⟨f, readF⟩ := readFraction_append hf
  obtain ⟨x, readX⟩ := readExponent_append he
  refine ⟨?node, fun {rest} hr => ?read⟩
  case read =>
    have after := hf.noDigit (he.noDigit hr)
    rw [List.append_assoc, List.append_assoc, readNumber, takeWhile_digits hw.1 after,
      dropWhile_digits hw.1 after, readF he hr]
    simp only
    split
    next => exact absurd rfl hw.1.1
    next => exact absurd (hw.2 _ rfl) (List.cons_ne_nil _ _)
    next =>
      simp only [Option.bind_eq_bind, Option.bind_some, readX hr]
      rfl

/-! ### Writing -/

variable {ds : List Char}

/-- Digits of which the first is no zero. -/
def Leading (ds : List Char) : Prop := Digits ds ∧ ds.head? ≠ some '0'

theorem Leading.whole (h : Leading ds) : Whole ds :=
  ⟨h.1, fun rest zero => absurd (by rw [zero]; rfl) h.2⟩

theorem digits_nat (n : Nat) : Digits (toString n).toList :=
  ⟨by rw [Nat.toString_eq_repr, Nat.toList_repr]; exact Nat.toDigits_ne_nil,
    fun _ => Text.isDigit_of_mem_nat⟩

/-- A natural number above zero is written without a leading zero. -/
theorem leading_nat {n : Nat} (h : n ≠ 0) : Leading (toString n).toList := by
  refine ⟨digits_nat n, ?_⟩
  rw [Nat.toString_eq_repr, Nat.toList_repr]
  induction n using Nat.strongRecOn with
  | ind n ih =>
    rw [Nat.toDigits_eq_if (by decide)]
    split
    next small =>
      have each : ∀ n < 10, n ≠ 0 → [n.digitChar].head? ≠ some '0' := by decide
      exact each n small h
    next large =>
      have high := ih (n / 10) (by omega) (by omega)
      cases digits : Nat.toDigits 10 (n / 10) with
      | nil => exact absurd digits Nat.toDigits_ne_nil
      | cons c cs => rwa [digits] at high

theorem whole_nat (n : Nat) : Whole (toString n).toList := by
  by_cases h : n = 0
  · subst h
    exact ⟨digits_nat 0, fun rest zero => (List.cons.inj zero).2.symm⟩
  · exact (leading_nat h).whole

theorem unsigned_nat (n : Nat) : Unsigned (toString n).toList :=
  ⟨_, [], [], whole_nat n, .missing, .missing, by simp⟩

theorem Leading.cons {c : Char} {cs cs' : List Char} (h : Leading (c :: cs))
    (sub : cs' ⊆ cs) : Leading (c :: cs') := by
  refine ⟨⟨List.cons_ne_nil _ _, fun x hx => h.1.2 x ?_⟩, h.2⟩
  rcases List.mem_cons.mp hx with rfl | hx
  · exact List.mem_cons_self
  · exact List.mem_cons_of_mem c (sub hx)

theorem Digits.append {cs : List Char} (hd : Digits ds) (hc : ∀ c ∈ cs, Text.isDigit c = true) :
    Digits (ds ++ cs) := by
  refine ⟨List.append_ne_nil_of_left_ne_nil hd.1 cs, fun c h => ?_⟩
  rcases List.mem_append.mp h with h | h
  · exact hd.2 c h
  · exact hc c h

theorem isDigit_of_mem_zeros {n : Nat} {c : Char} (h : c ∈ List.replicate n '0') :
    Text.isDigit c = true := by
  rw [List.eq_of_mem_replicate h]
  rfl

/-- Without an exponent a number below one starts with a zero, any other with its own digits. -/
theorem unsigned_positional (hd : Leading ds) {k : Int} (h : k < 0) :
    Unsigned (Binary64.positional ds k) := by
  rw [Binary64.positional]
  simp only [if_neg (by omega : ¬ 0 ≤ k)]
  split
  next above =>
    refine ⟨ds.take (ds.length + k).toNat, '.' :: ds.drop (ds.length + k).toNat, [], ?_, .digits ?_,
      .missing, by simp⟩
    · obtain ⟨c, cs, rfl⟩ := List.exists_cons_of_ne_nil hd.1.1
      obtain ⟨n, place⟩ : ∃ n, (((c :: cs).length : Int) + k).toNat = n + 1 :=
        ⟨(((c :: cs).length : Int) + k).toNat - 1, by omega⟩
      rw [place, List.take_succ_cons]
      exact (hd.cons (List.take_subset n cs)).whole
    · refine ⟨fun none => ?_, fun c hc => hd.1.2 c (List.mem_of_mem_drop hc)⟩
      have := List.drop_eq_nil_iff.mp none
      omega
  next below =>
    refine ⟨['0'], '.' :: (List.replicate (-(ds.length + k)).toNat '0' ++ ds), [],
      whole_nat 0, .digits ⟨List.append_ne_nil_of_right_ne_nil _ hd.1.1, fun c hc => ?_⟩, .missing,
      by simp⟩
    rcases List.mem_append.mp hc with hc | hc
    · exact isDigit_of_mem_zeros hc
    · exact hd.1.2 c hc

/-- The exponent of a number that is too large or too small to be written without one. -/
theorem exponent_int {x : Int} (h : x ≠ 0) :
    Exponent ('e' :: ((if 0 < x then "+" else "") ++ toString x).toList) := by
  rw [Int.toString_eq_repr, Int.repr_eq_if]
  by_cases above : 0 < x
  · rw [if_pos above, if_pos (by omega), String.toList_append]
    exact .plus (digits_nat x.toNat)
  · rw [if_neg above, if_neg (by omega), String.toList_append, String.toList_append]
    exact .minus (digits_nat (-x).toNat)

/-- A finite double is written as JSON writes numbers. -/
theorem unsigned_scientific (negative : Bool) (m : Nat) (e : Int) :
    ∃ cs, Unsigned cs ∧ (Binary64.scientific (.finite negative m e)).toList =
      (Binary64.signText negative).toList ++ cs := by
  rw [Binary64.scientific]
  obtain ⟨d, k⟩ := Binary64.shortest m e
  refine ⟨_, ?_, by rw [String.toList_append, String.toList_ofList]⟩
  have zero : Digits ['0'] := digits_nat 0
  split_ifs with none whole fraction
  · exact ⟨['0'], ['.', '0'], [], whole_nat 0, .digits zero, .missing, rfl⟩
  · have leading := leading_nat none
    refine ⟨Binary64.positional (toString d).toList k, ['.', '0'], [], ?_, .digits zero, .missing,
      by simp⟩
    rw [Binary64.positional, if_pos whole.1]
    refine Leading.whole ⟨leading.1.append fun c => isDigit_of_mem_zeros, ?_⟩
    obtain ⟨c, cs, digits⟩ := List.exists_cons_of_ne_nil leading.1.1
    have first := leading.2
    rw [digits] at first ⊢
    exact first
  · exact unsigned_positional (leading_nat none) (by omega)
  · obtain ⟨c, cs, digits⟩ := List.exists_cons_of_ne_nil (leading_nat none).1.1
    have leading := leading_nat none
    rw [digits] at leading ⊢
    have first : Whole [c] := (leading.cons (List.nil_subset _)).whole
    have exponent := exponent_int (x := ((c :: cs).length : Int) + k - 1) (by rw [← digits]; omega)
    cases cs with
    | nil => exact ⟨[c], [], _, first, .missing, exponent, rfl⟩
    | cons c' cs =>
      refine ⟨[c], '.' :: c' :: cs, _, first, .digits ⟨List.cons_ne_nil _ _, fun x hx => ?_⟩,
        exponent, rfl⟩
      exact leading.1.2 x (List.mem_cons_of_mem c hx)

/-! ### Characters -/

theorem Unsigned.isScientific {cs : List Char} (h : Unsigned cs) {c : Char} (hc : c ∈ cs) :
    Text.isScientific c = true := by
  have digit {ds : List Char} (hd : Digits ds) (hc : c ∈ ds) : Text.isScientific c = true :=
    Text.isScientific_of_isDigit (hd.2 c hc)
  obtain ⟨whole, fraction, exponent, hw, hf, he, rfl⟩ := h
  simp only [List.mem_append] at hc
  obtain hc | hc | hc := hc
  · exact digit hw.1 hc
  · cases hf with
    | missing => exact nomatch hc
    | digits hd => exact (List.mem_cons.mp hc).elim (fun same => same ▸ rfl) (digit hd)
  · cases he with
    | missing => exact nomatch hc
    | plus hd | minus hd =>
      simp only [List.mem_cons] at hc
      obtain rfl | rfl | hc := hc
      · rfl
      · rfl
      · exact digit hd hc

theorem Unsigned.ne_nil {cs : List Char} (h : Unsigned cs) : cs ≠ [] := by
  obtain ⟨whole, fraction, exponent, hw, -, -, rfl⟩ := h
  exact List.append_ne_nil_of_left_ne_nil hw.1.1 _

theorem toString_int_ne_empty (n : Int) : toString n ≠ "" := by
  intro empty
  have chars := congrArg String.toList empty
  rw [Int.toString_eq_repr, Int.repr_eq_if] at chars
  split_ifs at chars
  · exact (unsigned_nat n.toNat).ne_nil chars
  · simp at chars

theorem exists_unsigned_double {x : Binary64} (finite : x.isFinite = true) :
    ∃ negative cs, Unsigned cs ∧
      (Json.doubleText x).toList = (Binary64.signText negative).toList ++ cs := by
  cases x with
  | nan => exact nomatch finite
  | infinite negative => exact nomatch finite
  | finite negative m e =>
    rw [Json.doubleText, if_pos finite]
    exact ⟨negative, unsigned_scientific negative m e⟩

theorem isScientific_of_mem_double {x : Binary64} (finite : x.isFinite = true) {c : Char}
    (h : c ∈ (Json.doubleText x).toList) : Text.isScientific c = true := by
  obtain ⟨negative, cs, unsigned, text⟩ := exists_unsigned_double finite
  rw [text, List.mem_append] at h
  obtain sign | h := h
  · exact Text.isScientific_of_isNumeral (Text.isNumeral_of_mem_signText sign)
  · exact unsigned.isScientific h

theorem doubleText_ne_empty {x : Binary64} (finite : x.isFinite = true) :
    Json.doubleText x ≠ "" := by
  obtain ⟨negative, cs, unsigned, text⟩ := exists_unsigned_double finite
  intro empty
  rw [empty] at text
  exact unsigned.ne_nil (List.append_eq_nil_iff.mp text.symm).2

end Document

end TableMapper
