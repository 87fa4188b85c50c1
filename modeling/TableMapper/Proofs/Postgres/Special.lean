import TableMapper.Proofs.Postgres.Numeric

/-!
# Numbers without digits

The word for the sign also says that a value is no number, or an infinite one.  Only one of these
words is looked at; with every other one the groups are shown as those of a positive number.

* `Numeric.formOf` is the form in bytes, and `Numeric.text?_eq` its text.
* `Form.Shows` says which groups have a character in the text besides the first one before the
  point, and `Numeric.isNumber_text_iff` that the text denotes a number if and only if none of them
  is negative.
* `Numeric.special_shown_iff` says exactly when a value that is neither a positive nor a negative
  number is shown as a number all the same, and which text it has.
-/

namespace TableMapper

namespace Numeric

/-! ### Minus signs in digits -/

/-- The text denotes a number. -/
def IsNumber (text : String) : Prop := (read? text).isSome = true

instance (text : String) : Decidable (IsNumber text) := inferInstanceAs (Decidable (_ = true))

/-- There is a number only where there is no minus sign. -/
theorem readUnsigned?_eq_none {cs : List Char} (minus : '-' ∈ cs) : readUnsigned? cs = none := by
  have parts : cs.takeWhile Text.isDigit ++ cs.dropWhile Text.isDigit = cs :=
    List.takeWhile_append_dropWhile
  have later : '-' ∈ cs.dropWhile Text.isDigit := by
    rw [← parts, List.mem_append] at minus
    obtain first | later := minus
    · exact absurd (List.all_eq_true.mp List.all_takeWhile '-' first) (by decide)
    · exact later
  rw [readUnsigned?]
  split
  next none =>
    rw [none] at later
    cases later
  next ds point =>
    rw [point] at later
    obtain wrong | decimal := List.mem_cons.mp later
    · exact absurd wrong (by decide)
    · have refused : Text.digits? ds = none := by
        have some : ds.all Text.isDigit = false :=
          List.all_eq_false.mpr ⟨'-', decimal, by decide⟩
        rw [Text.digits?, some]
        simp
      rw [refused]
      cases Text.digits? (cs.takeWhile Text.isDigit) <;> rfl
  next => rfl

/-! ### Groups that are shown -/

section Shown

variable {f : Form}

theorem isDigit_of_mem_zeroPadded {width n : Nat} {c : Char}
    (inside : c ∈ (Text.padded width n).toList) : Text.isDigit c = true := by
  rw [Text.padded, String.toList_ofList, List.mem_append] at inside
  obtain zero | digit := inside
  · exact Document.isDigit_of_mem_zeros zero
  · exact Text.isDigit_of_mem_nat digit

theorem le_length_zeroPadded (width n : Nat) : width ≤ (Text.padded width n).toList.length := by
  rw [Text.padded, String.toList_ofList, List.length_append, List.length_replicate]
  omega

theorem padded_of_neg {g : Int} (negative : g < 0) :
    padded g = '-' :: (Text.padded 3 g.natAbs).toList := if_pos negative

theorem padded_of_not_neg {g : Int} (nonneg : ¬ g < 0) :
    padded g = (Text.padded 4 g.toNat).toList := if_neg nonneg

/-- Whatever the group is, it has four characters or more. -/
theorem le_length_padded (g : Int) : 4 ≤ (padded g).length := by
  by_cases negative : g < 0
  · rw [padded_of_neg negative]
    exact Nat.succ_le_succ (le_length_zeroPadded 3 g.natAbs)
  · rw [padded_of_not_neg negative]
    exact le_length_zeroPadded 4 g.toNat

/-- The minus sign of a group is its first character. -/
theorem minus_mem_take_padded (g : Int) (n : Nat) : '-' ∈ (padded g).take n ↔ g < 0 ∧ 0 < n := by
  by_cases negative : g < 0
  · rw [padded_of_neg negative]
    cases n with
    | zero => simp
    | succ n => simp [negative]
  · constructor
    · intro inside
      rw [padded_of_not_neg negative] at inside
      exact absurd (isDigit_of_mem_zeroPadded (List.mem_of_mem_take inside)) (by decide)
    · rintro ⟨wrong, -⟩
      exact absurd wrong negative

theorem minus_or_isDigit_of_mem_run {start : Int} {count : Nat} {c : Char}
    (inside : c ∈ f.run start count) : c = '-' ∨ Text.isDigit c = true := by
  obtain ⟨i, -, there⟩ := List.mem_flatMap.mp inside
  by_cases negative : f.group (start + i) < 0
  · rw [padded_of_neg negative] at there
    obtain minus | digit := List.mem_cons.mp there
    · exact .inl minus
    · exact .inr (isDigit_of_mem_zeroPadded digit)
  · rw [padded_of_not_neg negative] at there
    exact .inr (isDigit_of_mem_zeroPadded there)

/-- A minus sign is among the first characters if a negative group starts among them. -/
theorem minus_mem_take_run (f : Form) (start : Int) (count n : Nat) :
    '-' ∈ (f.run start count).take n ↔
      ∃ i < count, (f.run start i).length < n ∧ f.group (start + i) < 0 := by
  induction count with
  | zero => simp [Form.run]
  | succ count ih =>
    rw [run_succ, List.take_append, List.mem_append, ih, minus_mem_take_padded]
    constructor
    · rintro (⟨i, before, shown, negative⟩ | ⟨negative, shown⟩)
      · exact ⟨i, before.trans (Nat.lt_succ_self count), shown, negative⟩
      · exact ⟨count, Nat.lt_succ_self count, Nat.lt_of_sub_pos shown, negative⟩
    · rintro ⟨i, inside, shown, negative⟩
      obtain before | rfl := Nat.lt_succ_iff_lt_or_eq.mp inside
      · exact .inl ⟨i, before, shown, negative⟩
      · exact .inr ⟨negative, Nat.sub_pos_of_lt shown⟩

theorem le_length_run (f : Form) (start : Int) (count : Nat) :
    4 * count ≤ (f.run start count).length := by
  induction count with
  | zero => exact Nat.zero_le _
  | succ count ih =>
    have last := le_length_padded (f.group (start + count))
    rw [run_succ, List.length_append]
    omega

theorem length_run_mono (f : Form) (start : Int) {i count : Nat} (before : i < count) :
    (f.run start i).length < (f.run start count).length := by
  induction count with
  | zero => cases before
  | succ count ih =>
    have last := le_length_padded (f.group (start + count))
    rw [run_succ, List.length_append]
    obtain earlier | rfl := Nat.lt_succ_iff_lt_or_eq.mp before
    · have shorter := ih earlier
      omega
    · omega

/-- The group at this place has a character in the text, and is not the first one before the
point.  After the point there is room for so many characters only. -/
def Form.Shows (f : Form) (k : Int) : Prop :=
  0 < k ∧ k ≤ f.weight ∨
  f.weight < k ∧ (f.run (f.weight + 1) (k - f.weight - 1).toNat).length < f.scale

/-- The digits before the point that are not of the first group. -/
def Form.rest (f : Form) : List Char := f.run 1 f.weight.toNat

theorem minus_mem_rest (f : Form) : '-' ∈ f.rest ↔ ∃ k, (0 < k ∧ k ≤ f.weight) ∧ f.group k < 0 := by
  have all : f.rest.take f.rest.length = f.rest := List.take_length
  rw [← all, Form.rest, minus_mem_take_run]
  constructor
  · rintro ⟨i, inside, -, negative⟩
    exact ⟨1 + i, by omega, negative⟩
  · rintro ⟨k, ⟨some, most⟩, negative⟩
    have place : 1 + ((k - 1).toNat : Int) = k := by omega
    have inside : (k - 1).toNat < f.weight.toNat := by omega
    exact ⟨(k - 1).toNat, inside, length_run_mono f 1 inside, by rwa [place]⟩

theorem minus_mem_fraction (f : Form) : '-' ∈ f.fraction ↔ ∃ k, (f.weight < k ∧
    (f.run (f.weight + 1) (k - f.weight - 1).toNat).length < f.scale) ∧ f.group k < 0 := by
  rw [fraction_eq, minus_mem_take_run]
  constructor
  · rintro ⟨i, -, shown, negative⟩
    have place : (f.weight + 1 + i - f.weight - 1).toNat = i := by omega
    exact ⟨f.weight + 1 + i, ⟨by omega, by rwa [place]⟩, negative⟩
  -- every group has four characters, so one that starts before the cut is among those written
  · rintro ⟨k, ⟨after, shown⟩, negative⟩
    have place : f.weight + 1 + ((k - f.weight - 1).toNat : Int) = k := by omega
    have long := le_length_run f (f.weight + 1) (k - f.weight - 1).toNat
    exact ⟨(k - f.weight - 1).toNat, by omega, shown, by rwa [place]⟩

theorem unsigned_iff (f : Form) :
    ('-' ∉ f.rest ∧ '-' ∉ f.fraction) ↔ ∀ k, f.Shows k → 0 ≤ f.group k := by
  rw [minus_mem_rest, minus_mem_fraction]
  constructor
  · rintro ⟨whole, decimals⟩ k shown
    refine Int.not_lt.mp fun negative => ?_
    obtain before | after := shown
    · exact whole ⟨k, before, negative⟩
    · exact decimals ⟨k, after, negative⟩
  · intro nonneg
    constructor
    · rintro ⟨k, before, negative⟩
      exact absurd (nonneg k (.inl before)) (Int.not_le.mpr negative)
    · rintro ⟨k, after, negative⟩
      exact absurd (nonneg k (.inr after)) (Int.not_le.mpr negative)

end Shown

/-! ### Texts that denote numbers -/

section Number

variable {f : Form}

theorem length_fraction_eq (f : Form) : f.fraction.length = f.scale := by
  have long := le_length_run f (f.weight + 1) (f.scale / 4 + 1)
  rw [fraction_eq, List.length_take]
  omega

/-- Only the first group before the point can have a minus sign that belongs to a number. -/
theorem exists_whole (f : Form) : ∃ minus lead, (minus = [] ∨ minus = ['-']) ∧
    Document.Digits lead ∧ f.whole = minus ++ lead ++ f.rest := by
  by_cases before : f.weight < 0
  · have none : f.weight.toNat = 0 := by omega
    refine ⟨[], ['0'], .inl rfl, Document.digits_nat 0, ?_⟩
    rw [Form.whole, if_pos before, Form.rest, none]
    rfl
  · have whole : f.whole = (toString (f.group 0)).toList ++ f.rest := by
      rw [Form.whole, if_neg before, Form.rest, Form.run]
      simp only [Int.add_comm]
    rw [whole, Int.toString_eq_repr, Int.repr_eq_if]
    by_cases nonneg : 0 ≤ f.group 0
    · rw [if_pos nonneg]
      exact ⟨[], (toString (f.group 0).toNat).toList, .inl rfl, Document.digits_nat _, rfl⟩
    · rw [if_neg nonneg, String.toList_append]
      exact ⟨['-'], (toString (-f.group 0).toNat).toList, .inr rfl, Document.digits_nat _, rfl⟩

/-- Without a minus sign in them, the digits make up a number. -/
theorem isSome_readUnsigned?_iff {lead : List Char} (digits : Document.Digits lead) :
    (readUnsigned? (lead ++ f.rest ++ (if f.scale = 0 then [] else '.' :: f.fraction))).isSome =
      true ↔ '-' ∉ f.rest ∧ '-' ∉ f.fraction := by
  constructor
  · intro number
    constructor
    · intro minus
      rw [readUnsigned?_eq_none (by simp [minus])] at number
      cases number
    · intro minus
      have some : f.scale ≠ 0 := by
        rw [← length_fraction_eq]
        exact List.length_eq_zero_iff.not.mpr (List.ne_nil_of_mem minus)
      rw [readUnsigned?_eq_none (by simp [minus, some])] at number
      cases number
  · rintro ⟨before, after⟩
    have whole : ∀ c ∈ f.rest, Text.isDigit c = true := by
      intro c inside
      obtain rfl | digit := minus_or_isDigit_of_mem_run inside
      · exact absurd inside before
      · exact digit
    have decimals : ∀ c ∈ f.fraction, Text.isDigit c = true := by
      intro c inside
      obtain rfl | digit := minus_or_isDigit_of_mem_run (List.mem_of_mem_take inside)
      · exact absurd inside after
      · exact digit
    have read := readUnsigned?_decimal (digits.append whole) decimals
    rw [length_fraction_eq] at read
    rw [read]
    rfl

theorem isNumber_text_iff (plus : f.sign ≠ 0x4000) :
    IsNumber f.text ↔ ∀ k, f.Shows k → 0 ≤ f.group k := by
  obtain ⟨minus, lead, sign, digits, whole⟩ := exists_whole f
  have text : f.text.toList = minus ++ (lead ++ f.rest ++
      (if f.scale = 0 then [] else '.' :: f.fraction)) := by
    rw [Form.text, String.toList_ofList, if_neg plus, whole]
    simp
  rw [← unsigned_iff, ← isSome_readUnsigned?_iff digits, IsNumber, read?, text]
  obtain rfl | rfl := sign
  -- without a sign the text starts with a digit, and no sign is taken off
  · obtain ⟨c, more, first⟩ := List.exists_cons_of_ne_nil digits.1
    have digit : Text.isDigit c = true := digits.2 c (first ▸ List.mem_cons_self)
    simp only [List.nil_append, first, List.cons_append]
    split
    next same =>
      obtain ⟨rfl, -⟩ := List.cons.inj same
      cases digit
    next => rfl
  · simp

end Number

/-! ### Words for the sign -/

/-- The form in bytes. -/
def formOf (bytes : List UInt8) : Form where
  weight := Wire.signed ((bytes.drop 2).take 2)
  sign := signWord bytes
  scale := Wire.unsigned ((bytes.drop 6).take 2)
  groups := (Wire.words (bytes.drop 8)).take (announced bytes)

/-- The bytes with the word for the sign of a positive number. -/
def positive (bytes : List UInt8) : List UInt8 := bytes.take 4 ++ [0, 0] ++ bytes.drop 6

section Words

variable {bytes : List UInt8}

theorem exists_header (header : 8 ≤ bytes.length) :
    ∃ a b c d e f g h rest, bytes = a :: b :: c :: d :: e :: f :: g :: h :: rest := by
  match bytes, header with
  | a :: b :: c :: d :: e :: f :: g :: h :: rest, _ => exact ⟨a, b, c, d, e, f, g, h, rest, rfl⟩

theorem text?_eq (header : 8 ≤ bytes.length) : text? bytes =
    if signWord bytes = 0xC000 then some "NaN"
    else if bytes.length < 8 + 2 * announced bytes then none
    else some (formOf bytes).text := by
  obtain ⟨a, b, c, d, e, f, g, h, rest, rfl⟩ := exists_header header
  have length : (rest.length < 2 * announced (a :: b :: c :: d :: e :: f :: g :: h :: rest)) =
      ((a :: b :: c :: d :: e :: f :: g :: h :: rest).length <
        8 + 2 * announced (a :: b :: c :: d :: e :: f :: g :: h :: rest)) := by
    refine propext ?_
    simp only [List.length_cons]
    omega
  simp only [← length]
  rfl

/-- The positive number with the same groups. -/
def Form.unsigned (f : Form) : Form := { f with sign := 0 }

/-- The sign counts only if it is that of a negative number. -/
theorem text_unsigned {f : Form} (plus : f.sign ≠ 0x4000) : f.unsigned.text = f.text := by
  rw [Form.text, Form.text, if_neg plus]
  rfl

theorem text?_positive (header : 8 ≤ bytes.length) : text? (positive bytes) =
    if bytes.length < 8 + 2 * announced bytes then none
    else some (formOf bytes).unsigned.text := by
  obtain ⟨a, b, c, d, e, f, g, h, rest, rfl⟩ := exists_header header
  have enough : 8 ≤ (positive (a :: b :: c :: d :: e :: f :: g :: h :: rest)).length :=
    Nat.le_add_left 8 rest.length
  rw [text?_eq enough]
  rfl

theorem text?_special (header : 8 ≤ bytes.length) (minus : signWord bytes ≠ 0x4000)
    (named : signWord bytes ≠ 0xC000) : text? bytes = text? (positive bytes) := by
  have same := text_unsigned (f := formOf bytes) minus
  rw [text?_eq header, text?_positive header, if_neg named, same]

theorem unsigned_pair_lt (a b : UInt8) : Wire.unsigned [a, b] < 65536 := by
  have high := a.toNat_lt
  have low := b.toNat_lt
  simp only [Wire.unsigned, List.foldl_cons, List.foldl_nil]
  omega

theorem inWord_signed_pair (a b : UInt8) : Wire.InWord (Wire.signed [a, b]) := by
  have small := unsigned_pair_lt a b
  have length : [a, b].length = 2 := rfl
  simp only [Wire.InWord, Wire.signed, length, Nat.pow_eq]
  split_ifs <;> omega

/-- Digits to base 10000 make up a number that can be sent, whatever the other words are. -/
theorem finite_unsigned (header : 8 ≤ bytes.length)
    (groups : ∀ g ∈ (formOf bytes).groups, IsGroup g) : (formOf bytes).unsigned.Finite := by
  obtain ⟨a, b, c, d, e, f, g, h, rest, rfl⟩ := exists_header header
  obtain ⟨form, given⟩ : ∃ form, form = formOf (a :: b :: c :: d :: e :: f :: g :: h :: rest) :=
    ⟨_, rfl⟩
  rw [← given] at groups ⊢
  have weight : form.weight = Wire.signed [c, d] := by rw [given]; rfl
  have scale : form.scale = Wire.unsigned [g, h] := by rw [given]; rfl
  have few : form.groups.length ≤ (Wire.signed [a, b]).toNat := by
    rw [given]
    exact List.length_take_le _ _
  obtain ⟨-, high⟩ := inWord_signed_pair a b
  have count : form.groups.length < 32768 := by omega
  exact ⟨weight ▸ inWord_signed_pair c d, .inl rfl, scale ▸ unsigned_pair_lt g h, count, groups⟩

end Words

/-- **What is no number is shown as one.**  A value whose sign word is neither that of a positive
nor that of a negative number has the text `NaN` if the word is the one for it.  With every other
word it has the text of the positive number with the same groups.  So the text denotes a number if
and only if the word is not the one for NaN, no group is missing, and none that is shown after the
first one before the point is negative; and if the groups are digits to base 10000, it denotes their
sum, cut to the decimals. -/
theorem special_shown_iff {bytes : List UInt8} (header : 8 ≤ bytes.length)
    (minus : signWord bytes ≠ 0x4000) :
    (signWord bytes = 0xC000 → text? bytes = some "NaN" ∧ ¬ IsNumber "NaN") ∧
    (signWord bytes ≠ 0xC000 →
      text? bytes = text? (positive bytes) ∧ signWord (positive bytes) = 0) ∧
    ((∃ text, text? bytes = some text ∧ IsNumber text) ↔
      signWord bytes ≠ 0xC000 ∧ 8 + 2 * announced bytes ≤ bytes.length ∧
        ∀ k, (formOf bytes).Shows k → 0 ≤ (formOf bytes).group k) ∧
    (signWord bytes ≠ 0xC000 → 8 + 2 * announced bytes ≤ bytes.length →
      (∀ g ∈ (formOf bytes).groups, IsGroup g) →
      ∃ text, text? bytes = some text ∧
        read? text = some (cut (formOf bytes).scale (formOf bytes).sum)) := by
  have noNumber : ¬ IsNumber "NaN" := by decide
  refine ⟨?_, ?_, ?_, ?_⟩
  · intro named
    rw [text?_eq header, if_pos named]
    exact ⟨rfl, noNumber⟩
  · intro named
    refine ⟨text?_special header minus named, ?_⟩
    obtain ⟨a, b, c, d, e, f, g, h, rest, rfl⟩ := exists_header header
    rfl
  · rw [text?_eq header]
    by_cases named : signWord bytes = 0xC000
    · simp [named, noNumber]
    by_cases missing : bytes.length < 8 + 2 * announced bytes
    · simp [named, missing]
    · rw [if_neg named, if_neg missing, ← isNumber_text_iff minus]
      simp [named, Nat.not_lt.mp missing]
  · intro named complete groups
    refine ⟨(formOf bytes).text, ?_, ?_⟩
    · rw [text?_eq header, if_neg named, if_neg (Nat.not_lt.mpr complete)]
    · have exact := (read?_text (finite_unsigned header groups)).2
      rw [text_unsigned minus] at exact
      exact exact

/-- Both infinities, as they are sent, with no groups and 32 decimals, are shown as zero. -/
theorem special_shown_infinite :
    let infinite : List UInt8 := [0, 0, 0, 0, 0xD0, 0, 0, 32]
    let negative : List UInt8 := [0, 0, 0, 0, 0xF0, 0, 0, 32]
    signWord infinite = 0xD000 ∧ signWord negative = 0xF000 ∧
      text? infinite = some "0.00000000000000000000000000000000" ∧
      (∃ text, text? infinite = some text ∧ IsNumber text) ∧
      text? negative = text? infinite ∧
      read? "0.00000000000000000000000000000000" = some 0 := by
  intro infinite negative
  have shown : text? infinite = some "0.00000000000000000000000000000000" := by decide +kernel
  have groups : (formOf infinite).groups = [] := rfl
  have header : 8 ≤ infinite.length ∧ 8 ≤ negative.length := by decide
  obtain ⟨-, same, number, value⟩ := special_shown_iff header.1 (by decide)
  obtain ⟨-, same', -, -⟩ := special_shown_iff header.2 (by decide)
  refine ⟨by decide, by decide, shown, ?_, ?_, ?_⟩
  · refine number.mpr ⟨by decide, by decide, ?_⟩
    intro k _
    simp [Form.group, groups]
  · exact (same' (by decide)).1.trans (same (by decide)).1.symm
  · obtain ⟨text, read, exact⟩ := value (by decide) (by decide) (by simp [groups])
    have sum : (formOf infinite).sum = 0 := by simp [Form.sum, groups]
    rw [shown] at read
    obtain rfl := Option.some.inj read
    rw [exact, sum]
    simp [cut]

end Numeric

end TableMapper
