import Mathlib.Data.Rat.Floor
import Mathlib.Tactic.Positivity
import TableMapper.Postgres.Exchange
import TableMapper.Postgres.Numeric
import TableMapper.Proofs.Json.Number

/-!
# Decimal numbers, digit by digit

The digit groups of a number are cut off in the middle of one of them, and there can be fewer of
them than the weight says, or none before the point.

* `Wire.signedBytes` are the bytes of an integer, `Wire.signed_signedBytes` reads them back.
* `Numeric.read?` reads a text with digits and a point, and `Numeric.cut` cuts a number to decimals.
* `Form.leading` is the number that the first groups make up.  `Form.floor_sum` says that it is the
  number itself, shifted and rounded down, and `Form.decimalValue_text` that the digits of the text
  are the digits of it.
* `Numeric.text?_exact` says which bytes have a text, and what that text is.
-/

namespace TableMapper

/-! ### Numbers of a fixed size -/

namespace Wire

/-- An integer in two's complement, in so many bytes. -/
def signedBytes (size : Nat) (n : Int) : List UInt8 := bytesOf size (n % (256 ^ size : Nat)).toNat

/-- The integers that so many bytes hold. -/
def InBytes (size : Nat) (n : Int) : Prop :=
  -(256 ^ size : Nat) ≤ 2 * n ∧ 2 * n < (256 ^ size : Nat)

variable {size : Nat} {n : Int}

instance : Decidable (InBytes size n) := inferInstanceAs (Decidable (_ ∧ _))

theorem length_bytesOf (size n : Nat) : (bytesOf size n).length = size := by
  induction size generalizing n with
  | zero => rfl
  | succ size ih => rw [bytesOf, List.length_append, ih, List.length_singleton]

theorem length_signedBytes (size : Nat) (n : Int) : (signedBytes size n).length = size :=
  length_bytesOf size _

theorem unsigned_append (bytes : List UInt8) (b : UInt8) :
    unsigned (bytes ++ [b]) = 256 * unsigned bytes + b.toNat := by
  rw [unsigned, List.foldl_append]
  rfl

theorem unsigned_bytesOf (size n : Nat) : unsigned (bytesOf size n) = n % 256 ^ size := by
  induction size generalizing n with
  | zero => exact (Nat.mod_one n).symm
  | succ size ih =>
    have last : (UInt8.ofNat (n % 256)).toNat = n % 256 :=
      Nat.mod_eq_of_lt (Nat.mod_lt n (by decide))
    rw [bytesOf, unsigned_append, ih, last, Nat.pow_succ', Nat.mod_mul, Nat.add_comm]

theorem unsigned_signedBytes (size : Nat) (n : Int) :
    (unsigned (signedBytes size n) : Int) = n % (256 ^ size : Nat) := by
  have some : 0 < 256 ^ size := Nat.pow_pos (by decide)
  have nonneg : 0 ≤ n % (256 ^ size : Nat) := Int.emod_nonneg n (by omega)
  have small : (n % (256 ^ size : Nat)).toNat < 256 ^ size := by
    have bound := Int.emod_lt_of_pos n (Int.natCast_pos.mpr some)
    omega
  rw [signedBytes, unsigned_bytesOf, Nat.mod_eq_of_lt small, Int.toNat_of_nonneg nonneg]

theorem signed_signedBytes (fits : InBytes size n) : signed (signedBytes size n) = n := by
  obtain ⟨low, high⟩ := fits
  have read := unsigned_signedBytes size n
  simp only [signed, length_signedBytes, Nat.pow_eq]
  by_cases negative : n < 0
  · rw [← Int.add_emod_right, Int.emod_eq_of_lt (by omega) (by omega)] at read
    rw [if_neg (by omega)]
    omega
  · rw [Int.emod_eq_of_lt (by omega) (by omega)] at read
    rw [if_pos (by omega)]
    omega

/-- A word of 16 bits in two's complement. -/
def word (n : Int) : List UInt8 := bytesOf 2 (n % 65536).toNat

/-- The integers that a word holds. -/
def InWord (n : Int) : Prop := -32768 ≤ n ∧ n < 32768

theorem word_eq (n : Int) : ∃ a b, word n = [a, b] := ⟨_, _, rfl⟩

theorem unsigned_word (n : Int) : (unsigned (word n) : Int) = n % 65536 :=
  unsigned_signedBytes 2 n

theorem signed_word {n : Int} (fits : InWord n) : signed (word n) = n := by
  obtain ⟨low, high⟩ := fits
  have fits : InBytes 2 n := ⟨by omega, by omega⟩
  exact signed_signedBytes fits

/-- Words are read back, whatever follows them. -/
theorem take_words {gs : List Int} (fit : ∀ g ∈ gs, InWord g) (rest : List UInt8) :
    (words (gs.flatMap word ++ rest)).take gs.length = gs := by
  induction gs with
  | nil => rfl
  | cons g gs ih =>
    obtain ⟨a, b, bytes⟩ := word_eq g
    have first := signed_word (fit g List.mem_cons_self)
    have others := ih fun h inside => fit h (List.mem_cons_of_mem g inside)
    rw [bytes] at first
    rw [List.flatMap_cons, bytes, List.append_assoc]
    simp only [List.cons_append, List.nil_append, words, List.length_cons, List.take_succ_cons,
      first, others]

theorem length_flatMap_word (gs : List Int) : (gs.flatMap word).length = 2 * gs.length := by
  induction gs with
  | nil => rfl
  | cons g gs ih =>
    have first : (word g).length = 2 := rfl
    rw [List.flatMap_cons, List.length_append, first, ih, List.length_cons]
    omega

end Wire

namespace Numeric

/-! ### Reading -/

/-- Digits, perhaps with a point and decimals after them. -/
def readUnsigned? (cs : List Char) : Option ℚ :=
  let whole := cs.takeWhile Text.isDigit
  match cs.dropWhile Text.isDigit with
  | [] => (Text.digits? whole).map fun n : Nat => (n : ℚ)
  | '.' :: ds => do
    let n ← Text.digits? whole
    let d ← Text.digits? ds
    some (n + d / 10 ^ ds.length)
  | _ => none

/-- The number that a text denotes. -/
def read? (text : String) : Option ℚ :=
  match text.toList with
  | '-' :: cs => (readUnsigned? cs).map fun q => -q
  | cs => readUnsigned? cs

/-- The number with so many decimals that is nearest on the way to zero. -/
def cut (scale : Nat) (q : ℚ) : ℚ :=
  ((if q < 0 then ⌈q * 10 ^ scale⌉ else ⌊q * 10 ^ scale⌋ : Int) : ℚ) / 10 ^ scale

/-- Digits with a sign before them if the number is negative, and with a point and decimals after
them if it has decimals. -/
def Written (negative : Bool) (scale : Nat) (text : String) : Prop :=
  ∃ whole decimals, Document.Digits whole ∧ (∀ c ∈ decimals, Text.isDigit c = true) ∧
    decimals.length = scale ∧
    text.toList = (if negative then ['-'] else []) ++ whole ++
      (if scale = 0 then [] else '.' :: decimals)

variable {whole ds : List Char}

theorem readUnsigned?_whole (digits : Document.Digits whole) :
    readUnsigned? whole = some (Text.decimalValue whole : ℚ) := by
  have last : Document.NoDigit [] := by simp [Document.NoDigit]
  have taken := Document.takeWhile_digits digits last
  have after := Document.dropWhile_digits digits last
  rw [List.append_nil] at taken after
  simp only [readUnsigned?, taken, after, Text.digits?_of_digits digits.1 digits.2,
    Option.map_some]

theorem readUnsigned?_point (digits : Document.Digits whole) (decimals : Document.Digits ds) :
    readUnsigned? (whole ++ '.' :: ds) =
      some ((Text.decimalValue (whole ++ ds) : ℚ) / 10 ^ ds.length) := by
  have point : Document.NoDigit ('.' :: ds) := Document.noDigit_cons rfl
  have read : readUnsigned? (whole ++ '.' :: ds) =
      some ((Text.decimalValue whole : ℚ) + Text.decimalValue ds / 10 ^ ds.length) := by
    simp only [readUnsigned?, Document.takeWhile_digits digits point,
      Document.dropWhile_digits digits point, Text.digits?_of_digits digits.1 digits.2,
      Text.digits?_of_digits decimals.1 decimals.2]
    rfl
  rw [read, Text.decimalValue_append]
  push_cast
  field_simp

theorem readUnsigned?_decimal (digits : Document.Digits whole)
    (decimals : ∀ c ∈ ds, Text.isDigit c = true) :
    readUnsigned? (whole ++ (if ds.length = 0 then [] else '.' :: ds)) =
      some ((Text.decimalValue (whole ++ ds) : ℚ) / 10 ^ ds.length) := by
  cases ds with
  | nil => simpa using readUnsigned?_whole digits
  | cons c ds => exact readUnsigned?_point digits ⟨List.cons_ne_nil c ds, decimals⟩

theorem cut_of_nonneg {scale : Nat} {q : ℚ} (nonneg : 0 ≤ q) :
    cut scale q = (⌊q * 10 ^ scale⌋ : ℚ) / 10 ^ scale := by
  rw [cut, if_neg (not_lt.mpr nonneg)]

/-- A number and its opposite are cut alike. -/
theorem cut_neg {scale : Nat} {q : ℚ} (nonneg : 0 ≤ q) : cut scale (-q) = -cut scale q := by
  obtain rfl | positive := nonneg.eq_or_lt
  · simp [cut]
  · rw [cut_of_nonneg nonneg, cut, if_pos (neg_lt_zero.mpr positive), neg_mul, Int.ceil_neg]
    push_cast
    ring

/-! ### Numbers that are sent -/

/-- A digit to base 10000. -/
def IsGroup (g : Int) : Prop := 0 ≤ g ∧ g ≤ 9999

instance (g : Int) : Decidable (IsGroup g) := inferInstanceAs (Decidable (_ ∧ _))

/-- What the groups add up to, each by its place. -/
def Form.sum (f : Form) : ℚ :=
  ∑ i ∈ Finset.range f.groups.length, (f.group i : ℚ) * 10000 ^ (f.weight - i)

/-- The number. -/
def Form.value (f : Form) : ℚ := if f.sign = 0x4000 then -f.sum else f.sum

/-- A number with digits that can be sent. -/
structure Form.Finite (f : Form) : Prop where
  weight : Wire.InWord f.weight
  sign : f.sign = 0 ∨ f.sign = 0x4000
  scale : f.scale < 65536
  count : f.groups.length < 32768
  groups : ∀ g ∈ f.groups, IsGroup g

/-- The bytes that a number is sent as. -/
def Form.bytes (f : Form) : List UInt8 :=
  Wire.word f.groups.length ++ Wire.word f.weight ++ Wire.word f.sign ++ Wire.word f.scale ++
    f.groups.flatMap Wire.word

/-- The number of groups that the first word announces. -/
def announced (bytes : List UInt8) : Nat := (Wire.signed (bytes.take 2)).toNat

/-- The word for the sign. -/
def signWord (bytes : List UInt8) : Nat := Wire.unsigned ((bytes.drop 4).take 2)

/-- A text is missing only where bytes are. -/
theorem text?_eq_none_iff (bytes : List UInt8) : text? bytes = none ↔
    bytes.length < 8 ∨ signWord bytes ≠ 0xC000 ∧ bytes.length < 8 + 2 * announced bytes := by
  unfold text?
  split
  next a b c d e f g h rest =>
    simp only [announced, signWord, List.take_succ_cons, List.take_zero, List.drop_succ_cons,
      List.drop_zero, List.length_cons]
    split_ifs with named missing
    · simp [named]
    · simp only [true_iff]
      exact .inr ⟨named, by omega⟩
    · simp only [false_iff]
      omega
  next short =>
    simp only [true_iff]
    refine .inl (Nat.lt_of_not_le fun enough => ?_)
    match bytes, enough with
    | a :: b :: c :: d :: e :: f :: g :: h :: rest, _ => exact short _ _ _ _ _ _ _ _ _ rfl

/-- The bytes of a number are read back, whatever follows them. -/
theorem text?_bytes {f : Form} (finite : f.Finite) (rest : List UInt8) :
    text? (f.bytes ++ rest) = some f.text := by
  obtain ⟨a, b, countBytes⟩ := Wire.word_eq f.groups.length
  obtain ⟨c, d, weightBytes⟩ := Wire.word_eq f.weight
  obtain ⟨e, g, signBytes⟩ := Wire.word_eq f.sign
  obtain ⟨h, i, scaleBytes⟩ := Wire.word_eq f.scale
  have bytes : f.bytes ++ rest =
      a :: b :: c :: d :: e :: g :: h :: i :: (f.groups.flatMap Wire.word ++ rest) := by
    simp [Form.bytes, countBytes, weightBytes, signBytes, scaleBytes]
  have few := finite.count
  have count : Wire.signed [a, b] = f.groups.length := by
    rw [← countBytes, Wire.signed_word ⟨by omega, by omega⟩]
  have weight : Wire.signed [c, d] = f.weight := by
    rw [← weightBytes, Wire.signed_word finite.weight]
  have sign : Wire.unsigned [e, g] = f.sign := by
    have read := Wire.unsigned_word f.sign
    rw [signBytes] at read
    obtain plus | minus := finite.sign <;> omega
  have scale : Wire.unsigned [h, i] = f.scale := by
    have read := Wire.unsigned_word f.scale
    have low := finite.scale
    rw [scaleBytes] at read
    omega
  have groups : (Wire.words (f.groups.flatMap Wire.word ++ rest)).take f.groups.length = f.groups :=
    Wire.take_words (fun g inside => by
      obtain ⟨low, high⟩ := finite.groups g inside
      exact ⟨by omega, by omega⟩) rest
  have named : f.sign ≠ 0xC000 := by
    obtain plus | minus := finite.sign <;> omega
  have enough : ¬ (f.groups.flatMap Wire.word ++ rest).length < 2 * f.groups.length := by
    rw [List.length_append, Wire.length_flatMap_word]
    omega
  rw [bytes]
  simp only [text?, count, weight, sign, scale, Int.toNat_natCast, groups, if_neg named,
    if_neg enough]

/-! ### The first groups -/

section Leading

variable {f : Form} {gs : List Int}

/-- The number that the first groups make up. -/
def Form.leading (f : Form) : Nat → Nat
  | 0 => 0
  | k + 1 => 10000 * f.leading k + (f.group k).toNat

/-- The number that the groups make up with the point in front of them. -/
def tail : List Int → ℚ
  | [] => 0
  | g :: gs => (g + tail gs) / 10000

theorem group_natCast (f : Form) (k : Nat) : f.group k = f.groups.getD k 0 := by
  rw [Form.group, if_neg (by omega), Int.toNat_natCast]

theorem isGroup_group (finite : f.Finite) (k : Int) : IsGroup (f.group k) := by
  rw [Form.group]
  split
  · decide
  · rw [List.getD_eq_getElem?_getD]
    cases found : f.groups[k.toNat]? with
    | none => decide
    | some g => exact finite.groups g (List.mem_of_getElem? found)

/-- One group more. -/
theorem leading_succ (f : Form) (k : Int) :
    f.leading (k + 1).toNat = 10000 * f.leading k.toNat + (f.group k).toNat := by
  by_cases before : k < 0
  -- before the first group there are zeros only
  · have here : k.toNat = 0 := by omega
    have next : (k + 1).toNat = 0 := by omega
    rw [here, next, Form.group, if_pos before]
    rfl
  · obtain ⟨n, rfl⟩ := Int.eq_ofNat_of_zero_le (Int.not_lt.mp before)
    rfl

theorem tail_range (groups : ∀ g ∈ gs, IsGroup g) : 0 ≤ tail gs ∧ tail gs < 1 := by
  induction gs with
  | nil => exact ⟨le_rfl, zero_lt_one⟩
  | cons g gs ih =>
    obtain ⟨low, high⟩ := groups g List.mem_cons_self
    have first : (0 : ℚ) ≤ g := by exact_mod_cast low
    have most : (g : ℚ) ≤ 9999 := by exact_mod_cast high
    obtain ⟨some, less⟩ := ih fun h inside => groups h (List.mem_cons_of_mem g inside)
    rw [tail]
    exact ⟨by positivity, by linarith⟩

theorem tail_mul (gs : List Int) : tail gs * 10000 = gs.getD 0 0 + tail (gs.drop 1) := by
  cases gs with
  | nil => simp [tail]
  | cons g gs =>
    rw [tail, div_mul_cancel₀ _ (by norm_num)]
    rfl

/-- The first groups move in front of the point one by one. -/
theorem tail_mul_pow (finite : f.Finite) (k : Nat) :
    tail f.groups * 10000 ^ k = f.leading k + tail (f.groups.drop k) := by
  induction k with
  | zero => simp [Form.leading]
  | succ k ih =>
    have group : ((f.group k).toNat : ℚ) = (f.groups.drop k).getD 0 0 := by
      have cast : ((f.group k).toNat : Int) = (f.groups.drop k).getD 0 0 := by
        rw [Int.toNat_of_nonneg (isGroup_group finite k).1, group_natCast]
        simp [List.getD_eq_getElem?_getD]
      exact_mod_cast cast
    calc tail f.groups * 10000 ^ (k + 1)
        = (f.leading k + tail (f.groups.drop k)) * 10000 := by rw [pow_succ, ← mul_assoc, ih]
      _ = 10000 * f.leading k + ((f.groups.drop k).getD 0 0 + tail ((f.groups.drop k).drop 1)) := by
        rw [add_mul, tail_mul, mul_comm]
      _ = f.leading (k + 1) + tail (f.groups.drop (k + 1)) := by
        rw [List.drop_drop, ← group, Form.leading]
        push_cast
        ring

theorem floor_tail (finite : f.Finite) (k : Int) :
    ⌊tail f.groups * 10000 ^ k⌋ = (f.leading k.toNat : Int) := by
  by_cases before : k < 0
  -- no group is in front of the point
  · obtain ⟨some, less⟩ := tail_range finite.groups
    have small : (10000 : ℚ) ^ k ≤ 1 := zpow_le_one_of_nonpos₀ (by norm_num) before.le
    have none : k.toNat = 0 := by omega
    rw [none, Int.floor_eq_iff]
    simp only [Form.leading, Nat.cast_zero, Int.cast_zero, zero_add]
    exact ⟨mul_nonneg some (zpow_nonneg (by norm_num) k),
      (mul_le_of_le_one_right some small).trans_lt less⟩
  · obtain ⟨n, rfl⟩ := Int.eq_ofNat_of_zero_le (Int.not_lt.mp before)
    obtain ⟨some, less⟩ := tail_range fun g (inside : g ∈ f.groups.drop n) =>
      finite.groups g (List.mem_of_mem_drop inside)
    rw [zpow_natCast, tail_mul_pow finite, Int.floor_eq_iff]
    push_cast
    exact ⟨le_add_of_nonneg_right some, add_lt_add_right less _⟩

theorem sum_eq_tail (gs : List Int) (weight : Int) :
    ∑ i ∈ Finset.range gs.length, ((gs.getD i 0 : Int) : ℚ) * 10000 ^ (weight - i) =
      tail gs * 10000 ^ (weight + 1) := by
  have some : (10000 : ℚ) ≠ 0 := by norm_num
  induction gs generalizing weight with
  | nil => simp [tail]
  | cons g gs ih =>
    have rest := ih (weight - 1)
    have places : ∀ i : Nat, weight - ((i + 1 : Nat) : Int) = weight - 1 - i := by
      intro i
      omega
    rw [List.length_cons, Finset.sum_range_succ']
    simp only [List.getD_cons_succ, List.getD_cons_zero, places, rest, Nat.cast_zero, sub_zero,
      sub_add_cancel]
    rw [tail, zpow_add_one₀ some]
    field_simp
    ring

/-- **What the first groups make up** is the number itself, shifted and rounded down. -/
theorem Form.floor_sum (finite : f.Finite) (m : Nat) :
    ⌊f.sum * 10000 ^ m⌋ = (f.leading (f.weight + 1 + m).toNat : Int) := by
  have sum : f.sum = tail f.groups * 10000 ^ (f.weight + 1) := by
    rw [← sum_eq_tail]
    exact Finset.sum_congr rfl fun i _ => by rw [group_natCast]
  rw [sum, mul_assoc, ← zpow_natCast, ← zpow_add₀ (by norm_num), floor_tail finite]

theorem sum_nonneg (finite : f.Finite) : 0 ≤ f.sum :=
  Finset.sum_nonneg fun i _ =>
    mul_nonneg (by exact_mod_cast (isGroup_group finite i).1) (zpow_nonneg (by norm_num) _)

end Leading

/-! ### The digits of the text -/

section Digits

variable {f : Form} {g : Int}

theorem length_group_le (group : IsGroup g) : (toString g.toNat).toList.length ≤ 4 := by
  obtain ⟨low, high⟩ := group
  rw [Nat.toString_eq_repr, Nat.toList_repr]
  exact (Nat.length_toDigits_le_iff (by decide) (by decide)).mpr (by omega)

theorem padded_eq (group : IsGroup g) :
    padded g = List.replicate (4 - (toString g.toNat).toList.length) '0' ++
      (toString g.toNat).toList := by
  rw [padded, if_neg (Int.not_lt.mpr group.1), Text.padded, String.toList_ofList]

/-- A group is written with four digits. -/
theorem length_padded (group : IsGroup g) : (padded g).length = 4 := by
  rw [padded_eq group, List.length_append, List.length_replicate]
  exact Nat.sub_add_cancel (length_group_le group)

theorem isDigit_of_mem_padded (group : IsGroup g) {c : Char} (inside : c ∈ padded g) :
    Text.isDigit c = true := by
  rw [padded_eq group] at inside
  obtain zero | digit := List.mem_append.mp inside
  · exact Document.isDigit_of_mem_zeros zero
  · exact Text.isDigit_of_mem_nat digit

theorem decimalValue_padded (group : IsGroup g) : Text.decimalValue (padded g) = g.toNat := by
  rw [padded_eq group, Text.decimalValue_append, Text.decimalValue_zeros, Text.decimalValue_nat,
    Nat.zero_mul, Nat.zero_add]

/-- The digits of groups that follow each other. -/
def Form.run (f : Form) (start : Int) (count : Nat) : List Char :=
  (List.range count).flatMap fun (i : Nat) => padded (f.group (start + i))

theorem run_succ (f : Form) (start : Int) (count : Nat) :
    f.run start (count + 1) = f.run start count ++ padded (f.group (start + count)) := by
  simp [Form.run, List.range_succ]

theorem length_run (finite : f.Finite) (start : Int) (count : Nat) :
    (f.run start count).length = 4 * count := by
  induction count with
  | zero => rfl
  | succ count ih =>
    rw [run_succ, List.length_append, ih, length_padded (isGroup_group finite _), Nat.mul_succ]

theorem isDigit_of_mem_run (finite : f.Finite) {start : Int} {count : Nat} {c : Char}
    (inside : c ∈ f.run start count) : Text.isDigit c = true := by
  obtain ⟨i, -, digit⟩ := List.mem_flatMap.mp inside
  exact isDigit_of_mem_padded (isGroup_group finite (start + i)) digit

/-- After the first groups, the next ones make the number longer. -/
theorem leading_run (finite : f.Finite) (start : Int) (count : Nat) :
    f.leading (start + count).toNat =
      f.leading start.toNat * 10 ^ (4 * count) + Text.decimalValue (f.run start count) := by
  induction count with
  | zero => simp [Form.run, Text.decimalValue]
  | succ count ih =>
    have group := isGroup_group finite (start + count)
    have next : start + ((count + 1 : Nat) : Int) = start + count + 1 := by omega
    rw [next, leading_succ, ih, run_succ, Text.decimalValue_append, length_padded group,
      decimalValue_padded group, Nat.mul_succ, Nat.pow_add]
    ring

theorem whole_eq (finite : f.Finite) (before : ¬ f.weight < 0) :
    f.whole = (toString (f.group 0).toNat).toList ++ f.run 1 f.weight.toNat := by
  have nonneg := (isGroup_group finite 0).1
  have first : toString (f.group 0) = toString (f.group 0).toNat := by
    rw [Int.toString_eq_repr, Int.repr_eq_if, if_pos nonneg]
    rfl
  rw [Form.whole, if_neg before, first, Form.run]
  simp only [Int.add_comm]

theorem digits_whole (finite : f.Finite) : Document.Digits f.whole := by
  by_cases before : f.weight < 0
  · rw [Form.whole, if_pos before]
    exact Document.digits_nat 0
  · rw [whole_eq finite before]
    exact (Document.digits_nat _).append fun c => isDigit_of_mem_run finite

/-- The digits before the point are those of the groups up to the weight. -/
theorem decimalValue_whole (finite : f.Finite) :
    Text.decimalValue f.whole = f.leading (f.weight + 1).toNat := by
  by_cases before : f.weight < 0
  · have none : (f.weight + 1).toNat = 0 := by omega
    rw [Form.whole, if_pos before, none]
    rfl
  · have first : f.leading (Int.toNat 1) = (f.group 0).toNat := by
      simp [Form.leading]
    have last : f.weight + 1 = 1 + f.weight.toNat := by omega
    rw [whole_eq finite before, Text.decimalValue_append, Text.decimalValue_nat,
      length_run finite, last, leading_run finite, first]

theorem fraction_eq (f : Form) :
    f.fraction = (f.run (f.weight + 1) (f.scale / 4 + 1)).take f.scale := rfl

theorem length_fraction (finite : f.Finite) : f.fraction.length = f.scale := by
  rw [fraction_eq, List.length_take, length_run finite]
  omega

theorem isDigit_of_mem_fraction (finite : f.Finite) {c : Char} (inside : c ∈ f.fraction) :
    Text.isDigit c = true :=
  isDigit_of_mem_run finite (List.mem_of_mem_take inside)

/-- **The digits of the text** are those of the number, shifted and rounded down. -/
theorem Form.decimalValue_text (finite : f.Finite) :
    ⌊f.sum * 10 ^ f.scale⌋ = (Text.decimalValue (f.whole ++ f.fraction) : Int) := by
  -- the text is the start of the digits of all groups to the last one that it has a digit of
  obtain ⟨m, groups⟩ : ∃ m, m = f.scale / 4 + 1 := ⟨_, rfl⟩
  let all := f.whole ++ f.run (f.weight + 1) m
  have digits : ∀ c ∈ all, Text.isDigit c = true :=
    ((digits_whole finite).append fun c => isDigit_of_mem_run finite).2
  have length : all.length = f.whole.length + 4 * m := by
    rw [List.length_append, length_run finite]
  have value : Text.decimalValue all = f.leading (f.weight + 1 + m).toNat := by
    rw [Text.decimalValue_append, length_run finite, leading_run finite, decimalValue_whole finite]
  have shown : f.whole ++ f.fraction = all.take (f.whole.length + f.scale) := by
    rw [fraction_eq, ← groups, List.take_length_add_append]
  have rest : all.length - (f.whole.length + f.scale) = 4 * m - f.scale := by omega
  have shift : f.sum * 10 ^ f.scale = f.sum * 10000 ^ m / ((10 ^ (4 * m - f.scale) : Nat) : ℚ) := by
    have places : f.scale + (4 * m - f.scale) = 4 * m := by omega
    have power : (10000 : ℚ) ^ m = 10 ^ f.scale * 10 ^ (4 * m - f.scale) := by
      rw [← pow_add, places, pow_mul]
      norm_num
    rw [power, Nat.cast_pow, eq_div_iff (by positivity)]
    push_cast
    ring
  rw [shown, Text.decimalValue_take digits, rest, value, shift, Int.floor_div_natCast,
    Form.floor_sum finite]
  rfl

end Digits

/-! ### The text -/

/-- The text of a number is written with digits, and its digits are read back. -/
theorem read?_text {f : Form} (finite : f.Finite) :
    Written (f.sign = 0x4000) f.scale f.text ∧ read? f.text = some (cut f.scale f.value) := by
  have digits := digits_whole finite
  have decimals : ∀ c ∈ f.fraction, Text.isDigit c = true := fun c => isDigit_of_mem_fraction finite
  have scale := length_fraction finite
  have text : f.text.toList = (if f.sign = 0x4000 then ['-'] else []) ++ f.whole ++
      (if f.scale = 0 then [] else '.' :: f.fraction) := by
    rw [Form.text, String.toList_ofList]
  refine ⟨⟨f.whole, f.fraction, digits, decimals, scale, by simpa using text⟩, ?_⟩
  have unsigned : readUnsigned? (f.whole ++ (if f.scale = 0 then [] else '.' :: f.fraction)) =
      some (cut f.scale f.sum) := by
    have read := readUnsigned?_decimal digits decimals
    rw [scale] at read
    rw [read, cut_of_nonneg (sum_nonneg finite), Form.decimalValue_text finite, Int.cast_natCast]
  rw [List.append_assoc] at text
  by_cases minus : f.sign = 0x4000
  · rw [if_pos minus] at text
    rw [Form.value, if_pos minus, cut_neg (sum_nonneg finite), read?, text]
    simp only [List.singleton_append, unsigned, Option.map_some]
  · rw [if_neg minus, List.nil_append] at text
    rw [Form.value, if_neg minus, read?, text, ← unsigned]
    obtain ⟨c, cs, first⟩ := List.exists_cons_of_ne_nil digits.1
    have digit : Text.isDigit c = true := digits.2 c (first ▸ List.mem_cons_self)
    rw [first, List.cons_append]
    split
    next same =>
      obtain ⟨rfl, -⟩ := List.cons.inj same
      cases digit
    next => rfl

/-- **Numbers are read exactly.**  Whatever its weight and its scale, a number with digits has a
text, with as many decimals as it shows and a minus sign if it is negative, and what the text
denotes is the number cut to these decimals.  Nothing has a text where the first words or the groups
that they announce are missing. -/
theorem text?_exact (f : Form) (finite : f.Finite) :
    (∀ rest, ∃ text, text? (f.bytes ++ rest) = some text ∧
      Written (f.sign = 0x4000) f.scale text ∧ read? text = some (cut f.scale f.value)) ∧
    ∀ bytes, text? bytes = none ↔
      bytes.length < 8 ∨ signWord bytes ≠ 0xC000 ∧ bytes.length < 8 + 2 * announced bytes :=
  ⟨fun rest => ⟨f.text, text?_bytes finite rest, read?_text finite⟩, text?_eq_none_iff⟩

/-- A number below zero whose last group is cut. -/
def debt : Form := { weight := 1, sign := 0x4000, scale := 2, groups := [1, 2345, 6789] }

/-- The debt is cut to two decimals, and not rounded. -/
theorem text?_exact_debt : text? debt.bytes = some "-12345.67" ∧
    read? "-12345.67" = some (cut 2 debt.value) ∧ debt.value = -123456789 / 10000 := by
  have finite : debt.Finite :=
    ⟨⟨by decide, by decide⟩, .inr rfl, by decide, by decide, by decide⟩
  have shown : text? debt.bytes = some "-12345.67" := by decide +kernel
  obtain ⟨text, read, -, exact⟩ := (text?_exact debt finite).1 []
  rw [List.append_nil, shown] at read
  obtain rfl := Option.some.inj read
  refine ⟨shown, exact, ?_⟩
  norm_num [Form.value, Form.sum, debt, Finset.sum_range_succ, Form.group]

end Numeric

end TableMapper
