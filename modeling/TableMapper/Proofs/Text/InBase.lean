import Mathlib.Algebra.Group.Nat.Defs
import Mathlib.Tactic.SplitIfs
import Mathlib.Tactic.Tauto
import TableMapper.Text.Digits

/-!
# Digits of a given width

`Text.lowDigits` writes a number with a fixed count of digits of some base up to 36.

* `Text.valueIn?` reads digits of a base, and reads back what was written
  (`Text.valueIn?_lowDigits`).
* `Text.lowDigits_lt_iff` says that texts of one width are in the order of the numbers.
* `Text.zeros_inBase` says that leading zeros bring every number to its width.
-/

namespace TableMapper

namespace Text

/-! ### Single digits -/

/-- The value of a digit, which is one of `0-9a-z`. -/
def digitValue? (c : Char) : Option Nat :=
  if isDigit c then some (c.toNat - '0'.toNat)
  else if 'a' ≤ c && c ≤ 'z' then some (c.toNat - 'a'.toNat + 10)
  else none

theorem digitValue?_digitChar {n : Nat} (small : n < 36) : digitValue? (digitChar n) = some n := by
  have all : ∀ n < 36, digitValue? (digitChar n) = some n := by decide
  exact all n small

theorem digitChar_lt_iff {m n : Nat} (hm : m < 36) (hn : n < 36) :
    digitChar m < digitChar n ↔ m < n := by
  have code : ∀ n < 36, (digitChar n).toNat = if n < 10 then 48 + n else 87 + n := by decide
  have order : digitChar m < digitChar n ↔ (digitChar m).toNat < (digitChar n).toNat := Iff.rfl
  rw [order, code m hm, code n hn]
  split_ifs <;> omega

/-! ### The digits of a number -/

variable {b : Nat}

theorem length_lowDigits (b width n : Nat) : (lowDigits b width n).length = width := by
  induction width generalizing n with
  | zero => rfl
  | succ width ih => rw [lowDigits, List.length_append, ih, List.length_singleton]

/-- The digits of a number in two parts. -/
theorem lowDigits_add (b high low n : Nat) :
    lowDigits b (high + low) n = lowDigits b high (n / b ^ low) ++ lowDigits b low n := by
  induction low generalizing n with
  | zero => rw [Nat.pow_zero, Nat.div_one, lowDigits, List.append_nil, Nat.add_zero]
  | succ low ih =>
    rw [← Nat.add_assoc, lowDigits, ih, lowDigits, Nat.div_div_eq_div_mul, ← Nat.pow_succ',
      List.append_assoc]

theorem lowDigits_mod (b width n : Nat) :
    lowDigits b width (n % b ^ width) = lowDigits b width n := by
  induction width generalizing n with
  | zero => rfl
  | succ width ih =>
    have rest : n % b ^ (width + 1) / b = n / b % b ^ width := by
      rw [Nat.pow_succ', Nat.mod_mul_right_div_self]
    have last : n % b ^ (width + 1) % b = n % b :=
      Nat.mod_mod_of_dvd n (Nat.pow_succ' ▸ Nat.dvd_mul_right b (b ^ width))
    rw [lowDigits, lowDigits, rest, ih, last]

/-- Digits that follow each other are the digits of one number. -/
theorem lowDigits_append {high low m n : Nat} (fits : n < b ^ low) :
    lowDigits b high m ++ lowDigits b low n = lowDigits b (high + low) (m * b ^ low + n) := by
  have first : (m * b ^ low + n) / b ^ low = m := by
    rw [Nat.mul_comm, Nat.mul_add_div (Nat.zero_lt_of_lt fits), Nat.div_eq_of_lt fits, Nat.add_zero]
  have last : (m * b ^ low + n) % b ^ low = n := by
    rw [Nat.add_comm, Nat.add_mul_mod_self_right, Nat.mod_eq_of_lt fits]
  rw [lowDigits_add, first, ← lowDigits_mod b low (m * b ^ low + n), last]

theorem exists_digitChar_of_mem_lowDigits (some : 0 < b) {width n : Nat} {c : Char}
    (inside : c ∈ lowDigits b width n) : ∃ d < b, c = digitChar d := by
  induction width generalizing n with
  | zero => cases inside
  | succ width ih =>
    obtain before | last := List.mem_append.mp inside
    · exact ih before
    · exact ⟨n % b, Nat.mod_lt n some, List.mem_singleton.mp last⟩

/-! ### Reading digits -/

/-- The value of a digit of base `b`. -/
def digitIn? (b : Nat) (c : Char) : Option Nat := (digitValue? c).filter (· < b)

/-- The number that digits of base `b` denote; `none` if another character is among them. -/
def valueIn? (b : Nat) (cs : List Char) : Option Nat :=
  cs.foldlM (fun n c => (digitIn? b c).map fun d => b * n + d) 0

theorem digitIn?_digitChar (few : b ≤ 36) {n : Nat} (small : n < b) :
    digitIn? b (digitChar n) = some n := by
  simp [digitIn?, digitValue?_digitChar (Nat.lt_of_lt_of_le small few), small]

/-- What is written is read back, up to what the width has no room for. -/
theorem valueIn?_lowDigits (some : 0 < b) (few : b ≤ 36) (width n : Nat) :
    valueIn? b (lowDigits b width n) = .some (n % b ^ width) := by
  induction width generalizing n with
  | zero => exact congrArg Option.some (Nat.mod_one n).symm
  | succ width ih =>
    have digit := digitIn?_digitChar few (Nat.mod_lt n some)
    have value : b * (n / b % b ^ width) + n % b = n % b ^ (width + 1) := by
      rw [Nat.pow_succ', Nat.mod_mul, Nat.add_comm]
    unfold valueIn? at ih ⊢
    rw [lowDigits, List.foldlM_append, ih]
    simp [digit, value]

/-! ### The order of texts -/

/-- A last character decides only between equal beginnings. -/
theorem append_singleton_lt_iff {cs ds : List Char} (length : cs.length = ds.length) (c d : Char) :
    cs ++ [c] < ds ++ [d] ↔ cs < ds ∨ cs = ds ∧ c < d := by
  induction cs generalizing ds with
  | nil =>
    obtain rfl := List.length_eq_zero_iff.mp length.symm
    simp [List.cons_lt_cons_iff]
  | cons x cs ih =>
    cases ds with
    | nil => cases length
    | cons y ds =>
      have shorter := ih (Nat.succ.inj length)
      simp only [List.cons_append, List.cons_lt_cons_iff, List.cons.injEq, shorter]
      tauto

/-- Of two numbers with a last digit each, the first digits decide, and then the last ones. -/
theorem mul_add_lt_iff {r a b x y : Nat} (hx : x < r) (hy : y < r) :
    a * r + x < b * r + y ↔ a < b ∨ a = b ∧ x < y := by
  rcases Nat.lt_trichotomy a b with less | rfl | more
  · have carry : (a + 1) * r ≤ b * r := Nat.mul_le_mul_right r less
    rw [Nat.add_mul] at carry
    omega
  · omega
  · have carry : (b + 1) * r ≤ a * r := Nat.mul_le_mul_right r more
    rw [Nat.add_mul] at carry
    omega

theorem mul_add_eq_iff {r a b x y : Nat} (hx : x < r) (hy : y < r) :
    a * r + x = b * r + y ↔ a = b ∧ x = y := by
  have up := mul_add_lt_iff (a := a) (b := b) hx hy
  have down := mul_add_lt_iff (a := b) (b := a) hy hx
  omega

theorem mul_pow_add_lt {high low m n : Nat} (hm : m < b ^ high) (hn : n < b ^ low) :
    m * b ^ low + n < b ^ (high + low) := by
  have carry : (m + 1) * b ^ low ≤ b ^ high * b ^ low := Nat.mul_le_mul_right _ hm
  rw [Nat.add_mul, Nat.one_mul] at carry
  rw [Nat.pow_add]
  omega

theorem lowDigits_inj (some : 0 < b) (few : b ≤ 36) {width m n : Nat} (hm : m < b ^ width)
    (hn : n < b ^ width) : lowDigits b width m = lowDigits b width n ↔ m = n := by
  constructor
  · intro same
    have read := congrArg (valueIn? b) same
    rw [valueIn?_lowDigits some few, valueIn?_lowDigits some few, Nat.mod_eq_of_lt hm,
      Nat.mod_eq_of_lt hn] at read
    exact Option.some.inj read
  · rintro rfl
    rfl

/-- **Texts of one width are in the order of the numbers** that they are the digits of. -/
theorem lowDigits_lt_iff (some : 0 < b) (few : b ≤ 36) {width m n : Nat} (hm : m < b ^ width)
    (hn : n < b ^ width) : lowDigits b width m < lowDigits b width n ↔ m < n := by
  induction width generalizing m n with
  | zero =>
    obtain rfl : m = 0 := Nat.lt_one_iff.mp hm
    obtain rfl : n = 0 := Nat.lt_one_iff.mp hn
    simp [lowDigits]
  | succ width ih =>
    rw [Nat.pow_succ] at hm hn
    have first := Nat.div_lt_of_lt_mul (Nat.mul_comm (b ^ width) b ▸ hm)
    have second := Nat.div_lt_of_lt_mul (Nat.mul_comm (b ^ width) b ▸ hn)
    have small (k : Nat) : k % b < b := Nat.mod_lt k some
    have digits (k : Nat) : k % b < 36 := Nat.lt_of_lt_of_le (small k) few
    have length : (lowDigits b width (m / b)).length = (lowDigits b width (n / b)).length := by
      rw [length_lowDigits, length_lowDigits]
    -- texts and numbers are both compared without their last digit first
    rw [lowDigits, lowDigits, append_singleton_lt_iff length, ih first second,
      lowDigits_inj some few first second, digitChar_lt_iff (digits m) (digits n),
      ← mul_add_lt_iff (small m) (small n), Nat.div_add_mod', Nat.div_add_mod']

/-! ### Leading zeros -/

theorem lowDigits_zero (b width : Nat) : lowDigits b width 0 = List.replicate width '0' := by
  induction width with
  | zero => rfl
  | succ width ih =>
    have last : digitChar (0 % b) = '0' := by rw [Nat.zero_mod]; rfl
    rw [lowDigits, Nat.zero_div, ih, last, List.replicate_succ']

/-- The digits counted are enough, if the fuel is at least the binary logarithm. -/
theorem lt_pow_digitCount (two : 2 ≤ b) {fuel n : Nat} (enough : n < 2 ^ (fuel + 1)) :
    n < b ^ digitCount b fuel n := by
  induction fuel generalizing n with
  | zero =>
    rw [digitCount, Nat.pow_one]
    exact Nat.lt_of_lt_of_le enough two
  | succ fuel ih =>
    rw [digitCount]
    by_cases last : n < b
    · rw [if_pos last, Nat.pow_one]
      exact last
    · have half : n / b ≤ n / 2 := Nat.div_le_div_left two Nat.zero_lt_two
      have rest : n / b < 2 ^ (fuel + 1) := by
        rw [Nat.pow_succ] at enough
        omega
      rw [if_neg last, Nat.pow_add, Nat.pow_one]
      rw [Nat.mul_comm]
      exact Nat.lt_mul_of_div_lt (ih rest) (Nat.zero_lt_of_lt two)

/-- No more digits are counted than the number has room for. -/
theorem digitCount_le {fuel width n : Nat} (some : 0 < width) (fits : n < b ^ width) :
    digitCount b fuel n ≤ width := by
  induction fuel generalizing width n with
  | zero => exact some
  | succ fuel ih =>
    rw [digitCount]
    by_cases last : n < b
    · rw [if_pos last]
      exact some
    -- more than one digit does not fit in a width of one
    · obtain _ | _ | width := width
      · cases some
      · exact absurd (Nat.pow_one b ▸ fits) last
      · have rest : n / b < b ^ (width + 1) := Nat.div_lt_of_lt_mul (Nat.pow_succ' ▸ fits)
        rw [if_neg last, Nat.add_comm]
        exact Nat.succ_le_succ (ih (Nat.succ_pos width) rest)

/-- **Leading zeros bring a number to its width.** -/
theorem zeros_inBase (two : 2 ≤ b) {width n : Nat} (some : 0 < width) (fits : n < b ^ width) :
    List.replicate (width - (inBase b n).length) '0' ++ inBase b n = lowDigits b width n := by
  have enough : n < b ^ digitCount b n.log2 n := lt_pow_digitCount two Nat.lt_log2_self
  have room : digitCount b n.log2 n ≤ width := digitCount_le some fits
  have length : (inBase b n).length = digitCount b n.log2 n := length_lowDigits _ _ _
  rw [length, inBase, ← lowDigits_zero b, lowDigits_append enough, Nat.zero_mul, Nat.zero_add,
    Nat.sub_add_cancel room]

end Text

end TableMapper
