import Mathlib.Algebra.Group.Int.Defs
import Mathlib.Algebra.Group.Nat.Defs
import TableMapper.Proofs.Json.Number

/-!
# Integers as doubles

An integer of at most 53 bits is a double itself, a larger one is rounded.

* `Binary64.rounded` is a number rounded to 53 binary digits, and `Binary64.ofInt_of_le` says that
  it is the value of the double.
* `Binary64.ofInt_inj_of_lt`: no other integer has the double of one that is below `2 ^ 53`.
* `Binary64.sub_le_of_ofInt_eq`: larger integers that have one double are close to each other.
-/

namespace TableMapper

namespace Binary64

variable {n k : Nat} {negative other : Bool}

/-! ### The double of a natural number -/

theorem unitExponent_one (some : n ≠ 0) : unitExponent n 1 = (n.log2 : Int) - 52 := by
  have low : 2 ^ n.log2 ≤ n := Nat.log2_self_le some
  have kept : ¬ n * pow2 (-((n.log2 : Int) - 52)) <
      Nat.pow 2 52 * (1 * pow2 ((n.log2 : Int) - 52)) := by
    rw [Nat.not_lt, Nat.one_mul, pow2, pow2]
    obtain large | small := Nat.le_total 52 n.log2
    · have down : (-((n.log2 : Int) - 52)).toNat = 0 := by omega
      have up : ((n.log2 : Int) - 52).toNat = n.log2 - 52 := by omega
      have whole : 2 ^ 52 * 2 ^ (n.log2 - 52) = 2 ^ n.log2 := by
        rw [← Nat.pow_add, Nat.add_sub_cancel' large]
      rw [down, up, Nat.pow_eq, Nat.pow_eq, Nat.pow_eq, whole, Nat.pow_zero, Nat.mul_one]
      exact low
    · have down : (-((n.log2 : Int) - 52)).toNat = 52 - n.log2 := by omega
      have up : ((n.log2 : Int) - 52).toNat = 0 := by omega
      have whole : 2 ^ n.log2 * 2 ^ (52 - n.log2) = 2 ^ 52 := by
        rw [← Nat.pow_add, Nat.add_sub_cancel' small]
      have scaled := Nat.mul_le_mul_right (2 ^ (52 - n.log2)) low
      rw [whole] at scaled
      rw [down, up, Nat.pow_eq, Nat.pow_eq, Nat.pow_eq, Nat.pow_zero, Nat.mul_one]
      exact scaled
  have none : (Nat.log2 1 : Int) = 0 := rfl
  simp only [unitExponent, none, Int.sub_zero]
  rw [if_neg kept, Int.max_eq_left (by omega)]

theorem roundDiv_one (n : Nat) : roundDiv n 1 = n := by
  simp [roundDiv, Nat.mod_one]

/-- A number of at most 53 bits is kept as it is, with as many zeros at its end as it takes. -/
theorem nearest_of_lt (some : n ≠ 0) (small : n < 2 ^ 53) :
    nearest negative n 1 = .finite negative (n * 2 ^ (52 - n.log2)) ((n.log2 : Int) - 52) := by
  have bits : n.log2 < 53 := (Nat.log2_lt some).mpr small
  have down : (-((n.log2 : Int) - 52)).toNat = 52 - n.log2 := by omega
  have up : ((n.log2 : Int) - 52).toNat = 0 := by omega
  have bound : n * 2 ^ (52 - n.log2) < 2 ^ 53 := by
    calc n * 2 ^ (52 - n.log2)
        < 2 ^ (n.log2 + 1) * 2 ^ (52 - n.log2) :=
          Nat.mul_lt_mul_of_pos_right Nat.lt_log2_self (Nat.two_pow_pos _)
      _ = 2 ^ 53 := by rw [← Nat.pow_add]; congr 1; omega
  have rounded : roundDiv (n * pow2 (-((n.log2 : Int) - 52))) (1 * pow2 ((n.log2 : Int) - 52)) =
      n * 2 ^ (52 - n.log2) := by
    simp only [pow2, down, up, Nat.pow_eq, Nat.pow_zero, Nat.mul_one, roundDiv_one]
  rw [nearest, if_neg (by simp [some]), unitExponent_one some]
  simp only [rounded, pack, Nat.pow_eq, if_neg (Nat.ne_of_lt bound)]
  rw [if_neg (by omega)]

/-- A number of more bits is rounded to one of 53 and zeros. -/
theorem nearest_of_le (large : 2 ^ 53 ≤ n) :
    nearest negative n 1 =
      pack negative (roundDiv n (2 ^ (n.log2 - 52))) ((n.log2 : Int) - 52) := by
  have some : n ≠ 0 := by omega
  have bits : 53 ≤ n.log2 := (Nat.le_log2 some).mpr large
  have down : (-((n.log2 : Int) - 52)).toNat = 0 := by omega
  have up : ((n.log2 : Int) - 52).toNat = n.log2 - 52 := by omega
  rw [nearest, if_neg (by simp [some]), unitExponent_one some]
  simp only [pow2, down, up, Nat.pow_eq, Nat.pow_zero, Nat.mul_one, Nat.one_mul]

/-- The value is kept when a carry is taken into the exponent. -/
theorem pack_cases (negative : Bool) (m : Nat) {e : Int} (whole : 0 ≤ e) :
    pack negative m e = .infinite negative ∧ 971 ≤ e ∨
      ∃ m' e', pack negative m e = .finite negative m' e' ∧ e ≤ e' ∧
        m' * 2 ^ e'.toNat = m * 2 ^ e.toNat := by
  unfold pack
  split
  next m' e' carry =>
    split at carry
    next full =>
      obtain ⟨rfl, rfl⟩ := Prod.mk.inj carry
      split
      next beyond => exact .inl ⟨rfl, by omega⟩
      next =>
        refine .inr ⟨_, _, rfl, by omega, ?_⟩
        have next : (e + 1).toNat = e.toNat + 1 := by omega
        rw [full, next, Nat.pow_succ]
        simp only [Nat.pow_eq]
        omega
    next =>
      obtain ⟨rfl, rfl⟩ := Prod.mk.inj carry
      split
      next beyond => exact .inl ⟨rfl, by omega⟩
      next => exact .inr ⟨_, _, rfl, Int.le_refl _, rfl⟩

/-- Rounding moves a number by half a unit at most. -/
theorem two_mul_roundDiv_sub_le (num : Nat) {den : Nat} (some : 0 < den) :
    2 * ((num : Int) - (roundDiv num den * den : Nat)).natAbs ≤ den := by
  have whole : num / den * den + num % den = num := Nat.div_add_mod' num den
  have part : num % den < den := Nat.mod_lt num some
  have next : (num / den + 1) * den = num / den * den + den := Nat.add_one_mul _ _
  unfold roundDiv
  simp only
  split
  next low => omega
  next =>
    split
    next high => omega
    next =>
      obtain even | odd := Nat.mod_two_eq_zero_or_one (num / den)
      · rw [even, Nat.add_zero]
        omega
      · rw [odd]
        omega

/-! ### Rounding to 53 binary digits -/

/-- What the last of the first 53 binary digits counts. -/
def lastPlace (n : Nat) : Nat := 2 ^ (n.log2 - 52)

/-- The number with its first 53 binary digits, rounded. -/
def rounded (n : Nat) : Nat := roundDiv n (lastPlace n) * lastPlace n

theorem lastPlace_pos (n : Nat) : 0 < lastPlace n := Nat.two_pow_pos _

theorem mul_lastPlace_le (long : 52 ≤ n.log2) : 2 ^ 52 * lastPlace n ≤ n := by
  have some : n ≠ 0 := by
    rintro rfl
    exact absurd long (by decide)
  rw [lastPlace, ← Nat.pow_add, Nat.add_sub_cancel' long]
  exact Nat.log2_self_le some

theorem lt_mul_lastPlace (n : Nat) : n < 2 ^ 53 * lastPlace n := by
  have digits : n < 2 ^ (n.log2 + 1) := Nat.lt_log2_self
  refine Nat.lt_of_lt_of_le digits ?_
  rw [lastPlace, ← Nat.pow_add]
  exact Nat.pow_le_pow_right (by decide) (by omega)

theorem rounded_of_lt (small : n < 2 ^ 53) : rounded n = n := by
  have one : lastPlace n = 1 := by
    by_cases zero : n = 0
    · rw [zero]
      rfl
    · have bits : n.log2 < 53 := (Nat.log2_lt zero).mpr small
      rw [lastPlace, Nat.sub_eq_zero_of_le (by omega)]
      rfl
  rw [rounded, one, roundDiv_one, Nat.mul_one]

/-- Rounding moves a long number by half of its last place at most. -/
theorem mul_sub_rounded_le (large : 2 ^ 53 ≤ n) :
    2 ^ 53 * ((n : Int) - rounded n).natAbs ≤ n := by
  have some : n ≠ 0 := by omega
  have bits : 53 ≤ n.log2 := (Nat.le_log2 some).mpr large
  have places := mul_lastPlace_le (Nat.le_of_succ_le bits)
  have near := two_mul_roundDiv_sub_le n (lastPlace_pos n)
  rw [rounded]
  omega

/-! ### The double of an integer -/

variable {a b : Int}

theorem ofInt_of_lt (some : a ≠ 0) (small : a.natAbs < 2 ^ 53) :
    ofInt a = .finite (a < 0) (a.natAbs * 2 ^ (52 - a.natAbs.log2))
      ((a.natAbs.log2 : Int) - 52) :=
  nearest_of_lt (by omega) small

/-- The double of an integer of more than 53 bits is infinite, or it has an exponent above zero and
the integer, rounded, as its value. -/
theorem ofInt_of_le (large : 2 ^ 53 ≤ a.natAbs) :
    (ofInt a = .infinite (a < 0) ∧ 2 ^ 64 ≤ a.natAbs) ∨
      ∃ m e, ofInt a = .finite (a < 0) m e ∧ 0 < e ∧ m * 2 ^ e.toNat = rounded a.natAbs := by
  have some : a.natAbs ≠ 0 := by omega
  have bits : 53 ≤ a.natAbs.log2 := (Nat.le_log2 some).mpr large
  have double : ofInt a = pack (a < 0) _ _ := nearest_of_le large
  obtain ⟨infinite, beyond⟩ | ⟨m, e, packed, above, value⟩ := pack_cases (decide (a < 0))
    (roundDiv a.natAbs (2 ^ (a.natAbs.log2 - 52))) (e := (a.natAbs.log2 : Int) - 52) (by omega)
  · exact .inl ⟨double.trans infinite, (Nat.le_log2 some).mp (by omega)⟩
  · have unit : ((a.natAbs.log2 : Int) - 52).toNat = a.natAbs.log2 - 52 := by omega
    exact .inr ⟨m, e, double.trans packed, by omega, by rw [value, unit]; rfl⟩

theorem ofInt_zero : ofInt 0 = .finite false 0 (-1074) := rfl

/-- The double of an integer has its sign, a positive exponent if the integer has more than 53 bits,
and no significand if it is zero. -/
theorem finite_of_ofInt {negative : Bool} {m : Nat} {e : Int} (h : ofInt a = .finite negative m e) :
    negative = decide (a < 0) ∧ (0 < e ↔ 2 ^ 53 ≤ a.natAbs) ∧ (m = 0 ↔ a = 0) := by
  by_cases zero : a = 0
  · subst zero
    obtain ⟨rfl, rfl, rfl⟩ := finite.inj (ofInt_zero.symm.trans h)
    decide
  by_cases large : 2 ^ 53 ≤ a.natAbs
  · obtain ⟨infinite, -⟩ | ⟨m', e', double, above, value⟩ := ofInt_of_le large
    · exact nomatch infinite.symm.trans h
    · obtain ⟨rfl, rfl, rfl⟩ := finite.inj (double.symm.trans h)
      refine ⟨rfl, iff_of_true above large, fun none => ?_, fun none => absurd none zero⟩
      have near := mul_sub_rounded_le large
      rw [none, Nat.zero_mul] at value
      omega
  · have small : a.natAbs < 2 ^ 53 := Nat.lt_of_not_le large
    have bits : a.natAbs.log2 < 53 := (Nat.log2_lt (by omega)).mpr small
    obtain ⟨rfl, rfl, rfl⟩ := finite.inj ((ofInt_of_lt zero small).symm.trans h)
    refine ⟨rfl, iff_of_false (by omega) large, iff_of_false ?_ zero⟩
    exact Nat.mul_ne_zero (by omega) (Nat.two_pow_pos _).ne'

/-- No other integer has the double of one of at most 53 bits. -/
theorem ofInt_inj_of_lt (small : a.natAbs < 2 ^ 53) : ofInt a = ofInt b ↔ a = b := by
  refine ⟨fun same => ?_, congrArg ofInt⟩
  by_cases zero : a = 0
  · subst zero
    exact ((finite_of_ofInt (same.symm.trans ofInt_zero)).2.2.mp rfl).symm
  have double := ofInt_of_lt zero small
  have first := finite_of_ofInt double
  have second := finite_of_ofInt (same.symm.trans double)
  have zero' : b ≠ 0 := fun none => zero (first.2.2.mp (second.2.2.mpr none))
  have small' : b.natAbs < 2 ^ 53 := by omega
  obtain ⟨signs, significands, exponents⟩ :=
    finite.inj (double.symm.trans (same.trans (ofInt_of_lt zero' small')))
  have bits : a.natAbs.log2 = b.natAbs.log2 := by omega
  rw [bits] at significands
  have sizes : a.natAbs = b.natAbs := Nat.eq_of_mul_eq_mul_right (Nat.two_pow_pos _) significands
  rw [decide_eq_decide] at signs
  omega

theorem ofInt_ne_nan : ofInt a ≠ .nan := by
  by_cases zero : a = 0
  · rw [zero, ofInt_zero]
    exact Binary64.noConfusion
  by_cases large : 2 ^ 53 ≤ a.natAbs
  · obtain ⟨infinite, -⟩ | ⟨m, e, double, -⟩ := ofInt_of_le large
    · simp [infinite]
    · simp [double]
  · simp [ofInt_of_lt zero (Nat.lt_of_not_le large)]

/-- The doubles of integers are the same number only if they are equal. -/
theorem same_ofInt : (ofInt a).same (ofInt b) = true ↔ ofInt a = ofInt b := by
  cases first : ofInt a with
  | nan => exact absurd first ofInt_ne_nan
  | infinite s =>
    cases second : ofInt b with
    | nan => exact absurd second ofInt_ne_nan
    | infinite t => simp [same]
    | finite t n f => simp [same]
  | finite s m e =>
    cases second : ofInt b with
    | nan => exact absurd second ofInt_ne_nan
    | infinite t => simp [same]
    | finite t n f =>
      constructor
      · intro equal
        simp only [same, Bool.or_eq_true, Bool.and_eq_true, beq_iff_eq] at equal
        obtain ⟨none, none'⟩ | ⟨⟨rfl, rfl⟩, rfl⟩ := equal
        · have zero : a = 0 := (finite_of_ofInt first).2.2.mp none
          have zero' : b = 0 := (finite_of_ofInt second).2.2.mp none'
          rw [← first, ← second, zero, zero']
        · rfl
      · intro equal
        obtain ⟨rfl, rfl, rfl⟩ := finite.inj equal
        simp [same]

/-- Integers of at most 64 bits that have one double differ by their last bits only. -/
theorem sub_le_of_ofInt_eq (ha : a.natAbs < 2 ^ 64) (hb : b.natAbs < 2 ^ 64)
    (same : ofInt a = ofInt b) : 2 ^ 53 * (a - b).natAbs ≤ a.natAbs + b.natAbs := by
  by_cases small : a.natAbs < 2 ^ 53
  · have equal : a = b := (ofInt_inj_of_lt small).mp same
    omega
  by_cases small' : b.natAbs < 2 ^ 53
  · have equal : b = a := (ofInt_inj_of_lt small').mp same.symm
    omega
  have near := mul_sub_rounded_le (Nat.le_of_not_lt small)
  have near' := mul_sub_rounded_le (Nat.le_of_not_lt small')
  obtain ⟨-, beyond⟩ | ⟨m, e, first, -, value⟩ := ofInt_of_le (Nat.le_of_not_lt small)
  · omega
  obtain ⟨-, beyond⟩ | ⟨n, f, second, -, value'⟩ := ofInt_of_le (Nat.le_of_not_lt small')
  · omega
  -- both are near to the double, on the same side of zero
  obtain ⟨signs, rfl, rfl⟩ := finite.inj (first.symm.trans (same.trans second))
  rw [decide_eq_decide] at signs
  rw [← value] at near
  rw [← value'] at near'
  omega

end Binary64

end TableMapper
