import TableMapper.Coercion
import TableMapper.Proofs.Binary64.Reading

/-!
# Integers through a double

An integer that is wanted as an integer takes the way over a double all the same, which has room
for 53 binary digits, and from there into the range of 64 bits.

* `Binary64.IsShort` says which numbers a double has room for.  `Binary64.nearest_rounded` says that
  a number is rounded to the nearest of them, and `Binary64.nearest_roundedInt` that an integer is.
* `Binary64.toInt64_ofInt` says what comes back of an integer.
* `Coercion.integer_kept_iff` says exactly which integers are kept, written as numbers or as texts,
  and what becomes of the others.
-/

namespace TableMapper

namespace Binary64

variable {n : Nat}

/-! ### Numbers of 53 binary digits -/

/-- A number of at most 53 binary digits and any number of zeros after them. -/
def IsShort (n : Nat) : Prop := ∃ m k, m < 2 ^ 53 ∧ n = m * 2 ^ k

theorem isShort_of_le {m : Nat} (few : m ≤ 2 ^ 53) (k : Nat) : IsShort (m * 2 ^ k) := by
  obtain full | few := Nat.eq_or_lt_of_le few
  · refine ⟨2 ^ 52, k + 1, by decide, ?_⟩
    rw [full, Nat.pow_succ 2 k, Nat.mul_comm (2 ^ k) 2, ← Nat.mul_assoc]
    rfl
  · exact ⟨m, k, few, rfl⟩

/-- A short number that is large ends in zeros. -/
theorem dvd_of_isShort {k : Nat} (short : IsShort n) (large : 2 ^ (52 + k) ≤ n) : 2 ^ k ∣ n := by
  obtain ⟨m, j, few, rfl⟩ := short
  by_cases enough : k ≤ j
  · exact Nat.dvd_mul_left_of_dvd (Nat.pow_dvd_pow 2 enough) m
  · have less : m * 2 ^ j < 2 ^ 53 * 2 ^ j := Nat.mul_lt_mul_of_pos_right few (Nat.two_pow_pos j)
    have most : 2 ^ 53 * 2 ^ j ≤ 2 ^ (52 + k) := by
      rw [← Nat.pow_add]
      exact Nat.pow_le_pow_right (by decide) (by omega)
    omega

/-- No multiple of the divisor is nearer than the one of the rounded quotient. -/
theorem nearest_roundDiv (n q : Nat) {den : Nat} (some : 0 < den) :
    ((n : Int) - (roundDiv n den * den : Nat)).natAbs ≤ ((n : Int) - (q * den : Nat)).natAbs := by
  have near := two_mul_roundDiv_sub_le n some
  obtain less | rfl | more := Nat.lt_trichotomy q (roundDiv n den)
  · have apart : (q + 1) * den ≤ roundDiv n den * den := Nat.mul_le_mul_right den less
    rw [Nat.add_one_mul] at apart
    omega
  · exact Nat.le_refl _
  · have apart : (roundDiv n den + 1) * den ≤ q * den := Nat.mul_le_mul_right den more
    rw [Nat.add_one_mul] at apart
    omega

theorem isShort_rounded (n : Nat) : IsShort (rounded n) := by
  refine isShort_of_le (Nat.le_of_not_lt fun many => ?_) _
  have near := two_mul_roundDiv_sub_le n (lastPlace_pos n)
  have digits := lt_mul_lastPlace n
  have apart : (2 ^ 53 + 1) * lastPlace n ≤ roundDiv n (lastPlace n) * lastPlace n :=
    Nat.mul_le_mul_right (lastPlace n) many
  have some := lastPlace_pos n
  omega

/-- **The nearest short number.**  One that is no multiple of the last place has fewer digits than
the number, so the least number with as many digits is between them. -/
theorem nearest_rounded (n : Nat) {m : Nat} (short : IsShort m) :
    ((n : Int) - rounded n).natAbs ≤ ((n : Int) - m).natAbs := by
  obtain ⟨c, k, few, rfl⟩ := short
  by_cases fine : n.log2 - 52 ≤ k
  · have multiple : c * 2 ^ k = c * 2 ^ (k - (n.log2 - 52)) * lastPlace n := by
      rw [lastPlace, Nat.mul_assoc, ← Nat.pow_add, Nat.sub_add_cancel fine]
    rw [multiple]
    exact nearest_roundDiv n _ (lastPlace_pos n)
  · have least := mul_lastPlace_le (n := n) (by omega)
    have below : c * 2 ^ k < 2 ^ 52 * lastPlace n := by
      calc c * 2 ^ k
          < 2 ^ 53 * 2 ^ k := Nat.mul_lt_mul_of_pos_right few (Nat.two_pow_pos k)
        _ = 2 ^ 52 * 2 ^ (k + 1) := by rw [← Nat.pow_add, ← Nat.pow_add]; congr 1; omega
        _ ≤ 2 ^ 52 * lastPlace n :=
          Nat.mul_le_mul_left _ (Nat.pow_le_pow_right (by decide) (by omega))
    have near := nearest_roundDiv n (2 ^ 52) (lastPlace_pos n)
    rw [rounded]
    omega

variable {a : Int}

/-- The integer with its first 53 binary digits, rounded. -/
def roundedInt (a : Int) : Int := a.sign * rounded a.natAbs

theorem roundedInt_of_nonneg (nonneg : 0 ≤ a) : roundedInt a = rounded a.natAbs := by
  obtain positive | rfl := Int.lt_or_eq_of_le nonneg
  · rw [roundedInt, Int.sign_eq_one_of_pos positive, Int.one_mul]
  · rfl

theorem roundedInt_of_neg (negative : a < 0) : roundedInt a = -rounded a.natAbs := by
  rw [roundedInt, Int.sign_eq_neg_one_of_neg negative, Int.neg_one_mul]

theorem isShort_roundedInt (a : Int) : IsShort (roundedInt a).natAbs := by
  have short := isShort_rounded a.natAbs
  by_cases negative : a < 0
  · rwa [roundedInt_of_neg negative, Int.natAbs_neg, Int.natAbs_natCast]
  · rwa [roundedInt_of_nonneg (Int.not_lt.mp negative), Int.natAbs_natCast]

theorem nearest_roundedInt (a : Int) {m : Int} (short : IsShort m.natAbs) :
    (a - roundedInt a).natAbs ≤ (a - m).natAbs := by
  have near := nearest_rounded a.natAbs short
  by_cases negative : a < 0
  · rw [roundedInt_of_neg negative]
    omega
  · rw [roundedInt_of_nonneg (Int.not_lt.mp negative)]
    omega

/-! ### Back from a double -/

/-- The value of the double of an integer is the integer, rounded. -/
theorem exists_ofInt (small : a.natAbs < 2 ^ 64) : ∃ m e, ofInt a = .finite (a < 0) m e ∧
    m * pow2 e / pow2 (-e) = rounded a.natAbs := by
  by_cases zero : a = 0
  · subst zero
    exact ⟨0, -1074, ofInt_zero, by rw [Nat.zero_mul, Nat.zero_div]; rfl⟩
  by_cases large : 2 ^ 53 ≤ a.natAbs
  · obtain ⟨-, beyond⟩ | ⟨m, e, double, above, value⟩ := ofInt_of_le large
    · omega
    · have none : (-e).toNat = 0 := by omega
      refine ⟨m, e, double, ?_⟩
      rw [pow2, pow2, none, Nat.pow_eq, Nat.pow_eq, value, Nat.pow_zero, Nat.div_one]
  · have small : a.natAbs < 2 ^ 53 := Nat.lt_of_not_le large
    have bits : a.natAbs.log2 < 53 := (Nat.log2_lt (by omega)).mpr small
    have up : ((a.natAbs.log2 : Int) - 52).toNat = 0 := by omega
    have down : (-((a.natAbs.log2 : Int) - 52)).toNat = 52 - a.natAbs.log2 := by omega
    refine ⟨_, _, ofInt_of_lt zero small, ?_⟩
    rw [pow2, pow2, up, down, Nat.pow_eq, Nat.pow_eq, Nat.pow_zero, Nat.mul_one,
      Nat.mul_div_cancel _ (Nat.two_pow_pos _), rounded_of_lt small]

/-- **What comes back of an integer** of 64 bits is the nearest integer of 53 binary digits, or the
largest integer of 64 bits. -/
theorem toInt64_ofInt (low : -2 ^ 63 ≤ a) (high : a < 2 ^ 63) :
    (ofInt a).toInt64 = min (roundedInt a) (2 ^ 63 - 1) := by
  obtain ⟨m, e, double, value⟩ := exists_ofInt (a := a) (by omega)
  -- the least integer of 64 bits is short itself, so nothing is rounded to less
  have most : rounded a.natAbs ≤ 2 ^ 63 := by
    have power : IsShort (2 ^ 63) := isShort_of_le (m := 1) (by decide) 63
    have near := nearest_rounded a.natAbs power
    omega
  have bound : (Nat.pow 2 63 : Int) = 2 ^ 63 := rfl
  rw [double, toInt64, value]
  by_cases negative : a < 0
  · simp only [negative, decide_true, if_true, bound, roundedInt_of_neg negative]
    omega
  · simp only [negative, decide_false, Bool.false_eq_true, if_false, bound,
      roundedInt_of_nonneg (Int.not_lt.mp negative)]

end Binary64

namespace Coercion

open Binary64

/-- An integer as a number, or as its decimal text with white space around it. -/
inductive Writes (n : Int) : Json → Prop
  | number : Writes n (.int n)
  | text (before after : List Char) (early : ∀ c ∈ before, Text.isBlank c = true)
      (late : ∀ c ∈ after, Text.isBlank c = true) :
    Writes n (.string (String.ofList (before ++ (toString n).toList ++ after)))

variable {n : Int} {value : Json}

theorem trim_padded {before after : List Char} (early : ∀ c ∈ before, Text.isBlank c = true)
    (late : ∀ c ∈ after, Text.isBlank c = true) :
    Text.trim (String.ofList (before ++ (toString n).toList ++ after)) = toString n := by
  have solid {c : Char} (inside : c ∈ (toString n).toList) : Text.isBlank c = false :=
    Text.isBlank_of_isNumeral (Text.isNumeral_of_mem_int inside)
  have some : (toString n).toList ≠ [] := fun none =>
    Document.toString_int_ne_empty n (String.toList_eq_nil_iff.mp none)
  rw [Text.trim, String.toList_ofList, Text.trimChars_padded some early late
    (fun c first => solid (List.mem_of_mem_head? first))
    (fun c last => solid (List.mem_of_mem_getLast? last)), String.ofList_toList]

theorem number?_of_writes (written : Writes n value) : number? value = some (ofInt n) := by
  cases written with
  | number => rfl
  | text before after early late => rw [number?, trim_padded early late, read?_int]

/-- **What becomes of an integer** of 64 bits, written as a number or as a text.  It becomes the
nearest integer of 53 binary digits and zeros after them, but no more than the largest integer of
64 bits.  So it is kept if and only if it is such an integer itself, or that largest one. -/
theorem integer_kept_iff (low : -2 ^ 63 ≤ n) (high : n < 2 ^ 63) (written : Writes n value) :
    (int.apply value = .int n ↔ IsShort n.natAbs ∨ n = 2 ^ 63 - 1) ∧
    ∃ r : Int, IsShort r.natAbs ∧
      (∀ m : Int, IsShort m.natAbs → (n - r).natAbs ≤ (n - m).natAbs) ∧
      int.apply value = .int (min r (2 ^ 63 - 1)) := by
  have result : int.apply value = .int (min (roundedInt n) (2 ^ 63 - 1)) := by
    rw [apply, number?_of_writes written, ← toInt64_ofInt low high]
  refine ⟨?_, roundedInt n, isShort_roundedInt n, fun m => nearest_roundedInt n, result⟩
  rw [result, Json.int.injEq]
  constructor
  · intro kept
    by_cases most : n = 2 ^ 63 - 1
    · exact .inr most
    · have same : roundedInt n = n := by omega
      exact .inl (same ▸ isShort_roundedInt n)
  · rintro (short | rfl)
    · have near := nearest_roundedInt n short
      omega
    -- the nearest integer is one more, as those below end in ten zeros
    · have power : IsShort (2 ^ 63 : Int).natAbs := isShort_of_le (m := 1) (by decide) 63
      have near := nearest_roundedInt (2 ^ 63 - 1) power
      have short := isShort_roundedInt (2 ^ 63 - 1)
      by_cases more : 2 ^ 63 - 1 ≤ roundedInt (2 ^ 63 - 1)
      · omega
      · have zeros : 2 ^ 10 ∣ (roundedInt (2 ^ 63 - 1)).natAbs := dvd_of_isShort short (by omega)
        omega

/-- The first integer that a double has no room for is not kept, also as a text with white space
around it, while the largest integer of 64 bits is. -/
theorem integer_kept_large :
    Writes 9007199254740993 (.string " 9007199254740993\n") ∧
      int.apply (.int 9007199254740993) ≠ .int 9007199254740993 ∧
      int.apply (.string " 9007199254740993\n") ≠ .int 9007199254740993 ∧
      int.apply (.int 9223372036854775807) = .int 9223372036854775807 := by
  have early : ∀ c ∈ [' '], Text.isBlank c = true := by simp [Text.isBlank]
  have late : ∀ c ∈ ['\n'], Text.isBlank c = true := by simp [Text.isBlank]
  have text : Writes 9007199254740993 (.string " 9007199254740993\n") :=
    .text [' '] ['\n'] early late
  have long :
      ¬ (IsShort (9007199254740993 : Int).natAbs ∨ (9007199254740993 : Int) = 2 ^ 63 - 1) := by
    rintro (short | largest)
    · have even : 2 ^ 1 ∣ (9007199254740993 : Int).natAbs := dvd_of_isShort short (by decide)
      exact absurd even (by decide)
    · exact absurd largest (by decide)
  refine ⟨text, mt (integer_kept_iff (by decide) (by decide) .number).1.mp long,
    mt (integer_kept_iff (by decide) (by decide) text).1.mp long, ?_⟩
  exact (integer_kept_iff (by decide) (by decide) .number).1.mpr (.inr rfl)

end Coercion

end TableMapper
