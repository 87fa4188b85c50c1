import Mathlib.Algebra.Group.Int.Defs
import Mathlib.Algebra.Group.Nat.Defs
import TableMapper.Id.Forms
import TableMapper.Proofs.Time.Calendar

/-!
# Numeric keys and time

A numeric key has the fields of an instant side by side in one number, and after it three decimal
digits of the counter and a random one.

* `Id.or_shiftLeft` puts a field beside the fields before it, and `Id.packedTime_eq_or` says that
  no two fields overlap.
* `Id.packedTime_lt` says that the fields of a later millisecond make a larger number.
* `Id.numeric_keys_in_order` says that keys come in the order of their instants, and that every key
  is a positive number of 63 bits that its parts can be read from.
-/

namespace TableMapper

namespace Randomness

/-- The words of the source have 64 bits. -/
def Fits (r : Randomness) : Prop := ∀ i, r.word i < 2 ^ 64

theorem pickWithin_lt {r : Randomness} (fits : r.Fits) {n : Nat} (some : 0 < n) (attempts : Nat) :
    (pickWithin n attempts r).1 < n := by
  induction attempts generalizing r with
  | zero => exact some
  | succ attempts ih =>
    rw [pickWithin]
    dsimp only
    by_cases accepted : r.draw.1 * n % Nat.pow 2 64 ≤ zone n
    · rw [if_pos accepted]
      exact Nat.div_lt_of_lt_mul ((Nat.mul_lt_mul_right some).mpr (fits r.used))
    · rw [if_neg accepted]
      exact ih fits

theorem pick_lt {r : Randomness} (fits : r.Fits) {n : Nat} (some : 0 < n) : (r.pick n).1 < n :=
  pickWithin_lt fits some 1000

end Randomness

namespace Id

/-! ### Fields side by side -/

/-- The field of the year, which counts from 2020 and is kept within seven bits. -/
def yearField (c : Calendar) : Nat := (max 0 (min 127 (c.year - 2020))).toNat

theorem yearField_lt (c : Calendar) : yearField c < 128 := by
  unfold yearField
  omega

theorem packedTime_eq (c : Calendar) :
    packedTime c = ((yearField c * 16 + c.month) * 32 + c.day) * 2 ^ 27 + c.timeNumber := by
  unfold packedTime Calendar.timeNumber Calendar.milli
  change ((((((yearField c * 16 + c.month) * 32 + c.day) * 32 + c.hour) * 64 + c.minute) * 64 +
    c.second) * 1024 + min 999 (c.micros / 1000)) = _
  omega

/-- A field of `k` bits fits between the fields before it and the `j` bits after it. -/
theorem or_shiftLeft {field k : Nat} (fits : field < 2 ^ k) (before j : Nat) :
    before <<< (k + j) ||| field <<< j = (before * 2 ^ k + field) <<< j := by
  rw [Nat.shiftLeft_add, ← Nat.shiftLeft_or_distrib, ← Nat.shiftLeft_add_eq_or_of_lt fits,
    Nat.shiftLeft_eq before]

section Fields

variable {c : Calendar}

theorem field_bounds (valid : c.Valid) : c.month < 2 ^ 4 ∧ c.day < 2 ^ 5 ∧ c.hour < 2 ^ 5 ∧
    c.minute < 2 ^ 6 ∧ c.second < 2 ^ 6 ∧ c.milli < 2 ^ 10 := by
  obtain ⟨-, december, -, last⟩ := valid.date
  have longest := Calendar.monthLength_le c.year c.month
  have hour := valid.hour
  have minute := valid.minute
  have second := valid.second
  have milli := c.milli_lt
  dsimp only at december last
  omega

/-- **The fields do not overlap.**  Each is shifted to its place, and the places are disjoint. -/
theorem packedTime_eq_or (valid : c.Valid) :
    packedTime c = yearField c <<< 36 ||| c.month <<< 32 ||| c.day <<< 27 ||| c.hour <<< 22 |||
      c.minute <<< 16 ||| c.second <<< 10 ||| c.milli := by
  obtain ⟨month, day, hour, minute, second, milli⟩ := field_bounds valid
  have last := or_shiftLeft milli ((((((yearField c * 2 ^ 4 + c.month) * 2 ^ 5 + c.day) * 2 ^ 5 +
    c.hour) * 2 ^ 6 + c.minute) * 2 ^ 6) + c.second) 0
  rw [Nat.shiftLeft_zero, Nat.shiftLeft_zero] at last
  rw [or_shiftLeft month _ 32, or_shiftLeft day _ 27, or_shiftLeft hour _ 22,
    or_shiftLeft minute _ 16, or_shiftLeft second _ 10]
  exact last.symm

/-- The fields of an instant, read from a number. -/
structure Unpacked (c : Calendar) (packed : Nat) : Prop where
  year : packed / 2 ^ 36 = yearField c
  month : packed / 2 ^ 32 % 2 ^ 4 = c.month
  day : packed / 2 ^ 27 % 2 ^ 5 = c.day
  hour : packed / 2 ^ 22 % 2 ^ 5 = c.hour
  minute : packed / 2 ^ 16 % 2 ^ 6 = c.minute
  second : packed / 2 ^ 10 % 2 ^ 6 = c.second
  milli : packed % 2 ^ 10 = c.milli

theorem unpacked_packedTime (valid : c.Valid) : Unpacked c (packedTime c) := by
  have bounds := field_bounds valid
  have packed := packedTime_eq c
  unfold Calendar.timeNumber at packed
  constructor <;> omega

theorem packedTime_bounds (valid : c.Valid) : 2 ^ 32 ≤ packedTime c ∧ packedTime c < 2 ^ 43 := by
  have january := valid.date.1
  have bounds := field_bounds valid
  have year := yearField_lt c
  have packed := packedTime_eq c
  unfold Calendar.timeNumber at packed
  dsimp only at january
  omega

end Fields

/-! ### The order of instants -/

/-- The years that have a field of their own. -/
def InSpan (c : Calendar) : Prop := 2020 ≤ c.year ∧ c.year ≤ 2147

instance (c : Calendar) : Decidable (InSpan c) := inferInstanceAs (Decidable (_ ∧ _))

theorem packedTime_of_inSpan {c : Calendar} (span : InSpan c) : (packedTime c : Int) =
    (Calendar.dateNumber (c.year, c.month, c.day) - 2020 * 512) * 2 ^ 27 + c.timeNumber := by
  obtain ⟨low, high⟩ := span
  rw [packedTime_eq, yearField, Calendar.dateNumber]
  omega

/-- **The fields of a later millisecond make a larger number.** -/
theorem packedTime_lt {s t : Int} (later : s < t) (spanS : InSpan (Calendar.ofMillis s))
    (spanT : InSpan (Calendar.ofMillis t)) :
    packedTime (Calendar.ofMillis s) < packedTime (Calendar.ofMillis t) := by
  have packedS := packedTime_of_inSpan spanS
  have packedT := packedTime_of_inSpan spanT
  have timeS := Calendar.timeNumber_lt (Calendar.valid_ofMicros (s * 1000))
  have timeT := Calendar.timeNumber_lt (Calendar.valid_ofMicros (t * 1000))
  have dayOf (ms : Int) : ms * 1000 / Calendar.microsPerDay = ms / 86400000 := by
    unfold Calendar.microsPerDay
    omega
  have dateS := Calendar.date_ofMicros (s * 1000)
  have dateT := Calendar.date_ofMicros (t * 1000)
  rw [dayOf] at dateS dateT
  unfold Calendar.ofMillis at packedS packedT ⊢
  rw [dateS] at packedS
  rw [dateT] at packedT
  -- within a day the time decides, and otherwise the date, which stands in front of it
  by_cases sameDay : s / 86400000 = t / 86400000
  · have earlier : Calendar.milliOfDay s < Calendar.milliOfDay t := by
      unfold Calendar.milliOfDay
      omega
    have smaller := (Calendar.timeNumber_lt_iff s t).mpr earlier
    unfold Calendar.ofMillis at smaller
    rw [sameDay] at packedS
    omega
  · have before : s / 86400000 < t / 86400000 := by omega
    have smaller := Calendar.dateNumber_lt before
    omega

/-! ### Keys -/

/-- The numbers on the way to a key. -/
def steps (c : Calendar) (counter digit : Nat) : List Nat :=
  [yearField c <<< 36, c.month <<< 32, c.day <<< 27, c.hour <<< 22, c.minute <<< 16,
    c.second <<< 10, packedTime c, packedTime c * 10000, counter % bigWrap * 10,
    packedTime c * 10000 + counter % bigWrap * 10,
    packedTime c * 10000 + counter % bigWrap * 10 + digit]

/-- How a numeric key is laid out. -/
structure IsNumeric (c : Calendar) (counter digit id : Nat) : Prop where
  positive : 0 < id
  bits : id < 2 ^ 63
  steps : ∀ n ∈ steps c counter digit, n < 2 ^ 63
  offset : -2 ^ 31 ≤ c.year - 2020 ∧ c.year - 2020 < 2 ^ 31
  fields : id / 10000 = yearField c <<< 36 ||| c.month <<< 32 ||| c.day <<< 27 |||
    c.hour <<< 22 ||| c.minute <<< 16 ||| c.second <<< 10 ||| c.milli
  time : Unpacked c (id / 10000)
  counter : id / 10 % 1000 = counter % 1000
  digit : id % 10 = digit

theorem big_eq (c : Calendar) (counter : Nat) (r : Randomness) :
    (big c counter r).1 = packedTime c * 10000 + counter % 1000 * 10 + (r.pick 10).1 := rfl

theorem isNumeric_big {c : Calendar} (valid : c.Valid) (inRange : c.inRange = true)
    (counter : Nat) {r : Randomness} (fits : r.Fits) :
    IsNumeric c counter (r.pick 10).1 (big c counter r).1 := by
  have digit : (r.pick 10).1 < 10 := r.pick_lt fits (by decide)
  have time : (big c counter r).1 / 10000 = packedTime c := by
    rw [big_eq]
    omega
  have packed := packedTime_bounds valid
  have bounds := field_bounds valid
  have year := yearField_lt c
  simp only [Calendar.inRange, Bool.and_eq_true, decide_eq_true_eq] at inRange
  refine ⟨?_, ?_, ?_, ?_, ?_, ?_, ?_, ?_⟩
  · rw [big_eq]
    omega
  · rw [big_eq]
    omega
  · simp only [Id.steps, bigWrap, List.forall_mem_cons, Nat.shiftLeft_eq]
    refine ⟨?_, ?_, ?_, ?_, ?_, ?_, ?_, ?_, ?_, ?_, ?_, nofun⟩ <;> omega
  · omega
  · rw [time, packedTime_eq_or valid]
  · rw [time]
    exact unpacked_packedTime valid
  · rw [big_eq]
    omega
  · rw [big_eq]
    omega

/-- **Numeric keys sort by time, and fit.**  Of two milliseconds of the years 2020 to 2147 the later
one has the larger key, whatever the counters and the random digits are.  The key of any instant, a
leap second included, is a positive number of 63 bits, as are all numbers on the way to it.  It has
the fields of the instant side by side in front of three digits of the counter and of the random
one. -/
theorem numeric_keys_in_order (counter₁ counter₂ : Nat) {r₁ : Randomness} (fits : r₁.Fits)
    (r₂ : Randomness) :
    (∀ s t : Int, s < t → InSpan (Calendar.ofMillis s) → InSpan (Calendar.ofMillis t) →
      (big (Calendar.ofMillis s) counter₁ r₁).1 < (big (Calendar.ofMillis t) counter₂ r₂).1) ∧
    (∀ c : Calendar, c.Valid → c.inRange = true →
      IsNumeric c counter₁ (r₁.pick 10).1 (big c counter₁ r₁).1) := by
  constructor
  · intro s t later spanS spanT
    have smaller := packedTime_lt later spanS spanT
    have digit : (r₁.pick 10).1 < 10 := r₁.pick_lt fits (by decide)
    rw [big_eq, big_eq]
    omega
  · intro c valid inRange
    exact isNumeric_big valid inRange counter₁ fits

/-- The last millisecond of a leap day, and the first one after it. -/
theorem numeric_keys_in_order_leapDay :
    let r := Randomness.cycle [2 ^ 63]
    let leapSecond : Calendar := ⟨2016, 12, 31, 23, 59, 59, 1500000⟩
    r.Fits ∧ InSpan (Calendar.ofMillis 1583020799999) ∧ InSpan (Calendar.ofMillis 1583020800000) ∧
      (big (Calendar.ofMillis 1583020799999) 999 r).1 <
        (big (Calendar.ofMillis 1583020800000) 0 r).1 ∧
      leapSecond.Valid ∧ leapSecond.inRange = true ∧
      IsNumeric leapSecond 4294967295 5 (big leapSecond 4294967295 r).1 := by
  intro r leapSecond
  have fits : r.Fits := by
    intro i
    simp [r, Randomness.cycle, Nat.mod_one]
  have before : InSpan (Calendar.ofMillis 1583020799999) := by decide
  have after : InSpan (Calendar.ofMillis 1583020800000) := by decide
  have valid : leapSecond.Valid := ⟨by decide, by decide, by decide, by decide, by decide⟩
  have sorted := (numeric_keys_in_order 999 0 fits r).1 _ _ (by decide) before after
  have laid := (numeric_keys_in_order 4294967295 0 fits r).2 leapSecond valid rfl
  have digit : (r.pick 10).1 = 5 := by decide
  rw [digit] at laid
  exact ⟨fits, before, after, sorted, valid, rfl, laid⟩

end Id

end TableMapper
