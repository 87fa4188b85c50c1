/-!
# Double-precision numbers

A double is kept as its sign, its integer significand and its binary exponent, so all arithmetic on
it is exact arithmetic on integers followed by one rounding.

* `Binary64.nearest` rounds a quotient of natural numbers to the nearest double, a tie going to the
  even significand.
* `Binary64.ofInt`, `Binary64.mul` and `Binary64.div` are the correctly rounded operations.
* `Binary64.ofBits`, `Binary64.toBits` and `Binary64.ofBits32` relate doubles to their interchange
  format.
* `Binary64.toInt64` truncates and stays within the signed 64-bit range.
-/

namespace TableMapper

/-- A double: not a number, an infinity, or `± mantissa * 2 ^ exponent`.  The functions below keep
finite doubles normalised: the significand is below `2 ^ 53`, the exponent at least `-1074`, and the
significand is at least `2 ^ 52` unless the exponent is `-1074`. -/
inductive Binary64 where
  | nan
  | infinite (negative : Bool)
  | finite (negative : Bool) (mantissa : Nat) (exponent : Int)
  deriving DecidableEq, Inhabited

namespace Binary64

/-- A zero of either sign. -/
def zero (negative : Bool) : Binary64 := .finite negative 0 (-1074)

/-- Neither an infinity nor NaN. -/
def isFinite : Binary64 → Bool
  | .finite .. => true
  | _ => false

/-- The quotient `num / den` rounded to an integer, a tie going to the even one. -/
def roundDiv (num den : Nat) : Nat :=
  let q := num / den
  let r := num % den
  if 2 * r < den then q else if den < 2 * r then q + 1 else q + q % 2

/-- `2 ^ e` as a factor of the numerator. -/
def pow2 (e : Int) : Nat := Nat.pow 2 e.toNat

/-- The exponent at which `num / den` has a 53-bit significand, or the least one. -/
def unitExponent (num den : Nat) : Int :=
  let e : Int := (num.log2 : Int) - den.log2 - 52
  let e := if num * pow2 (-e) < Nat.pow 2 52 * (den * pow2 e) then e - 1 else e
  max e (-1074)

/-- A significand of at most 53 bits with its exponent; infinity when the exponent is too large. -/
def pack (negative : Bool) (m : Nat) (e : Int) : Binary64 :=
  let (m, e) := if m = Nat.pow 2 53 then (Nat.pow 2 52, e + 1) else (m, e)
  if 971 < e then .infinite negative else .finite negative m e

/-- The double nearest to `± num / den`, a tie going to the even significand. -/
def nearest (negative : Bool) (num den : Nat) : Binary64 :=
  if num = 0 || den = 0 then zero negative
  else
    let e := unitExponent num den
    pack negative (roundDiv (num * pow2 (-e)) (den * pow2 e)) e

/-- The double nearest to an integer. -/
def ofInt (n : Int) : Binary64 := nearest (n < 0) n.natAbs 1

/-- The double nearest to `± d * 10 ^ k`.  The powers of ten far outside the range of doubles are
not computed. -/
def ofDecimal (negative : Bool) (d : Nat) (k : Int) : Binary64 :=
  if d = 0 then zero negative
  else if 400 < k then .infinite negative
  else if k < -(400 + d.log2 : Int) then zero negative
  else nearest negative (d * Nat.pow 10 k.toNat) (Nat.pow 10 (-k).toNat)

/-- The other sign. -/
def neg : Binary64 → Binary64
  | .nan => .nan
  | .infinite s => .infinite !s
  | .finite s m e => .finite (!s) m e

/-- The product, correctly rounded. -/
def mul : Binary64 → Binary64 → Binary64
  | .finite s m e, .finite t n f =>
    nearest (s != t) (m * n * pow2 (e + f)) (pow2 (-(e + f)))
  | .infinite s, .infinite t => .infinite (s != t)
  | .infinite s, .finite t n _ => if n = 0 then .nan else .infinite (s != t)
  | .finite s m _, .infinite t => if m = 0 then .nan else .infinite (s != t)
  | _, _ => .nan

/-- The quotient, correctly rounded. -/
def div : Binary64 → Binary64 → Binary64
  | .finite s m e, .finite t n f =>
    if n = 0 then (if m = 0 then .nan else .infinite (s != t))
    else nearest (s != t) (m * pow2 (e - f)) (n * pow2 (f - e))
  | .infinite s, .finite t _ _ => .infinite (s != t)
  | .finite s _ _, .infinite t => zero (s != t)
  | _, _ => .nan

/-- Equality of numbers: both zeros are equal, and NaN differs from everything. -/
def same : Binary64 → Binary64 → Bool
  | .finite s m e, .finite t n f => (m == 0 && n == 0) || (s == t && m == n && e == f)
  | .infinite s, .infinite t => s == t
  | _, _ => false

/-- The integer part, by truncation, brought into the signed 64-bit range; NaN gives zero. -/
def toInt64 : Binary64 → Int
  | .nan => 0
  | .infinite negative => if negative then -(Nat.pow 2 63 : Int) else (Nat.pow 2 63 : Int) - 1
  | .finite negative m e =>
    let n : Int := ((m * pow2 e / pow2 (-e) : Nat) : Int)
    if negative then max (-n) (-(Nat.pow 2 63 : Int)) else min n ((Nat.pow 2 63 : Int) - 1)

/-! ### Interchange format -/

/-- The double with these 64 bits. -/
def ofBits (w : Nat) : Binary64 :=
  let negative := w / Nat.pow 2 63 % 2 == 1
  let biased : Nat := w / Nat.pow 2 52 % Nat.pow 2 11
  let fraction : Nat := w % Nat.pow 2 52
  if biased = 2047 then (if fraction = 0 then .infinite negative else .nan)
  else if biased = 0 then .finite negative fraction (-1074)
  else .finite negative (Nat.pow 2 52 + fraction) ((biased : Int) - 1075)

/-- The 64 bits of a double; NaN has the sign bit clear and the highest fraction bit set. -/
def toBits : Binary64 → Nat
  | .nan => 2047 * Nat.pow 2 52 + Nat.pow 2 51
  | .infinite negative => (if negative then Nat.pow 2 63 else 0) + 2047 * Nat.pow 2 52
  | .finite negative m e =>
    (if negative then Nat.pow 2 63 else 0) +
      if m < Nat.pow 2 52 then m else (e + 1075).toNat * Nat.pow 2 52 + (m - Nat.pow 2 52)

/-- The double equal to the single-precision number with these 32 bits. -/
def ofBits32 (w : Nat) : Binary64 :=
  let negative := w / Nat.pow 2 31 % 2 == 1
  let biased : Nat := w / Nat.pow 2 23 % Nat.pow 2 8
  let fraction : Nat := w % Nat.pow 2 23
  if biased = 255 then (if fraction = 0 then .infinite negative else .nan)
  else if biased = 0 then nearest negative fraction (Nat.pow 2 149)
  else
    let e : Int := (biased : Int) - 150
    nearest negative ((Nat.pow 2 23 + fraction) * pow2 e) (pow2 (-e))

end Binary64

end TableMapper
