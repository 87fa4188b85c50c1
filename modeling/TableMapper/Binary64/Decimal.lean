import TableMapper.Binary64.Basic
import TableMapper.Text.Digits

/-!
# Doubles in decimal

* `Binary64.shortest` finds the fewest digits that read back as the same double, and of those the
  digits nearest to it.
* `Binary64.plain` writes them without an exponent; `Binary64.scientific` switches to an exponent
  outside `1e-5 ≤ |x| < 1e16`, and always shows that the number is no integer literal.
* `Binary64.fixed` writes a given number of decimal places, a tie of the exact value going to the
  even digit.
* `Binary64.read?` reads decimal text.
-/

namespace TableMapper

namespace Binary64

/-! ### Shortest digits -/

/-- The greatest `p` with `10 ^ p ≤ num / den`, for a positive quotient whose binary logarithm,
rounded down, is `lg`. -/
def floorLog10 (num den : Nat) (lg : Int) : Int :=
  let below (p : Int) : Bool := den * Nat.pow 10 p.toNat ≤ num * Nat.pow 10 (-p).toNat
  let p := lg * 30103 / 100000
  if below (p + 1) then p + 1 else if below p then p else p - 1

/-- The interval of values that round to `m * 2 ^ e`, in units of `2 ^ (e - 2)`: its lower end, the
double itself, and its upper end.  Below a power of two the gap is half as wide. -/
def interval (m : Nat) (e : Int) : Nat × Nat × Nat :=
  (4 * m - (if m = Nat.pow 2 52 ∧ -1074 < e then 1 else 2), 4 * m, 4 * m + 2)

/-- The multiple of `10 ^ k` nearest to `m * 2 ^ e` among the two neighbours of that value which
round to it. -/
def onGrid? (m : Nat) (e k : Int) : Option Nat :=
  let (lower, value, upper) := interval m e
  let a := Nat.pow 10 k.toNat * pow2 (2 - e)
  let b := Nat.pow 10 (-k).toNat * pow2 (e - 2)
  let closed := m % 2 == 0
  let within (c : Nat) : Bool :=
    if closed then lower * b ≤ c * a && c * a ≤ upper * b
    else lower * b < c * a && c * a < upper * b
  let c := value * b / a
  match within c, within (c + 1) with
  | true, true => some (if value * b - c * a ≤ (c + 1) * a - value * b then c else c + 1)
  | true, false => some c
  | false, true => some (c + 1)
  | false, false => none

/-- A decimal significand without trailing zeros. -/
def stripZeros : Nat → Nat → Int → Nat × Int
  | 0, d, k => (d, k)
  | fuel + 1, d, k => if d ≠ 0 ∧ d % 10 = 0 then stripZeros fuel (d / 10) (k + 1) else (d, k)

/-- The fewest digits `d` such that `d * 10 ^ k` reads back as `m * 2 ^ e`, with `k`. -/
def shortest (m : Nat) (e : Int) : Nat × Int :=
  if m = 0 then (0, 0)
  else
    let p := floorLog10 (m * pow2 e) (pow2 (-e)) (m.log2 + e)
    let hit := (List.range 17).findSome? fun (n : Nat) =>
      let k : Int := p - n
      (onGrid? m e k).map fun d => (d, k)
    let (d, k) := hit.getD (m, 0)
    stripZeros 20 d k

/-! ### Layouts -/

/-- A minus sign if `negative`. -/
def signText (negative : Bool) : String := if negative then "-" else ""

/-- Digits with a decimal point `k` places from their end, without an exponent. -/
def positional (ds : List Char) (k : Int) : List Char :=
  let point : Int := ds.length + k
  if 0 ≤ k then ds ++ List.replicate k.toNat '0'
  else if 0 < point then ds.take point.toNat ++ '.' :: ds.drop point.toNat
  else '0' :: '.' :: (List.replicate (-point).toNat '0' ++ ds)

/-- The shortest digits, never with an exponent and without a decimal point on an integer. -/
def plain : Binary64 → String
  | .nan => "NaN"
  | .infinite negative => signText negative ++ "inf"
  | .finite negative m e =>
    let (d, k) := shortest m e
    signText negative ++ String.ofList (positional (toString d).toList k)

/-- The shortest digits of a finite double, with a decimal point on an integer, and with an exponent
outside `1e-5 ≤ |x| < 1e16`. -/
def scientific : Binary64 → String
  | .nan => "NaN"
  | .infinite negative => signText negative ++ "inf"
  | .finite negative m e =>
    let (d, k) := shortest m e
    let ds := (toString d).toList
    let point : Int := ds.length + k
    let body :=
      if d = 0 then "0.0".toList
      else if 0 ≤ k ∧ point ≤ 16 then positional ds k ++ ".0".toList
      else if -5 < point ∧ point ≤ 16 then positional ds k
      else
        let x := point - 1
        let head := match ds with
          | [c] => [c]
          | c :: cs => c :: '.' :: cs
          | [] => []
        head ++ 'e' :: ((if 0 < x then "+" else "") ++ toString x).toList
    signText negative ++ String.ofList body

/-- `places` decimal places, rounding the exact value and a tie to the even digit; the sign stays on
a result of zero. -/
def fixed (places : Nat) : Binary64 → String
  | .nan => "NaN"
  | .infinite negative => signText negative ++ "inf"
  | .finite negative m e =>
    let n := roundDiv (m * pow2 e * Nat.pow 10 places) (pow2 (-e))
    let whole := toString (n / Nat.pow 10 places)
    signText negative ++
      if places = 0 then whole else whole ++ "." ++ Text.padded places (n % Nat.pow 10 places)

/-! ### Reading -/

/-- An exponent: empty, or `e` and an integer. -/
def exponent? : List Char → Option Int
  | [] => some 0
  | c :: cs => if c == 'e' || c == 'E' then Text.integer? (String.ofList cs) else none

/-- Digits with an optional decimal point and exponent; at least one digit stands beside the
point. -/
def readUnsigned? (negative : Bool) (cs : List Char) : Option Binary64 := do
  let whole := cs.takeWhile Text.isDigit
  let rest := cs.dropWhile Text.isDigit
  let (fraction, rest) := match rest with
    | '.' :: more => (more.takeWhile Text.isDigit, more.dropWhile Text.isDigit)
    | _ => ([], rest)
  if whole.isEmpty && fraction.isEmpty then none
  let x ← exponent? rest
  return ofDecimal negative (Text.decimalValue (whole ++ fraction)) (x - fraction.length)

/-- The names of the doubles that are no numbers, in any case. -/
def special? (negative : Bool) (cs : List Char) : Option Binary64 :=
  match Text.lowerAscii (String.ofList cs) with
  | "inf" => some (.infinite negative)
  | "infinity" => some (.infinite negative)
  | "nan" => some .nan
  | _ => none

/-- The double nearest to a decimal text: an optional sign, then digits with an optional point and
exponent, or the name of an infinity or of NaN. -/
def read? (s : String) : Option Binary64 :=
  let go (negative : Bool) (cs : List Char) : Option Binary64 :=
    (special? negative cs).or (readUnsigned? negative cs)
  match s.toList with
  | '-' :: cs => go true cs
  | '+' :: cs => go false cs
  | cs => go false cs

end Binary64

end TableMapper
