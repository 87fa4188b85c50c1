import TableMapper.Text.Letter

/-!
# Digits and integers

* `Text.natural?` and `Text.integer?` read decimal integers, with an optional leading sign.
* `Text.inBase` writes a natural number with the digits `0-9a-z`.
* `Text.hexByte` writes a byte with two hexadecimal digits.
-/

namespace TableMapper

namespace Text

/-- The value of a list of decimal digits, most significant first. -/
def decimalValue (cs : List Char) : Nat :=
  cs.foldl (fun n c => 10 * n + (c.toNat - '0'.toNat)) 0

/-- One or more decimal digits. -/
def digits? (cs : List Char) : Option Nat :=
  if cs.isEmpty || !cs.all isDigit then none else some (decimalValue cs)

/-- A natural number: decimal digits after an optional plus sign. -/
def natural? (s : String) : Option Nat :=
  match s.toList with
  | '+' :: cs => digits? cs
  | cs => digits? cs

/-- An integer: decimal digits after an optional sign. -/
def integer? (s : String) : Option Int :=
  match s.toList with
  | '+' :: cs => (digits? cs).map Int.ofNat
  | '-' :: cs => (digits? cs).map fun n => -(n : Int)
  | cs => (digits? cs).map Int.ofNat

/-- A natural number below `bound`. -/
def naturalBelow? (bound : Nat) (s : String) : Option Nat :=
  (natural? s).filter (· < bound)

/-- An integer that a signed 64-bit word holds. -/
def integer64? (s : String) : Option Int :=
  (integer? s).filter fun n => -(Nat.pow 2 63 : Int) ≤ n && n < (Nat.pow 2 63 : Int)

/-- The digit for a value below 36. -/
def digitChar (n : Nat) : Char :=
  if n < 10 then Char.ofNat ('0'.toNat + n) else Char.ofNat ('a'.toNat + (n - 10))

/-- The `width` lowest digits of `n` in base `b`, most significant first. -/
def lowDigits (b : Nat) : Nat → Nat → List Char
  | 0, _ => []
  | width + 1, n => lowDigits b width (n / b) ++ [digitChar (n % b)]

/-- The number of digits of `n` in base `b`, at least one; `fuel` bounds the count. -/
def digitCount (b : Nat) : Nat → Nat → Nat
  | 0, _ => 1
  | fuel + 1, n => if n < b then 1 else 1 + digitCount b fuel (n / b)

/-- `n` in base `b`, without leading zeros. -/
def inBase (b n : Nat) : List Char := lowDigits b (digitCount b n.log2 n) n

/-- `n` with leading zeros up to `width` decimal digits. -/
def padded (width n : Nat) : String :=
  let ds := (toString n).toList
  String.ofList (List.replicate (width - ds.length) '0' ++ ds)

/-- The value of a hexadecimal digit of either case. -/
def hexValue? (c : Char) : Option Nat :=
  if isDigit c then some (c.toNat - '0'.toNat)
  else if 'a' ≤ c && c ≤ 'f' then some (c.toNat - 'a'.toNat + 10)
  else if 'A' ≤ c && c ≤ 'F' then some (c.toNat - 'A'.toNat + 10)
  else none

/-- A byte as two hexadecimal digits. -/
def hexByte (b : Nat) : List Char := lowDigits 16 2 b

end Text

end TableMapper
