import TableMapper.Text.Digits

/-!
# Decimal numbers on the wire

A decimal number is sent as four words of 16 bits, the count of its digit groups, the weight of the
first of them, the sign, and the count of decimals shown, followed by the groups, digits to base
10000.

* `Numeric.text?` is its text.
-/

namespace TableMapper

namespace Wire

/-- The number in bytes, the first of them the most significant. -/
def unsigned (bytes : List UInt8) : Nat := bytes.foldl (fun n b => 256 * n + b.toNat) 0

/-- The number in bytes in two's complement. -/
def signed (bytes : List UInt8) : Int :=
  let n := unsigned bytes
  if 2 * n < Nat.pow 256 bytes.length then n else (n : Int) - Nat.pow 256 bytes.length

/-- The number in the first bytes, and the bytes after them. -/
def takeSigned? (size : Nat) (bytes : List UInt8) : Option (Int × List UInt8) :=
  if bytes.length < size then none else some (signed (bytes.take size), bytes.drop size)

/-- Words of 16 bits in two's complement. -/
def words : List UInt8 → List Int
  | a :: b :: rest => signed [a, b] :: words rest
  | _ => []

end Wire

namespace Numeric

/-- A decimal number as sent. -/
structure Form where
  weight : Int
  sign : Nat
  /-- The number of decimals shown. -/
  scale : Nat
  groups : List Int

/-- The digit group `k` places after the first; zero where there is none. -/
def Form.group (f : Form) (k : Int) : Int := if k < 0 then 0 else f.groups.getD k.toNat 0

/-- A digit group with four digits; a sign counts as one of them. -/
def padded (n : Int) : List Char :=
  if n < 0 then '-' :: (Text.padded 3 n.natAbs).toList else (Text.padded 4 n.toNat).toList

/-- The digits before the point. -/
def Form.whole (f : Form) : List Char :=
  if f.weight < 0 then ['0']
  else (toString (f.group 0)).toList ++
    (List.range f.weight.toNat).flatMap fun (i : Nat) => padded (f.group (i + 1))

/-- The digits after the point. -/
def Form.fraction (f : Form) : List Char :=
  ((List.range (f.scale / 4 + 1)).flatMap fun (i : Nat) =>
    padded (f.group (f.weight + 1 + i))).take f.scale

/-- The text of a number with digits. -/
def Form.text (f : Form) : String :=
  String.ofList ((if f.sign = 0x4000 then ['-'] else []) ++ f.whole ++
    (if f.scale = 0 then [] else '.' :: f.fraction))

/-- The text of a decimal number; `none` when bytes are missing. -/
def text? (bytes : List UInt8) : Option String :=
  match bytes with
  | a :: b :: c :: d :: e :: f :: g :: h :: rest =>
    let count := (Wire.signed [a, b]).toNat
    let form : Form := {
      weight := Wire.signed [c, d]
      sign := Wire.unsigned [e, f]
      scale := Wire.unsigned [g, h]
      groups := (Wire.words rest).take count }
    if form.sign = 0xC000 then some "NaN"
    else if rest.length < 2 * count then none
    else some form.text
  | _ => none

end Numeric

end TableMapper
