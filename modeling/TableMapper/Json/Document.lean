import TableMapper.Json.Basic
import TableMapper.Text.Digits

/-!
# JSON text

* `Document` is JSON text as written: the members of an object keep their order and may repeat.
* `Document.read?` reads it.  A number that no double holds and a string with half of a surrogate
  pair are well-formed text without a value; they are `Document.malformed`, and matter only where
  the value is looked at.
* `Document.toJson?` is the value; of equal member names the last one counts.
* `Json.read?` reads a value.
-/

namespace TableMapper

/-- JSON text as written. -/
inductive Document where
  | null
  | bool (value : Bool)
  | int (value : Int)
  | double (value : Binary64)
  | string (value : String)
  | malformed
  | array (items : List Document)
  | object (members : List (String × Document))
  deriving Inhabited

namespace Document

/-! ### Numbers -/

/-- Appends decimal digits to a significand for as long as it fits 64 bits.  Gives the significand
and the number of digits appended. -/
def appendDigits (significand : Nat) : List Char → Nat × Nat
  | [] => (significand, 0)
  | c :: cs =>
    let next := 10 * significand + (c.toNat - '0'.toNat)
    if next < Nat.pow 2 64 then
      let (s, n) := appendDigits next cs
      (s, n + 1)
    else (significand, 0)

/-- A significand times a power of ten.  Each step rounds: the significand to a double, then the
product or quotient with the double nearest to the power of ten.  `none` when the result is too
large. -/
def scale? : Nat → Binary64 → Int → Option Binary64
  | 0, _, _ => some (.zero false)
  | steps + 1, x, k =>
    if -308 ≤ k ∧ k ≤ 308 then
      let power := Binary64.ofDecimal false 1 k.natAbs
      let y := if 0 ≤ k then x.mul power else x.div power
      if y.isFinite then some y else none
    else if x == Binary64.zero false then some x
    else if 0 ≤ k then none
    else scale? steps (x.div (Binary64.ofDecimal false 1 308)) (k + 308)

/-- The double written with these digits before and after the point, times `10 ^ exponent`.  The
leading digits that fit 64 bits count, the others only by their place. -/
def doubleOf (negative : Bool) (whole fraction : List Char) (exponent : Int) : Document :=
  let (s, n) := appendDigits 0 whole
  let dropped := whole.length - n
  let (s, m) := appendDigits s fraction
  match scale? 4 (.ofInt s) (dropped - m + exponent) with
  | some x => .double (if negative then x.neg else x)
  | none => .malformed

/-- The exponent part of a number. -/
def readExponent : List Char → Option (Option Int × List Char)
  | c :: cs =>
    if c == 'e' || c == 'E' then
      let (sign, ds) : Int × List Char := match cs with
        | '+' :: r => (1, r)
        | '-' :: r => (-1, r)
        | r => (1, r)
      let digits := ds.takeWhile Text.isDigit
      if digits.isEmpty then none
      else some (some (sign * Text.decimalValue digits), ds.dropWhile Text.isDigit)
    else some (none, c :: cs)
  | [] => some (none, [])

/-- The digits after the point of a number. -/
def readFraction : List Char → Option (Option (List Char) × List Char)
  | '.' :: cs =>
    let digits := cs.takeWhile Text.isDigit
    if digits.isEmpty then none else some (some digits, cs.dropWhile Text.isDigit)
  | cs => some (none, cs)

/-- A number after its sign.  Without point and exponent it is an integer if 64 bits hold it; the
negative zero is a double. -/
def readNumber (negative : Bool) (cs : List Char) : Option (Document × List Char) := do
  let whole := cs.takeWhile Text.isDigit
  match whole with
  | [] => none
  | '0' :: _ :: _ => none
  | _ =>
    let (fraction, rest) ← readFraction (cs.dropWhile Text.isDigit)
    let (exponent, rest) ← readExponent rest
    let n := Text.decimalValue whole
    let node :=
      if fraction.isNone && exponent.isNone && !negative && n < Nat.pow 2 64 then .int n
      else if fraction.isNone && exponent.isNone && negative && 0 < n && n ≤ Nat.pow 2 63 then
        .int (-(n : Int))
      else doubleOf negative whole (fraction.getD []) (exponent.getD 0)
    return (node, rest)

/-! ### Strings -/

/-- Four hexadecimal digits. -/
def readHex4 : List Char → Option (Nat × List Char)
  | a :: b :: c :: d :: rest => do
    let a ← Text.hexValue? a
    let b ← Text.hexValue? b
    let c ← Text.hexValue? c
    let d ← Text.hexValue? d
    return (((a * 16 + b) * 16 + c) * 16 + d, rest)
  | _ => none

/-- The character after a backslash, when it is written with one letter. -/
def escaped? (c : Char) : Option Char :=
  match c with
  | '"' => some '"'
  | '\\' => some '\\'
  | '/' => some '/'
  | 'b' => some (Char.ofNat 8)
  | 'f' => some (Char.ofNat 12)
  | 'n' => some '\n'
  | 'r' => some '\r'
  | 't' => some '\t'
  | _ => none

/-- A character of four hexadecimal digits, with the second half of a surrogate pair after it; no
character when a half stands alone. -/
def readUnicode (cs : List Char) : Option (Option Char × List Char) := do
  let (hi, rest) ← readHex4 cs
  if hi < 0xD800 || 0xE000 ≤ hi then return (some (Char.ofNat hi), rest)
  match rest with
  | '\\' :: 'u' :: more =>
    let (lo, after) ← readHex4 more
    if hi < 0xDC00 && 0xDC00 ≤ lo && lo < 0xE000 then
      return (some (Char.ofNat (0x10000 + (hi - 0xD800) * 0x400 + (lo - 0xDC00))), after)
    else return (none, rest)
  | _ => return (none, rest)

/-- A string after its opening quotation mark: its value, unless half of a surrogate pair stands
alone in it, and what follows the closing mark.  `read` holds the characters so far, last first. -/
def readString : Nat → Option (List Char) → List Char → Option (Option String × List Char)
  | 0, _, _ => none
  | fuel + 1, read, cs =>
    match cs with
    | [] => none
    | '"' :: rest => some (read.map fun r => String.ofList r.reverse, rest)
    | '\\' :: 'u' :: rest =>
      match readUnicode rest with
      | none => none
      | some (some c, rest) => readString fuel (read.map (c :: ·)) rest
      | some (none, rest) => readString fuel none rest
    | '\\' :: c :: rest =>
      match escaped? c with
      | none => none
      | some c => readString fuel (read.map (c :: ·)) rest
    | c :: rest => if c.toNat < 32 then none else readString fuel (read.map (c :: ·)) rest

/-! ### Values -/

/-- The list without the blanks of JSON at its start. -/
def skipBlank (cs : List Char) : List Char :=
  cs.dropWhile fun c => c == ' ' || c == '\n' || c == '\t' || c == '\r'

mutual

/-- One value and what follows it.  `fuel` exceeds the number of characters. -/
def readValue : Nat → List Char → Option (Document × List Char)
  | 0, _ => none
  | fuel + 1, cs =>
    match skipBlank cs with
    | 'n' :: 'u' :: 'l' :: 'l' :: rest => some (.null, rest)
    | 't' :: 'r' :: 'u' :: 'e' :: rest => some (.bool true, rest)
    | 'f' :: 'a' :: 'l' :: 's' :: 'e' :: rest => some (.bool false, rest)
    | '"' :: rest =>
      match readString fuel (some []) rest with
      | some (some s, rest) => some (.string s, rest)
      | some (none, rest) => some (.malformed, rest)
      | none => none
    | '-' :: rest => readNumber true rest
    | '[' :: rest =>
      match skipBlank rest with
      | ']' :: rest => some (.array [], rest)
      | rest => readItems fuel [] rest
    | '\x7b' :: rest =>
      match skipBlank rest with
      | '\x7d' :: rest => some (.object [], rest)
      | rest => readMembers fuel (some []) rest
    | c :: rest => if Text.isDigit c then readNumber false (c :: rest) else none
    | [] => none

/-- The items of an array up to its closing bracket; `read` holds those so far, last first. -/
def readItems : Nat → List Document → List Char → Option (Document × List Char)
  | 0, _, _ => none
  | fuel + 1, read, cs =>
    match readValue fuel cs with
    | none => none
    | some (x, rest) =>
      match skipBlank rest with
      | ',' :: rest => readItems fuel (x :: read) rest
      | ']' :: rest => some (.array (x :: read).reverse, rest)
      | _ => none

/-- The members of an object up to its closing brace; `read` holds those so far, last first, unless
one of the names was malformed. -/
def readMembers :
    Nat → Option (List (String × Document)) → List Char → Option (Document × List Char)
  | 0, _, _ => none
  | fuel + 1, read, cs =>
    match skipBlank cs with
    | '"' :: rest =>
      match readString fuel (some []) rest with
      | none => none
      | some (name, rest) =>
        match skipBlank rest with
        | ':' :: rest =>
          match readValue fuel rest with
          | none => none
          | some (x, rest) =>
            let read := do return (← name, x) :: (← read)
            match skipBlank rest with
            | ',' :: rest => readMembers fuel read rest
            | '\x7d' :: rest =>
              some (match read with
                | some ms => .object ms.reverse
                | none => .malformed, rest)
            | _ => none
        | _ => none
    | _ => none

end

/-- The document written in a text, which holds nothing else. -/
def read? (s : String) : Option Document :=
  match readValue (s.toList.length + 1) s.toList with
  | some (d, rest) => if (skipBlank rest).isEmpty then some d else none
  | none => none

/-! ### Values of documents -/

/-- The deepest nesting of arrays and objects that is read. -/
def maxDepth : Nat := 127

mutual

/-- The value of a document with at most `room` levels of nesting. -/
def toJson? (room : Nat) : Document → Option Json
  | .null => some .null
  | .bool b => some (.bool b)
  | .int n => some (.int n)
  | .double x => some (.double x)
  | .string s => some (.string s)
  | .malformed => none
  | .array xs =>
    match room with
    | 0 => none
    | room + 1 => (itemsToJson? room xs).map .array
  | .object ms =>
    match room with
    | 0 => none
    | room + 1 => (membersToJson? room ms).map Json.ofMembers

/-- The values of the items. -/
def itemsToJson? (room : Nat) : List Document → Option (List Json)
  | [] => some []
  | x :: xs => do return (← toJson? room x) :: (← itemsToJson? room xs)

/-- The values of the members. -/
def membersToJson? (room : Nat) : List (String × Document) → Option (List (String × Json))
  | [] => some []
  | (name, x) :: ms => do return (name, ← toJson? room x) :: (← membersToJson? room ms)

end

end Document

/-- The value written in a text, which holds nothing else. -/
def Json.read? (s : String) : Option Json :=
  (Document.read? s).bind (Document.toJson? Document.maxDepth)

end TableMapper
