import TableMapper.Binary64.Decimal
import TableMapper.Json.Document
import TableMapper.Postgres.Category
import TableMapper.Postgres.Numeric
import TableMapper.Text.Base64
import TableMapper.Text.Utf8
import TableMapper.Time.Calendar

/-!
# Reading rows off the wire

* `Wire.column` is the JSON value of a column: what its category makes of its bytes, and `null` for
  NULL and for bytes that the category cannot read.
* `Wire.row` is a row; of columns with equal names the last one counts.
-/

namespace TableMapper

namespace Wire

/-! ### Single values -/

/-- An integer: up to eight bytes in two's complement. -/
def integer? (bytes : List UInt8) : Option Int :=
  if bytes.isEmpty || 8 < bytes.length then none else some (signed bytes)

/-- An integer of `bits` bits. -/
def integerOf? (bits : Nat) (bytes : List UInt8) : Option Int :=
  (integer? bytes).filter fun n => -(Nat.pow 2 (bits - 1) : Int) ≤ n && n < Nat.pow 2 (bits - 1)

/-- A floating-point number of either width. -/
def double? (bytes : List UInt8) : Option Binary64 :=
  if bytes.length = 8 then some (.ofBits (unsigned bytes))
  else if bytes.length = 4 then some (.ofBits32 (unsigned bytes))
  else none

/-- A floating-point number; one that JSON does not have is a text. -/
def doubleJson (x : Binary64) : Json := if x.isFinite then .double x else .string x.plain

/-- A truth value: anything but a zero byte. -/
def boolean? : List UInt8 → Option Bool
  | b :: _ => some (b != 0)
  | [] => none

/-- A JSON document, behind a version byte in the binary form. -/
def json? (binary : Bool) (bytes : List UInt8) : Option Json :=
  match binary, bytes with
  | false, _ => (Utf8.decode? bytes).bind Json.read?
  | true, 1 :: text => (Utf8.decode? text).bind Json.read?
  | true, _ => none

/-- The sixteen bytes of an identifier in groups of 4, 2, 2, 2 and 6. -/
def uuid? (bytes : List UInt8) : Option String :=
  if bytes.length = 16 then
    let part (start size : Nat) :=
      ((bytes.drop start).take size).flatMap fun b => Text.hexByte b.toNat
    some (String.ofList (part 0 4 ++ '-' :: part 4 2 ++ '-' :: part 6 2 ++ '-' :: part 8 2 ++
      '-' :: part 10 6))
  else none

/-- The microseconds from the start of 1970 to that of 2000. -/
def epoch : Int := 946684800000000

/-- An instant, counted in microseconds from the start of 2000. -/
def instant? (bytes : List UInt8) : Option Calendar :=
  ((integer? bytes).map fun us => Calendar.ofMicros (us + epoch)).filter (·.inRange)

/-- A day, counted from the start of 2000. -/
def day? (bytes : List UInt8) : Option Calendar :=
  ((integerOf? 32 bytes).map fun days =>
    Calendar.ofMicros (days * Calendar.microsPerDay + epoch)).filter (·.inRange)

/-! ### Arrays -/

/-- Elements with their lengths in front; `none` if one of them is NULL or cut off. -/
def elements? (read : List UInt8 → Option α) : Nat → List UInt8 → Option (List α)
  | 0, _ => some []
  | n + 1, bytes => do
    let (size, rest) ← takeSigned? 4 bytes
    if size < 0 || rest.length < size.toNat then none
    let x ← read (rest.take size.toNat)
    return x :: (← elements? read n (rest.drop size.toNat))

/-- An array of at most one dimension, counted from one.  The type of the elements, which the array
names, decides how they are read. -/
def array? (read : Nat → List UInt8 → Option α) (bytes : List UInt8) : Option (List α) := do
  let (dimensions, rest) ← takeSigned? 4 bytes
  if dimensions = 0 then return []
  if dimensions != 1 then none
  let (_, rest) ← takeSigned? 4 rest
  let (type, rest) ← takeSigned? 4 rest
  let (count, rest) ← takeSigned? 4 rest
  let (lower, rest) ← takeSigned? 4 rest
  if count < 0 || lower != 1 then none
  elements? (read type.toNat) count.toNat rest

/-- An element of an array as JSON.  A number that JSON does not have is `null` here. -/
def element? : ArrayElement → Nat → List UInt8 → Option Json
  | .int2, _, bytes => (integerOf? 16 bytes).map .int
  | .int4, _, bytes => (integerOf? 32 bytes).map .int
  | .int8, _, bytes => (integer? bytes).map .int
  | .double, _, bytes => (double? bytes).map fun x => if x.isFinite then .double x else .null
  | .boolean, _, bytes => (boolean? bytes).map .bool
  | .text, _, bytes => (Utf8.decode? bytes).map .string
  | .json, type, bytes => json? (type == 3802) bytes

/-! ### Columns -/

/-- The value in the bytes of a column of this type and category. -/
def value? (type : ColumnType) (bytes : List UInt8) : TypeCategory → Option Json
  | .decimal => (Numeric.text? bytes).map .string
  | .integer => if type = 26 then none else (integer? bytes).map .int
  | .boolean => (boolean? bytes).map .bool
  | .double => (double? bytes).map doubleJson
  | .binary => some (.string (Base64.encode bytes))
  | .json => json? (type == 3802) bytes
  | .uuid => (uuid? bytes).map .string
  | .timestamp => (instant? bytes).map fun c => .string c.spaced
  | .timestampTz => (instant? bytes).map fun c => .string c.rfc3339
  | .date => (day? bytes).map fun c => .string c.date
  | .time => (integer? bytes).map fun us => .string (Calendar.ofMicros us).time
  | .array e => if type = 1021 then none else (array? (element? e) bytes).map .array
  | .text | .unknown => if type.isText then (Utf8.decode? bytes).map .string else none

/-- The JSON value of a column. -/
def column (type : ColumnType) (bytes : Option (List UInt8)) : Json :=
  (bytes.bind fun bs => value? type bs type.category).getD .null

/-- The row with these columns. -/
def row (columns : List (String × ColumnType)) (values : List (Option (List UInt8))) : Row :=
  .ofList ((columns.zip values).map fun ((name, type), bytes) => (name, column type bytes))

end Wire

end TableMapper
