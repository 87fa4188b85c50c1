import TableMapper.Json.Printer

/-!
# SQL values

`Value` is a value in a condition, in a row to be written or among the arguments of a statement.
`Value.ofJson` and `Value.toJson` relate it to JSON.
-/

namespace TableMapper

/-- An SQL value.  Integers are those of 64 bits with a sign; JSON values other than arrays and
objects have a representation of their own. -/
inductive Value where
  | null
  | bool (value : Bool)
  | int (value : Int)
  | double (value : Binary64)
  | text (value : String)
  | json (document : Json)
  deriving Inhabited

namespace Value

/-- The value of a JSON value.  An integer above the signed range keeps all its digits as text. -/
def ofJson : Json → Value
  | .null => .null
  | .bool b => .bool b
  | .int n => if n < Nat.pow 2 63 then .int n else .text (toString n)
  | .double x => .double x
  | .string s => .text s
  | .array xs => .json (.array xs)
  | .object ms => .json (.object ms)

/-- The JSON value of a value; a double that JSON cannot write becomes text. -/
def toJson : Value → Json
  | .null => .null
  | .bool b => .bool b
  | .int n => .int n
  | .double x => if x.isFinite then .double x else .string x.plain
  | .text s => .string s
  | .json d => d

/-- The name of the kind of value. -/
def kindName : Value → String
  | .null => "null"
  | .bool _ => "bool"
  | .int _ => "int"
  | .double _ => "float"
  | .text _ => "text"
  | .json _ => "json"

/-- Whether the value is NULL. -/
def isNull : Value → Bool
  | .null => true
  | _ => false

/-- The text of a text value. -/
def text? : Value → Option String
  | .text s => some s
  | _ => none

end Value

end TableMapper
