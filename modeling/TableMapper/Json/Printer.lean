import TableMapper.Binary64.Decimal
import TableMapper.Json.Basic
import TableMapper.Json.Fields

/-!
# Compact JSON text

`Json.render` writes a value without spaces.  In strings only the quotation mark, the backslash and
the control characters are escaped; doubles are written by `Binary64.scientific`.

* `Document.render` writes a document without spaces and its members in their order.
* `Document.record` is an object of named fields, of which those without a value are left out.
-/

namespace TableMapper

namespace Json

/-- A character as it stands in a string. -/
def escapeChar (c : Char) : List Char :=
  if c == '"' then ['\\', '"']
  else if c == '\\' then ['\\', '\\']
  else if c == '\n' then ['\\', 'n']
  else if c == '\r' then ['\\', 'r']
  else if c == '\t' then ['\\', 't']
  else if c.toNat == 8 then ['\\', 'b']
  else if c.toNat == 12 then ['\\', 'f']
  else if c.toNat < 32 then ['\\', 'u', '0', '0'] ++ Text.hexByte c.toNat
  else [c]

/-- A string with its quotation marks. -/
def quoted (s : String) : String :=
  "\"" ++ String.ofList (s.toList.flatMap escapeChar) ++ "\""

/-- A number as text; a double that is not finite has none. -/
def doubleText (x : Binary64) : String := if x.isFinite then x.scientific else "null"

mutual

/-- The compact text of a value. -/
def render : Json → String
  | .null => "null"
  | .bool true => "true"
  | .bool false => "false"
  | .int n => toString n
  | .double x => doubleText x
  | .string s => quoted s
  | .array xs => "[" ++ ",".intercalate (renderItems xs) ++ "]"
  | .object ms => "\x7b" ++ ",".intercalate (renderMembers ms) ++ "\x7d"

/-- The texts of the items. -/
def renderItems : List Json → List String
  | [] => []
  | x :: xs => render x :: renderItems xs

/-- The texts of the members. -/
def renderMembers : List (String × Json) → List String
  | [] => []
  | (name, x) :: ms => (quoted name ++ ":" ++ render x) :: renderMembers ms

end

end Json

namespace Document

mutual

/-- The compact text of a document; what has no value is written as half of a surrogate pair. -/
def render : Document → String
  | .null => "null"
  | .bool true => "true"
  | .bool false => "false"
  | .int n => toString n
  | .double x => Json.doubleText x
  | .string s => Json.quoted s
  | .malformed => "\"\\ud800\""
  | .array xs => "[" ++ ",".intercalate (renderItems xs) ++ "]"
  | .object ms => "\x7b" ++ ",".intercalate (renderMembers ms) ++ "\x7d"

/-- The texts of the items. -/
def renderItems : List Document → List String
  | [] => []
  | x :: xs => render x :: renderItems xs

/-- The texts of the members. -/
def renderMembers : List (String × Document) → List String
  | [] => []
  | (name, x) :: ms => (Json.quoted name ++ ":" ++ render x) :: renderMembers ms

end

/-- The object of the fields that have a value. -/
def record (fields : List (String × Option Document)) : Document :=
  .object (fields.filterMap fun field => field.2.map fun d => (field.1, d))

/-- A natural number. -/
def nat (n : Nat) : Document := .int n

/-- A list of texts. -/
def texts (ts : List String) : Document := .array (ts.map .string)

/-- `null` for `none`. -/
def ofOption (f : α → Document) : Option α → Document
  | none => .null
  | some a => f a

end Document

end TableMapper
