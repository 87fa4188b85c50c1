import TableMapper.Json.Printer

/-!
# Array literals

`Sql.arrayLiteral` writes a JSON array as the text of an array: elements between braces, strings and
documents in quotation marks, `NULL` for null.
-/

namespace TableMapper

namespace Sql

/-- A character inside quotation marks. -/
def escapeElement (c : Char) : List Char :=
  if c == '\\' || c == '"' then ['\\', c] else [c]

/-- An element in quotation marks. -/
def quotedElement (s : String) : String :=
  "\"" ++ String.ofList (s.toList.flatMap escapeElement) ++ "\""

mutual

/-- An element of an array. -/
def arrayElement : Json → String
  | .null => "NULL"
  | .array items => arrayLiteral items
  | .string s => quotedElement s
  | .object members => quotedElement (Json.object members).render
  | .bool b => (Json.bool b).render
  | .int n => (Json.int n).render
  | .double x => (Json.double x).render

/-- An array of elements. -/
def arrayLiteral (items : List Json) : String :=
  "\x7b" ++ ",".intercalate (arrayElements items) ++ "\x7d"

/-- The elements one by one. -/
def arrayElements : List Json → List String
  | [] => []
  | x :: xs => arrayElement x :: arrayElements xs

end

end Sql

end TableMapper
