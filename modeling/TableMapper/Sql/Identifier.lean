import TableMapper.Text.Letter

/-!
# Identifiers

`Sql.ident` writes a column or table name: a plain identifier is put in quotation marks when it is
a keyword or has capitals, and anything else is taken to be an expression and left alone.
-/

namespace TableMapper

namespace Sql

/-- Keywords that are quoted when they are used as a name. -/
def quotedWords : List String :=
  ["select", "from", "where", "group", "order", "having", "join", "left", "right", "inner",
    "outer", "full", "between", "case", "when", "then", "end", "to", "union", "all", "limit",
    "offset", "desc", "type", "like", "ilike", "insert", "update", "delete", "into", "set", "add",
    "alter", "column", "table", "default", "check", "unique", "primary", "foreign", "key",
    "index", "constraint", "using", "user", "session", "trigger", "view", "schema", "over",
    "window", "range", "fetch", "only", "cascade", "references", "grant", "revoke", "return",
    "call", "current_user", "session_user"]

/-- Keywords that cannot name a column. -/
def forbiddenWords : List String :=
  ["null", "not", "and", "or", "asc", "else", "by", "on", "if"]

/-- A letter or an underscore, then letters, digits and underscores. -/
def isPlain (name : String) : Bool :=
  match name.toList with
  | [] => false
  | c :: cs =>
    (Text.isLetter c || c == '_') &&
      cs.all fun c => Text.isLetter c || Text.isDigit c || c == '_'

/-- A name as it is written in a statement. -/
def ident (name : String) : String :=
  let lower := Text.lowerAscii name
  if !isPlain name then name
  else if lower != name || quotedWords.contains lower || forbiddenWords.contains lower then
    "\"" ++ name ++ "\""
  else name

/-- The schema of tables when none is named. -/
def defaultSchema : String := "public"

/-- A table in a schema. -/
def qualified (schema table : String) : String := ident schema ++ "." ++ ident table

end Sql

end TableMapper
