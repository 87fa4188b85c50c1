import TableMapper.Condition
import TableMapper.Sql.ArrayLiteral
import TableMapper.Sql.Identifier
import TableMapper.Sql.Fragment
import TableMapper.Table.Decl
import TableMapper.Text.Letter

/-!
# Values and conditions as fragments

Values are written in the way that the declared type of their column asks for.

* `Operator.canonical?` accepts the operators that a condition may name, in any case and spacing.
* `Filter.columnValue` is the fragment of a value that is compared with a column or written to it.
* `Filter.fragment?` is the fragment of a condition, if it requires anything.
-/

namespace TableMapper

namespace Operator

/-- The operators that a condition may name. -/
def all : List String :=
  ["=", "!=", "<>", "<", "<=", ">", ">=", "LIKE", "ILIKE", "NOT LIKE", "NOT ILIKE", "SIMILAR TO",
    "NOT SIMILAR TO", "IS", "IS NOT", "~", "~*", "!~", "!~*", "@>", "<@", "&&"]

/-- The operators whose right-hand side is a pattern, which is never cast to the type of the
column. -/
def patterns : List String :=
  ["LIKE", "ILIKE", "NOT LIKE", "NOT ILIKE", "SIMILAR TO", "NOT SIMILAR TO", "~", "~*", "!~",
    "!~*"]

/-- The operator in capitals and with single blanks, if it is one.  All operators are ASCII, so a
character without an ASCII capital is in none. -/
def canonical? (operator : String) : Option String := do
  let capitals ← (" ".intercalate (Text.words operator)).toList.mapM Text.upperAscii?
  let name := String.ofList capitals
  if all.contains name then some name else none

/-- The value on the right is cast to the type of the column. -/
def castsValue (canonical : String) : Bool := !patterns.contains canonical

end Operator

namespace Filter

/-- Types of text, whose placeholders take no cast: a declared length never cuts a value. -/
def uncast : List String :=
  ["varchar", "character varying", "char", "character", "text", "citext", "name", ""]

/-- The cast of a placeholder for a column of a type, which is in lower case. -/
def placeholderCast? (type : String) : Option String :=
  match Text.before? "[]" type with
  | some element => some (Text.trim (Text.beforeFirst '(' element) ++ "[]")
  | none =>
    let base := Text.trim (Text.beforeFirst '(' type)
    if uncast.contains base then none
    else if ["serial", "int", "int4"].contains base then some "integer"
    else if base == "bigserial" then some "bigint"
    else if base == "smallserial" then some "smallint"
    else some base

/-- The name of a column without its table and quotation marks. -/
def bareName (column : String) : String :=
  let quote (c : Char) : Bool := c == '"'
  String.ofList
    (Text.dropEndWhile quote (Text.dropStartWhile quote (Text.afterLast '.' column).toList))

/-- The value as a column of a type takes it: arrays become array literals, and documents text
unless the placeholder is cast. -/
def adapt (type : String) : Value → Value
  | .json (.array items) =>
    if Text.endsWith "[]" type then .text (Sql.arrayLiteral items)
    else if (placeholderCast? type).isNone then .text (Json.array items).render
    else .json (.array items)
  | .json d => if (placeholderCast? type).isNone then .text d.render else .json d
  | v => v

/-- A value for a column.  It has a type when the column is declared. -/
def columnValue (decl : Option TableDecl) (column : String) (v : Value) (castable : Bool) :
    Fragment :=
  match decl.bind (·.column? (bareName column)) with
  | none => [.untyped v]
  | some c =>
    let type := Text.lowerAscii (Text.trim c.type)
    [.value (adapt type v) (if castable then placeholderCast? type else none)]

/-- A column in a relation to a value. -/
def relation (decl : Option TableDecl) (key operator : String) (v : Value) :
    Except String Fragment :=
  match Operator.canonical? operator with
  | none => .error ("unsupported operator '" ++ operator ++ "' on " ++ key)
  | some op =>
    .ok (.sql (Sql.ident key ++ " " ++ op ++ " ") ::
      columnValue decl key v (Operator.castsValue op))

/-- The fragment of an entry of a condition, if it requires anything. -/
def entry? (decl : Option TableDecl) (key : String) : Comparison → Except String (Option Fragment)
  | .eq .null => .ok (some (.ofText (Sql.ident key ++ " IS NULL")))
  | .eq v => .ok (some (.sql (Sql.ident key ++ " = ") :: columnValue decl key v true))
  | .among [] => .ok (some (.ofText "FALSE"))
  | .among values =>
    .ok (some (.sql (Sql.ident key ++ " IN (") ::
      (Fragment.join "," (values.map fun v => columnValue decl key v true) ++ [.sql ")"])))
  | .ops [] => .ok none
  | .ops relations => do
    let parts ← relations.mapM fun (op, v) => relation decl key op v
    return some (Fragment.join " AND " parts)
  | .raw args => (Template.expand key args).map some

/-- The fragment of a condition, if it requires anything. -/
def fragment? (decl : Option TableDecl) (c : Condition) : Except String (Option Fragment) :=
  if c.isEmpty then .ok none
  else
    match c with
    | .template sql args => (Template.expand sql args).map some
    | .entries es => do
      let parts := (← es.mapM fun (key, v) => entry? decl key v).filterMap id
      return if parts.isEmpty then none else some (Fragment.join " AND " parts)

end Filter

end TableMapper
