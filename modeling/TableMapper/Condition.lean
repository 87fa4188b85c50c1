import TableMapper.Value
import TableMapper.Text.Letter
import TableMapper.Text.Search

/-!
# Conditions and updates

* `Condition` is what rows are filtered by: a template with markers for its arguments, or a list of
  entries that must all hold.
* `Condition.ofJson` reads one from a JSON value.
* `UpdateData` is what an update writes.
-/

namespace TableMapper

/-- The right-hand side of an entry of a condition. -/
inductive Comparison where
  /-- The column equals the value, or is NULL. -/
  | eq (value : Value)
  /-- The column is one of the values. -/
  | among (values : List Value)
  /-- The column stands in each relation to its value. -/
  | ops (relations : List (String × Value))
  /-- The key is an expression of its own, with these arguments for its markers. -/
  | raw (arguments : List Value)

/-- A filter of rows. -/
inductive Condition where
  /-- SQL text in which each `?` stands for one argument. -/
  | template (sql : String) (arguments : List Value)
  /-- Entries that must all hold. -/
  | entries (entries : List (String × Comparison))

namespace Condition

/-- The condition without entries. -/
def empty : Condition := .entries []

/-- Appends an entry; a template takes none. -/
def push (key : String) (value : Comparison) : Condition → Condition
  | .template sql args => .template sql args
  | .entries es => .entries (es ++ [(key, value)])

/-- Requires the column to equal a value. -/
def eq (column : String) (value : Value) (c : Condition) : Condition := c.push column (.eq value)

/-- Requires the column to be one of some values. -/
def isIn (column : String) (values : List Value) (c : Condition) : Condition :=
  c.push column (.among values)

/-- Requires the column to stand in a relation to a value. -/
def op (column operator : String) (value : Value) (c : Condition) : Condition :=
  c.push column (.ops [(operator, value)])

/-- Requires an expression. -/
def raw (expression : String) (arguments : List Value) (c : Condition) : Condition :=
  c.push expression (.raw arguments)

/-- Nothing is required: a blank template, or no entries. -/
def isEmpty : Condition → Bool
  | .template sql _ => Text.isBlankText sql
  | .entries es => es.isEmpty

/-- The expression in a key written in square brackets. -/
def bracketed? (key : String) : Option String := (Text.after? "[" key).bind (Text.before? "]")

/-- The arguments of an expression, from the value under its key. -/
def argumentsOf : Json → List Value
  | .array items => items.map Value.ofJson
  | .null => []
  | other => [Value.ofJson other]

/-- The comparison that the value under a column's name stands for: a list of values, a map of
operators, or equality. -/
def comparisonOf : Json → Comparison
  | .array items => .among (items.map Value.ofJson)
  | .object ops => .ops (ops.map fun (op, v) => (op, Value.ofJson v))
  | other => .eq (Value.ofJson other)

/-- The entry for one member of a condition map. -/
def entryOf (member : String × Json) : String × Comparison :=
  match bracketed? member.1 with
  | some expression => (expression, .raw (argumentsOf member.2))
  | none => (member.1, comparisonOf member.2)

/-- The condition of a map. -/
def ofRow (row : Row) : Condition := .entries (row.map entryOf)

/-- The condition of a JSON value: a map, or a template without arguments; anything else requires
nothing. -/
def ofJson : Json → Condition
  | .object ms => ofRow ms
  | .string sql => .template sql []
  | _ => empty

end Condition

/-- What an update writes. -/
inductive UpdateData where
  /-- The text of the SET list. -/
  | raw (sql : String)
  /-- The columns with their new values; a name that starts with `@` has an SQL expression for its
  value. -/
  | columns (data : Row)

namespace UpdateData

/-- Nothing is written. -/
def isEmpty : UpdateData → Bool
  | .raw sql => Text.isBlankText sql
  | .columns data => data.isEmpty

/-- The update of a JSON value; anything but an object or a string writes nothing. -/
def ofJson : Json → UpdateData
  | .object ms => .columns ms
  | .string sql => .raw sql
  | _ => .columns []

end UpdateData

end TableMapper
