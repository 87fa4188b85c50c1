import TableMapper.Error
import TableMapper.Schema.TypeName
import TableMapper.Table.Decl
import TableMapper.Text.Search
import TableMapper.Time.Calendar

/-!
# Rows of a table

What a row goes through before it is written.

* `TableDecl.checkRow` removes or refuses the columns that the table does not have.
* `TableDecl.validateRow` runs the validators of the columns.
* `TableDecl.stamp` fills in the columns for timestamps.
* `TableDecl.prepareRow` does all three.
-/

namespace TableMapper

namespace TableDecl

/-- The table has a column of this name, and keeps it. -/
def keeps (t : TableDecl) (name : String) : Bool := (t.column? name).any (!·.drop)

/-- The table takes a value under this name.  An SQL expression for a column stands under the name
of the column after `@`. -/
def takes (t : TableDecl) (key : String) : Bool := t.keeps ((Text.after? "@" key).getD key)

/-- The row, when the table takes all its names.  Others are removed if `quiet`, and refused
otherwise. -/
def checkRow (t : TableDecl) (row : Row) (quiet : Bool) : Except Error Row :=
  let unknown := row.names.filter (!t.takes ·)
  if unknown.isEmpty then .ok row
  else if quiet then .ok (row.filter fun m => t.takes m.1)
  else
    .error (.invalidInput ("unknown columns for " ++ t.name ++ ": " ++ ", ".intercalate unknown))

/-- Why the value of a column is refused, if it is. -/
def refusal? (t : TableDecl) (column : String) (value : Json) : Option String :=
  ((t.column? column).bind (·.validator)).bind (·.check value)

/-- Refuses a row for the first value that a validator refuses. -/
def validateRow (t : TableDecl) (row : Row) : Except Error Unit :=
  match row.findSome? fun m => (t.refusal? m.1 m.2).map (m.1, ·) with
  | some (column, reason) => .error (.invalidInput (t.name ++ "." ++ column ++ ": " ++ reason))
  | none => .ok ()

/-! ### Timestamps -/

/-- A time, in milliseconds since 1970, as a column of a base type holds it. -/
def timeValue (base : String) (now : Int) : Json :=
  let c := Calendar.ofMillis now
  if ["bigint", "int8"].contains base then .int now
  else if ["int", "integer", "int4"].contains base then .int (now / 1000)
  else if ["timestamptz", "timestamp with time zone"].contains base then .string c.rfc3339
  else .string (c.date ++ " " ++ c.clock ++ "." ++ Text.padded 3 (c.micros / 1000))

/-- The row with the time in a column, unless the row says something about the column. -/
def stampColumn (t : TableDecl) (now : Int) (row : Row) (column : String) : Row :=
  if row.names.contains column || row.names.contains ("@" ++ column) then row
  else
    let base := ((t.column? column).map fun c => TypeName.base c.type).getD ""
    row.insert column (timeValue base now)

/-- The columns that a write sets to the time. -/
def stamped (t : TableDecl) (inserting : Bool) : List String :=
  match t.timestamps with
  | none => []
  | some s => (if inserting then s.create.toList else []) ++ s.update.toList

/-- The row with its timestamps. -/
def stamp (t : TableDecl) (now : Int) (inserting : Bool) (row : Row) : Row :=
  (t.stamped inserting).foldl (t.stampColumn now) row

/-- The row as it is written: without unknown columns, valid, and with its timestamps. -/
def prepareRow (t : TableDecl) (now : Int) (inserting : Bool) (row : Row) : Except Error Row := do
  let row ← t.checkRow row true
  t.validateRow row
  return t.stamp now inserting row

end TableDecl

end TableMapper
