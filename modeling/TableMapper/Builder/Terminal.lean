import TableMapper.Builder.Basic

/-!
# Statements of builders

* `Terminal` is a call that ends the collection of a statement.
* `Builder.prepare` completes the draft for it, filling in keys on the way.
* `Builder.take` renders the statement and clears the draft, also when rendering fails.
-/

namespace TableMapper

/-- A call that ends the collection of a statement. -/
inductive Terminal where
  | select
  | get
  | insert (row : Row)
  | insertAll (rows : List Row)
  | update (data : UpdateData)
  | delete
  | aggregate (function field : String)

namespace Builder

/-! ### Keys -/

/-- The row with a key, if its key is missing and one can be made. -/
def fillId (column : String) (strategy : Option IdStrategy) (row : Row) (supply : IdSupply) :
    Row × IdSupply :=
  if ((row.get? column).getD .null).isNull then
    match strategy.map (·.generate supply) with
    | some (some id, supply) => (row.insert column id, supply)
    | some (none, supply) => (row, supply)
    | none => (row, supply)
  else (row, supply)

/-- The rows with their keys filled in, in order. -/
def fillIdsIn (column : String) (strategy : Option IdStrategy) :
    List Row → IdSupply → List Row × IdSupply
  | [], supply => ([], supply)
  | row :: rows, supply =>
    let (row, supply) := fillId column strategy row supply
    let (rows, supply) := fillIdsIn column strategy rows supply
    (row :: rows, supply)

/-- The keys that rows carry. -/
def idsOf (column : String) (rows : List Row) : List Json :=
  rows.filterMap fun row => (row.get? column).filter (!·.isNull)

/-- Fills in the keys of rows, and gives the keys that they carry then. -/
def fillIds (b : Builder) (rows : List Row) (supply : IdSupply) :
    List Row × List Json × IdSupply :=
  match b.decl.bind fun d => d.idColumn?.map (d, ·) with
  | none => (rows, [], supply)
  | some (d, column) =>
    let (rows, supply) := fillIdsIn column d.idStrategy? rows supply
    (rows, idsOf column rows, supply)

/-! ### Preparation -/

/-- The columns of rows, each once, in the order in which they appear. -/
def columnsOf (rows : List Row) : List String := (rows.flatMap (·.names)).eraseDups

/-- The cell of a row under a column. -/
def cell (b : Builder) (row : Row) (column : String) : Fragment :=
  match row.get? column with
  | some v => Filter.columnValue b.decl column (Value.ofJson v) true
  | none => .ofText "DEFAULT"

/-- The tuple of a row. -/
def tuple (b : Builder) (columns : List String) (row : Row) : Fragment :=
  .sql "(" :: (Fragment.join "," (columns.map (b.cell row)) ++ [.sql ")"])

/-- The columns and tuples of an insertion. -/
def valuesFragment (b : Builder) (columns : List String) (rows : List Row) : Fragment :=
  .sql ("(" ++ ",".intercalate (columns.map Sql.ident) ++ ") VALUES ") ::
    Fragment.join "," (rows.map (b.tuple columns))

/-- The draft of an insertion of rows whose keys are filled in. -/
def insertion (b : Builder) (rows : List Row) (command : Command) : Draft :=
  let d := { b.draft with command := some command }
  let columns := columnsOf rows
  if columns.isEmpty then
    if command = .insert then { d with values := Fragment.ofText "DEFAULT VALUES" }
    else d.fail "insert_all rows carry no columns"
  else { d with values := b.valuesFragment columns rows }

/-- Prepares an insertion, which needs rows, and gives the keys of the rows. -/
def prepareInsert (b : Builder) (rows : List Row) (command : Command) (supply : IdSupply) :
    Builder × List Json × IdSupply :=
  if rows.isEmpty then
    (b.modifyDraft fun d =>
      ({ d with command := some command }).fail
        (command.name ++ " requires a non-empty list of rows"), [], supply)
  else
    let (rows, ids, supply) := b.fillIds rows supply
    ({ b with draft := b.insertion rows command }, ids, supply)

/-- The assignment of a value to a column.  A name after `@` has an SQL expression. -/
def assignment (b : Builder) (member : String × Json) : Fragment :=
  match Text.after? "@" member.1 with
  | some column =>
    let expression := match member.2 with
      | .string s => s
      | other => other.render
    .ofText (Sql.ident column ++ " = " ++ expression)
  | none =>
    .sql (Sql.ident member.1 ++ " = ") ::
      Filter.columnValue b.decl member.1 (Value.ofJson member.2) true

/-- The SET list of an update. -/
def assignments (b : Builder) : UpdateData → Fragment
  | .raw sql => .ofText sql
  | .columns data => Fragment.join "," (data.map b.assignment)

/-- Prepares an update, which needs something to write. -/
def prepareUpdate (b : Builder) (data : UpdateData) : Builder :=
  b.modifyDraft fun d =>
    let d := { d with command := some .update }
    if data.isEmpty then d.fail "update requires at least one column"
    else { d with values := b.assignments data }

/-- Prepares a query.  Without columns of its own it reads those that the declaration selects. -/
def prepareSelect (b : Builder) (command : Command) : Builder :=
  b.modifyDraft fun d =>
    { d with
      command := some command
      fields :=
        if d.fields.isEmpty then (b.decl.bind (·.selectFields)).getD [] else d.fields }

/-- The aggregate functions. -/
def aggregates : List String := ["count", "avg", "min", "max", "sum"]

/-- Prepares an aggregate over a column, or over all of them. -/
def prepareAggregate (b : Builder) (function field : String) : Builder :=
  b.modifyDraft fun d =>
    let d := { d with command := some .select }
    if aggregates.contains function then
      let expression := if field == "*" then "*" else Sql.ident field
      { d with fields := [function ++ "(" ++ expression ++ ") AS total"] }
    else d.fail ("unsupported aggregate '" ++ function ++ "'")

/-- Prepares the statement for a terminal, and gives the keys of the rows that it inserts. -/
def prepare (b : Builder) (t : Terminal) (supply : IdSupply) : Builder × List Json × IdSupply :=
  match t with
  | .select => (b.prepareSelect .select, [], supply)
  | .get => (b.prepareSelect .get, [], supply)
  | .insert row => b.prepareInsert [row] .insert supply
  | .insertAll rows => b.prepareInsert rows .insertAll supply
  | .update data => (b.prepareUpdate data, [], supply)
  | .delete => (b.modifyDraft fun d => { d with command := some .delete }, [], supply)
  | .aggregate function field => (b.prepareAggregate function field, [], supply)

/-! ### Rendering -/

/-- The statement that was collected. -/
def statement (b : Builder) : Except Error Statement :=
  match b.table with
  | none => .error (.usage "no table bound to this builder")
  | some table => b.draft.render b.schema table b.binding b.tag

/-- The statement that was collected, and the builder with an empty draft. -/
def take (b : Builder) : Except Error Statement × Builder := (b.statement, { b with draft := {} })

end Builder

end TableMapper
