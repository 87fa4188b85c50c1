import TableMapper.Session.Statements
import TableMapper.Table.Rows

/-!
# Writing rows

Insertions, updates and deletions through the declaration of a table.  Rows are prepared before a
builder is taken, so a row that is refused leaves no trace.
-/

namespace TableMapper

/-- The options of a write. -/
structure WriteOptions where
  /-- The schema, when it is not that of the session. -/
  schema : Option String := none
  /-- The columns to return. -/
  returning : Option String := none
  notify : Notify := .off

/-- The clauses that the options of a write stand for. -/
def WriteOptions.clauses (o : WriteOptions) : List Clause :=
  (o.returning.map .returning).toList ++
    match o.notify with
    | .off => []
    | .immediate => [.trigger]
    | .onCommit => [.triggerCommit]

namespace Rows

variable {σ α : Type}

/-- Uses a builder for a table, in a schema or in that of the session. -/
def withBuilder (t : TableDecl) (schema : Option String) (m : BuilderM σ α) : SessionM σ α := do
  Session.withBuilder .pool t.name (schema.getD (← get).schema) .inUse m

/-- A row as it is written now. -/
def prepare (t : TableDecl) (inserting : Bool) (row : Row) : SessionM σ Row := do
  liftExcept (t.prepareRow (← get).supply.now inserting row)

/-- The row that an insertion has written: what it returned if that was asked for, and else the row
with its key. -/
def written (t : TableDecl) (o : WriteOptions) (row : Row) (r : WriteResult) : Row :=
  if o.returning.isSome then r.first?.getD []
  else
    match t.idColumn?, r.ids.head? with
    | some column, some id => row.insert column id
    | _, _ => row

/-- The error for an insertion that wrote nothing. -/
def nothingInserted (t : TableDecl) : Error :=
  .database ("insert into " ++ t.name ++ " affected no rows") none
    "Check constraints and ON CONFLICT rules on the table"

variable [Backend σ]

/-- Inserts a row, and gives the row that was written. -/
def insert (t : TableDecl) (row : Row) (o : WriteOptions) : SessionM σ Row := do
  let row ← prepare t true row
  let r ← withBuilder t o.schema do
    BuilderM.addAll o.clauses
    BuilderM.insert row
  if r.isEmpty then throw (nothingInserted t)
  return written t o row r

/-- Inserts rows in one statement. -/
def insertAll (t : TableDecl) (rows : List Row) (o : WriteOptions) : SessionM σ WriteResult := do
  let rows ← rows.mapM (prepare t true)
  withBuilder t o.schema do
    BuilderM.addAll o.clauses
    BuilderM.insertAll rows

/-- The data of an update as they are written now.  SQL text is left as it is. -/
def prepareUpdate (t : TableDecl) : UpdateData → SessionM σ UpdateData
  | .columns row => .columns <$> prepare t false row
  | .raw sql => return .raw sql

/-- Updates the rows that a condition holds of. -/
def update (t : TableDecl) (cond : Condition) (data : UpdateData) (o : WriteOptions) :
    SessionM σ WriteResult := do
  let data ← prepareUpdate t data
  withBuilder t o.schema do
    BuilderM.addAll o.clauses
    BuilderM.add (.filter cond)
    BuilderM.update data

/-- Deletes the rows that a condition holds of. -/
def delete (t : TableDecl) (cond : Condition) (o : WriteOptions) : SessionM σ WriteResult :=
  withBuilder t o.schema do
    BuilderM.addAll o.clauses
    BuilderM.add (.filter cond)
    BuilderM.delete

end Rows

end TableMapper
