import TableMapper.Coercion
import TableMapper.Session.Basic

/-!
# Running statements

Each terminal of a builder renders one statement, which empties the draft, and sends it to the
target of the builder.

* `BuilderM.preview` is the statement that a terminal would send.
* `BuilderM.read` and the functions after it run queries.
* `BuilderM.write` runs an insertion, an update or a deletion, and tells the handlers of the table
  if they are to hear of it.
-/

namespace TableMapper

variable {σ : Type}

namespace BuilderM

/-- Adds clauses to the statement. -/
def addAll (clauses : List Clause) : BuilderM σ Unit := WithinM.modifyOwn (·.addAll clauses)

/-- Adds a clause to the statement. -/
def add (c : Clause) : BuilderM σ Unit := addAll [c]

/-- Completes the draft for a terminal, and gives the keys of the rows that it inserts. -/
def prepare (t : Terminal) : BuilderM σ (List Json) :=
  fun (b, s) =>
    let (b, ids, supply) := b.prepare t s.supply
    (.ok ids, (b, { s with supply }))

/-- Renders the statement, and empties the draft. -/
def take : BuilderM σ Statement := fun (b, s) => let (r, b) := b.take; (r, (b, s))

/-- The statement of a terminal, which is not run. -/
def preview (t : Terminal) : BuilderM σ Statement := do
  let _ ← prepare t
  take

variable [Backend σ]

/-- Sends a statement to the target of the builder. -/
def execute (st : Statement) : BuilderM σ QueryOutput := do
  let b ← WithinM.own
  (Session.send b.target st.sql st.args).within

/-- Sends a statement that the builder did not collect.  What it collected is forgotten. -/
def query (sql : String) (args : List Value) : BuilderM σ QueryOutput := do
  WithinM.modifyOwn (·.modifyDraft fun _ => {})
  execute { sql, args }

/-! ### Queries -/

/-- Runs a terminal that reads. -/
def read (t : Terminal) : BuilderM σ QueryOutput := do execute (← preview t)

/-- The rows of a query. -/
def select : BuilderM σ (List Row) := return (← read .select).rows

/-- The first row of a query. -/
def get? : BuilderM σ (Option Row) := return (← read .get).rows.head?

/-- The result of an aggregate. -/
def total? (out : QueryOutput) : Option Json := out.rows.head?.bind (·.get? "total")

/-- A number of rows, as a number or as text; none counts as zero. -/
def countOf : Option Json → Int
  | some (.int n) => if n < Nat.pow 2 63 then n else 0
  | some (.string text) => (Text.integer64? text).getD 0
  | _ => 0

/-- The number of rows. -/
def count : BuilderM σ Int := return countOf (total? (← read (.aggregate "count" "*")))

/-- An aggregate over a column, in the wanted form. -/
def aggregate (function field : String) (form : Option Coercion) : BuilderM σ Json := do
  let value := (total? (← read (.aggregate function field))).getD .null
  return match form with
    | some c => c.apply value
    | none => value

/-! ### Writes -/

/-- Tells the handlers of a table of an event: at once, or when the transaction commits. -/
def announce (mode : Notify) (e : TableEvent) : BuilderM σ Unit := do
  match (← WithinM.own).queue, mode with
  | some n, .onCommit =>
    modify fun (b, s) => (b, s.modifyBranch n fun br => { br with queue := br.queue ++ [e] })
  | _, _ => (Session.emit e).within

/-- The event of a write by a builder, which is bound to a table. -/
def event? (b : Builder) (kind : EventKind) (sql : String) (r : WriteResult) :
    Option TableEvent :=
  b.table.map fun table => { schema := b.schemaName, table, kind, sql, data := r.toJson }

/-- Runs a terminal that writes.  Handlers hear of the write when that was asked for since the
last one. -/
def write (t : Terminal) (kind : EventKind) : BuilderM σ WriteResult := do
  let ids ← prepare t
  let b ← WithinM.own
  WithinM.modifyOwn fun b => { b with notify := .off }
  let st ← take
  let out ← execute st
  let r : WriteResult := { count := out.rowCount, rows := out.rows, ids }
  match b.notify, event? b kind st.sql r with
  | .off, _ => pure ()
  | _, none => pure ()
  | mode, some e => announce mode e
  return r

/-- Inserts a row. -/
def insert (row : Row) : BuilderM σ WriteResult := write (.insert row) .insert

/-- Inserts rows in one statement. -/
def insertAll (rows : List Row) : BuilderM σ WriteResult := write (.insertAll rows) .insert

/-- Updates rows. -/
def update (data : UpdateData) : BuilderM σ WriteResult := write (.update data) .update

/-- Deletes rows. -/
def delete : BuilderM σ WriteResult := write .delete .delete

end BuilderM

end TableMapper
