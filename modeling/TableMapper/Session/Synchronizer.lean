import TableMapper.Schema.Plan.Tables
import TableMapper.Session.CatalogQuery

/-!
# Synchronization

A table is synchronized by running the statements of its plan one by one.  A statement that fails is
reported, and the others are run all the same.

* `Synchronizer.plan` is the plan for a table.
* `Synchronizer.syncTable` runs it, `Synchronizer.sync` does so after the tables that the table
  refers to, and `Synchronizer.syncAll` takes several tables.
-/

namespace TableMapper

/-- What came of the synchronization of a table. -/
structure SyncReport where
  table : String
  /-- The table did not exist. -/
  created : Bool
  /-- The statements that were run with success, or planned in a dry run. -/
  statements : List String := []
  /-- The remarks of the plan. -/
  issues : List Issue := []
  /-- The statements that failed, by the objects that they were to change. -/
  errors : List Issue := []

namespace SyncReport

/-- No statement failed. -/
def isOk (r : SyncReport) : Bool := r.errors.isEmpty

/-- The table was as it is declared. -/
def isUnchanged (r : SyncReport) : Bool := !r.created && r.statements.isEmpty

/-- The report with a statement that was run or planned. -/
def addStatement (sql : String) (r : SyncReport) : SyncReport :=
  { r with statements := r.statements ++ [sql] }

/-- The report with a failure. -/
def addError (object message : String) (r : SyncReport) : SyncReport :=
  { r with errors := r.errors ++ [{ object, message }] }

/-- The report as lines of SQL: the statements, and comments for all else. -/
def lines (r : SyncReport) : List String :=
  ("-- " ++ r.table ++ if r.created then " (created)" else "") ::
    (r.statements.map (· ++ ";") ++ r.issues.map ("-- warning: " ++ ·.text) ++
      r.errors.map ("-- failed: " ++ ·.text))

end SyncReport

/-- What tables are synchronized with. -/
structure Synchronizer where
  schema : String
  /-- The tables that others may refer to. -/
  tables : Tables
  options : SyncOptions

namespace Synchronizer

variable {σ : Type} [Backend σ]

/-- The plan for a table, and whether the table has to be created. -/
def plan (y : Synchronizer) (t : TableDecl) : SessionM σ (Plan × Bool) := do
  let issues ← liftExcept t.validate
  let t := y.tables.effective t
  let live ← Catalog.load y.schema t.name
  return ({ issues } ++ Plan.table t live y.options, !live.present)

/-- Runs a step.  A failure is reported, unless it does not matter. -/
def runStep (y : Synchronizer) (table : String) (r : SyncReport) (step : Step) :
    SessionM σ SyncReport := do
  let sql := step.change.sql y.schema table
  if y.options.dryRun then return r.addStatement sql
  match ← (Session.query sql []).attempt with
  | .ok _ => return r.addStatement sql
  | .error e => return if step.bestEffort then r else r.addError step.object e.message

/-- Synchronizes a table. -/
def syncTable (y : Synchronizer) (t : TableDecl) : SessionM σ SyncReport := do
  let (plan, created) ← y.plan t
  plan.steps.foldlM (y.runStep t.name) { table := t.name, created, issues := plan.issues }

/-- Synchronizes a table after the tables that it refers to, whose failures are passed over. -/
def sync (y : Synchronizer) (t : TableDecl) : SessionM σ SyncReport := do
  for dep in y.tables.order [t] do
    if dep.name != t.name then
      let _ ← (y.syncTable dep).attempt
  y.syncTable t

/-- Synchronizes tables, each after those that it refers to, and gives what came of each. -/
def syncAll (y : Synchronizer) (ts : List TableDecl) :
    SessionM σ (List (Except Error SyncReport)) :=
  (y.tables.order ts).mapM fun t => (y.syncTable t).attempt

end Synchronizer

end TableMapper
