import TableMapper.Session.Synchronizer

/-!
# The registry of a session

Tables, handlers and settings of a session, and what is done for all of its tables.
-/

namespace TableMapper

namespace Session

variable {σ : Type}

/-! ### Settings -/

/-- Changes the schema of tables that name none. -/
def setSchema (name : String) : SessionM σ Unit := modify fun s => { s with schema := name }

/-- Changes the bound of the pool of builders. -/
def setMaxPool (max : Nat) : SessionM σ Unit :=
  modify fun s => { s with pool := s.pool.setMax max }

/-- Closes the database, and drops the idle builders. -/
def close : SessionM σ Unit := do
  modify fun s => { s with pool := s.pool.drain.2 }
  note [.closed]

/-! ### Tables -/

/-- Registers a declaration, in place of one of the same name. -/
def register (t : TableDecl) : SessionM σ Unit :=
  modify fun s => { s with tables := Tables.put t s.tables }

/-- The registered tables, by name. -/
def sortedTables (s : Session σ) : List TableDecl :=
  s.tables.mergeSort fun t u => t.name ≤ u.name

/-- The names of the registered tables, sorted. -/
def tableNames (s : Session σ) : List String := s.sortedTables.map (·.name)

/-! ### Handlers -/

/-- Registers a handler for the events of a table. -/
def listen (table : String) (h : Handler) : SessionM σ Unit :=
  modify fun s => { s with handlers := s.handlers ++ [(table, h)] }

/-- A table has handlers. -/
def hasHandlers (s : Session σ) (table : String) : Bool := !(s.handlersOf table).isEmpty

/-- Removes the handlers of a table, and tells whether there were any. -/
def removeHandlers (table : String) : SessionM σ Bool := do
  let found := (← get).hasHandlers table
  modify fun s => { s with handlers := s.handlers.filter (·.1 != table) }
  return found

/-- Runs computations one after the other, whatever comes of each, and counts the successes. -/
def runHooks (hooks : List (SessionM σ Unit)) : SessionM σ Nat := do
  let results ← hooks.mapM (·.attempt)
  return results.countP fun
    | .ok _ => true
    | .error _ => false

/-! ### Schema -/

/-- What tables are synchronized with now. -/
def synchronizer (s : Session σ) (options : SyncOptions) : Synchronizer :=
  { schema := s.schema, tables := s.tables, options }

variable [Backend σ]

/-- Makes the schema of the session the first one in which the database looks for tables. -/
def applySearchPath : SessionM σ Unit := do
  let _ ← query ("SET search_path TO " ++ Sql.ident (← get).schema) []

/-- Creates a schema unless it exists. -/
def createSchema (name : String) : SessionM σ Unit := do
  let _ ← query ("CREATE SCHEMA IF NOT EXISTS " ++ Sql.ident name) []

/-- Synchronizes a table. -/
def syncTable (t : TableDecl) (o : SyncOptions) : SessionM σ SyncReport := do
  ((← get).synchronizer o).sync t

/-- Synchronizes a registered table. -/
def sync (table : String) (o : SyncOptions) : SessionM σ SyncReport := do
  match (← get).tables.get? table with
  | none => throw (.usage ("table '" ++ table ++ "' is not registered"))
  | some t => syncTable t o

/-- Synchronizes all registered tables. -/
def syncAll (o : SyncOptions) : SessionM σ (List (Except Error SyncReport)) := do
  let s ← get
  (s.synchronizer o).syncAll s.sortedTables

end Session

end TableMapper
