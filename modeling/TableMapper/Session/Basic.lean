import TableMapper.Builder.Terminal
import TableMapper.Schema.References
import TableMapper.Session.BuilderPool
import TableMapper.Session.Journal

/-!
# Sessions

A session holds a database, the registered tables and their handlers, the pools of builders and the
open transactions.

* `Backend` is what a database has to offer, `Session` the state of a session over one.
* `SessionM` is a computation in a session that may fail, and `WithinM` one that has a state of its
  own besides.  A failure keeps both states.
* `Session.send`, `Session.connect` and `Session.release` use the database, and note it in the
  journal.
* `Session.emit` delivers an event.
-/

namespace TableMapper

/-- A database, with states of type `σ`. -/
class Backend (σ : Type) where
  /-- Answers a statement. -/
  answer : Target → String → List Value → σ → Except Error QueryOutput × σ
  /-- Hands out a connection. -/
  connect : σ → Except Error Unit × σ

/-- A transaction that is open, or whose builders are still in use. -/
structure Branch where
  /-- The builders that run on its connection. -/
  pool : BuilderPool
  /-- The events that wait for the commit. -/
  queue : List TableEvent := []

/-- The rows of a page, unless it is said otherwise. -/
def Session.defaultPageSize : Nat := 60

/-- The state of a session. -/
structure Session (σ : Type) where
  database : σ
  journal : Journal := []
  /-- How many connections were checked out. -/
  connections : Nat := 0
  /-- What keys and tags are made of. -/
  supply : IdSupply
  /-- The schema of tables that name none. -/
  schema : String := Sql.defaultSchema
  /-- The rows of a page, where the table does not say. -/
  pageSize : Nat := Session.defaultPageSize
  tables : Tables := []
  /-- The handlers with their tables, in the order of registration. -/
  handlers : List (String × Handler) := []
  /-- The builders outside of transactions. -/
  pool : BuilderPool := {}
  /-- The transactions by the numbers of their connections. -/
  branches : List (Nat × Branch) := []
  /-- Builders that are kept for several calls, by name. -/
  leases : List (String × Builder) := []

/-- A computation in a session. -/
abbrev SessionM (σ : Type) := ExceptT Error (StateM (Session σ))

/-- A computation in a session with a state of its own. -/
abbrev WithinM (τ σ : Type) := ExceptT Error (StateM (τ × Session σ))

variable {σ τ α : Type}

/-- The computation beside a state that it leaves as it is. -/
def SessionM.within (m : SessionM σ α) : WithinM τ σ α :=
  fun (t, s) => let (r, s) := m s; (r, (t, s))

namespace WithinM

/-- The state of its own. -/
def own : WithinM τ σ τ := fun (t, s) => (.ok t, (t, s))

/-- Changes the state of its own. -/
def modifyOwn (f : τ → τ) : WithinM τ σ Unit := fun (t, s) => (.ok (), (f t, s))

/-- Runs the computation from a state of its own: its result and the last state, in the session. -/
def runFrom (t : τ) (m : WithinM τ σ α) : SessionM σ (Except Error α × τ) :=
  fun s => let (r, (t, s)) := m (t, s); (.ok (r, t), s)

end WithinM

/-- The result of a computation, be it a failure. -/
def SessionM.attempt (m : SessionM σ α) : SessionM σ (Except Error α) :=
  fun s => let (r, s) := m s; (.ok r, s)

namespace Session

/-- Adds to the journal. -/
def note (deeds : Journal) : SessionM σ Unit :=
  modify fun s => { s with journal := s.journal ++ deeds }

/-- Takes what the journal has so far out of it. -/
def takeJournal : SessionM σ Journal :=
  modifyGet fun s => (s.journal, { s with journal := [] })

/-! ### The database -/

/-- Sends a statement. -/
def send [Backend σ] (target : Target) (sql : String) (args : List Value) :
    SessionM σ QueryOutput :=
  fun s =>
    let (answer, database) := Backend.answer target sql args s.database
    (answer, { s with database, journal := s.journal ++ [.sent target sql args] })

/-- Runs a statement on any connection. -/
def query [Backend σ] (sql : String) (args : List Value) : SessionM σ QueryOutput :=
  send .pool sql args

/-- Checks out a connection, and gives its number. -/
def connect [Backend σ] : SessionM σ Nat :=
  fun s =>
    match Backend.connect s.database with
    | (.ok (), database) =>
      let number := s.connections + 1
      (.ok number,
        { s with database, connections := number, journal := s.journal ++ [.connected number] })
    | (.error e, database) => (.error e, { s with database })

/-- Gives a connection back. -/
def release (number : Nat) : SessionM σ Unit := note [.released number]

/-! ### Events -/

/-- The handlers of a table, in order. -/
def handlersOf (s : Session σ) (table : String) : List Handler :=
  (s.handlers.filter fun h => h.1 == table).map (·.2)

/-- Delivers an event to the handlers of its table. -/
def emit (e : TableEvent) : SessionM σ Unit := do
  note (Handler.deliver ((← get).handlersOf e.table) e)

/-- Delivers events one after the other. -/
def emitAll (events : List TableEvent) : SessionM σ Unit := events.forM emit

/-! ### Builders -/

/-- The transaction on a connection. -/
def branch? (s : Session σ) (number : Nat) : Option Branch := s.branches.lookup number

/-- The session with a transaction changed. -/
def modifyBranch (number : Nat) (f : Branch → Branch) (s : Session σ) : Session σ :=
  { s with branches := s.branches.map fun b => if b.1 = number then (b.1, f b.2) else b }

/-- The pool whose builders run on a target. -/
def poolOf (s : Session σ) : Target → BuilderPool
  | .pool => s.pool
  | .connection n => ((s.branch? n).map (·.pool)).getD s.pool

/-- The session with the pool of a target replaced. -/
def setPool (target : Target) (p : BuilderPool) (s : Session σ) : Session σ :=
  match target with
  | .pool => { s with pool := p }
  | .connection n => s.modifyBranch n fun b => { b with pool := p }

/-- Takes a builder that runs on a target, bound to a table. -/
def acquire (target : Target) (table schema : String) (state : Lifecycle) : SessionM σ Builder :=
  fun s =>
    let (b, pool, random) := (s.poolOf target).take s.supply.random
    let s := { s.setPool target pool with supply := s.supply.withRandom random }
    (.ok (b.bind table schema (s.tables.get? table) state), s)

/-- Gives a builder back to the pool that it came from. -/
def giveBack (b : Builder) : SessionM σ Unit :=
  modify fun s => s.setPool b.target ((s.poolOf b.target).put b)

end Session

/-- A computation with a builder. -/
abbrev BuilderM (σ : Type) := WithinM Builder σ

namespace Session

/-- Uses a builder that is taken for the time of the computation. -/
def withBuilder (target : Target) (table schema : String) (state : Lifecycle) (m : BuilderM σ α) :
    SessionM σ α := do
  let b ← acquire target table schema state
  let (r, b) ← m.runFrom b
  giveBack b
  liftExcept r

/-! ### Builders kept by name -/

/-- The builder kept under a name. -/
def lease? (s : Session σ) (name : String) : Option Builder := s.leases.lookup name

/-- The session with a builder kept under a name. -/
def setLease (name : String) (b : Builder) (s : Session σ) : Session σ :=
  { s with leases := (name, b) :: s.leases.filter (·.1 != name) }

/-- Keeps a builder under a name.  One kept there before is given back. -/
def keep (name : String) (b : Builder) : SessionM σ Unit := do
  let old := (← get).lease? name
  modify (·.setLease name b)
  match old with
  | some old => giveBack old
  | none => pure ()

/-- Gives back the builder kept under a name, and tells whether there was one. -/
def free (name : String) : SessionM σ Bool := do
  match (← get).lease? name with
  | none => return false
  | some b =>
    modify fun s => { s with leases := s.leases.filter (·.1 != name) }
    giveBack b
    return true

/-- Uses the builder kept under a name, if there is one. -/
def withLease? (name : String) (m : BuilderM σ α) : SessionM σ (Option α) := do
  match (← get).lease? name with
  | none => return none
  | some b =>
    let (r, b) ← m.runFrom b
    modify (·.setLease name b)
    some <$> liftExcept r

end Session

end TableMapper
