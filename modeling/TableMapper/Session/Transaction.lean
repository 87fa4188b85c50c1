import TableMapper.Session.Basic

/-!
# Transactions

A transaction checks a connection out, sends BEGIN on it and runs a body whose builders send their
statements there.  It commits when the body returned and was not marked as failed, and is rolled
back otherwise.  Events that wait for the commit are delivered after it, in order, and forgotten
when there is none.

* `Verdict` is what the body says about the transaction besides its result, `Outcome` what the
  transaction comes to.
* `Transaction.begin` and `Transaction.settle` are the parts before and after the body.
* `Session.transaction` is the whole.
-/

namespace TableMapper

/-- What the body of a transaction says about it. -/
structure Verdict (α : Type) where
  /-- The body marked the transaction as failed. -/
  failed : Bool := false
  message : Option String := none
  /-- The result of the transaction, in place of what the body returns. -/
  result : Option α := none

/-- What a transaction comes to. -/
structure Outcome (α : Type) where
  /-- It has committed. -/
  ok : Bool
  result : Option α := none
  message : Option String := none
  error : Option Error := none

namespace Outcome

variable {α : Type}

/-- The outcome of a transaction that did not commit. -/
def failure (message : String) (error : Option Error) : Outcome α :=
  { ok := false, message := some message, error }

/-- The result, or the error that stands for the failure. -/
def toExcept (o : Outcome α) : Except Error (Option α) :=
  if o.ok then .ok o.result
  else
    match o.error with
    | some e => .error e
    | none => .error (.transaction (o.message.getD "transaction rolled back"))

end Outcome

/-- An open transaction. -/
structure Transaction where
  /-- The number of its connection. -/
  number : Nat
  /-- The schema of tables that name none. -/
  schema : String
  /-- The table of builders that name none. -/
  table : Option String

/-- The body of a transaction, whose results are of type `α`. -/
abbrev TransactionM (α σ : Type) := WithinM (Verdict α) σ

variable {σ α β : Type}

namespace TransactionM

/-- Marks the transaction as failed. -/
def fail (message : String) : TransactionM α σ Unit :=
  WithinM.modifyOwn fun v => { v with failed := true, message := some message }

/-- Marks the transaction as failed, and fails. -/
def throwFailed (message : String) : TransactionM α σ β := do
  fail message
  throw (.transaction message)

/-- Whether the transaction is marked as failed. -/
def isFailed : TransactionM α σ Bool := return (← WithinM.own).failed

/-- Sets the result of the transaction. -/
def setResult (value : α) : TransactionM α σ Unit :=
  WithinM.modifyOwn fun v => { v with result := some value }

end TransactionM

namespace Transaction

/-- What the statements of the transaction run on. -/
def target (t : Transaction) : Target := .connection t.number

/-- Takes a builder of the transaction, bound to a table. -/
def acquire (t : Transaction) (table schema : String) : SessionM σ Builder :=
  Session.acquire t.target table schema .inUse

/-- Uses a builder of the transaction. -/
def withBuilder (t : Transaction) (table schema : String) (m : BuilderM σ β) : SessionM σ β :=
  Session.withBuilder t.target table schema .inUse m

variable [Backend σ]

/-- Sends a statement on the connection of the transaction. -/
def query (t : Transaction) (sql : String) (args : List Value) : SessionM σ QueryOutput :=
  Session.send t.target sql args

/-! ### Begin -/

/-- The session with a transaction opened. -/
def opened (number : Nat) (s : Session σ) : Session σ :=
  { s with
    branches := s.branches ++ [(number, {
      pool := {
        target := .connection number
        queue := some number
        binding := s.pool.binding
        max := s.pool.max } })] }

/-- Begins a transaction.  It may be over before it has begun. -/
def begin (table : Option String) : SessionM σ (Except (Outcome α) Transaction) := do
  let schema := (← get).schema
  match ← Session.connect.attempt with
  | .error e => return .error (.failure "failed to acquire a connection" (some e))
  | .ok number =>
    let t : Transaction := { number, schema, table }
    match ← (t.query "BEGIN" []).attempt with
    | .error e =>
      Session.release number
      return .error (.failure "failed to begin transaction" (some e))
    | .ok _ =>
      modify (opened number)
      return .ok t

/-! ### End -/

/-- Takes the events that wait for the commit. -/
def takeQueue (t : Transaction) : SessionM σ (List TableEvent) :=
  modifyGet fun s =>
    (((s.branch? t.number).map (·.queue)).getD [],
      s.modifyBranch t.number fun b => { b with queue := [] })

/-- Commits.  The events that waited are delivered if that succeeds. -/
def commit (t : Transaction) (value : α) (message : Option String) : SessionM σ (Outcome α) := do
  let committed ← (t.query "COMMIT" []).attempt
  let events ← t.takeQueue
  match committed with
  | .ok _ =>
    Session.emitAll events
    return { ok := true, result := some value, message }
  | .error e => return .failure "commit failed" (some e)

/-- Rolls back.  The events that waited are forgotten, and a failure is of no consequence. -/
def rollback (t : Transaction) : SessionM σ Unit := do
  let _ ← t.takeQueue
  let _ ← (t.query "ROLLBACK" []).attempt

/-- Commits or rolls back, as the body has it. -/
def conclude (t : Transaction) (returned : Except Error α) (v : Verdict α) :
    SessionM σ (Outcome α) := do
  match returned with
  | .error e =>
    t.rollback
    return .failure (v.message.getD e.message) (some e)
  | .ok value =>
    if v.failed then
      t.rollback
      return .failure (v.message.getD "transaction marked failed") none
    else t.commit (v.result.getD value) v.message

/-- The session with the idle builders of the transaction in the pool outside. -/
def recycled (t : Transaction) (s : Session σ) : Session σ :=
  match s.branch? t.number with
  | none => s
  | some b =>
    let (idle, pool) := b.pool.drain
    { s.modifyBranch t.number fun b => { b with pool } with
      pool := idle.foldl (·.put ·) s.pool }

/-- A builder of the transaction is still in use. -/
def isHeld (t : Transaction) (s : Session σ) : Bool :=
  s.leases.any fun l => l.2.target = t.target

/-- Gives the connection back, unless a builder still runs on it. -/
def release (t : Transaction) : SessionM σ Unit := do
  if t.isHeld (← get) then pure ()
  else
    modify fun s => { s with branches := s.branches.filter (·.1 != t.number) }
    Session.release t.number

/-- Ends a transaction. -/
def settle (t : Transaction) (returned : Except Error α) (v : Verdict α) :
    SessionM σ (Outcome α) := do
  let o ← t.conclude returned v
  modify t.recycled
  t.release
  return o

end Transaction

/-- Runs a body in a transaction. -/
def Session.transaction [Backend σ] (table : Option String)
    (body : Transaction → TransactionM α σ α) : SessionM σ (Outcome α) := do
  match ← Transaction.begin table with
  | .error o => return o
  | .ok t =>
    let (returned, verdict) ← (body t).runFrom {}
    t.settle returned verdict

end TableMapper
