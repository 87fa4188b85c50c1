import TableMapper.Proofs.Session.Events
import TableMapper.Proofs.Session.Safe
import TableMapper.Proofs.Transaction.Settle

/-!
# Acts on a stage

Several transactions may be open in a session at a time, and builders are leased and used in all of
them and outside, in any order.  A run of a session is then a list of acts.

* `Act` is one act, and `Stage` a session with its open transactions.
* `Act.run` is the effect of an act, and `Stage.run` that of a run.
* `Passage` is what can be seen of an act: the statements, the event of a write that succeeded, the
  transaction that began or committed.  It tells nothing of handlers.
-/

namespace TableMapper

variable {σ α β : Type}

/-- An act on a session, with transactions whose results are of type `α`.  Some acts are done in an
open transaction, which is told by its number, and outside of transactions if there is none. -/
inductive Act (α : Type) where
  /-- Uses a builder. -/
  | build (home : Option Nat) (source : Source) (clauses : List Clause) (finish : Finish)
  /-- Keeps a builder under a name. -/
  | lease (home : Option Nat) (name : String) (source : Source)
  /-- Gives back the builder kept under a name. -/
  | free (name : String)
  /-- Runs a statement. -/
  | query (home : Option Nat) (sql : String) (args : List Value)
  | listen (table : String) (h : Handler)
  | removeHandlers (table : String)
  | register (t : TableDecl)
  | setMaxPool (max : Nat)
  /-- Begins a transaction, on a table or without one. -/
  | begin (table : Option String)
  /-- Ends an open transaction, whose body returned and said something about it. -/
  | settle (number : Nat) (returned : Except Error α) (v : Verdict α)

/-- A session with its open transactions. -/
structure Stage (σ : Type) where
  session : Session σ
  opened : List Transaction := []

namespace Stage

/-- The open transaction of a number. -/
def scope (x : Stage σ) (home : Option Nat) : Option Transaction :=
  home.bind fun n => x.opened.find? (·.number == n)

variable [Backend σ]

/-- Makes a call in an open transaction, or outside. -/
def call (home : Option Nat) (c : Call σ) (x : Stage σ) : Except Error Reply × Stage σ :=
  let (r, s) := c.run (x.scope home) x.session
  (r, { x with session := s })

/-- Begins a transaction, with results of type `α`. -/
def begin (α : Type) (table : Option String) (x : Stage σ) : Stage σ :=
  match (Transaction.begin table : SessionM σ (Except (Outcome α) Transaction)) x.session with
  | (.ok (.ok t), s) => { session := s, opened := t :: x.opened }
  | (_, s) => { x with session := s }

/-- Ends an open transaction. -/
def settle (t : Transaction) (returned : Except Error α) (v : Verdict α) (x : Stage σ) : Stage σ :=
  { session := (t.settle returned v x.session).2
    opened := x.opened.filter (·.number != t.number) }

end Stage

namespace Act

variable [Backend σ]

/-- What an act comes to, and the stage after it. -/
def run : Act α → Stage σ → Except Error Reply × Stage σ
  | .build home source clauses finish, x => x.call home (.build source clauses finish)
  | .lease home name source, x => x.call home (.lease name source)
  | .free name, x => x.call none (.free name)
  | .query home sql args, x => x.call home (.query sql args)
  | .listen table h, x => x.call none (.listen table h)
  | .removeHandlers table, x => x.call none (.removeHandlers table)
  | .register t, x => x.call none (.register t)
  | .setMaxPool max, x => x.call none (.setMaxPool max)
  | .begin table, x => (.ok .nothing, x.begin α table)
  | .settle number returned v, x =>
    match x.scope (some number) with
    | none => (.ok .nothing, x)
    | some t => (.ok .nothing, x.settle t returned v)

end Act

/-- The stage after acts, one after the other. -/
def Stage.run [Backend σ] : List (Act α) → Stage σ → Stage σ
  | [], x => x
  | act :: acts, x => run acts (act.run x).2

/-! ### What can be seen -/

/-- What can be seen of an act. -/
structure Passage (α : Type) where
  act : Act α
  reply : Except Error Reply
  /-- What was done with the database before handlers heard of anything. -/
  sent : Journal := []
  /-- The event of a write that succeeded. -/
  event : Option TableEvent := none
  /-- The number of the transaction that began. -/
  opened : Option Nat := none
  /-- A transaction has committed. -/
  committed : Bool := false
  /-- What was done with the database after that. -/
  released : Journal := []

/-- The builder of a source, and the session in which it is used. -/
def Source.taken? (scope : Option Transaction) (s : Session σ) :
    Source → Option (Builder × Session σ)
  | .kept name => (s.lease? name).map (·, s)
  | .fresh table schema held =>
    match acquire scope table schema held s with
    | (.ok b, s) => some (b, s)
    | (.error _, _) => none

variable [Backend σ]

/-- Whether the next transaction begins, if there is a connection for it. -/
def Session.begins? (s : Session σ) : Option Bool :=
  match Backend.connect s.database with
  | (.error _, _) => none
  | (.ok (), d) => some (Backend.answer (.connection (s.connections + 1)) "BEGIN" [] d).1.isOk

/-- The last statement of a transaction is COMMIT, and succeeds. -/
def Transaction.commits? (t : Transaction) (returned : Except Error α) (v : Verdict α)
    (s : Session σ) : Bool :=
  commits returned v && (Backend.answer t.target (closing returned v) [] s.database).1.isOk

/-- What can be seen of an act. -/
def Act.passage (x : Stage σ) (act : Act α) : Passage α :=
  let p : Passage α := { act, reply := (act.run x).1 }
  match act with
  | .build home source clauses finish =>
    match source.taken? (x.scope home) x.session with
    | none => p
    | some (b, s) =>
      { p with
        sent := BuilderM.sent b.target (finish.statement? (b.addAll clauses) s.supply)
        event := finish.event? (b.addAll clauses) s }
  | .query home sql args =>
    { p with sent := [.sent ((x.scope home).elim .pool Transaction.target) sql args] }
  | .begin _ =>
    let number := x.session.connections + 1
    match x.session.begins? with
    | none => p
    | some begins =>
      { p with
        sent := [.connected number, .sent (.connection number) "BEGIN" []]
        opened := if begins then some number else none
        released := if begins then [] else [.released number] }
  | .settle number returned v =>
    match x.scope (some number) with
    | none => p
    | some t =>
      { p with
        sent := [.sent t.target (Transaction.closing returned v) []]
        committed := t.commits? returned v x.session
        released := if t.isHeld x.session then [] else [.released number] }
  | _ => p

/-- What can be seen of acts, one after the other. -/
def Stage.passages : List (Act α) → Stage σ → List (Passage α)
  | [], _ => []
  | act :: acts, x => act.passage x :: passages acts (act.run x).2

end TableMapper
