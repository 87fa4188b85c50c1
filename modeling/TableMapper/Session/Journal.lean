import TableMapper.Builder.Basic
import TableMapper.Error
import TableMapper.Sql.Output
import TableMapper.Value

/-!
# What a session does to the world

* `TableEvent` tells the handlers of a table of a write, and `Handler` is one that hears of it.
* `Journal` lists what a session has sent to the database and delivered to handlers, in order.
-/

namespace TableMapper

/-- The kinds of writes. -/
inductive EventKind where
  | insert
  | update
  | delete
  deriving DecidableEq

/-- The name of a kind of write. -/
def EventKind.name : EventKind → String
  | .insert => "insert"
  | .update => "update"
  | .delete => "delete"

/-- The news of a write. -/
structure TableEvent where
  schema : String
  table : String
  kind : EventKind
  /-- The statement. -/
  sql : String
  /-- The report of the write. -/
  data : Json

/-- A handler of the events of a table. -/
structure Handler where
  name : String
  /-- It does something about events of this kind. -/
  hears : EventKind → Bool
  /-- What it comes to. -/
  react : TableEvent → Except Error Unit := fun _ => .ok ()

/-- Something that a session did. -/
inductive Deed where
  /-- A statement was sent. -/
  | sent (target : Target) (sql : String) (args : List Value)
  /-- A connection was checked out. -/
  | connected (number : Nat)
  /-- A connection was given back. -/
  | released (number : Nat)
  /-- The database was closed. -/
  | closed
  /-- An event was delivered, and its handler came to this. -/
  | delivered (handler : String) (event : TableEvent) (outcome : Except Error Unit)

/-- What a session did, in order. -/
abbrev Journal := List Deed

namespace Handler

/-- The deeds of handlers that hear of an event, in order.  Each of them hears of it, whatever the
others come to. -/
def deliver (handlers : List Handler) (e : TableEvent) : Journal :=
  (handlers.filter fun h => h.hears e.kind).map fun h => .delivered h.name e (h.react e)

end Handler

end TableMapper
