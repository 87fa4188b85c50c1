import TableMapper.Json.Fields

/-!
# Options of a connection pool

* `PoolOptions` are the options that were given; `PoolOptions.effective` adds the defaults.
* `PoolOptions.check` refuses a pool without connections, and one that keeps more connections open
  than it may have.
-/

namespace TableMapper

/-- The options of a connection pool, as far as they were given.  Times are in seconds. -/
structure PoolOptions where
  maxConnections : Option Nat := none
  minConnections : Option Nat := none
  idleTimeout : Option Nat := none
  acquireTimeout : Option Nat := none
  testBeforeAcquire : Option Bool := none
  deriving DecidableEq

/-- The options of a connection pool, with all of them settled. -/
structure PoolSettings where
  maxConnections : Nat
  minConnections : Nat
  idleTimeout : Nat
  acquireTimeout : Nat
  testBeforeAcquire : Bool
  deriving DecidableEq

/-- What can be wrong with the options of a pool. -/
inductive PoolFault where
  | noConnections
  | minAboveMax (least most : Nat)
  deriving DecidableEq

/-- The text of a fault. -/
def PoolFault.message : PoolFault → String
  | .noConnections => "max_connections must be greater than 0"
  | .minAboveMax least most =>
    "min_connections (" ++ toString least ++ ") cannot exceed max_connections (" ++
      toString most ++ ")"

namespace PoolOptions

/-- The options in force. -/
def effective (o : PoolOptions) : PoolSettings where
  maxConnections := o.maxConnections.getD 10
  minConnections := o.minConnections.getD 1
  idleTimeout := o.idleTimeout.getD 600
  acquireTimeout := o.acquireTimeout.getD 30
  testBeforeAcquire := o.testBeforeAcquire.getD true

/-- Refuses options that no pool can have.  A least number of connections that was not given is
not looked at. -/
def check (o : PoolOptions) : Except PoolFault Unit :=
  if o.maxConnections = some 0 then .error .noConnections
  else match o.minConnections with
    | some least =>
      let most := o.effective.maxConnections
      if most < least then .error (.minAboveMax least most) else .ok ()
    | none => .ok ()

/-- The options in a document.  An array has all of them, in order. -/
def ofDocument? (d : Document) : Option PoolOptions := do
  let fields ← Document.fields? [["max_connections"], ["min_connections"],
    ["idle_timeout_secs"], ["acquire_timeout_secs"], ["test_before_acquire"]] d
  match d, fields with
  | .array items, _ => if items.length != 5 then none
  | _, _ => pure ()
  match fields with
  | [most, least, idle, acquire, test] =>
    let number (bound : Nat) := Document.optional (Document.natBelow? bound)
    return {
      maxConnections := ← number (Nat.pow 2 32) most
      minConnections := ← number (Nat.pow 2 32) least
      idleTimeout := ← number (Nat.pow 2 64) idle
      acquireTimeout := ← number (Nat.pow 2 64) acquire
      testBeforeAcquire := ← Document.optional Document.bool? test }
  | _ => none

end PoolOptions

end TableMapper
