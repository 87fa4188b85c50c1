import TableMapper.Builder.Basic
import TableMapper.Id.Random

/-!
# Pools of builders

Builders are used again.  A pool keeps those that are idle, up to a bound, and all of them send
their statements to its target.

* `BuilderPool.take` hands out the builder that came in last, or a new one.
* `BuilderPool.put` takes a builder back, forgetting what it was used for; a full pool drops it.
* `BuilderPool.setMax` changes the bound, and `BuilderPool.drain` empties the pool.
-/

namespace TableMapper

/-- The most builders that a pool keeps idle, unless it is said otherwise. -/
def BuilderPool.defaultMax : Nat := 2560

/-- A pool of builders. -/
structure BuilderPool where
  /-- What the builders of the pool run on. -/
  target : Target := .pool
  /-- The queue for events of a transaction. -/
  queue : Option Nat := none
  binding : Binding := .parameterized
  /-- The idle builders, the one that came in last at the end. -/
  idle : List Builder := []
  /-- The most builders that are kept idle. -/
  max : Nat := BuilderPool.defaultMax
  /-- How many builders were made. -/
  created : Nat := 0
  /-- How often an idle builder was handed out. -/
  reused : Nat := 0
  /-- How many builders were dropped. -/
  discarded : Nat := 0

namespace BuilderPool

/-- A new builder. -/
def newBuilder (p : BuilderPool) (tag : DollarTag) : Builder :=
  { tag, binding := p.binding, target := p.target, queue := p.queue }

/-- A builder out of the pool.  A new one gets a tag of its own. -/
def take (p : BuilderPool) (r : Randomness) : Builder × BuilderPool × Randomness :=
  match p.idle.getLast? with
  | some b =>
    (b.retarget p.target p.queue, { p with idle := p.idle.dropLast, reused := p.reused + 1 }, r)
  | none =>
    let (tag, r) := DollarTag.random r
    (p.newBuilder tag, { p with created := p.created + 1 }, r)

/-- The pool with a builder given back. -/
def put (p : BuilderPool) (b : Builder) : BuilderPool :=
  if p.idle.length < p.max then
    { p with idle := p.idle ++ [b.reset.retarget p.target p.queue] }
  else { p with discarded := p.discarded + 1 }

/-- The pool with another bound.  The builders that came in last are dropped when there are too
many. -/
def setMax (p : BuilderPool) (max : Nat) : BuilderPool :=
  { p with
    max
    idle := p.idle.take max
    discarded := p.discarded + (p.idle.length - max) }

/-- The idle builders, and the pool without them. -/
def drain (p : BuilderPool) : List Builder × BuilderPool := (p.idle, { p with idle := [] })

end BuilderPool

end TableMapper
