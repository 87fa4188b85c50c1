import TableMapper.Id.Forms
import TableMapper.Json.Basic
import TableMapper.Text.Letter
import TableMapper.Text.Search

/-!
# Key strategies

* `IdStrategy` says how a table fills its key when a row does not carry one, and
  `IdStrategy.infer` finds one for the declared type of the key.
* `IdSupply` is what generating keys uses up: the clock, randomness and a rolling counter.
* `IdStrategy.generate` makes the next key.
-/

namespace TableMapper

/-- How keys are made. -/
inductive IdStrategy where
  /-- Not at all: the database or the caller assigns them. -/
  | none
  /-- Random text of `len` characters after a fixed text. -/
  | short (len : Nat) (lead : String)
  /-- The time in base 16, at least `minLen` characters. -/
  | long (minLen : Nat)
  /-- The time and a counter in base 36, at least `len` characters. -/
  | serial (len : Nat)
  /-- A number of date, time and counter. -/
  | big
  deriving DecidableEq, Inhabited

/-- What the generation of keys depends on. -/
structure IdSupply where
  /-- The time in milliseconds since 1970. -/
  now : Int
  /-- The number of counted keys so far, as a 32-bit word. -/
  counter : Nat
  /-- The source of random choices. -/
  random : Randomness

namespace IdSupply

/-- The supply after the counter was used. -/
def count (s : IdSupply) : IdSupply := { s with counter := (s.counter + 1) % Nat.pow 2 32 }

/-- The supply with this source of random choices. -/
def withRandom (s : IdSupply) (r : Randomness) : IdSupply := { s with random := r }

end IdSupply

namespace IdStrategy

/-- The length in a type such as `varchar(30)`: what stands between the first parenthesis and the
closing ones at the end. -/
def declaredLength? (type : String) : Option Nat := do
  let (_, rest) ← Text.cutAt? "(" type
  let inner := String.ofList (Text.dropEndWhile (· == ')') rest.toList)
  Text.naturalBelow? (Nat.pow 2 64) (Text.trim inner)

/-- The strategy for a key of a declared type: text keys are filled with random text, of the
declared length when there is one, and integer keys other than `bigint` are left to the
database. -/
def infer (type : String) : IdStrategy :=
  let lower := Text.lowerAscii (Text.trim type)
  let base := Text.trim (Text.beforeFirst '(' lower)
  if ["varchar", "character varying", "char", "character"].contains base then
    .short ((declaredLength? lower).getD 12) ""
  else if ["bigint", "int8"].contains base then .big
  else if ["serial", "bigserial", "smallserial", "int", "integer", "int4", "smallint",
      "int2"].contains base then .none
  else .short 12 ""

/-- The next key, if the strategy makes one. -/
def generate (s : IdStrategy) (supply : IdSupply) : Option Json × IdSupply :=
  match s with
  | .none => (Option.none, supply)
  | .short len lead =>
    let (id, r) := Id.short len lead supply.random
    (some (.string id), supply.withRandom r)
  | .long minLen =>
    let (id, r) := Id.long supply.now minLen supply.random
    (some (.string id), supply.withRandom r)
  | .serial len =>
    let (id, r) := Id.serial supply.now supply.counter len supply.random
    (some (.string id), supply.count.withRandom r)
  | .big =>
    let (id, r) := Id.big (Calendar.ofMillis supply.now) supply.counter supply.random
    (some (.int id), supply.count.withRandom r)

end IdStrategy

end TableMapper
