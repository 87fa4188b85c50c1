import TableMapper.Scenario.Mask
import TableMapper.Scenario.Perform
import TableMapper.Scenario.Reader

/-!
# Running scenarios

A scenario is a session over a scripted database and the requests to it.

* `Scenario` is one, and `Scenario.ofDocument?` reads it.
* `Scenario.transcript` is the list of what the requests come to, one after the other, under a mask.
-/

namespace TableMapper

variable {σ : Type}

mutual

/-- The declarations that a request registers. -/
def Request.registered : Request σ → List TableDecl
  | .call (.register t) => [t]
  | .transaction _ _ _ body => body.registered
  | _ => []

/-- The declarations that a body registers. -/
def Body.registered : Body σ → List TableDecl
  | .done _ => []
  | .step r _ rest => r.registered ++ rest.registered

end

/-- A session and the requests to it. -/
structure Scenario where
  session : Session Script
  /-- The requests; `none` stands for one with a wrong declaration. -/
  requests : List (Option (Request Script))

namespace Scenario

/-- The time of scenarios, in milliseconds since 1970. -/
def now : Int := 1893553445678

/-- The random words of scenarios. -/
def word (i : Nat) : Nat := (i + 1) * 0x9E3779B97F4A7C15 % Nat.pow 2 64

/-- What keys are made of in scenarios. -/
def supply : IdSupply := { now, counter := 7, random := { word } }

/-- A binding by its name. -/
def bindingNamed (name : String) : Binding := if name == "inline" then .inline else .parameterized

/-- A scenario with at most `room` levels of nesting, unless a declaration of its tables is
wrong. -/
def ofDocument? (room : Nat) (d : Document) : Option Scenario := do
  let row := d.rowWithin room
  let tables ← (d.member "tables").elements.mapM TableDecl.ofInput?
  return {
    session := {
      database := .ofInput row
      supply
      schema := row.text "schema" Sql.defaultSchema
      pageSize := row.nat "page_size" Session.defaultPageSize
      tables := Tables.ofList tables
      pool := {
        binding := bindingNamed (row.text "binding")
        max := row.nat "max_pool" BuilderPool.defaultMax } }
    requests := (d.member "steps").elements.map (Request.ofDocument? room) }

/-- What the requests come to, one after the other. -/
def records : List (Option (Request Script)) → Session Script → List Json
  | [], _ => []
  | none :: requests, s =>
    .ofMembers [("error", .string "Declaration"), ("log", .array [])] :: records requests s
  | some r :: requests, s =>
    let (record, s) := r.perform s
    record.toJson :: records requests s

/-- The tables of a scenario, from the start or later. -/
def tables (s : Scenario) : List TableDecl :=
  s.session.tables ++ s.requests.flatMap fun r => (r.map Request.registered).getD []

/-- What the requests come to, without what depends on chance and time. -/
def transcript (s : Scenario) : Json :=
  .array ((Mask.ofTables now s.tables).hideItems (records s.requests s.session))

end Scenario

end TableMapper
