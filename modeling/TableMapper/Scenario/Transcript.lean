import TableMapper.Scenario.Request
import TableMapper.Scenario.Script

/-!
# Transcripts in JSON

* `Error.toJson`, `Statement.toJson` and the functions beside them write what a session deals with.
* `Journal.toJson` writes what a session did, and `Record.toJson` what a request came to.
-/

namespace TableMapper

/-! ### Errors, values and results -/

/-- The name of a kind of errors. -/
def Error.kindName : Error → String
  | .usage .. => "Usage"
  | .connection .. => "Connection"
  | .database .. => "Database"
  | .schema .. => "Schema"
  | .transaction .. => "Transaction"
  | .timeout .. => "Timeout"
  | .invalidInput .. => "InvalidInput"
  | .internal .. => "Internal"

/-- An error with all that is known of it. -/
def Error.members (e : Error) : Row :=
  Row.ofList [("error", .string e.kindName), ("message", .string e.message),
    ("sql_state", .ofText? e.sqlState?), ("suggestion", .ofText? e.suggestion?),
    ("retryable", .bool e.isRetryable)]

/-- An error. -/
def Error.toJson (e : Error) : Json := .object e.members

/-- A number. -/
def Json.ofNat (n : Nat) : Json := .int n

/-- A list of rows. -/
def Json.ofRows (rows : List Row) : Json := .array (rows.map .object)

/-- A result that may be an error. -/
def Json.ofExcept (f : α → Json) : Except Error α → Json
  | .ok a => f a
  | .error e => e.toJson

/-- A value with its kind. -/
def Value.tagged (v : Value) : Json := .array [.string v.kindName, v.toJson]

/-- The values of a list with their kinds. -/
def Json.ofValues (vs : List Value) : Json := .array (vs.map Value.tagged)

/-- A statement. -/
def Statement.toJson (s : Statement) : Json :=
  .ofMembers [("sql", .string s.sql), ("args", .ofValues s.args)]

/-- The answer to a statement. -/
def QueryOutput.toJson (o : QueryOutput) : Json :=
  .ofMembers [("rows", .ofRows o.rows), ("row_count", .ofNat o.rowCount)]

/-- A remark. -/
def Issue.toJson (i : Issue) : Json :=
  .ofMembers [("object", .string i.object), ("message", .string i.message),
    ("text", .string i.text)]

/-- A plan for a table of a schema. -/
def Plan.toJson (schema table : String) (p : Plan) : Json :=
  .ofMembers
    [("steps", .array (p.steps.map fun s =>
      .ofMembers [("sql", .string (s.change.sql schema table)), ("object", .string s.object),
        ("best_effort", .bool s.bestEffort)])),
      ("issues", .array (p.issues.map Issue.toJson)),
      ("changed", .strings p.changed.eraseDups.mergeSort)]

/-- What came of a synchronization. -/
def SyncReport.toJson (r : SyncReport) : Json :=
  .ofMembers [("table", .string r.table), ("created", .bool r.created),
    ("statements", .strings r.statements), ("issues", .array (r.issues.map Issue.toJson)),
    ("errors", .array (r.errors.map Issue.toJson)), ("is_ok", .bool r.isOk),
    ("is_unchanged", .bool r.isUnchanged)]

/-- What came of an import. -/
def ImportReport.toJson (r : ImportReport) : Json :=
  .ofMembers [("ok", .bool r.ok), ("message", .ofText? r.message),
    ("inserted", .ofNat r.counts.inserted), ("updated", .ofNat r.counts.updated),
    ("deleted", .ofNat r.counts.deleted), ("data_wrong", .array r.sorted.notRows),
    ("field_wrong", .ofRows r.sorted.unknown),
    ("invalid", .array (r.sorted.invalid.map fun (row, e) =>
      .array [.object row, .string e.message]))]

/-- The outcome of a transaction. -/
def Outcome.toJson (o : Outcome Json) : Json :=
  .ofMembers [("ok", .bool o.ok), ("result", o.result.getD .null), ("message", .ofText? o.message),
    ("error", .ofOption Error.toJson o.error)]

/-- The outcome of a transaction together with the result that it stands for. -/
def Outcome.toJsonWithResult (o : Outcome Json) : Json :=
  .ofMembers [("outcome", o.toJson),
    ("into_result", .ofExcept (fun v => .ofMembers [("ok", v.getD .null)]) o.toExcept)]

/-! ### Journals -/

/-- The name of a target. -/
def Target.name : Target → String
  | .pool => "pool"
  | .connection n => "c" ++ toString n

/-- An event. -/
def TableEvent.toJson (e : TableEvent) : Json :=
  .ofMembers [("schema", .string e.schema), ("table", .string e.table),
    ("event", .string e.kind.name), ("sql", .string e.sql), ("data", e.data)]

/-- A deed on a target. -/
def Target.toJson (t : Target) (members : List (String × Json)) : Json :=
  .ofMembers (("on", .string t.name) :: members)

/-- A deed.  Questions to the catalog go by the relation that they are about. -/
def Deed.toJson : Deed → Json
  | .sent target sql args =>
    target.toJson
      [match CatalogQuery.ofSql? sql with
        | some q => ("catalog", .string q.relation)
        | none => ("sql", .string sql),
      ("args", .ofValues args)]
  | .connected n => (Target.connection n).toJson [("connect", .bool true)]
  | .released n => (Target.connection n).toJson [("release", .bool true)]
  | .closed => Target.pool.toJson [("end", .bool true)]
  | .delivered handler e _ =>
    .ofMembers [("handler", .string handler), ("hook", .string e.kind.name),
      ("event", e.toJson), ("kind", .string e.kind.name)]

/-- A journal. -/
def Journal.toJson (j : Journal) : Json := .array (j.map Deed.toJson)

/-! ### Replies -/

/-- The name of a state of builders. -/
def Lifecycle.name : Lifecycle → String
  | .free => "free"
  | .inUse => "using"
  | .held => "held"

/-- What is known of a builder. -/
def BuilderInfo.toJson (i : BuilderInfo) : Json :=
  .ofMembers [("state", .string i.builder.state.name), ("table", .ofText? i.builder.table),
    ("schema", .string i.builder.schemaName),
    ("spec", .ofText? (i.builder.decl.map (·.name))),
    ("in_transaction", .bool i.builder.inTransaction),
    ("inline", .bool (i.builder.binding matches .inline)), ("pool_free", .ofNat i.idle)]

/-- The counts of a pool of builders. -/
def BuilderPool.toJson (p : BuilderPool) : Json :=
  .ofMembers [("free", .ofNat p.idle.length), ("max", .ofNat p.max),
    ("created", .ofNat p.created), ("reused", .ofNat p.reused),
    ("discarded", .ofNat p.discarded)]

/-- What a request came to, with what was done for it. -/
def Record.withLog (r : Except Error Json) (log : Journal) : Json :=
  match r with
  | .ok result => .ofMembers [("result", result), ("log", log.toJson)]
  | .error e => .object (e.members.insert "log" log.toJson)

mutual

/-- What a request comes to. -/
def Reply.toJson : Reply → Json
  | .nothing => .null
  | .text s => .string s
  | .flag b => .bool b
  | .number n => .int n
  | .value v => v
  | .row r => .ofOption .object r
  | .rows rs => .ofRows rs
  | .written r => r.toJson
  | .output o => o.toJson
  | .statement s => s.toJson
  | .names ns => .strings ns
  | .builder i => i.toJson
  | .pool p => p.toJson
  | .registered t schema =>
    .ofMembers [("name", .string t.name), ("columns", .ofNat t.columns.length),
      ("schema", .string schema)]
  | .report r => r.toJson
  | .reports rs => .array (rs.map (Json.ofExcept SyncReport.toJson))
  | .plan schema table p created =>
    .ofMembers [("plan", p.toJson schema table), ("created", .bool created)]
  | .pages ps e => .array (ps.map Json.ofRows ++ (e.map Error.toJson).toList)
  | .exported counts total =>
    .ofMembers [("pages", .array (counts.map Json.ofNat)), ("exported", .ofExcept .ofNat total)]
  | .imported r => r.toJson
  | .transaction began body outcome asResult =>
    .ofMembers [("begin", .ofOption Journal.toJson began),
      ("body", .array (Reply.recordsToJson body)),
      ("outcome", if asResult then outcome.toJsonWithResult else outcome.toJson)]
  | .failed b => .ofMembers [("id", .bool true), ("failed", .bool b)]
  | .noSuchTable => .string "no such table"

/-- What requests came to. -/
def Reply.recordsToJson : List (Except Error Reply × Journal) → List Json
  | [] => []
  | (.ok r, log) :: records =>
    Record.withLog (.ok (Reply.toJson r)) log :: Reply.recordsToJson records
  | (.error e, log) :: records => Record.withLog (.error e) log :: Reply.recordsToJson records

end

/-- What a request came to, with what was done for it. -/
def Record.toJson (r : Record) : Json := Record.withLog (r.1.map Reply.toJson) r.2

end TableMapper
