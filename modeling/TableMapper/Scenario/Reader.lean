import TableMapper.Json.Member
import TableMapper.Scenario.Request
import TableMapper.Scenario.Script
import TableMapper.Table.Reader

/-!
# Requests in JSON

How requests and scripts are written.  Members that are missing or `null` have defaults; only
declarations are read strictly.

* `Value.ofInput`, `Condition.ofInput` and `Clause.ofInput?` read the parts of statements,
  `Error.ofInput` an error.
* `Script.ofInput` reads a script, and `Request.ofDocument?` a request.
-/

namespace TableMapper

/-! ### Parts of statements -/

/-- A value.  A double can be given by its text. -/
def Value.ofInput : Json → Value
  | .object [("$float", .string s)] => .double ((Binary64.read? s).getD .nan)
  | j => .ofJson j

namespace Condition

/-- The condition with an entry more. -/
def addInput (c : Condition) : Json → Condition
  | .array [.string key, .string "eq", v] => c.eq key (.ofInput v)
  | .array [.string key, .string "in", .array vs] => c.isIn key (vs.map Value.ofInput)
  | .array [.string key, .string "op", .string op, v] => c.op key op (.ofInput v)
  | .array [.string key, .string "raw", .array vs] => c.raw key (vs.map Value.ofInput)
  | _ => c

/-- A condition: that of a JSON value, a template with arguments, or a list of entries. -/
def ofInput (j : Json) : Condition :=
  let row := j.asRow
  match row.get? "json", row.text? "template" with
  | some v, _ => .ofJson v
  | _, some sql => .template sql ((row.items "args").map Value.ofInput)
  | _, _ => (row.items "entries").foldl addInput empty

end Condition

/-- The text of a string, and the empty one for any other value. -/
def Json.textOrEmpty (j : Json) : String := j.text?.getD ""

/-- The items of an array; none for any other value. -/
def Json.itemsOrNone (j : Json) : List Json := j.items?.getD []

/-- The argument at a place; `null` when it is missing. -/
def Json.argument (args : List Json) (i : Nat) : Json := (args[i]?).getD .null

namespace Clause

/-- A join with a table on a condition. -/
def joinInput? (kind : JoinKind) : Json → Option Clause
  | .array [.string table, .string on] => some (.join kind table on)
  | _ => none

/-- A clause: an object whose only member names it. -/
def ofInput? : Json → Option Clause
  | .object [("where", v)] => some (.filter (.ofInput v))
  | .object [("where_args", .array [.string sql, .array args])] =>
    some (.filter (.template sql (args.map Value.ofInput)))
  | .object [("join", v)] => joinInput? .inner v
  | .object [("left_join", v)] => joinInput? .left v
  | .object [("right_join", v)] => joinInput? .right v
  | .object [("fields", v)] => some (.fields (v.itemsOrNone.filterMap (·.text?)))
  | .object [("order", v)] => some (.order v.textOrEmpty)
  | .object [("group", v)] => some (.group v.textOrEmpty)
  | .object [("limit", .array [.int count, .int offset])] => some (.limit count offset)
  | .object [("returning", v)] => some (.returning v.textOrEmpty)
  | .object [("alias", v)] => some (.shortName v.textOrEmpty)
  | .object [("for_update", _)] => some .forUpdate
  | .object [("schema", v)] => some (.schema v.textOrEmpty)
  | .object [("trigger", _)] => some .trigger
  | .object [("trigger_commit", _)] => some .triggerCommit
  | _ => none

end Clause

/-- A form of aggregates, which may be missing. -/
def Coercion.ofInput? : Json → Option (Option Coercion)
  | .null => some none
  | j => (Coercion.ofDocument? (Document.ofJson j)).map some

/-- The rows in a list; what is no object counts as an empty row. -/
def Row.listOfInput (j : Json) : List Row := j.itemsOrNone.map (·.asRow)

/-- A terminal and its arguments. -/
def Terminal.ofInput (args : List Json) : Terminal :=
  let arg := Json.argument args
  match (arg 0).textOrEmpty with
  | "get" => .get
  | "insert" => .insert (arg 1).asRow
  | "insert_all" => .insertAll (Row.listOfInput (arg 1))
  | "update" => .update (.ofJson (arg 1))
  | "delete" => .delete
  | "count" => .aggregate "count" "*"
  | "aggregate" => .aggregate (arg 1).textOrEmpty (arg 2).textOrEmpty
  | _ => .select

/-- The end of the use of a builder, and its arguments. -/
def Finish.ofInput? (args : List Json) : Option Finish :=
  let arg := Json.argument args
  let name := (arg 0).textOrEmpty
  match name with
  | "select" => some .select
  | "get" => some .get
  | "insert" => some (.insert (arg 1).asRow)
  | "insert_all" => some (.insertAll (Row.listOfInput (arg 1)))
  | "update" => some (.update (.ofJson (arg 1)))
  | "delete" => some .delete
  | "count" => some .count
  | "query" => some (.query (arg 1).textOrEmpty ((arg 2).itemsOrNone.map Value.ofInput))
  | "info" => some .info
  | "fetch" => some (.preview (Terminal.ofInput (args.drop 1)))
  | "avg" | "min" | "max" | "sum" =>
    (Coercion.ofInput? (arg 2)).map (Finish.aggregate name (arg 1).textOrEmpty ·)
  | _ => some .nothing

/-! ### Calls of tables -/

/-- The options of a write. -/
def WriteOptions.ofInput (row : Row) : WriteOptions where
  schema := row.text? "schema"
  returning := row.text? "returning"
  notify := match row.text "trigger" with
    | "immediate" => .immediate
    | "on_commit" => .onCommit
    | _ => .off

/-- The options of a page of rows. -/
def ListOptions.ofInput (row : Row) : ListOptions where
  schema := row.text? "schema"
  pageSize := row.nat? "page_size"
  offset := row.int "offset"
  order := row.text? "order"
  fields := row.texts "fields"

/-- The options of a query for groups, with a condition. -/
def GroupOptions.ofInput (cond : Condition) (row : Row) : GroupOptions where
  schema := row.text? "schema"
  fields := row.texts "fields"
  order := row.text? "order"
  cond := some cond

/-- The options of a page of a join, with a condition. -/
def JoinOptions.ofInput (cond : Condition) (row : Row) : JoinOptions where
  schema := row.text? "schema"
  shortName := row.text? "alias"
  fields := row.texts "fields"
  cond := some cond
  order := row.text? "order"
  pageSize := row.nat? "page_size"
  offset := row.int "offset"

/-- The options of an export, with a condition. -/
def ExportOptions.ofInput (cond : Condition) (row : Row) : ExportOptions where
  schema := row.text? "schema"
  cond := some cond
  fields := row.texts "fields"
  pageSize := row.nat? "page_size"
  offset := row.int "offset"

/-- The options of an import. -/
def ImportOptions.ofInput (row : Row) : ImportOptions where
  mode := if row.text "mode" == "loose" then .loose else .strict
  update := match row.text "update" with
    | "update" => .update
    | "none" => .keep
    | _ => .deleteInsert
  schema := row.text? "schema"

/-- The options of a synchronization. -/
def SyncOptions.ofInput (row : Row) : SyncOptions where
  dryRun := row.flag "dry_run"
  dropUndeclared := row.flag "drop_undeclared"
  force := row.flag "force"

/-- The kind of a join by its name. -/
def JoinKind.ofInput (name : String) : JoinKind :=
  if Text.startsWith "left" name then .left
  else if Text.startsWith "right" name then .right
  else .inner

/-- A call of a table. -/
def TableCall.ofInput? (row : Row) : Option TableCall :=
  let opts := row.row "opts"
  let cond := Condition.ofInput (row.field "cond")
  let field := row.text "field"
  let join (kind : String) : TableCall :=
    .join (JoinKind.ofInput kind) (row.text "other") (row.text "on") (.ofInput cond opts)
  let name := row.text "call"
  match name with
  | "insert" => some (.insert (row.row "row") (.ofInput opts))
  | "insert_all" => some (.insertAll (row.rows "rows") (.ofInput opts))
  | "update" => some (.update cond (.ofJson (row.field "data")) (.ofInput opts))
  | "delete" => some (.delete cond (.ofInput opts))
  | "get" => some (.get cond (row.texts "fields"))
  | "list" => some (.list cond (.ofInput opts))
  | "count" => some (.count cond)
  | "max" | "min" | "avg" | "sum" => some (.aggregate name cond field none)
  | "aggregate" =>
    (Coercion.ofInput? (row.field "to")).map (.aggregate (row.text "func") cond field ·)
  | "group" => some (.group (row.text "by") (.ofInput cond opts))
  | "join" | "inner_join" | "left_join" | "right_join" | "join_as" => some (join name)
  | "data_out" => some (.exportPages (.ofInput cond opts))
  | "data_out_handle" => some (.exportUntil (.ofInput cond opts) (row.nat "stop_after"))
  | "data_in" => some (.importRows (row.items "data") (.ofInput opts))
  | "check" => some (.check (row.row "row") (row.flag "quiet"))
  | "validate" => some (.validate (row.row "row"))
  | "sync" => some (.sync (.ofInput row))
  | _ => some .name

/-! ### Scripts -/

/-- An error, by its kind. -/
def Error.ofInput (row : Row) : Error :=
  let text := row.text "message"
  match row.text "kind" with
  | "usage" => .usage text
  | "connection" => .connection text (row.text "suggestion")
  | "schema" => .schema text (row.text "object")
  | "transaction" => .transaction text
  | "timeout" => .timeout text (row.nat "secs")
  | "invalid_input" => .invalidInput text
  | "internal" => .internal text
  | _ => .database text (row.text? "sql_state") (row.text "suggestion")

/-- The answer to a statement. -/
def QueryOutput.ofInput (j : Json) : QueryOutput :=
  let rows := j.asRow.rows "rows"
  { rows, rowCount := j.asRow.nat "row_count" rows.length }

/-- The catalog rows of a table. -/
def ScriptedTable.ofInput (row : Row) : ScriptedTable where
  columns := row.rows "columns"
  indexes := row.texts "indexes"
  foreignKeys := row.texts "foreign_keys"

/-- A script. -/
def Script.ofInput (row : Row) : Script where
  failures := (row.rows "fail").map fun r =>
    { pattern := r.text "pattern", error := .ofInput r, times := r.nat? "times" }
  answers := (row.rows "respond").map fun r =>
    { pattern := r.text "pattern", outputs := (r.items "outputs").map .ofInput }
  catalog := (row.row "catalog").map fun (name, t) => (name, .ofInput t.asRow)
  connectError := (row.field? "connect_error").map fun e => .ofInput e.asRow

/-! ### Requests -/

/-- A handler, which may hear of one kind of events only and may fail. -/
def Handler.ofInput (row : Row) : Handler where
  name := row.text "name"
  hears := match row.text? "only" with
    | some only => fun kind => kind.name == only
    | none => fun _ => true
  react := fun _ => if row.flag "broken" then .error (.internal "broken handler") else .ok ()

/-- A declaration, as it is or in a string. -/
def TableDecl.ofInput? : Document → Option TableDecl
  | .string s => TableDecl.read? s
  | d => TableDecl.ofDocument? d

/-- A builder for a table. -/
def Source.freshInput (row : Row) : Source :=
  .fresh (row.text "table") (row.text? "schema") (row.flag "hold")

/-- The use of a builder. -/
def Call.buildInput? (row : Row) : Option (Call Script) :=
  (Finish.ofInput? (row.items "end")).map
    (.build (((row.text? "on").map .kept).getD (.freshInput row))
      ((row.items "chain").filterMap Clause.ofInput?) ·)

/-- A call; the document is that of the row. -/
def Call.ofInput? (d : Document) (row : Row) : Option (Call Script) :=
  let table := row.text "table"
  let name := row.text "name"
  match row.text "do" with
  | "build" => buildInput? row
  | "lease" => some (.lease (row.text "as") (.freshInput row))
  | "free" => some (.free (row.text "on"))
  | "model" => (TableCall.ofInput? row).map (.onTable table ·)
  | "raise" => some (.raise (.ofInput row))
  | "query" => some (.query (row.text "sql") ((row.items "args").map Value.ofInput))
  | "set_schema" => some (.setSchema name)
  | "apply_search_path" => some .applySearchPath
  | "create_schema" => some (.createSchema name)
  | "register" => (TableDecl.ofInput? (d.member "spec")).map .register
  | "tables" => some .tables
  | "has_table" => some (.hasTable name)
  | "set_max_pool" => some (.setMaxPool (row.nat "max"))
  | "pool_stats" => some .pool
  | "end" => some .close
  | "on" => some (.listen table (.ofInput row))
  | "has_handler" => some (.hasHandlers table)
  | "remove_handlers" => some (.removeHandlers table)
  | "initialize" => some (.runHooks ((row.rows "hooks").map (·.text "sql")))
  | "sync" => some (.sync table (.ofInput row))
  | "sync_all" => some (.syncAll (.ofInput row))
  | "plan" => some (.plan table (.ofInput row))
  | "script" => some (.database (·.extend (.ofInput row)))
  | _ => some .schema

/-- The body that runs requests, of which some are caught, and returns a value. -/
def Body.ofSteps (value : Json) : List (Request Script × Bool) → Body Script
  | [] => .done value
  | (request, caught) :: steps => .step request caught (ofSteps value steps)

/-- The members of a document with at most `room` levels of nesting. -/
def Document.rowWithin (room : Nat) (d : Document) : Row := ((d.toJson? room).getD .null).asRow

/-- A request with at most `room` levels of nesting, unless a declaration in it is wrong. -/
def Request.ofDocument? (room : Nat) (d : Document) : Option (Request Script) :=
  let row := d.rowWithin room
  match room, row.text "do" with
  | _, "fail" => some (.fail (row.text "message"))
  | _, "throw" => some (.throwFailed (row.text "message"))
  | _, "set_result" => some (.setResult (row.field "value"))
  | _, "tx_info" => some .isFailed
  | room + 1, "transaction" => do
    let steps ← (d.member "body").elements.mapM fun step => do
      return (← ofDocument? room step, (step.rowWithin room).flag "catch")
    return .transaction (row.text? "table") (row.texts "keep") (row.flag "into_result")
      (.ofSteps (row.field "return") steps)
  | _, _ => (Call.ofInput? d row).map .call

end TableMapper
