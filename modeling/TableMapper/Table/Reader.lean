import TableMapper.Json.Fields
import TableMapper.Table.Decl

/-!
# Declarations in JSON

* `TableDecl.read?` reads the text of a declaration.  The columns keep their order, and a repeated
  column replaces the earlier one in its place.
* A field may be written under any of its names, but only once; unknown fields are passed over.  In
  place of an object a declaration may be an array of the values of its fields in order.
-/

namespace TableMapper

/-- An action, in one of its spellings. -/
def RefAction.ofDocument? (d : Document) : Option RefAction :=
  (Document.name? d).bind fun name =>
    match name with
    | "Cascade" | "cascade" | "CASCADE" => some .cascade
    | "Restrict" | "restrict" | "RESTRICT" => some .restrict
    | "SetNull" | "set null" | "SET NULL" | "set_null" => some .setNull
    | "SetDefault" | "set default" | "SET DEFAULT" | "set_default" => some .setDefault
    | "NoAction" | "no action" | "NO ACTION" | "no_action" => some .noAction
    | _ => none

/-- A key: a column or a list of columns. -/
def PrimaryKey.ofDocument? : Document → Option PrimaryKey
  | .string s => some (.single s)
  | d => (Document.list? Document.text? d).map .columns

/-- A strategy: an object with its kind and parameters, or the kind and then the parameters in an
array. -/
def IdStrategy.ofDocument? (room : Nat) (d : Document) : Option IdStrategy := do
  let _ ← Document.toJson? room d
  let (kind, rest) ← match d with
    | .object members =>
      match members.filter (·.1 == "kind") with
      | [(_, .string kind)] => some (kind, Document.object (members.filter (·.1 != "kind")))
      | _ => failure
    | .array (.string kind :: items) => some (kind, Document.array items)
    | _ => failure
  let size := Document.natBelow? (Nat.pow 2 64)
  match kind with
  | "none" | "big" =>
    match rest with
    | .array (_ :: _) => failure
    | _ => return if kind == "none" then .none else .big
  | "short" =>
    match ← Document.fields? [["len"], ["prefix"]] rest with
    | [some len, lead] => return .short (← size len) (← Document.orElse "" Document.text? lead)
    | _ => failure
  | "long" =>
    match ← Document.fields? [["min_len"]] rest with
    | [some len] => return .long (← size len)
    | _ => failure
  | "serial" =>
    match ← Document.fields? [["len"]] rest with
    | [some len] => return .serial (← size len)
    | _ => failure
  | _ => failure

/-- A coercion: a name, or a name with a number of places. -/
def Coercion.ofDocument? : Document → Option Coercion
  | .object [("fixed", d)] => (Document.natBelow? (Nat.pow 2 32) d).map .fixed
  | .object [("fixed-float", d)] => (Document.natBelow? (Nat.pow 2 32) d).map .fixedDouble
  | d =>
    (Document.name? d).bind fun name =>
      match name with
      | "int" => some .int
      | "float" => some .double
      | _ => none

/-- A validator: an object with its kind.  `room` is the nesting that is left. -/
def Validator.ofDocument? (room : Nat) : Document → Option Validator
  | .object [("pattern", d)] => (Document.text? d).map .pattern
  | .object [("one_of", .array items)] =>
    (Document.itemsToJson? (room - 2) items).map .oneOf
  | .object [("length", d)] => do
    let size := Document.optional (Document.natBelow? (Nat.pow 2 64))
    match ← Document.fields? [["min"], ["max"]] d with
    | [min, max] => return .length (← size min) (← size max)
    | _ => failure
  | _ => none

/-- A validator given as a value, in which the bounds of a length are named. -/
def Validator.ofJson? (v : Json) : Option Validator :=
  match v with
  | .object [("length", .array _)] => none
  | v => Validator.ofDocument? Document.maxDepth (Document.ofJson v)

/-- The names of the fields of a column. -/
def ColumnDecl.fieldNames : List (List String) :=
  [["type"], ["not_null", "notNull"], ["default"], ["old_name", "oldName"],
    ["type_lock", "typeLock"], ["ref"], ["ref_action_delete", "refActionDelete"],
    ["ref_action_update", "refActionUpdate"], ["drop"], ["ignore"], ["force"],
    ["index_type", "indexType"], ["validate"], ["to"], ["precision"]]

/-- The declaration of a column. -/
def ColumnDecl.ofDocument? (room : Nat) (d : Document) : Option ColumnDecl := do
  match ← Document.fields? fieldNames d with
  | [some type, notNull, default_, oldName, typeLock, references, onDelete, onUpdate, drop, ignore,
      force, indexType, validate, format, precision] =>
    return {
      type := ← Document.text? type
      notNull := ← Document.orElse true Document.bool? notNull
      default? :=
        ← Document.orElse none (fun d => (Document.toJson? (room - 1) d).map some) default_
      oldName := ← Document.optional Document.text? oldName
      typeLock := ← Document.orElse false Document.bool? typeLock
      references := ← Document.optional Document.text? references
      onDelete := ← Document.optional RefAction.ofDocument? onDelete
      onUpdate := ← Document.optional RefAction.ofDocument? onUpdate
      drop := ← Document.orElse false Document.bool? drop
      ignore := ← Document.orElse false Document.bool? ignore
      force := ← Document.orElse false Document.bool? force
      indexType := ← Document.optional Document.text? indexType
      validator := ← Document.optional (Validator.ofDocument? (room - 1)) validate
      format := ← Document.optional Document.text? format
      precision := ← Document.optional (Document.natBelow? (Nat.pow 2 32)) precision }
  | _ => none

/-- The columns of a table. -/
def TableDecl.columnsOfDocument? (room : Nat) : Document → Option (List (String × ColumnDecl))
  | .object members =>
    members.foldlM (fun columns (name, d) => do
      return TableDecl.putColumn name (← ColumnDecl.ofDocument? (room - 1) d) columns) []
  | _ => none

/-- The columns for timestamps. -/
def Timestamps.ofDocument? (d : Document) : Option Timestamps := do
  match ← Document.fields? [["create", "insert"], ["update"]] d with
  | [create, update] =>
    return {
      create := ← Document.optional Document.text? create
      update := ← Document.optional Document.text? update }
  | _ => none

/-- The names of the fields of a table. -/
def TableDecl.fieldNames : List (List String) :=
  [["table", "tableName"], ["column", "columns"], ["primary_key", "primaryKey"], ["index"],
    ["unique"], ["remove_index", "removeIndex", "dropIndex"], ["auto_id", "autoId"], ["id"],
    ["timestamps"], ["page_size", "pageSize"], ["select_fields", "selectField"]]

/-- The declaration of a table. -/
def TableDecl.ofDocument? (d : Document) : Option TableDecl := do
  let texts := Document.list? Document.text?
  match ← Document.fields? fieldNames d with
  | [some name, some columns, primaryKey, indexes, uniques, removedIndexes, autoId, id, timestamps,
      pageSize, selectFields] =>
    return {
      name := ← Document.text? name
      columns := ← columnsOfDocument? (Document.maxDepth - 1) columns
      primaryKey := ← Document.optional PrimaryKey.ofDocument? primaryKey
      indexes := ← Document.orElse [] texts indexes
      uniques := ← Document.orElse [] texts uniques
      removedIndexes := ← Document.orElse [] texts removedIndexes
      autoId := ← Document.orElse false Document.bool? autoId
      id := ← Document.optional (IdStrategy.ofDocument? (Document.maxDepth - 1)) id
      timestamps := ← Document.optional Timestamps.ofDocument? timestamps
      pageSize := ← Document.optional (Document.natBelow? (Nat.pow 2 32)) pageSize
      selectFields := ← Document.optional texts selectFields }
  | _ => none

/-- The declaration written in a text. -/
def TableDecl.read? (text : String) : Option TableDecl :=
  (Document.read? text).bind TableDecl.ofDocument?

end TableMapper
