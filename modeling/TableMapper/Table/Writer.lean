import TableMapper.Json.Printer
import TableMapper.Table.Decl

/-!
# Declarations as JSON

`TableDecl.toJson` writes a declaration with the first name of each field.  Fields without a value
are left out; a default of `null` is not such a field.

`TableDecl.text?` writes a declaration with the columns in the order of the table and the fields
in theirs, each under its first name.  Fields without a value are left out.  A declaration with a
check of the caller's has no text.
-/

namespace TableMapper

/-- The name of an action. -/
def RefAction.name : RefAction → String
  | .cascade => "Cascade"
  | .restrict => "Restrict"
  | .setNull => "SetNull"
  | .setDefault => "SetDefault"
  | .noAction => "NoAction"

/-- A member, if there is a value for it. -/
def Row.member? (name : String) (f : α → Json) : Option α → List (String × Json)
  | none => []
  | some a => [(name, f a)]

/-- A natural number as JSON. -/
def Json.nat (n : Nat) : Json := .int n

/-- A key as JSON. -/
def PrimaryKey.toJson : PrimaryKey → Json
  | .single c => .string c
  | .columns cs => Json.strings cs

/-- A strategy as JSON. -/
def IdStrategy.toJson : IdStrategy → Json
  | .none => .ofMembers [("kind", .string "none")]
  | .short len lead =>
    .ofMembers [("kind", .string "short"), ("len", .nat len), ("prefix", .string lead)]
  | .long minLen => .ofMembers [("kind", .string "long"), ("min_len", .nat minLen)]
  | .serial len => .ofMembers [("kind", .string "serial"), ("len", .nat len)]
  | .big => .ofMembers [("kind", .string "big")]

/-- A coercion as JSON. -/
def Coercion.toJson : Coercion → Json
  | .int => .string "int"
  | .double => .string "float"
  | .fixed p => .ofMembers [("fixed", .nat p)]
  | .fixedDouble p => .ofMembers [("fixed-float", .nat p)]

/-- A validator as JSON; one of the caller's has no written form. -/
def Validator.toJson? : Validator → Option Json
  | .pattern e => some (.ofMembers [("pattern", .string e)])
  | .oneOf allowed => some (.ofMembers [("one_of", .array allowed)])
  | .length min max =>
    some (.ofMembers [("length",
      .ofMembers [("min", Json.ofOption .nat min), ("max", Json.ofOption .nat max)])])
  | .custom _ => none

/-- A column as JSON. -/
def ColumnDecl.toJson (c : ColumnDecl) : Json :=
  .ofMembers <|
    [("type", .string c.type), ("not_null", .bool c.notNull), ("type_lock", .bool c.typeLock),
      ("drop", .bool c.drop), ("ignore", .bool c.ignore), ("force", .bool c.force)] ++
    Row.member? "default" (·) c.default? ++
    Row.member? "old_name" .string c.oldName ++
    Row.member? "ref" .string c.references ++
    Row.member? "ref_action_delete" (fun a => .string a.name) c.onDelete ++
    Row.member? "ref_action_update" (fun a => .string a.name) c.onUpdate ++
    Row.member? "index_type" .string c.indexType ++
    Row.member? "validate" (·) (c.validator.bind (·.toJson?)) ++
    Row.member? "to" .string c.format ++
    Row.member? "precision" .nat c.precision

/-- The columns for timestamps as JSON. -/
def Timestamps.toJson (t : Timestamps) : Json :=
  .ofMembers (Row.member? "create" .string t.create ++ Row.member? "update" .string t.update)

/-- The fields of a table other than its columns, as JSON. -/
def TableDecl.headToJson (t : TableDecl) : Json :=
  .ofMembers <|
    [("table", .string t.name), ("index", Json.strings t.indexes),
      ("unique", Json.strings t.uniques), ("remove_index", Json.strings t.removedIndexes),
      ("auto_id", .bool t.autoId)] ++
    Row.member? "primary_key" PrimaryKey.toJson t.primaryKey ++
    Row.member? "id" IdStrategy.toJson t.id ++
    Row.member? "timestamps" Timestamps.toJson t.timestamps ++
    Row.member? "page_size" .nat t.pageSize ++
    Row.member? "select_fields" Json.strings t.selectFields

/-! ### The text of a declaration -/

/-- A key as it is written. -/
def PrimaryKey.toDocument : PrimaryKey → Document
  | .single c => .string c
  | .columns cs => .texts cs

/-- A strategy as it is written. -/
def IdStrategy.toDocument : IdStrategy → Document
  | .none => .object [("kind", .string "none")]
  | .short len lead =>
    .object [("kind", .string "short"), ("len", .nat len), ("prefix", .string lead)]
  | .long minLen => .object [("kind", .string "long"), ("min_len", .nat minLen)]
  | .serial len => .object [("kind", .string "serial"), ("len", .nat len)]
  | .big => .object [("kind", .string "big")]

/-- A validator as it is written; one of the caller's has no written form. -/
def Validator.toDocument? : Validator → Option Document
  | .pattern e => some (.object [("pattern", .string e)])
  | .oneOf allowed => some (.object [("one_of", .array (Document.ofItems allowed))])
  | .length min max =>
    some (.object [("length",
      .object [("min", Document.ofOption .nat min), ("max", Document.ofOption .nat max)])])
  | .custom _ => none

/-- The fields of a column, with the written form of its validator. -/
def ColumnDecl.fields (c : ColumnDecl) (validate : Option Document) :
    List (String × Option Document) :=
  [("type", some (.string c.type)), ("not_null", some (.bool c.notNull)),
    ("default", c.default?.map Document.ofJson), ("old_name", c.oldName.map .string),
    ("type_lock", some (.bool c.typeLock)), ("ref", c.references.map .string),
    ("ref_action_delete", c.onDelete.map fun a => .string a.name),
    ("ref_action_update", c.onUpdate.map fun a => .string a.name),
    ("drop", some (.bool c.drop)), ("ignore", some (.bool c.ignore)),
    ("force", some (.bool c.force)), ("index_type", c.indexType.map .string),
    ("validate", validate), ("to", c.format.map .string), ("precision", c.precision.map .nat)]

/-- A column as it is written. -/
def ColumnDecl.toDocument? (c : ColumnDecl) : Option Document :=
  (c.validator.mapM Validator.toDocument?).map fun validate => .record (c.fields validate)

/-- A column under its name as it is written. -/
def ColumnDecl.member? (column : String × ColumnDecl) : Option (String × Document) :=
  column.2.toDocument?.map fun d => (column.1, d)

/-- The columns for timestamps as they are written. -/
def Timestamps.toDocument (t : Timestamps) : Document :=
  .record [("create", t.create.map .string), ("update", t.update.map .string)]

/-- The fields of a table, with the written forms of its columns. -/
def TableDecl.fields (t : TableDecl) (columns : List (String × Document)) :
    List (String × Option Document) :=
  [("table", some (.string t.name)), ("column", some (.object columns)),
    ("primary_key", t.primaryKey.map (·.toDocument)), ("index", some (.texts t.indexes)),
    ("unique", some (.texts t.uniques)), ("remove_index", some (.texts t.removedIndexes)),
    ("auto_id", some (.bool t.autoId)), ("id", t.id.map (·.toDocument)),
    ("timestamps", t.timestamps.map (·.toDocument)), ("page_size", t.pageSize.map .nat),
    ("select_fields", t.selectFields.map .texts)]

/-- A declaration as it is written. -/
def TableDecl.toDocument? (t : TableDecl) : Option Document :=
  (t.columns.mapM ColumnDecl.member?).map fun columns => .record (t.fields columns)

/-- The text of a declaration. -/
def TableDecl.text? (t : TableDecl) : Option String := t.toDocument?.map (·.render)

end TableMapper
