import TableMapper.Coercion
import TableMapper.Id.Strategy
import TableMapper.Table.Validator

/-!
# Table declarations

* `ColumnDecl` declares a column, `TableDecl` a table with its columns in order, its key, its
  indexes and the way keys and timestamps are filled in.
* `TableDecl.setColumn` adds or replaces a column.
* `TableDecl.idColumn?` is the column that generated keys go to, `TableDecl.idStrategy?` how they
  are made.
-/

namespace TableMapper

/-- What happens to a row when the row it refers to goes away or changes its key. -/
inductive RefAction where
  | cascade
  | restrict
  | setNull
  | setDefault
  | noAction
  deriving DecidableEq

/-- The keywords of an action. -/
def RefAction.sql : RefAction → String
  | .cascade => "CASCADE"
  | .restrict => "RESTRICT"
  | .setNull => "SET NULL"
  | .setDefault => "SET DEFAULT"
  | .noAction => "NO ACTION"

/-- A primary key, declared as one column or as a list. -/
inductive PrimaryKey where
  | single (column : String)
  | columns (columns : List String)
  deriving DecidableEq

namespace PrimaryKey

/-- The columns of a key. -/
def names : PrimaryKey → List String
  | .single c => [c]
  | .columns cs => cs

/-- The key has several columns. -/
def isComposite : PrimaryKey → Bool
  | .single _ => false
  | .columns cs => 1 < cs.length

end PrimaryKey

/-- The declaration of a column. -/
structure ColumnDecl where
  /-- The type, as in `varchar(30)` or `text[]`. -/
  type : String
  notNull : Bool := true
  /-- The default: one is chosen by the type when absent, and `null` declares that there is
  none. -/
  default? : Option Json := none
  /-- The name of the column before it was renamed. -/
  oldName : Option String := none
  /-- The live type is left as it is. -/
  typeLock : Bool := false
  /-- What the column refers to: `table:column`, or a table with a column of the same name. -/
  references : Option String := none
  onDelete : Option RefAction := none
  onUpdate : Option RefAction := none
  /-- The column is to be removed. -/
  drop : Bool := false
  /-- The column takes no part in synchronization. -/
  ignore : Bool := false
  /-- A change of type may lose the data. -/
  force : Bool := false
  /-- The access method of an index on the column. -/
  indexType : Option String := none
  validator : Option Validator := none
  /-- The form of aggregates over the column: `int`, `float` or `fixed`. -/
  format : Option String := none
  /-- The decimal places of that form. -/
  precision : Option Nat := none

namespace ColumnDecl

/-- The form of aggregates over the column when the caller names none. -/
def coercion? (c : ColumnDecl) : Option Coercion :=
  match c.format with
  | some "int" | some "integer" => some .int
  | some "float" | some "number" =>
    some (match c.precision with
      | some p => .fixedDouble p
      | none => .double)
  | some "fixed" => some (.fixed (c.precision.getD 2))
  | _ => none

/-- The column takes part in the schema and in the checks of rows. -/
def isActive (c : ColumnDecl) : Bool := !c.drop && !c.ignore

end ColumnDecl

/-- The columns that are set to the current time. -/
structure Timestamps where
  /-- The column set when a row is inserted. -/
  create : Option String := none
  /-- The column set when a row is inserted or updated. -/
  update : Option String := none
  deriving DecidableEq

/-- The declaration of a table. -/
structure TableDecl where
  name : String
  /-- The columns by name, in the order of the table. -/
  columns : List (String × ColumnDecl) := []
  primaryKey : Option PrimaryKey := none
  /-- The indexes; the columns of one are separated by commas. -/
  indexes : List String := []
  uniques : List String := []
  /-- The indexes to remove. -/
  removedIndexes : List String := []
  /-- Keys are generated. -/
  autoId : Bool := false
  /-- How they are, when not by the type of the key. -/
  id : Option IdStrategy := none
  timestamps : Option Timestamps := none
  pageSize : Option Nat := none
  /-- The columns that are read when a query names none. -/
  selectFields : Option (List String) := none

namespace TableDecl

/-- The list with the column of a name replaced in its place, or added at the end. -/
def putColumn (name : String) (c : ColumnDecl) :
    List (String × ColumnDecl) → List (String × ColumnDecl)
  | [] => [(name, c)]
  | (n, d) :: rest => if n = name then (name, c) :: rest else (n, d) :: putColumn name c rest

/-- Adds or replaces a column. -/
def setColumn (name : String) (c : ColumnDecl) (t : TableDecl) : TableDecl :=
  { t with columns := putColumn name c t.columns }

/-- The column of a name. -/
def column? (t : TableDecl) (name : String) : Option ColumnDecl := t.columns.lookup name

/-- Whether the table has a column of a name. -/
def hasColumn (t : TableDecl) (name : String) : Bool := (t.column? name).isSome

/-- The names of the columns. -/
def columnNames (t : TableDecl) : List String := t.columns.map (·.1)

/-- The columns of the primary key. -/
def keyColumns (t : TableDecl) : List String := (t.primaryKey.map (·.names)).getD []

/-- The column for generated keys: only a key of one column has one. -/
def idColumn? (t : TableDecl) : Option String :=
  match t.primaryKey with
  | some (.single c) => some c
  | some (.columns [c]) => some c
  | _ => none

/-- How keys are generated, if they are. -/
def idStrategy? (t : TableDecl) : Option IdStrategy := do
  if !t.autoId then none
  let column ← t.idColumn?
  let strategy :=
    t.id.getD (IdStrategy.infer (((t.column? column).map (·.type)).getD ""))
  if strategy = .none then none else some strategy

end TableDecl

end TableMapper
