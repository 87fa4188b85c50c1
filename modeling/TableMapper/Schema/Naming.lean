import TableMapper.Table.Decl

/-!
# Names and references

* `Naming.entryColumns` are the columns of an index entry.
* `Naming.indexName` and `Naming.foreignKeyName` are the names of indexes and constraints, cut to
  the length that the server keeps.
* `Reference.parse` finds table and column of a reference, `TableDecl.foreignKeys` the foreign keys
  of a table.
-/

namespace TableMapper

namespace Naming

/-- The bytes of a name that the server keeps. -/
def maxBytes : Nat := 63

/-- The columns of an index entry, which commas separate. -/
def entryColumns (entry : String) : List String :=
  ((Text.splitOn ',' entry).map Text.trim).filter (· != "")

/-- The characters that fit into `room` bytes. -/
def takeBytes : Nat → List Char → List Char
  | _, [] => []
  | room, c :: cs =>
    if c.utf8Size ≤ room then c :: takeBytes (room - c.utf8Size) cs else []

/-- A name without what the server would cut off. -/
def truncate (name : String) : String := String.ofList (takeBytes maxBytes name.toList)

/-- The name of an index. -/
def indexName (table : String) (columns : List String) : String :=
  truncate (table ++ "_" ++ "_".intercalate columns ++ "_idx")

/-- The name of a foreign key. -/
def foreignKeyName (table column : String) : String :=
  truncate (table ++ "_" ++ column ++ "_fkey")

end Naming

/-- What a column refers to. -/
structure Reference where
  table : String
  column : String
  deriving DecidableEq

/-- The reference of a column.  What follows the last colon is the column, unless it is blank or
nothing precedes it; without one it is the column of the same name. -/
def Reference.parse (text column : String) : Reference :=
  let reversed := text.toList.reverse
  match Text.cutWhere? (· == ':') reversed with
  | some (after, before) =>
    let table := String.ofList before.reverse
    let target := String.ofList after.reverse
    if before.isEmpty then ⟨Text.trim text, column⟩
    else if Text.isBlankText target then ⟨Text.trim table, column⟩
    else ⟨Text.trim table, Text.trim target⟩
  | none => ⟨Text.trim text, column⟩

/-- A foreign key of one column. -/
structure ForeignKey where
  column : String
  target : Reference
  onDelete : RefAction
  onUpdate : RefAction
  /-- The name of the constraint. -/
  name : String
  deriving DecidableEq

/-- The foreign key of a column, if it is active and refers to something. -/
def ColumnDecl.foreignKey? (table name : String) (c : ColumnDecl) : Option ForeignKey :=
  if c.isActive then
    c.references.map fun text =>
      { column := name
        target := Reference.parse text name
        onDelete := c.onDelete.getD .cascade
        onUpdate := c.onUpdate.getD .cascade
        name := Naming.foreignKeyName table name }
  else none

/-- The foreign keys of a table, in the order of its columns. -/
def TableDecl.foreignKeys (t : TableDecl) : List ForeignKey :=
  t.columns.filterMap fun (name, c) => c.foreignKey? t.name name

end TableMapper
