import TableMapper.Schema.Catalog
import TableMapper.Schema.Plan.Basic

/-!
# Columns of existing tables

`Plan.columns` brings the columns of a live table in line with the declaration.  Columns are taken
in the order of the declaration; each is removed, renamed, added, or changed in type, default and
nullability.  A change of type that would lose text is refused unless it is forced.
-/

namespace TableMapper

namespace Plan

/-- The live column that a declared column is renamed from, if it has to be. -/
def renameSource? (live : Catalog) (name : String) (c : ColumnDecl) : Option CatalogColumn :=
  match live.column? name with
  | some _ => none
  | none => c.oldName.bind live.column?

/-- The live column of a declared column, under its name or its old one. -/
def liveColumn? (live : Catalog) (name : String) (c : ColumnDecl) : Option CatalogColumn :=
  (live.column? name).or (renameSource? live name c)

/-- The type of the column is compared with the live one. -/
def isManaged (c : ColumnDecl) : Bool :=
  !c.typeLock && (TypeName.catalogName? (TypeName.base c.type)).isSome && !TypeName.isArray c.type

/-- The default of a column. -/
def columnDefault (object name : String) (c : ColumnDecl) (live : CatalogColumn) : Plan :=
  match Default.effective? c with
  | some v =>
    if Default.agrees live.default? v then {} else .step object (.setDefault name v)
  | none =>
    if c.default?.isSome && live.default?.isSome then .step object (.dropDefault name) else {}

/-- The nullability of a column. -/
def columnNullability (object name : String) (c : ColumnDecl) (live : CatalogColumn) : Plan :=
  if c.notNull && live.nullable then .step object (.setNotNull name)
  else if !c.notNull && !live.nullable then .step object (.dropNotNull name)
  else {}

/-- Default and nullability, which a key column leaves as they are. -/
def columnConstraints (object name : String) (c : ColumnDecl) (live : CatalogColumn)
    (inKey : Bool) : Plan :=
  if inKey then {}
  else columnDefault object name c live ++ columnNullability object name c live

/-- The column is created anew, without its data. -/
def recreateColumn (object name : String) (c : ColumnDecl) (inKey : Bool) : Plan :=
  .step object (.dropColumn name false) ++
    .step object (.addColumn (ColumnDef.ofDecl name c inKey)) ++ .change name

/-- The type of a managed column, and then the rest. -/
def columnType (object name : String) (c : ColumnDecl) (live : CatalogColumn)
    (inKey force : Bool) : Plan :=
  if live.hasType c.type then columnConstraints object name c live inKey
  else if live.isTextual && !TypeName.isString (TypeName.base c.type) then
    if c.force || force then recreateColumn object name c inKey
    else
      .issue object
        ("refusing to convert " ++ live.dataType ++ " to " ++ c.type ++ " without force")
  else
    .step object (.alterType name c.type) ++ .change name ++
      columnConstraints object name c live inKey

/-- One declared column. -/
def column (t : TableDecl) (live : Catalog) (force : Bool) (name : String) (c : ColumnDecl) :
    Plan :=
  let object := t.member name
  let inKey := t.keyColumns.contains name
  if c.ignore then {}
  else if c.drop then .tryStep object (.dropColumn name true)
  else
    let rename : Plan := match renameSource? live name c with
      | some old => .step object (.renameColumn old.name name)
      | none => {}
    match liveColumn? live name c with
    | none => .step object (.addColumn (ColumnDef.ofDecl name c false))
    | some found =>
      rename ++ if isManaged c then columnType object name c found inKey force else {}

/-- The live columns that declared columns are renamed from. -/
def renamedFrom (t : TableDecl) (live : Catalog) : List String :=
  t.columns.filterMap fun (name, c) =>
    if c.ignore || c.drop then none else (renameSource? live name c).map (·.name)

/-- The live columns that the declaration knows nothing of, in order of their names. -/
def undeclared (t : TableDecl) (live : Catalog) : List String :=
  ((live.columns.map (·.name)).filter fun name =>
    !t.hasColumn name && !(renamedFrom t live).contains name).mergeSort

/-- All columns; those that are not declared are removed if `dropUndeclared`. -/
def columns (t : TableDecl) (live : Catalog) (force dropUndeclared : Bool) : Plan :=
  let declared := concat (t.columns.map fun (name, c) => column t live force name c)
  let others := if dropUndeclared then undeclared t live else []
  declared ++
    concat (others.map fun name => .step (t.member name) (.dropColumn name false))

end Plan

end TableMapper
