import TableMapper.Schema.Catalog
import TableMapper.Schema.Plan.Basic

/-!
# Indexes

`Plan.indexes` creates the declared indexes that the catalog does not have and removes those that
are declared to be removed.
-/

namespace TableMapper

namespace Plan

/-- The column lists of index entries, without empty ones. -/
def columnLists (entries : List String) : List (List String) :=
  (entries.map Naming.entryColumns).filter (!·.isEmpty)

/-- The first column of a list that cannot be indexed. -/
def unusable? (t : TableDecl) (columns : List String) : Option String :=
  columns.find? fun c => !((t.column? c).any (·.isActive))

/-- The access method: that of the column, or `gin` for a single column of documents or arrays. -/
def indexMethod? (t : TableDecl) : List String → Option String
  | [name] =>
    (t.column? name).bind fun c =>
      match c.indexType with
      | some method => some method
      | none =>
        let type := Text.lowerAscii (Text.trim c.type)
        if type == "jsonb" || TypeName.isArray type then some "gin" else none
  | _ => none

/-- The name under which an index is spoken of in remarks. -/
def indexObject (t : TableDecl) (columns : List String) : String :=
  t.member (",".intercalate columns)

/-- Creates an index on usable columns unless there is one of its name. -/
def createUnlessPresent (t : TableDecl) (live : Catalog) (columns : List String)
    (change : String → Ddl) : Plan :=
  match unusable? t columns with
  | some c =>
    .issue (indexObject t columns)
      ("column '" ++ c ++ "' is missing, dropped or ignored; index skipped")
  | none =>
    let name := Naming.indexName t.name columns
    if live.hasIndex name then {} else .step name (change name)

/-- One declared index. -/
def index (t : TableDecl) (live : Catalog) (columns : List String) : Plan :=
  if (columnLists t.removedIndexes).contains columns then {}
  else if (columnLists t.uniques).contains columns then
    .issue (indexObject t columns) "declared as both index and unique; neither is created"
  else
    createUnlessPresent t live columns fun name =>
      .createIndex name (indexMethod? t columns) columns

/-- One declared unique index. -/
def uniqueIndex (t : TableDecl) (live : Catalog) (columns : List String) : Plan :=
  if (columnLists t.removedIndexes).contains columns ||
      (columnLists t.indexes).contains columns then {}
  else createUnlessPresent t live columns fun name => .createUniqueIndex name columns

/-- The live index that an entry names, by its columns or by itself. -/
def namedIndex? (t : TableDecl) (live : Catalog) (entry : String) : Option String :=
  let canonical := Naming.indexName t.name (Naming.entryColumns entry)
  if live.hasIndex canonical then some canonical
  else if live.hasIndex (Text.trim entry) then some (Text.trim entry)
  else none

/-- One index to remove. -/
def removedIndex (t : TableDecl) (live : Catalog) (entry : String) : Plan :=
  match namedIndex? t live entry with
  | some name => .tryStep name (.dropIndex name)
  | none => {}

/-- All indexes. -/
def indexes (t : TableDecl) (live : Catalog) : Plan :=
  concat ((columnLists t.indexes).map (index t live)) ++
    concat ((columnLists t.uniques).map (uniqueIndex t live)) ++
    concat (t.removedIndexes.map (removedIndex t live))

end Plan

end TableMapper
