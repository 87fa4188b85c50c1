import TableMapper.Schema.Plan.Basic
import TableMapper.Schema.Plan.Columns
import TableMapper.Schema.Plan.ForeignKeys
import TableMapper.Schema.Plan.Indexes

/-!
# Plans for tables

`Plan.createTable` creates a table that the catalog does not have, with its active columns and its
primary key.  `Plan.table` is the whole plan for a table: it is created when the catalog does not
have it, and brought in line with its declaration otherwise.
-/

namespace TableMapper

namespace Plan

/-- A column of a new table.  A key of one column is declared with it. -/
def newColumn (t : TableDecl) (name : String) (c : ColumnDecl) : ColumnDef :=
  let inKey := t.keyColumns.contains name
  { ColumnDef.ofDecl name c inKey with primaryKey := inKey && t.keyColumns.length == 1 }

/-- Creates the table. -/
def createTable (t : TableDecl) : Plan :=
  let columns := (t.columns.filter (·.2.isActive)).map fun (name, c) => newColumn t name c
  let key := if 1 < t.keyColumns.length then t.keyColumns else []
  .step t.name (.createTable columns key)

end Plan

/-- What a synchronization may do. -/
structure SyncOptions where
  /-- Statements are planned, but not run. -/
  dryRun : Bool := false
  /-- Columns that are not declared are removed. -/
  dropUndeclared : Bool := false
  /-- Changes of type may lose text. -/
  force : Bool := false
  deriving DecidableEq

namespace Plan

/-- The plan for a table that does not exist. -/
def newTable (t : TableDecl) : Plan :=
  createTable t ++ indexes t {} ++ foreignKeys t {} []

/-- The plan for a table that exists. -/
def liveTable (t : TableDecl) (live : Catalog) (o : SyncOptions) : Plan :=
  let cs := columns t live o.force o.dropUndeclared
  cs ++ indexes t live ++ foreignKeys t live cs.changed

/-- The plan for a table. -/
def table (t : TableDecl) (live : Catalog) (o : SyncOptions) : Plan :=
  if live.present then liveTable t live o else newTable t

end Plan

end TableMapper
