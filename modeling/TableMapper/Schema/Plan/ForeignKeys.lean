import TableMapper.Schema.Catalog
import TableMapper.Schema.Plan.Basic

/-!
# Foreign keys

`Plan.foreignKeys` removes the foreign keys of a table that are no longer declared, adds the missing
ones, and adds those anew whose column changed its type.
-/

namespace TableMapper

namespace Plan

/-- The live constraints with a name of this table that no declared key has, in order. -/
def staleKeys (t : TableDecl) (live : Catalog) : List String :=
  let declared := t.foreignKeys.map (·.name)
  (live.foreignKeys.filter fun name =>
    Text.startsWith (t.name ++ "_") name && !declared.contains name).eraseDups.mergeSort

/-- One declared foreign key. -/
def foreignKey (live : Catalog) (changed : List String) (k : ForeignKey) : Plan :=
  let present := live.hasForeignKey k.name
  let moved := changed.contains k.column
  (if present && moved then .tryStep k.name (.dropConstraint k.name true) else {}) ++
    if !present || moved then .step k.name (.addForeignKey k) else {}

/-- All foreign keys, after the columns in `changed` changed their type. -/
def foreignKeys (t : TableDecl) (live : Catalog) (changed : List String) : Plan :=
  concat ((staleKeys t live).map fun name => .step name (.dropConstraint name false)) ++
    concat (t.foreignKeys.map (foreignKey live changed))

end Plan

end TableMapper
