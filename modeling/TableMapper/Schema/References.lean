import TableMapper.Schema.Naming
import TableMapper.Schema.TypeName

/-!
# References between tables

* `Tables` are the declarations known by name.
* `Tables.order` lists tables so that a table comes after those that it refers to; a cycle is cut
  where it is found.
* `Tables.effective` is a declaration whose referring columns have the types of the columns that
  they refer to.
-/

namespace TableMapper

/-- The known declarations, no two of one name. -/
abbrev Tables := List TableDecl

namespace Tables

/-- The declaration of a name. -/
def get? (tables : Tables) (name : String) : Option TableDecl := tables.find? (·.name == name)

/-- The tables with the declaration of a name replaced, or added. -/
def put (t : TableDecl) : Tables → Tables
  | [] => [t]
  | u :: rest => if u.name = t.name then t :: rest else u :: put t rest

/-- The tables of these declarations; of equal names the last one counts. -/
def ofList (decls : List TableDecl) : Tables := decls.foldl (fun tables t => put t tables) []

/-! ### Order -/

/-- A visit of tables: the names met so far, and the tables in order. -/
structure Visit where
  met : List String := []
  order : List TableDecl := []

/-- Visits what a table refers to and then the table.  `fuel` bounds the length of a chain of
tables that were not met before. -/
def visit (tables : Tables) : Nat → TableDecl → Visit → Visit
  | 0, _, v => v
  | fuel + 1, t, v =>
    if v.met.contains t.name then v
    else
      let v := t.foreignKeys.foldl (fun v k =>
        if k.target.table = t.name then v
        else
          match tables.get? k.target.table with
          | some dep => visit tables fuel dep v
          | none => v) { v with met := t.name :: v.met }
      { v with order := v.order ++ [t] }

/-- The tables reachable from `roots`, each after those that it refers to. -/
def order (tables : Tables) (roots : List TableDecl) : List TableDecl :=
  (roots.foldl (fun v t => visit tables (tables.length + 2) t v) {}).order

/-! ### Types -/

/-- The type of the column that a key refers to, as a column that refers to it needs it. -/
def targetType? (tables : Tables) (t : TableDecl) (k : ForeignKey) : Option String :=
  let target := if k.target.table = t.name then some t else tables.get? k.target.table
  ((target.bind (·.column? k.target.column)).map (·.type)).map TypeName.storage

/-- The declaration with the types of referring columns replaced. -/
def effective (tables : Tables) (t : TableDecl) : TableDecl :=
  { t with
    columns := t.columns.map fun (name, c) =>
      match (c.foreignKey? t.name name).bind (targetType? tables t) with
      | some type => (name, { c with type })
      | none => (name, c) }

end Tables

end TableMapper
