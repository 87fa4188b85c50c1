import TableMapper.Schema.Default
import TableMapper.Schema.Naming
import TableMapper.Sql.Identifier

/-!
# Changes of a schema

* `ColumnDef` is a column as it is created, `Ddl` one change of a table.
* `Ddl.sql` is the statement that makes the change.
-/

namespace TableMapper

/-- The definition of a column. -/
structure ColumnDef where
  name : String
  type : String
  notNull : Bool := false
  default? : Option Json := none
  /-- The column is the primary key. -/
  primaryKey : Bool := false

namespace ColumnDef

/-- The definition of a declared column.  A key column is defined by its type alone. -/
def ofDecl (name : String) (c : ColumnDecl) (inKey : Bool) : ColumnDef :=
  if inKey then { name, type := c.type }
  else { name, type := c.type, notNull := c.notNull, default? := Default.effective? c }

/-- The text of a definition. -/
def sql (d : ColumnDef) : String :=
  Sql.ident d.name ++ " " ++ d.type ++
    (if d.notNull then " NOT NULL" else "") ++
    (match d.default? with
      | some v => " DEFAULT " ++ Default.literal v
      | none => "") ++
    (if d.primaryKey then " PRIMARY KEY" else "")

end ColumnDef

/-- A change of a table. -/
inductive Ddl where
  /-- Creates the table, with a primary key of several columns unless `key` is empty. -/
  | createTable (columns : List ColumnDef) (key : List String)
  | addColumn (column : ColumnDef)
  | dropColumn (column : String) (ifExists : Bool)
  | renameColumn (old new : String)
  | alterType (column type : String)
  | setDefault (column : String) (value : Json)
  | dropDefault (column : String)
  | setNotNull (column : String)
  | dropNotNull (column : String)
  | createIndex (name : String) (method : Option String) (columns : List String)
  | createUniqueIndex (name : String) (columns : List String)
  | dropIndex (name : String)
  | addForeignKey (key : ForeignKey)
  | dropConstraint (name : String) (ifExists : Bool)

namespace Ddl

/-- A list of column names. -/
def columnList (columns : List String) : String := ",".intercalate (columns.map Sql.ident)

/-- The words that make a removal harmless when there is nothing to remove. -/
def guard (ifExists : Bool) : String := if ifExists then "IF EXISTS " else ""

/-- The parts between the parentheses of a new table. -/
def tableParts (columns : List ColumnDef) (key : List String) : List String :=
  columns.map (·.sql) ++
    if key.isEmpty then [] else ["PRIMARY KEY (" ++ columnList key ++ ")"]

/-- The statement for a change of a table in a schema. -/
def sql (schema table : String) (change : Ddl) : String :=
  let target := Sql.qualified schema table
  let alter := "ALTER TABLE " ++ target ++ " "
  let column (name : String) := alter ++ "ALTER COLUMN " ++ Sql.ident name ++ " "
  match change with
  | createTable columns key =>
    "CREATE TABLE IF NOT EXISTS " ++ target ++ " (" ++
      ", ".intercalate (tableParts columns key) ++ ")"
  | addColumn d => alter ++ "ADD COLUMN " ++ d.sql
  | dropColumn name ifExists => alter ++ "DROP COLUMN " ++ guard ifExists ++ Sql.ident name
  | renameColumn old new => alter ++ "RENAME COLUMN " ++ Sql.ident old ++ " TO " ++ Sql.ident new
  | alterType name type => column name ++ "TYPE " ++ type
  | setDefault name value => column name ++ "SET DEFAULT " ++ Default.literal value
  | dropDefault name => column name ++ "DROP DEFAULT"
  | setNotNull name => column name ++ "SET NOT NULL"
  | dropNotNull name => column name ++ "DROP NOT NULL"
  | createIndex name method columns =>
    "CREATE INDEX " ++ Sql.ident name ++ " ON " ++ target ++
      (match method with
        | some m => " USING " ++ m
        | none => "") ++
      " (" ++ columnList columns ++ ")"
  | createUniqueIndex name columns =>
    "CREATE UNIQUE INDEX " ++ Sql.ident name ++ " ON " ++ target ++ " (" ++ columnList columns ++
      ")"
  | dropIndex name => "DROP INDEX IF EXISTS " ++ Sql.qualified schema name
  | addForeignKey k =>
    alter ++ "ADD CONSTRAINT " ++ Sql.ident k.name ++ " FOREIGN KEY (" ++ Sql.ident k.column ++
      ") REFERENCES " ++ Sql.qualified schema k.target.table ++ " (" ++
      Sql.ident k.target.column ++ ") ON DELETE " ++ k.onDelete.sql ++ " ON UPDATE " ++
      k.onUpdate.sql
  | dropConstraint name ifExists =>
    alter ++ "DROP CONSTRAINT " ++ guard ifExists ++ Sql.ident name

end Ddl

end TableMapper
