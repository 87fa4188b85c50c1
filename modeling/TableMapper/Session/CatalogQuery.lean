import TableMapper.Schema.Catalog
import TableMapper.Session.Basic

/-!
# Reading the catalog

* `CatalogQuery` names the four questions that are put to the catalog, `CatalogQuery.sql` their
  statements.  The arguments of each are a schema and a table.
* `Catalog.load` puts them.  The first one tells whether the table exists; the others are put only
  if it does.
-/

namespace TableMapper

/-- A question to the catalog. -/
inductive CatalogQuery where
  | tables
  | columns
  | indexes
  | foreignKeys
  deriving DecidableEq

namespace CatalogQuery

/-- All questions, in order. -/
def all : List CatalogQuery := [.tables, .columns, .indexes, .foreignKeys]

/-- The catalog relation that a question is about. -/
def relation : CatalogQuery → String
  | .tables => "information_schema.tables"
  | .columns => "information_schema.columns"
  | .indexes => "pg_indexes"
  | .foreignKeys => "pg_constraint"

/-- The lines of a statement. -/
def lines : CatalogQuery → List String
  | .tables =>
    ["SELECT table_name::text AS table_name",
      "FROM information_schema.tables",
      "WHERE table_schema = $1 AND table_name = $2"]
  | .columns =>
    ["SELECT",
      "    column_name::text AS column_name,",
      "    data_type::text AS data_type,",
      "    udt_name::text AS udt_name,",
      "    character_maximum_length::int4 AS character_maximum_length,",
      "    numeric_precision::int4 AS numeric_precision,",
      "    numeric_scale::int4 AS numeric_scale,",
      "    is_nullable::text AS is_nullable,",
      "    column_default::text AS column_default",
      "FROM information_schema.columns",
      "WHERE table_schema = $1 AND table_name = $2",
      "ORDER BY ordinal_position"]
  | .indexes =>
    ["SELECT indexname::text AS indexname",
      "FROM pg_indexes",
      "WHERE schemaname = $1 AND tablename = $2"]
  | .foreignKeys =>
    ["SELECT c.conname::text AS conname",
      "FROM pg_constraint c",
      "JOIN pg_class t ON t.oid = c.conrelid",
      "JOIN pg_namespace n ON n.oid = t.relnamespace",
      "WHERE c.contype = 'f' AND n.nspname = $1 AND t.relname = $2"]

/-- The statement of a question, in indented lines. -/
def sql (q : CatalogQuery) : String :=
  String.join ((q.lines ++ [""]).map fun line => "\n            " ++ line)

end CatalogQuery

namespace Catalog

variable {σ : Type} [Backend σ]

/-- The rows that answer a question about a table. -/
def ask (q : CatalogQuery) (schema table : String) : SessionM σ (List Row) :=
  return (← Session.query q.sql [.text schema, .text table]).rows

/-- What the catalog knows about a table. -/
def load (schema table : String) : SessionM σ Catalog := do
  if (← ask .tables schema table).isEmpty then return {}
  let columns := columnsOfRows (← ask .columns schema table)
  let indexes := namesOfRows "indexname" (← ask .indexes schema table)
  let foreignKeys := namesOfRows "conname" (← ask .foreignKeys schema table)
  return { present := true, columns, indexes, foreignKeys }

end Catalog

end TableMapper
