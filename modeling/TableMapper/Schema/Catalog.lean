import TableMapper.Schema.TypeName
import TableMapper.Json.Basic

/-!
# The catalog

* `CatalogColumn` is a column as the catalog reports it, `Catalog` what it knows about a table.
* `CatalogColumn.hasType` compares a live column with a declared type.
-/

namespace TableMapper

/-- A live column. -/
structure CatalogColumn where
  name : String
  /-- The type, by the name that the catalog has for it. -/
  dataType : String := ""
  /-- The underlying type. -/
  underlying : String := ""
  charLength : Option Int := none
  numericPrecision : Option Int := none
  numericScale : Option Int := none
  nullable : Bool := false
  /-- The default, as an SQL expression. -/
  default? : Option String := none
  deriving DecidableEq, Inhabited

namespace CatalogColumn

/-- The column in a row of the catalog; a value of the wrong kind counts as missing. -/
def ofRow? (row : Row) : Option CatalogColumn := do
  let text (key : String) : Option String := (row.get? key).bind (·.text?)
  let int (key : String) : Option Int :=
    ((row.get? key).bind (·.int?)).filter (· < (Nat.pow 2 63 : Int))
  return {
    name := ← text "column_name"
    dataType := (text "data_type").getD ""
    underlying := (text "udt_name").getD ""
    charLength := int "character_maximum_length"
    numericPrecision := int "numeric_precision"
    numericScale := int "numeric_scale"
    nullable := (text "is_nullable").any (Text.sameLetters · "YES")
    default? := text "column_default" }

/-- The column is an array. -/
def isArray (c : CatalogColumn) : Bool := Text.sameLetters c.dataType "ARRAY"

/-- The column holds text. -/
def isTextual (c : CatalogColumn) : Bool :=
  c.dataType == "text" || Text.startsWith "character" c.dataType

/-- The length of a text column as an argument of its type. -/
def lengthText (c : CatalogColumn) : String := (c.charLength.map toString).getD ""

/-- Precision and scale as the arguments of a type. -/
def precisionText (c : CatalogColumn) : String :=
  toString (c.numericPrecision.getD 0) ++ "," ++ toString (c.numericScale.getD 0)

/-- The column has the declared type.  Arrays and types that the catalog name of is not known are
not compared. -/
def hasType (c : CatalogColumn) (declared : String) : Bool :=
  if c.isArray || TypeName.isArray declared then true
  else
    match TypeName.catalogName? (TypeName.base declared) with
    | none => true
    | some name =>
      c.dataType == name &&
        match TypeName.arguments? declared with
        | none => true
        | some args =>
          if !TypeName.withArguments.contains name then true
          else if Text.startsWith "character" name then c.lengthText == args
          else c.precisionText == (if Text.contains "," args then args else args ++ ",0")

end CatalogColumn

/-- What the catalog knows about a table. -/
structure Catalog where
  /-- The table exists. -/
  present : Bool := false
  /-- The columns, no two of one name. -/
  columns : List CatalogColumn := []
  /-- The names of the indexes. -/
  indexes : List String := []
  /-- The names of the foreign-key constraints. -/
  foreignKeys : List String := []
  deriving Inhabited

namespace Catalog

/-- The columns with the one of a name replaced, or added. -/
def putColumn (c : CatalogColumn) : List CatalogColumn → List CatalogColumn
  | [] => [c]
  | d :: rest => if d.name = c.name then c :: rest else d :: putColumn c rest

/-- The columns in the rows of the catalog. -/
def columnsOfRows (rows : List Row) : List CatalogColumn :=
  (rows.filterMap CatalogColumn.ofRow?).foldl (fun cs c => putColumn c cs) []

/-- The names in the rows of the catalog. -/
def namesOfRows (key : String) (rows : List Row) : List String :=
  rows.filterMap fun row => (row.get? key).bind (·.text?)

/-- The column of a name. -/
def column? (c : Catalog) (name : String) : Option CatalogColumn :=
  c.columns.find? (·.name == name)

/-- Whether there is an index of a name. -/
def hasIndex (c : Catalog) (name : String) : Bool := c.indexes.contains name

/-- Whether there is a foreign key of a name. -/
def hasForeignKey (c : Catalog) (name : String) : Bool := c.foreignKeys.contains name

end Catalog

end TableMapper
