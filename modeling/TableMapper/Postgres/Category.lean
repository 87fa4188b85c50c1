import TableMapper.Text.Letter
import TableMapper.Text.Search

/-!
# Categories of column types

* `TypeCategory` is how the values of a column are read; `TypeCategory.ofName` finds it from the
  name of the type.
* `ColumnType.name` is the name of the type with a number.
-/

namespace TableMapper

/-- The kinds of elements of arrays that are read. -/
inductive ArrayElement where
  | int2 | int4 | int8 | double | boolean | text | json
  deriving DecidableEq

/-- How the values of a column are read. -/
inductive TypeCategory where
  | integer
  | double
  | decimal
  | boolean
  | text
  | binary
  | json
  | uuid
  | timestamp
  | timestampTz
  | date
  | time
  | array (element : ArrayElement)
  | unknown
  deriving DecidableEq

namespace ArrayElement

/-- The kind of elements with this type name. -/
def ofName? : String → Option ArrayElement
  | "int2" | "smallint" => some .int2
  | "int4" | "integer" => some .int4
  | "int8" | "bigint" => some .int8
  | "float4" | "float8" | "real" | "double precision" => some .double
  | "bool" | "boolean" => some .boolean
  | "json" | "jsonb" => some .json
  | "text" | "varchar" | "bpchar" | "char" | "name" | "citext" => some .text
  | _ => none

end ArrayElement

namespace TypeCategory

/-- The category of a type that is no array and no decimal number. -/
def ofScalar : String → TypeCategory
  | "int2" | "int4" | "int8" | "smallint" | "integer" | "bigint" => .integer
  | "serial" | "bigserial" | "smallserial" | "oid" => .integer
  | "bool" | "boolean" => .boolean
  | "float4" | "float8" | "real" | "double precision" => .double
  | "json" | "jsonb" => .json
  | "uuid" => .uuid
  | "bytea" => .binary
  | "timestamp" => .timestamp
  | "timestamptz" => .timestampTz
  | "date" => .date
  | "time" => .time
  | "text" | "varchar" | "bpchar" | "char" | "name" | "citext" => .text
  | _ => .unknown

/-- The category of a type name in lower case.  A name that speaks of decimal numbers wins over
everything else. -/
def ofLower (name : String) : TypeCategory :=
  if Text.contains "decimal" name || Text.contains "numeric" name then .decimal
  else match Text.before? "[]" name with
    | some element => match ArrayElement.ofName? element with
      | some e => .array e
      | none => .unknown
    | none => ofScalar name

/-- The category of a type name in any case. -/
def ofName (name : String) : TypeCategory := ofLower (Text.lowerAscii name)

end TypeCategory

/-- The number of a type in the catalog. -/
abbrev ColumnType := Nat

namespace ColumnType

/-- The name of a type, as the driver reports it. -/
def name : ColumnType → String
  | 16 => "BOOL" | 17 => "BYTEA" | 18 => "\"CHAR\"" | 19 => "NAME"
  | 20 => "INT8" | 21 => "INT2" | 23 => "INT4" | 25 => "TEXT" | 26 => "OID"
  | 114 => "JSON" | 3802 => "JSONB"
  | 199 => "JSON[]" | 3807 => "JSONB[]"
  | 600 => "POINT" | 700 => "FLOAT4" | 701 => "FLOAT8" | 705 => "UNKNOWN"
  | 790 => "MONEY" | 869 => "INET"
  | 1000 => "BOOL[]" | 1001 => "BYTEA[]" | 1003 => "NAME[]"
  | 1005 => "INT2[]" | 1007 => "INT4[]" | 1009 => "TEXT[]"
  | 1014 => "CHAR[]" | 1015 => "VARCHAR[]" | 1016 => "INT8[]"
  | 1021 => "FLOAT4[]" | 1022 => "FLOAT8[]"
  | 1042 => "CHAR" | 1043 => "VARCHAR"
  | 1082 => "DATE" | 1083 => "TIME" | 1114 => "TIMESTAMP" | 1184 => "TIMESTAMPTZ"
  | 1115 => "TIMESTAMP[]" | 1182 => "DATE[]" | 1185 => "TIMESTAMPTZ[]"
  | 1186 => "INTERVAL" | 1231 => "NUMERIC[]" | 1266 => "TIMETZ"
  | 1700 => "NUMERIC" | 2249 => "RECORD" | 2950 => "UUID" | 2951 => "UUID[]"
  | _ => "?"

/-- The category of a type. -/
def category (type : ColumnType) : TypeCategory := .ofName type.name

/-- The types whose values are texts on the wire. -/
def isText (type : ColumnType) : Bool := [25, 1043, 1042, 19, 705].contains type

end ColumnType

end TableMapper
