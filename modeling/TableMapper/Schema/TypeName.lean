import TableMapper.Text.Letter
import TableMapper.Text.Search

/-!
# Column types

A declared type is a name with optional arguments in parentheses and an optional array suffix.

* `TypeName.base` is the name, `TypeName.arguments?` the arguments, `TypeName.isArray` the suffix.
* `TypeName.catalogName?` is the name under which the catalog reports a type; other types are not
  compared.
* `TypeName.named` and the functions after it build declared types.
-/

namespace TableMapper

namespace TypeName

/-- Types that are compared with their length or precision. -/
def withArguments : List String := ["character varying", "character", "decimal", "numeric"]

/-- Types of numbers. -/
def numeric : List String :=
  ["smallint", "bigint", "integer", "int", "int2", "int4", "int8", "decimal", "numeric"]

/-- Types of text. -/
def string : List String := ["char", "varchar", "text", "character", "character varying"]

/-- The name that the catalog has for a base type. -/
def catalogName? (base : String) : Option String :=
  match base with
  | "varchar" | "character varying" => some "character varying"
  | "char" | "character" => some "character"
  | "text" => some "text"
  | "decimal" | "numeric" => some "numeric"
  | "integer" | "int" | "int4" => some "integer"
  | "smallint" | "int2" => some "smallint"
  | "bigint" | "int8" => some "bigint"
  | "boolean" | "bool" => some "boolean"
  | "bytea" => some "bytea"
  | "jsonb" => some "jsonb"
  | "json" => some "json"
  | "date" => some "date"
  | "time" => some "time without time zone"
  | "timestamp" => some "timestamp without time zone"
  | "timestamptz" | "timestamp with time zone" => some "timestamp with time zone"
  | "real" | "float4" => some "real"
  | "double precision" | "float8" => some "double precision"
  | "uuid" => some "uuid"
  | _ => none

/-- The name before parentheses and brackets, in lower case. -/
def base (type : String) : String :=
  let name := type.toList.takeWhile fun c => c != '(' && c != '['
  Text.lowerAscii (String.ofList (Text.trimChars name))

/-- What stands in the first parentheses, without blanks, if that is anything. -/
def arguments? (type : String) : Option String := do
  let (_, rest) ← Text.cutAt? "(" type
  let (inner, _) ← Text.cutAt? ")" rest
  let args := inner.toList.filter (!Text.isBlank ·)
  if args.isEmpty then none else some (String.ofList args)

/-- The type ends in a bracket. -/
def isArray (type : String) : Bool := Text.endsWith "]" (Text.trimEnd type)

/-- A base type of numbers. -/
def isNumeric (base : String) : Bool := numeric.contains base

/-- A base type of text. -/
def isString (base : String) : Bool := string.contains base

/-- The type in which a column refers to a column of this type: a serial type stands for the
integers it counts with. -/
def storage (type : String) : String :=
  match base type with
  | "serial" => "integer"
  | "bigserial" => "bigint"
  | "smallserial" => "smallint"
  | _ => type

/-! ### Names for declared types -/

/-- Types by the name under which code refers to them. -/
def named : List (String × String) :=
  [("TEXT", "text"), ("INT", "int"), ("SMALLINT", "smallint"), ("BIGINT", "bigint"),
    ("BOOLEAN", "boolean"), ("BYTEA", "bytea"), ("JSONB", "jsonb"), ("DATE", "date"),
    ("TIME", "time"), ("TIMESTAMP", "timestamp"), ("TIMESTAMPTZ", "timestamp with time zone"),
    ("UUID", "uuid"), ("SERIAL", "serial"), ("BIGSERIAL", "bigserial"), ("ID", "varchar(16)"),
    ("UID", "varchar(18)"), ("OPENID", "varchar(32)"), ("BID", "bigint")]

/-- Text of at most `n` characters; of 200 when `n` is zero. -/
def varchar (n : Nat) : String := "varchar(" ++ toString (if n = 0 then 200 else n) ++ ")"

/-- Text of `n` characters; of 100 when `n` is zero. -/
def char (n : Nat) : String := "char(" ++ toString (if n = 0 then 100 else n) ++ ")"

/-- Decimal numbers of a precision and a scale. -/
def decimal (precision scale : Nat) : String :=
  "numeric(" ++ toString precision ++ "," ++ toString scale ++ ")"

/-- Arrays of a type. -/
def array (type : String) : String := type ++ "[]"

end TypeName

end TableMapper
