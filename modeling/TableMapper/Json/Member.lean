import TableMapper.Json.Fields

/-!
# Members of objects

Reading the members of an object leniently: a member that is missing, `null` or of another kind has
a default.  `Document.member` and `Document.elements` do so in documents.
-/

namespace TableMapper

namespace Row

/-- The value under a name, unless it is `null`. -/
def field? (row : Row) (name : String) : Option Json := (row.get? name).filter (!·.isNull)

/-- The value under a name. -/
def field (row : Row) (name : String) : Json := (row.get? name).getD .null

/-- The text under a name. -/
def text? (row : Row) (name : String) : Option String := (row.field? name).bind (·.text?)

/-- The text under a name. -/
def text (row : Row) (name : String) (default : String := "") : String :=
  (row.text? name).getD default

/-- The integer under a name. -/
def int? (row : Row) (name : String) : Option Int := (row.field? name).bind (·.int?)

/-- The integer under a name. -/
def int (row : Row) (name : String) (default : Int := 0) : Int := (row.int? name).getD default

/-- The natural number under a name. -/
def nat? (row : Row) (name : String) : Option Nat := (row.int? name).map (·.toNat)

/-- The natural number under a name. -/
def nat (row : Row) (name : String) (default : Nat := 0) : Nat := (row.nat? name).getD default

/-- The truth value under a name. -/
def flag (row : Row) (name : String) (default : Bool := false) : Bool :=
  match row.field? name with
  | some (.bool b) => b
  | _ => default

/-- The items of the array under a name. -/
def items (row : Row) (name : String) : List Json :=
  ((row.field? name).bind (·.items?)).getD []

/-- The texts in the array under a name. -/
def texts (row : Row) (name : String) : List String := (row.items name).filterMap (·.text?)

/-- The members of the object under a name. -/
def row (members : Row) (name : String) : Row := (members.field name).asRow

/-- The objects in the array under a name; any other item counts as an empty one. -/
def rows (members : Row) (name : String) : List Row := (members.items name).map (·.asRow)

end Row

namespace Document

/-- The members of an object. -/
def members : Document → List (String × Document)
  | .object ms => ms
  | _ => []

/-- The items of an array. -/
def elements : Document → List Document
  | .array xs => xs
  | _ => []

/-- The document under a name; the last one counts. -/
def member (d : Document) (name : String) : Document :=
  (d.members.reverse.lookup name).getD .null

end Document

end TableMapper
