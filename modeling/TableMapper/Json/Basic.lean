import TableMapper.Binary64.Basic

/-!
# JSON values

* `Json` is a JSON value.  A number is an integer of 64 bits or a double, and the members of an
  object are sorted by name, without repetition.
* `Row` is a list of such members: a database row, a map of conditions, the data of an update.
* `Json.same` is equality of values, under which an integer differs from every double.
-/

namespace TableMapper

/-- A JSON value. -/
inductive Json where
  | null
  | bool (value : Bool)
  | int (value : Int)
  | double (value : Binary64)
  | string (value : String)
  | array (items : List Json)
  | object (members : List (String × Json))
  deriving Inhabited

/-- Named values, sorted by name. -/
abbrev Row := List (String × Json)

namespace Row

/-- The value under a name. -/
def get? (name : String) (row : Row) : Option Json := row.lookup name

/-- The row with the value of `name` set, in sorted place. -/
def insert (name : String) (value : Json) : Row → Row
  | [] => [(name, value)]
  | (n, v) :: rest =>
    if name < n then (name, value) :: (n, v) :: rest
    else if name = n then (name, value) :: rest
    else (n, v) :: insert name value rest

/-- The row without `name`. -/
def erase (name : String) (row : Row) : Row := row.filter (·.1 != name)

/-- The row with these members; of equal names the last one counts. -/
def ofList (members : List (String × Json)) : Row :=
  members.foldl (fun row m => insert m.1 m.2 row) []

/-- The names, in order. -/
def names (row : Row) : List String := row.map (·.1)

end Row

namespace Json

/-- The object with these members; of equal names the last one counts. -/
def ofMembers (members : List (String × Json)) : Json := .object (Row.ofList members)

/-- The list of the texts, as an array. -/
def strings (texts : List String) : Json := .array (texts.map .string)

/-- `null` for `none`. -/
def ofOption (f : α → Json) : Option α → Json
  | none => .null
  | some a => f a

/-- A text or `null`. -/
def ofText? (text : Option String) : Json := ofOption .string text

/-- Whether the value is `null`. -/
def isNull : Json → Bool
  | .null => true
  | _ => false

/-- The text of a string. -/
def text? : Json → Option String
  | .string s => some s
  | _ => none

/-- The number of an integer. -/
def int? : Json → Option Int
  | .int n => some n
  | _ => none

/-- The items of an array. -/
def items? : Json → Option (List Json)
  | .array xs => some xs
  | _ => none

/-- The members of an object. -/
def members? : Json → Option Row
  | .object ms => some ms
  | _ => none

/-- The members of an object; none for any other value. -/
def asRow (value : Json) : Row := value.members?.getD []

/-- The number of an integer or a double, as a double. -/
def number? : Json → Option Binary64
  | .int n => some (.ofInt n)
  | .double x => some x
  | _ => none

mutual

/-- Equality of values: numbers are equal when both are integers or both are doubles, and equal as
such. -/
def same : Json → Json → Bool
  | .null, .null => true
  | .bool a, .bool b => a == b
  | .int a, .int b => a == b
  | .double a, .double b => a.same b
  | .string a, .string b => a == b
  | .array xs, .array ys => sameItems xs ys
  | .object ms, .object ns => sameMembers ms ns
  | _, _ => false

/-- Equality item by item. -/
def sameItems : List Json → List Json → Bool
  | [], [] => true
  | x :: xs, y :: ys => same x y && sameItems xs ys
  | _, _ => false

/-- Equality member by member. -/
def sameMembers : List (String × Json) → List (String × Json) → Bool
  | [], [] => true
  | (a, x) :: xs, (b, y) :: ys => a == b && same x y && sameMembers xs ys
  | _, _ => false

end

end Json

end TableMapper
