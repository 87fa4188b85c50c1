import TableMapper.Json.Document

/-!
# Records in JSON

* `Document.fields?` finds the fields of a record by their names, or in an array by their places.
* `Document.text?`, `Document.bool?`, `Document.natBelow?`, `Document.list?` and `Document.name?`
  read their values, `Document.orElse` and `Document.optional` those that may be missing.
* `Document.ofJson` is the document of a value.
-/

namespace TableMapper

namespace Document

mutual

/-- The document of a value. -/
def ofJson : Json → Document
  | .null => .null
  | .bool b => .bool b
  | .int n => .int n
  | .double x => .double x
  | .string s => .string s
  | .array xs => .array (ofItems xs)
  | .object ms => .object (ofMembers ms)

/-- The documents of the items. -/
def ofItems : List Json → List Document
  | [] => []
  | x :: xs => ofJson x :: ofItems xs

/-- The documents of the members. -/
def ofMembers : List (String × Json) → List (String × Document)
  | [] => []
  | (name, x) :: ms => (name, ofJson x) :: ofMembers ms

end

/-- The values of the fields with these names, in order.  Each field is given by all its names; a
field that is written twice is refused. -/
def fields? (names : List (List String)) : Document → Option (List (Option Document))
  | .object members =>
    let start : List (Option Document) := names.map fun _ => none
    members.foldlM (fun slots (name, value) =>
      match names.findIdx? (·.contains name) with
      | none => some slots
      | some i =>
        match slots[i]? with
        | some none => some (slots.set i (some value))
        | _ => none) start
  | .array items =>
    if names.length < items.length then none
    else some (items.map some ++ List.replicate (names.length - items.length) none)
  | _ => none

/-- A field that may be missing. -/
def orElse (fallback : α) (read : Document → Option α) : Option Document → Option α
  | none => some fallback
  | some d => read d

/-- A field that may be missing or `null`. -/
def optional (read : Document → Option α) : Option Document → Option (Option α)
  | none => some none
  | some .null => some none
  | some d => (read d).map some

/-- A string. -/
def text? : Document → Option String
  | .string s => some s
  | _ => none

/-- A truth value. -/
def bool? : Document → Option Bool
  | .bool b => some b
  | _ => none

/-- A natural number below a bound. -/
def natBelow? (bound : Nat) : Document → Option Nat
  | .int n => if 0 ≤ n ∧ n < bound then some n.toNat else none
  | _ => none

/-- A list. -/
def list? (read : Document → Option α) : Document → Option (List α)
  | .array items => items.mapM read
  | _ => none

/-- A name that stands alone or as the only member of an object, with `null`. -/
def name? : Document → Option String
  | .string s => some s
  | .object [(s, .null)] => some s
  | _ => none

end Document

end TableMapper
