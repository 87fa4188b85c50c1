import TableMapper.Pattern.Property.Age
import TableMapper.Pattern.Property.Break

/-!
# Properties of characters

A pattern refers to sets of characters by properties: `Lu` or `Greek` names a set, and
`Script=Greek` gives the kind of the property too.

* `PropertyQuery` is such a reference, `PropertyQuery.read` reads it and `PropertyQuery.set?` finds
  the set.
* `wordClass`, `digitClass` and `spaceClass` are the sets that have escapes of their own.
-/

namespace TableMapper

namespace Pattern

/-! ### Names -/

/-- A name without what does not count in it: case, blanks, hyphens and underscores, characters
beyond ASCII, and the syllable `is` in front.  That syllable does count in `isc`, which would be the
name of another property. -/
def looseName (name : List Char) : String :=
  let body := match name with
    | a :: b :: rest =>
      if (a == 'i' || a == 'I') && (b == 's' || b == 'S') then some rest else none
    | _ => none
  let clean (cs : List Char) : String :=
    String.ofList ((cs.filter fun c => c.toNat < 128 && c != ' ' && c != '-' && c != '_').map
      Char.toLower)
  match body with
  | some rest => if clean rest == "c" then "isc" else clean rest
  | none => clean name

/-- The categories behind a name, and the sets that are named like them. -/
def category? (name : String) : Option CodePoints :=
  match name with
  | "any" => some .all
  | "ascii" => some (.range 0 127)
  | _ => (categories? name).map ofCategories

/-! ### References to properties -/

/-- A reference to a property. -/
inductive PropertyQuery where
  /-- A property, category or script. -/
  | named (name : List Char)
  /-- A value of a kind of property; `differs` asks for all characters with another value. -/
  | valued (kind value : List Char) (differs : Bool)

namespace PropertyQuery

/-- The reference between braces. -/
def read (cs : List Char) : PropertyQuery :=
  match Text.cutAtChars? ['!', '='] cs with
  | some (kind, value) => .valued kind value true
  | none =>
    match Text.cutAtChars? [':'] cs with
    | some (kind, value) => .valued kind value false
    | none =>
      match Text.cutAtChars? ['='] cs with
      | some (kind, value) => .valued kind value false
      | none => .named cs

/-- Asks for the characters without the value. -/
def isNegated : PropertyQuery → Bool
  | named _ => false
  | valued _ _ differs => differs

/-- The set that a single name means.  Three abbreviations of categories are also those of other
properties, and mean the categories. -/
def namedSet? (name : String) : Option CodePoints :=
  let binary := if ["cf", "sc", "lc"].contains name then none else Property.binary? name
  match binary with
  | some d => some d.set
  | none =>
    match category? name with
    | some s => some s
    | none => (script? name).map ofScript

/-- The set that a value of a kind of property means. -/
def valuedSet? (kind value : String) : Option CodePoints :=
  match kind with
  | "gc" | "generalcategory" => category? value
  | "sc" | "script" => (script? value).map ofScript
  | "scx" | "scriptextensions" => (script? value).map ofScriptExtension
  | "age" => ofAge? value
  | "gcb" | "graphemeclusterbreak" => (Property.graphemeBreak? value).map (·.set)
  | "wb" | "wordbreak" => (Property.wordBreak? value).map (·.set)
  | "sb" | "sentencebreak" => (Property.sentenceBreak? value).map (·.set)
  | _ => none

/-- The set of the characters with the property that is referred to, whether negated or not. -/
def set? : PropertyQuery → Option CodePoints
  | named name => namedSet? (looseName name)
  | valued kind value _ => valuedSet? (looseName kind) (looseName value)

end PropertyQuery

/-! ### Classes -/

/-- Word characters: letters, marks, decimal digits, connectors and joiners. -/
def wordClass : CodePoints :=
  (Description.union Property.alphabetic
    (.union (.categories ["Mn", "Mc", "Me", "Nd", "Pc"]) Property.joinControl)).set

/-- Decimal digits. -/
def digitClass : CodePoints := ofCategories ["Nd"]

/-- White space. -/
def spaceClass : CodePoints := Property.whiteSpace.set

/-- Characters of words. -/
def alphabeticClass : CodePoints := Property.alphabetic.set

/-- Digits and other numbers. -/
def numberClass : CodePoints := ofCategories ["Nd", "Nl", "No"]

/-- The classes that are named between colons in brackets. -/
def asciiClass? (name : String) : Option CodePoints :=
  let intervals? : Option (List (Nat × Nat)) := match name with
    | "alnum" => some [(48, 57), (65, 90), (97, 122)]
    | "alpha" => some [(65, 90), (97, 122)]
    | "ascii" => some [(0, 127)]
    | "blank" => some [(9, 9), (32, 32)]
    | "cntrl" => some [(0, 31), (127, 127)]
    | "digit" => some [(48, 57)]
    | "graph" => some [(33, 126)]
    | "lower" => some [(97, 122)]
    | "print" => some [(32, 126)]
    | "punct" => some [(33, 47), (58, 64), (91, 96), (123, 126)]
    | "space" => some [(9, 13), (32, 32)]
    | "upper" => some [(65, 90)]
    | "word" => some [(48, 57), (65, 90), (95, 95), (97, 122)]
    | "xdigit" => some [(48, 57), (65, 70), (97, 102)]
    | _ => none
  intervals?.map CodePoints.mk

end Pattern

end TableMapper
