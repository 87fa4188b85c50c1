import TableMapper.Scenario.Transcript

/-!
# Masks

What a session answers depends on randomness and on the time.  A mask hides that, so that two runs
of a scenario have the same transcript.

* `Mask` says what has to be hidden, and `Mask.ofTables` finds it out from the tables in use.
* `Mask.hideText` and `Mask.hideInt` hide it in a text and in a number, `Mask.hide` in a whole
  transcript.  Names of members stay as they are.
-/

namespace TableMapper

/-- What is hidden. -/
structure Mask where
  /-- The time of the session, if it shows. -/
  now : Option Int
  /-- How keys are made. -/
  keys : List IdStrategy

namespace Mask

/-- The mask for a session with these tables, at a time. -/
def ofTables (now : Int) (tables : List TableDecl) : Mask where
  now := if tables.any (·.timestamps.isSome) then some now else none
  keys := tables.filterMap (·.idStrategy?)

/-! ### Tags -/

/-- The lengths that the random part of a tag can have, the longest first. -/
def saltLengths : List Nat := [8, 7, 6]

/-- The list starts with a tag whose random part has `n` characters. -/
def hasTag (cs : List Char) (n : Nat) : Bool :=
  let salt := (cs.drop 2).take n
  "$_".toList.isPrefixOf cs && salt.length = n && salt.all DollarTag.alphabet.contains &&
    "_$".toList.isPrefixOf (cs.drop (n + 2))

/-- What stands for a tag. -/
def tag : List Char := "$_TAG_$".toList

/-- The list with its tags hidden; `skip` characters of a tag are still to be passed over. -/
def hideTags : Nat → List Char → List Char
  | _, [] => []
  | skip + 1, _ :: cs => hideTags skip cs
  | 0, c :: cs =>
    match saltLengths.find? (hasTag (c :: cs)) with
    | some n => tag ++ hideTags (n + 3) cs
    | none => c :: hideTags 0 cs

/-! ### Keys -/

/-- A list of `n` characters of an alphabet. -/
def isMade (alphabet : List Char) (n : Nat) (cs : List Char) : Bool :=
  cs.length = n && cs.all alphabet.contains

/-- What stands for a key in a text, if the text is one.  Short random keys could be words, and
show. -/
def key? (cs : List Char) : IdStrategy → Option String
  | .short len lead =>
    if 8 ≤ len && (Text.dropStart? lead.toList cs).any (isMade Id.base36 len) then
      some "<id:short>"
    else none
  | .long minLen => if isMade Id.base16 (max 12 minLen) cs then some "<id:long>" else none
  | .serial len => if isMade Id.base36 (max 13 len) cs then some "<id:serial>" else none
  | _ => none

/-- The list, or what stands for it if it is a key. -/
def hideKey (m : Mask) (cs : List Char) : List Char :=
  ((m.keys.findSome? (key? cs)).map String.toList).getD cs

/-- A number with this many digits can be a key, if keys are numbers. -/
def isNumericKey (m : Mask) (digits : Nat) : Bool :=
  m.keys.contains .big && (digits = 16 || digits = 17)

/-! ### Numbers -/

/-- What stands for a number that is the time or a key. -/
def number? (m : Mask) (n : Int) : Option String :=
  if m.now = some n then some "<now:ms>"
  else if m.now.map (· / 1000) = some n then some "<now:s>"
  else if m.isNumericKey (toString n).length then some "<id:big>"
  else none

/-- A number, or what stands for it. -/
def hideInt (m : Mask) (n : Int) : Json := ((m.number? n).map Json.string).getD (.int n)

/-- A run of characters, or what stands for it if it is a number. -/
def hideRun (m : Mask) (cs : List Char) : List Char :=
  (((Text.digits? cs).bind fun n =>
    if m.isNumericKey cs.length then some "<id:big>" else m.number? n).map String.toList).getD cs

/-- The list with the numbers in it hidden. -/
def hideNumbers (m : Mask) (cs : List Char) : List Char :=
  (cs.splitBy fun a b => Text.isDigit a == Text.isDigit b).flatMap m.hideRun

/-! ### Texts -/

/-- The text with the written times in it hidden. -/
def hideTimes (m : Mask) (s : String) : String :=
  match m.now with
  | none => s
  | some now =>
    let written (type : String) : String := ((TableDecl.timeValue type now).text?).getD ""
    Text.replaceAll (written "text") "<now:text>"
      (Text.replaceAll (written "timestamptz") "<now:rfc3339>" s)

/-- The text without what has to be hidden: a key as a whole, or tags, keys between tags, times and
numbers. -/
def hideText (m : Mask) (s : String) : String :=
  let whole := hideTags 0 s.toList
  let pieces := (Text.splitAt tag 0 (m.hideKey whole)).map m.hideKey
  let s := m.hideTimes (String.ofList (tag.intercalate pieces))
  String.ofList (m.hideNumbers s.toList)

mutual

/-- The value without what has to be hidden. -/
def hide (m : Mask) : Json → Json
  | .string s => .string (m.hideText s)
  | .int n => m.hideInt n
  | .array xs => .array (m.hideItems xs)
  | .object ms => .object (m.hideMembers ms)
  | v => v

/-- The items without what has to be hidden. -/
def hideItems (m : Mask) : List Json → List Json
  | [] => []
  | x :: xs => m.hide x :: m.hideItems xs

/-- The members without what has to be hidden. -/
def hideMembers (m : Mask) : List (String × Json) → List (String × Json)
  | [] => []
  | (name, x) :: xs => (name, m.hide x) :: m.hideMembers xs

end

end Mask

end TableMapper
