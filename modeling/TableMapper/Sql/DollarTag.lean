import TableMapper.Id.Random
import TableMapper.Value
import TableMapper.Text.Search

/-!
# Dollar quoting

A literal stands between two copies of a tag `$_salt_$`.

* `DollarTag.random` is a tag with a random part of six to eight characters.
* `DollarTag.body` is a text without the opening part of the tag, so the closing tag cannot occur
  in it.
* `DollarTag.quote` and `DollarTag.unquote?` add and remove the tags.
* `DollarTag.literal` is the SQL literal of a value.
-/

namespace TableMapper

/-- The tag around literals, given by its random part. -/
structure DollarTag where
  /-- The random part. -/
  salt : String
  deriving DecidableEq, Inhabited

namespace DollarTag

/-- The characters of the random part. -/
def alphabet : List Char := "ouvxwz_ipyq".toList

/-- A random tag. -/
def random (r : Randomness) : DollarTag × Randomness :=
  let (extra, r) := r.pick 3
  let (salt, r) := Randomness.pickChars alphabet (6 + extra) r
  (⟨String.ofList salt⟩, r)

/-- The tag without its closing dollar sign. -/
def opening (t : DollarTag) : List Char := '$' :: '_' :: (t.salt.toList ++ ['_'])

/-- The tag. -/
def chars (t : DollarTag) : List Char := t.opening ++ ['$']

/-- The tag as text. -/
def text (t : DollarTag) : String := String.ofList t.chars

/-- Removes the occurrences of `p` again and again, at most `rounds` times, until none is left. -/
def strip (p : List Char) : Nat → List Char → List Char
  | 0, s => s
  | rounds + 1, s =>
    if Text.occurs p s then strip p rounds (Text.replaceFrom p [] 0 s) else s

/-- The text without any occurrence of the opening part of the tag.  A removal can form a new
occurrence, and each round that finds one shortens the text. -/
def body (t : DollarTag) (s : List Char) : List Char := strip t.opening s.length s

/-- The text as a literal. -/
def quote (t : DollarTag) (s : String) : String :=
  String.ofList (t.chars ++ t.body s.toList ++ t.chars)

/-- The text of a literal. -/
def unquote? (t : DollarTag) (s : String) : Option String :=
  (Text.after? t.text s).bind (Text.before? t.text)

/-- The literal of a value.  Only text, JSON documents and doubles that are not finite are
quoted. -/
def literal (t : DollarTag) : Value → String
  | .null => "NULL"
  | .bool true => "TRUE"
  | .bool false => "FALSE"
  | .int n => toString n
  | .double x => if x.isFinite then x.plain else t.quote x.plain
  | .text s => t.quote s
  | .json d => t.quote d.render

end DollarTag

end TableMapper
