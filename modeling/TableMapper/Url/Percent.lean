import TableMapper.Text.Digits
import TableMapper.Text.Search
import TableMapper.Text.Utf8

/-!
# Percent encoding

* `Percent.encode` writes the bytes of the characters of a set as `%XX`, and leaves the others
  alone.
* The sets grow with the place in the address: `controls` (hosts), `inFragment`, `inQuery`,
  `inPath`, `inUser`.
* `Percent.decode` gives the bytes that a text with such escapes stands for.
* `Form.pairs` reads the parameters of a query: pairs between ampersands, cut at the first equals
  sign, with plus signs for spaces and percent escapes.  `Form.encode` writes them.
-/

namespace TableMapper

namespace Percent

/-- Control characters, and all that is not ASCII. -/
def controls (c : Char) : Bool := c.toNat < 0x20 || 0x7F ≤ c.toNat

/-- What is escaped in a fragment. -/
def inFragment (c : Char) : Bool := controls c || [' ', '"', '<', '>', '\x60'].contains c

/-- What is escaped in a query. -/
def inQuery (c : Char) : Bool := controls c || [' ', '"', '#', '<', '>'].contains c

/-- What is escaped in a path. -/
def inPath (c : Char) : Bool := inFragment c || ['#', '?', '\x7b', '\x7d'].contains c

/-- What is escaped in a user name and in a password. -/
def inUser (c : Char) : Bool :=
  inPath c || ['/', ':', ';', '=', '@', '[', '\\', ']', '^', '|'].contains c

/-- The escape of a byte. -/
def escape (b : UInt8) : List Char := '%' :: (Text.hexByte b.toNat).map Char.toUpper

/-- A character, escaped if it belongs to `set`. -/
def encodeChar (set : Char → Bool) (c : Char) : List Char :=
  if set c then (String.utf8EncodeChar c).flatMap escape else [c]

/-- A list of characters with those of `set` escaped. -/
def encodeChars (set : Char → Bool) (cs : List Char) : List Char := cs.flatMap (encodeChar set)

/-- A text with the characters of `set` escaped. -/
def encode (set : Char → Bool) (s : String) : String := String.ofList (encodeChars set s.toList)

/-- The bytes of a text in which a percent sign and two hexadecimal digits stand for a byte. -/
def decode : List Char → List UInt8
  | [] => []
  | '%' :: a :: b :: cs =>
    match Text.hexValue? a, Text.hexValue? b with
    | some x, some y => UInt8.ofNat (16 * x + y) :: decode cs
    | _, _ => 0x25 :: decode (a :: b :: cs)
  | c :: cs => String.utf8EncodeChar c ++ decode cs

end Percent

/-! ### Query parameters -/

namespace Form

/-- What a name or a value stands for. -/
def decodePart (cs : List Char) : String :=
  Utf8.decodeLossy (Percent.decode (cs.map fun c => if c == '+' then ' ' else c))

/-- A parameter; without an equals sign its value is empty. -/
def pair (cs : List Char) : String × String :=
  match Text.cutWhere? (· == '=') cs with
  | some (name, value) => (decodePart name, decodePart value)
  | none => (decodePart cs, "")

/-- The parameters of a query, in order; nothing stands between two neighbouring ampersands. -/
def pairs (query : String) : List (String × String) :=
  ((query.toList.splitOn '&').filter (!·.isEmpty)).map pair

/-- The characters that stand for themselves. -/
def isPlain (c : Char) : Bool :=
  Text.isLetter c || Text.isDigit c || ['*', '-', '.', '_'].contains c

/-- A character of a name or value as it is written. -/
def encodeChar (c : Char) : List Char :=
  if c == ' ' then ['+'] else Percent.encodeChar (!isPlain ·) c

/-- A name or value as it is written. -/
def encodePart (s : String) : List Char := s.toList.flatMap encodeChar

/-- A query with these parameters. -/
def encode (params : List (String × String)) : String :=
  String.ofList ([ '&' ].intercalate
    (params.map fun (name, value) => encodePart name ++ '=' :: encodePart value))

end Form

end TableMapper
