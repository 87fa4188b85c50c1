/-!
# Letters and white space

Identifiers, keywords and type names are compared by their ASCII letters.

* `Text.lowerAscii` maps the ASCII capitals and leaves every other character alone.
* `Text.sameLetters` compares up to the case of ASCII letters.
* `Text.upperAscii?` is the upper-case form of a character when that form is an ASCII character.
* `Text.isBlank` is the White_Space property of Unicode.
* `Text.trim`, `Text.trimStart` and `Text.trimEnd` remove it from the ends of a text.
* `Text.words` are the maximal stretches without it.
-/

namespace TableMapper

namespace Text

/-- `s` with its ASCII capitals in lower case. -/
def lowerAscii (s : String) : String := String.ofList (s.toList.map Char.toLower)

/-- Equality up to the case of ASCII letters. -/
def sameLetters (a b : String) : Bool := lowerAscii a == lowerAscii b

/-- An ASCII letter. -/
def isLetter (c : Char) : Bool := ('a' ≤ c && c ≤ 'z') || ('A' ≤ c && c ≤ 'Z')

/-- An ASCII digit. -/
def isDigit (c : Char) : Bool := '0' ≤ c && c ≤ '9'

/-- The upper-case form of a character whose upper-case form is one ASCII character.  Besides the
ASCII letters themselves these are the dotless i and the long s. -/
def upperAscii? (c : Char) : Option Char :=
  if c.toNat < 128 then some c.toUpper
  else if c == 'ı' then some 'I'
  else if c == 'ſ' then some 'S'
  else none

end Text

/-! ### White space -/

namespace Text

/-- White space in the sense of the Unicode property White_Space. -/
def isBlank (c : Char) : Bool :=
  let n := c.toNat
  (9 ≤ n && n ≤ 13) || n == 0x20 || n == 0x85 || n == 0xA0 || n == 0x1680 ||
    (0x2000 ≤ n && n ≤ 0x200A) || n == 0x2028 || n == 0x2029 || n == 0x202F || n == 0x205F ||
    n == 0x3000

/-- A list without its leading elements that satisfy `p`. -/
def dropStartWhile (p : Char → Bool) (cs : List Char) : List Char := cs.dropWhile p

/-- A list without its trailing elements that satisfy `p`. -/
def dropEndWhile (p : Char → Bool) (cs : List Char) : List Char :=
  (cs.reverse.dropWhile p).reverse

/-- A list without leading and trailing white space. -/
def trimChars (cs : List Char) : List Char := dropEndWhile isBlank (dropStartWhile isBlank cs)

/-- A text without leading white space. -/
def trimStart (s : String) : String := String.ofList (dropStartWhile isBlank s.toList)

/-- A text without trailing white space. -/
def trimEnd (s : String) : String := String.ofList (dropEndWhile isBlank s.toList)

/-- A text without leading and trailing white space. -/
def trim (s : String) : String := String.ofList (trimChars s.toList)

/-- Nothing but white space. -/
def isBlankText (s : String) : Bool := s.toList.all isBlank

/-- The stretches between white space; `word` holds the one being read, last character first. -/
def wordsFrom (word : List Char) : List Char → List (List Char)
  | [] => if word.isEmpty then [] else [word.reverse]
  | c :: cs =>
    if isBlank c then
      if word.isEmpty then wordsFrom [] cs else word.reverse :: wordsFrom [] cs
    else wordsFrom (c :: word) cs

/-- The maximal stretches without white space, in order. -/
def words (s : String) : List String := (wordsFrom [] s.toList).map String.ofList

end Text

end TableMapper
