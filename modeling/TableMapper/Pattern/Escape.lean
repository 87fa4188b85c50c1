import TableMapper.Pattern.Modes
import TableMapper.Text.Digits

/-!
# Escapes

What follows a backslash in a pattern is an `Escape`: a character, a set of characters or a
condition.  `Modes.escape?` reads one.
-/

namespace TableMapper

namespace Pattern

/-- What a backslash begins. -/
inductive Escape where
  /-- A character; `asByte` says that it is written with two hexadecimal digits. -/
  | char (c : Char) (asByte : Bool)
  | set (s : CodePoints)
  | assertion (a : Assertion)

/-! ### Characters -/

/-- A character that means itself after a backslash. -/
def isEscapable (c : Char) : Bool :=
  c.toNat < 128 && !Text.isLetter c && !Text.isDigit c && c != '<' && c != '>'

/-- The control character that a letter stands for after a backslash. -/
def controlChar? (c : Char) : Option Char :=
  match c with
  | 'a' => some (Char.ofNat 7)
  | 'f' => some (Char.ofNat 12)
  | 't' => some '\t'
  | 'n' => some '\n'
  | 'r' => some '\r'
  | 'v' => some (Char.ofNat 11)
  | _ => none

/-- The character with a code point. -/
def charOf? (n : Nat) : Option Char :=
  if n < 0xD800 || (0xE000 ≤ n && n ≤ 0x10FFFF) then some (Char.ofNat n) else none

/-- The value of `width` hexadecimal digits that follow `value`. -/
def Modes.fixedHex? (m : Modes) (value : Nat) : Nat → List Char → Option (Nat × List Char)
  | 0, cs => some (value, cs)
  | width + 1, cs =>
    match m.skip cs with
    | c :: rest => (Text.hexValue? c).bind fun d => m.fixedHex? (16 * value + d) width rest
    | [] => none

/-- The value of hexadecimal digits up to a closing brace; `value?` is that of the digits in front,
if there are some. -/
def Modes.bracedHex? (m : Modes) (value? : Option Nat) :
    Nat → List Char → Option (Nat × List Char)
  | 0, _ => none
  | fuel + 1, cs =>
    match m.skip cs with
    | '\x7d' :: rest => value?.map (·, rest)
    | c :: rest =>
      (Text.hexValue? c).bind fun d => m.bracedHex? (some (16 * value?.getD 0 + d)) fuel rest
    | [] => none

/-- A code point in hexadecimal: in braces, or with a fixed number of digits. -/
def Modes.hex? (m : Modes) (width : Nat) (cs : List Char) : Option (Escape × List Char) := do
  match m.skip cs with
  | '\x7b' :: rest =>
    let (n, rest) ← m.bracedHex? none (rest.length + 1) rest
    return (.char (← charOf? n) false, rest)
  | cs =>
    let (n, rest) ← m.fixedHex? 0 width cs
    return (.char (← charOf? n) (width == 2), rest)

/-! ### Sets -/

/-- The name of a property up to a closing brace, without what is passed over. -/
def Modes.bracedName? (m : Modes) : Nat → List Char → Option (List Char × List Char)
  | 0, _ => none
  | fuel + 1, cs =>
    match m.skip cs with
    | '\x7d' :: rest => some ([], rest)
    | c :: rest => (m.bracedName? fuel rest).map fun (name, rest) => (c :: name, rest)
    | [] => none

/-- A property after `\p` or `\P`: a letter, or a name in braces. -/
def Modes.property? (m : Modes) (negated : Bool) (cs : List Char) :
    Option (CodePoints × List Char) := do
  let (query, rest) ← match m.skip cs with
    | '\x7b' :: rest =>
      (m.bracedName? (rest.length + 1) rest).map fun (name, rest) => (PropertyQuery.read name, rest)
    | '\\' :: _ | [] => none
    | c :: rest => some (.named [c], rest)
  if !m.unicode then none
  let s ← m.finish? (negated != query.isNegated) (← query.set?)
  return (s, rest)

/-- The class behind one of the letters `d`, `s` and `w`, or its complement behind the capital. -/
def Modes.letterClass? (m : Modes) (c : Char) : Option CodePoints :=
  let class? : Option CodePoints := match c.toLower with
    | 'd' => if m.unicode then some digitClass else asciiClass? "digit"
    | 's' => if m.unicode then some spaceClass else asciiClass? "space"
    | 'w' => if m.unicode then some wordClass else asciiClass? "word"
    | _ => none
  class?.bind fun s => if c.isUpper && !m.unicode then none else some (s.complIf c.isUpper)

/-! ### Conditions -/

/-- The edge of words that a name in braces asks for. -/
def wordEdge? (name : List Char) : Option WordEdge :=
  match String.ofList name with
  | "start" => some .start
  | "end" => some .finish
  | "start-half" => some .startHalf
  | "end-half" => some .finishHalf
  | _ => none

/-- Letters and hyphens, with what is passed over behind each. -/
def Modes.edgeName (m : Modes) : Nat → List Char → List Char × List Char
  | 0, cs => ([], cs)
  | fuel + 1, cs =>
    match cs with
    | c :: rest =>
      if Text.isLetter c || c == '-' then
        let (name, rest) := m.edgeName fuel (m.skip rest)
        (c :: name, rest)
      else ([], cs)
    | [] => ([], [])

/-- The edge of words after `\b`.  A brace that does not begin with a letter or a hyphen belongs to
a repetition. -/
def Modes.edge? (m : Modes) : List Char → Option (WordEdge × List Char)
  | '\x7b' :: rest =>
    match m.skip rest with
    | [] => none
    | cs =>
      match m.edgeName cs.length cs with
      | ([], _) => some (.boundary, '\x7b' :: rest)
      | (name, '\x7d' :: rest) => (wordEdge? name).map (·, rest)
      | _ => none
  | cs => some (.boundary, cs)

/-! ### Escapes -/

/-- An escape after its backslash. -/
def Modes.escape? (m : Modes) : List Char → Option (Escape × List Char)
  | [] => none
  | c :: rest =>
    match c with
    | 'x' => m.hex? 2 rest
    | 'u' => m.hex? 4 rest
    | 'U' => m.hex? 8 rest
    | 'p' => (m.property? false rest).map fun (s, rest) => (.set s, rest)
    | 'P' => (m.property? true rest).map fun (s, rest) => (.set s, rest)
    | 'd' | 's' | 'w' | 'D' | 'S' | 'W' => (m.letterClass? c).map fun s => (.set s, rest)
    | 'A' => some (.assertion .textStart, rest)
    | 'z' => some (.assertion .textEnd, rest)
    | 'b' => (m.edge? rest).map fun (edge, rest) => (.assertion (.word edge m.unicode), rest)
    | 'B' => some (.assertion (.word .inside m.unicode), rest)
    | '<' => some (.assertion (.word .start m.unicode), rest)
    | '>' => some (.assertion (.word .finish m.unicode), rest)
    | _ =>
      match controlChar? c with
      | some d => some (.char d false, rest)
      | none => if isEscapable c then some (.char c false, rest) else none

end Pattern

end TableMapper
