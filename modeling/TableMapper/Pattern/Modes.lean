import TableMapper.Pattern.Property
import TableMapper.Pattern.Regex
import TableMapper.Text.Letter

/-!
# Modes

A pattern switches modes on and off: `Modes` are those in force, and `Modes.switched` are the modes
after a list of switches.  They decide what a character or a set in a pattern stands for
(`Modes.literal?`, `Modes.finish?`) and what is passed over between the signs of a pattern
(`Modes.skip`).
-/

namespace TableMapper

namespace Pattern

/-- The modes that a pattern can switch. -/
structure Modes where
  /-- Case does not count. -/
  anyCase : Bool := false
  /-- `^` and `$` match at every line. -/
  lines : Bool := false
  /-- A carriage return ends a line too. -/
  carriage : Bool := false
  /-- The dot matches a line break too. -/
  dotAll : Bool := false
  /-- White space and comments do not count. -/
  spaced : Bool := false
  /-- Classes are those of Unicode. -/
  unicode : Bool := true

namespace Modes

/-! ### Switches -/

/-- The modes after the mode of one letter is switched. -/
def switch (on : Bool) (m : Modes) (letter : Char) : Modes :=
  match letter with
  | 'i' => { m with anyCase := on }
  | 'm' => { m with lines := on }
  | 's' => { m with dotAll := on }
  | 'x' => { m with spaced := on }
  | 'u' => { m with unicode := on }
  | 'R' => { m with carriage := on }
  | _ => m

/-- The modes after a list of switches, those behind a hyphen being off. -/
def switched (m : Modes) (letters : List Char) : Modes :=
  let off := (letters.dropWhile (· != '-')).foldl (switch false) m
  (letters.takeWhile (· != '-')).foldl (switch true) off

/-- Letters and at most one hyphen, none of them twice and the hyphen not last, up to a colon or a
closing parenthesis, which is given too.  `seen` holds the letters in front, last first. -/
def letters? (seen : List Char) : List Char → Option (List Char × Char × List Char)
  | [] => none
  | c :: rest =>
    if c == ':' || c == ')' then
      if seen.head? == some '-' then none else some (seen.reverse, c, rest)
    else if ['i', 'm', 's', 'U', 'u', 'R', 'x', '-'].contains c && !seen.contains c then
      letters? (c :: seen) rest
    else none

/-! ### Blanks -/

/-- White space and comments, which the spaced mode passes over. -/
def skipSpace : Nat → List Char → List Char
  | 0, cs => cs
  | fuel + 1, cs =>
    match cs with
    | '#' :: rest => skipSpace fuel ((rest.dropWhile (· != '\n')).drop 1)
    | c :: rest => if spaceClass.contains c.toNat then skipSpace fuel rest else cs
    | [] => []

/-- What counts next. -/
def skip (m : Modes) (cs : List Char) : List Char :=
  if m.spaced then skipSpace cs.length cs else cs

/-- What a class takes for the next character behind a hyphen: the spaced mode passes over white
space and over the sign of a comment, but not over the comment. -/
def glance (m : Modes) (cs : List Char) : Option Char :=
  if m.spaced then
    let blank (c : Char) : Bool := spaceClass.contains c.toNat
    match cs.dropWhile blank with
    | [] => cs.head?
    | '#' :: rest => ((rest.dropWhile blank).head?).or cs.head?
    | c :: _ => some c
  else cs.head?

/-! ### Meanings -/

/-- A set closed under case when case does not count. -/
def folded (m : Modes) (s : CodePoints) : CodePoints :=
  if m.anyCase then (if m.unicode then caseClosure s else asciiCaseClosure s) else s

/-- A set of a class, or its complement.  Without Unicode the complement has bytes that are no
characters, and is refused. -/
def finish? (m : Modes) (negated : Bool) (s : CodePoints) : Option CodePoints :=
  if negated && !m.unicode then none else some ((m.folded s).complIf negated)

/-- The expression for a character.  `asByte` says that it is written as a byte; without Unicode
that is refused where the byte alone is no character. -/
def literal? (m : Modes) (c : Char) (asByte : Bool) : Option Regex :=
  if asByte && !m.unicode && 127 < c.toNat then none
  else some (.ofSet (m.folded (.single c)))

/-- The expression for the dot. -/
def dot? (m : Modes) : Option Regex :=
  if !m.unicode then none
  else if m.dotAll then some (.ofSet .all)
  else if m.carriage then some (.ofSet (CodePoints.ofIntervals [(10, 10), (13, 13)]).compl)
  else some (.ofSet (CodePoints.single '\n').compl)

/-- The condition of the caret. -/
def caret (m : Modes) : Assertion := if m.lines then .lineStart m.carriage else .textStart

/-- The condition of the dollar sign. -/
def dollar (m : Modes) : Assertion := if m.lines then .lineEnd m.carriage else .textEnd

end Modes

end Pattern

end TableMapper
