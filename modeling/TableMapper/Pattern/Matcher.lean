import TableMapper.Pattern.Property
import TableMapper.Pattern.Regex
import TableMapper.Text.Letter

/-!
# Matching

Positions of a text are counted by characters.  `Regex.reach` maps a set of positions to the
positions at which a match that starts in the set can end; a text is accepted when the set of all
positions reaches something.
-/

namespace TableMapper

namespace Pattern

/-- A set of positions, as one flag per position. -/
abbrev Positions := List Bool

namespace Positions

/-- The positions in one of two sets. -/
def union (a b : Positions) : Positions := List.zipWith (· || ·) a b

/-- No position. -/
def isEmpty (a : Positions) : Bool := a.all (!·)

end Positions

/-- A word character. -/
def isWordChar (unicode : Bool) (c : Char) : Bool :=
  if unicode then wordClass.contains c.toNat
  else Text.isLetter c || Text.isDigit c || c == '_'

/-- Whether a position is at an edge, from whether characters of a word are before and after it. -/
def WordEdge.holds : WordEdge → Bool → Bool → Bool
  | boundary, before, after => before != after
  | inside, before, after => before == after
  | start, before, after => !before && after
  | finish, before, after => before && !after
  | startHalf, before, _ => !before
  | finishHalf, _, after => !after

/-- The condition between two neighbours, either of which may be missing at an end of the text. -/
def Assertion.holds (a : Assertion) (before after : Option Char) : Bool :=
  match a with
  | textStart => before.isNone
  | textEnd => after.isNone
  | lineStart false => before.isNone || before == some '\n'
  | lineEnd false => after.isNone || after == some '\n'
  | lineStart true =>
    before.isNone || before == some '\n' || (before == some '\r' && after != some '\n')
  | lineEnd true =>
    after.isNone || after == some '\r' || (after == some '\n' && before != some '\r')
  | word edge unicode =>
    edge.holds (before.any (isWordChar unicode)) (after.any (isWordChar unicode))

/-- The positions of `s` at which a condition holds; `before` is the character in front. -/
def Assertion.filter (a : Assertion) (before : Option Char) : List Char → Positions → Positions
  | [], s => s.map (· && a.holds before none)
  | c :: cs, b :: s => (b && a.holds before (some c)) :: filter a (some c) cs s
  | _ :: _, [] => []

/-- The positions after a character with a property that stands at a position of `s`. -/
def step (p : Char → Bool) (text : List Char) (s : Positions) : Positions :=
  false :: List.zipWith (fun c b => b && p c) text s

/-- Adds what `f` reaches until nothing new is reached, at most `rounds` times. -/
def closure (f : Positions → Positions) : Nat → Positions → Positions
  | 0, s => s
  | rounds + 1, s =>
    let next := s.union (f s)
    if next == s then s else closure f rounds next

/-- Applies `f` a number of times, or until nothing changes. -/
def iterate (f : Positions → Positions) : Nat → Positions → Positions
  | 0, s => s
  | n + 1, s =>
    let next := f s
    if next == s then s else iterate f n next

/-- The positions at which a match that starts at a position of `s` can end. -/
def Regex.reach (text : List Char) : Regex → Positions → Positions
  | .empty, s => s
  | .literal cs, s => cs.foldl (fun s c => step (· == c) text s) s
  | .chars set, s => step (set.contains ·.toNat) text s
  | .assertion a, s => a.filter none text s
  | .group _ a, s => reach text a s
  | .seq a b, s => reach text b (reach text a s)
  | .alt a b, s => (reach text a s).union (reach text b s)
  | .repeated a least none, s =>
    closure (reach text a) (text.length + 1) (iterate (reach text a) least s)
  | .repeated a least (some most), s =>
    closure (reach text a) (most - least) (iterate (reach text a) least s)

/-- Some part of the text matches. -/
def Regex.accepts (r : Regex) (text : String) : Bool :=
  let cs := text.toList
  !(r.reach cs (List.replicate (cs.length + 1) true)).isEmpty

end Pattern

end TableMapper
