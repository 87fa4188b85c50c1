import TableMapper.Pattern.CodePoints

/-!
# Regular expressions

* `Regex` is a regular expression, without what only matters for the extent of a match: greedy and
  lazy repetition are one.
* `Regex.ofSet`, `Regex.concat`, `Regex.alternation` and `Regex.times` build expressions in a normal
  form: characters in a row are one literal, a choice between characters is a set, and what all
  branches of a choice begin with stands in front of it.
-/

namespace TableMapper

namespace Pattern

/-- How a position lies to the words around it. -/
inductive WordEdge where
  /-- Between a word and something else. -/
  | boundary
  /-- Between two characters of a word, or two of none. -/
  | inside
  /-- Where a word starts. -/
  | start
  /-- Where a word ends. -/
  | finish
  /-- No character of a word in front. -/
  | startHalf
  /-- No character of a word behind. -/
  | finishHalf
  deriving DecidableEq

/-- A condition on a position in a text. -/
inductive Assertion where
  | textStart
  | textEnd
  /-- At the start of a line; `carriage` lets a carriage return end a line too. -/
  | lineStart (carriage : Bool)
  | lineEnd (carriage : Bool)
  /-- At an edge of words, which are those of Unicode or of ASCII. -/
  | word (edge : WordEdge) (unicode : Bool)
  deriving DecidableEq

/-- A regular expression. -/
inductive Regex where
  | empty
  /-- These characters, of which there is at least one. -/
  | literal (text : List Char)
  /-- A character of a set. -/
  | chars (set : CodePoints)
  | assertion (a : Assertion)
  /-- A numbered group. -/
  | group (number : Nat) (a : Regex)
  | seq (a b : Regex)
  | alt (a b : Regex)
  /-- At least `least` repetitions, and at most `most` if that is given. -/
  | repeated (a : Regex) (least : Nat) (most : Option Nat)
  deriving DecidableEq, Inhabited

namespace Regex

/-! ### The length of a match -/

/-- The least number of characters of a match; `none` when some branch cannot match. -/
def minLength? : Regex → Option Nat
  | empty | assertion _ => some 0
  | literal text => some text.length
  | chars set => if set.intervals.isEmpty then none else some 1
  | group _ a => a.minLength?
  | seq a b =>
    match a.minLength?, b.minLength? with
    | some m, some n => some (m + n)
    | _, _ => none
  | alt a b =>
    match a.minLength?, b.minLength? with
    | some m, some n => some (min m n)
    | _, _ => none
  | repeated a least _ => a.minLength?.map (least * ·)

/-- Every match is empty, and none is ruled out. -/
def isEmptyOnly : Regex → Bool
  | empty | assertion _ => true
  | literal _ | chars _ => false
  | group _ a => a.isEmptyOnly
  | seq a b | alt a b => a.isEmptyOnly && b.isEmptyOnly
  | repeated a _ most => most.isSome && a.isEmptyOnly

/-- Every match starts at the start of the text. -/
def isStartAnchored : Regex → Bool
  | assertion .textStart => true
  | group _ a => a.isStartAnchored
  | seq a b => a.isStartAnchored || (a.isEmptyOnly && b.isStartAnchored)
  | alt a b => a.isStartAnchored && b.isStartAnchored
  | repeated a least _ => least != 0 && a.isStartAnchored
  | _ => false

/-- Every match ends at the end of the text. -/
def isEndAnchored : Regex → Bool
  | assertion .textEnd => true
  | group _ a => a.isEndAnchored
  | seq a b => b.isEndAnchored || (b.isEmptyOnly && a.isEndAnchored)
  | alt a b => a.isEndAnchored && b.isEndAnchored
  | repeated a least _ => least != 0 && a.isEndAnchored
  | _ => false

/-! ### Building -/

/-- A character of a set, as a literal when there is only one. -/
def ofSet (set : CodePoints) : Regex :=
  match set.only? with
  | some n => literal [Char.ofNat n]
  | none => chars set

/-- The parts of a sequence. -/
def parts : Regex → List Regex
  | seq a b => a :: b.parts
  | empty => []
  | r => [r]

/-- The branches of a choice. -/
def branches : Regex → List Regex
  | alt a b => a :: b.branches
  | r => [r]

/-- Joins literals in a row. -/
def joinLiterals : List Regex → List Regex
  | [] => []
  | literal s :: rest =>
    match joinLiterals rest with
    | literal t :: more => literal (s ++ t) :: more
    | more => literal s :: more
  | r :: rest => r :: joinLiterals rest

/-- The sequence of some parts. -/
def nestSeq : List Regex → Regex
  | [] => empty
  | [r] => r
  | r :: rest => seq r (nestSeq rest)

/-- The choice between some branches. -/
def nestAlt : List Regex → Regex
  | [] => chars .empty
  | [r] => r
  | r :: rest => alt r (nestAlt rest)

/-- One expression after the other. -/
def concat (rs : List Regex) : Regex := nestSeq (joinLiterals (rs.flatMap parts))

/-- The character of a literal that has only one. -/
def onlyChar? : Regex → Option Nat
  | literal [c] => some c.toNat
  | _ => none

/-- The set of an expression that is one. -/
def set? : Regex → Option CodePoints
  | chars set => some set
  | _ => none

/-- What two lists begin with. -/
def commonStart : List Regex → List Regex → List Regex
  | a :: as, b :: bs => if a = b then a :: commonStart as bs else []
  | _, _ => []

/-- The parts that all of some expressions begin with; none when one of them is no sequence. -/
def sharedParts (rs : List Regex) : List Regex :=
  if rs.all (2 ≤ ·.parts.length) then
    match rs with
    | [] => []
    | r :: rest => rest.foldl (fun start s => commonStart start s.parts) r.parts
  else []

/-- A choice between expressions; `fuel` bounds how often common parts are taken out. -/
def choice : Nat → List Regex → Regex
  | 0, rs => nestAlt rs
  | fuel + 1, rs =>
    match rs.flatMap branches with
    | [] => chars .empty
    | [r] => r
    | rs =>
      match rs.mapM onlyChar? with
      | some ns => ofSet (.ofIntervals (ns.map fun n => (n, n)))
      | none =>
        match rs.mapM set? with
        | some sets => ofSet (sets.foldl .union .empty)
        | none =>
          let shared := sharedParts rs
          if shared.isEmpty then nestAlt rs
          else
            concat (shared ++
              [choice fuel (rs.map fun r => concat (r.parts.drop shared.length))])

/-- The sum of some numbers. -/
def total (ns : List Nat) : Nat := ns.foldl Nat.add 0

/-- The number of constructors of an expression. -/
def size : Regex → Nat
  | group _ a | repeated a _ _ => a.size + 1
  | seq a b | alt a b => a.size + b.size + 1
  | _ => 1

/-- One of some expressions. -/
def alternation (rs : List Regex) : Regex := choice (total (rs.map size) + 1) rs

/-- An expression repeated within bounds.  To repeat an empty match is to have it once. -/
def times (r : Regex) (least : Nat) (most : Option Nat) : Regex :=
  let (least, most) :=
    if r.isEmptyOnly then (min least 1, some ((most.map (min · 1)).getD 1)) else (least, most)
  if most == some 0 then empty
  else if least == 1 && most == some 1 then r
  else repeated r least most

end Regex

end Pattern

end TableMapper
