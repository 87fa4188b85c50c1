/-!
# Sets of code points

* `CodePoints` is a set of code points, `CodePoints.contains` its membership test.
* `CodePoints.ofTable` reads a set that is written as a table, `slices` a partition of all code
  points that is, and `CodePoints.ofSlices` picks some classes of it.
-/

namespace TableMapper

namespace Pattern

/-- A set of code points, as intervals in ascending order that neither overlap nor touch. -/
structure CodePoints where
  intervals : List (Nat × Nat)
  deriving DecidableEq, Inhabited

/-- The last code point. -/
def lastCodePoint : Nat := 0x10FFFF

namespace CodePoints

/-- The set without elements. -/
def empty : CodePoints := ⟨[]⟩

/-- The code points of an interval. -/
def range (low high : Nat) : CodePoints := ⟨[(low, high)]⟩

/-- The set of one character. -/
def single (c : Char) : CodePoints := range c.toNat c.toNat

/-- Every code point. -/
def all : CodePoints := range 0 lastCodePoint

/-- Membership of a code point. -/
def contains (s : CodePoints) (n : Nat) : Bool :=
  s.intervals.any fun (low, high) => low ≤ n && n ≤ high

/-- Joins intervals that overlap or touch, in ascending order of their lower ends; `low` and `high`
are the ends of the interval in front. -/
def joinFrom (low high : Nat) : List (Nat × Nat) → List (Nat × Nat)
  | [] => [(low, high)]
  | (a, b) :: rest =>
    if a ≤ high + 1 then joinFrom low (max high b) rest else (low, high) :: joinFrom a b rest

/-- The code points in one of some intervals. -/
def ofIntervals (intervals : List (Nat × Nat)) : CodePoints :=
  match intervals.mergeSort fun a b => a.1 ≤ b.1 with
  | [] => empty
  | (a, b) :: rest => ⟨joinFrom a b rest⟩

/-- The code points in one of two sets. -/
def union (s t : CodePoints) : CodePoints := ofIntervals (s.intervals ++ t.intervals)

/-- What intervals leave of the code points from `next` on. -/
def gaps (next : Nat) : List (Nat × Nat) → List (Nat × Nat)
  | [] => if next ≤ lastCodePoint then [(next, lastCodePoint)] else []
  | (a, b) :: rest => if next < a then (next, a - 1) :: gaps (b + 1) rest else gaps (b + 1) rest

/-- The code points outside a set. -/
def compl (s : CodePoints) : CodePoints := ⟨gaps 0 s.intervals⟩

/-- The code points in both of two sets. -/
def inter (s t : CodePoints) : CodePoints := (s.compl.union t.compl).compl

/-- The code points of one set that are not in another. -/
def diff (s t : CodePoints) : CodePoints := s.inter t.compl

/-- The code points in exactly one of two sets. -/
def symmDiff (s t : CodePoints) : CodePoints := (s.diff t).union (t.diff s)

/-- The set, or its complement. -/
def complIf (negated : Bool) (s : CodePoints) : CodePoints := if negated then s.compl else s

/-- The only element of a set, when there is just one. -/
def only? (s : CodePoints) : Option Nat :=
  match s.intervals with
  | [(a, b)] => if a == b then some a else none
  | _ => none

/-- All elements are ASCII characters. -/
def isAscii (s : CodePoints) : Bool := s.intervals.all fun (_, high) => high < 128

end CodePoints

/-! ### Tables -/

/-- A number in base 36. -/
def number36 (cs : List Char) : Nat :=
  cs.foldl (fun n c => 36 * n + (if c ≤ '9' then c.toNat - 48 else c.toNat - 87)) 0

/-- The entries of a table written in lines, with a blank between two of them. -/
def entries (lines : List String) : List (List Char) :=
  lines.flatMap fun line => line.toList.splitOn ' '

/-- The intervals of a table, the one before them having ended at `last`. -/
def intervalsFrom (last : Nat) : List (List Char) → List (Nat × Nat)
  | [] => []
  | entry :: rest =>
    let low := last + number36 (entry.takeWhile (· != '.'))
    let high := low + number36 ((entry.dropWhile (· != '.')).drop 1)
    (low, high) :: intervalsFrom high rest

/-- The set written as a table of intervals in ascending order.  An entry has one or two numbers in
base 36 with a point between them: the distance from the end of the interval before, and the
distance from its own start to its end unless that is zero. -/
def CodePoints.ofTable (lines : List String) : CodePoints :=
  ⟨intervalsFrom 0 (entries lines)⟩

/-- Successive code points of one class. -/
structure Slice where
  low : Nat
  high : Nat
  /-- The class. -/
  value : String

/-- The slices of a table from the code point `next` on. -/
def slicesFrom (next : Nat) : List (List Char) → List Slice
  | [] => []
  | entry :: rest =>
    let count := match entry.dropWhile (· != ':') with
      | _ :: digits => number36 digits
      | [] => 1
    ⟨next, next + count - 1, String.ofList (entry.takeWhile (· != ':'))⟩ ::
      slicesFrom (next + count) rest

/-- The partition written as a table of slices from zero on.  An entry has the class and, after a
colon, the number of code points in base 36 unless that is one. -/
def slices (lines : List String) : List Slice := slicesFrom 0 (entries lines)

/-- The code points of some classes of a partition. -/
def CodePoints.ofSlices (values : List String) (lines : List String) : CodePoints :=
  .ofIntervals (((slices lines).filter (values.contains ·.value)).map fun s => (s.low, s.high))

end Pattern

end TableMapper
