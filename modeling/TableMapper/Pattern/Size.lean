import TableMapper.Pattern.Regex

/-!
# The size of an automaton

A pattern is refused when the automaton for its expression takes too much memory.  The automaton
reads bytes of UTF-8, and is built once for reading forward and once for reading backward.

* `Regex.fits` says that both automata are within the limit.
-/

namespace TableMapper

namespace Pattern

/-! ### Sets of characters as bytes -/

/-- An interval of bytes. -/
abbrev ByteRange := Nat × Nat

/-- Any bytes behind the first one of a character, as many as in a list. -/
def anyContinuation (bs : List Nat) : List ByteRange := bs.map fun _ => (0x80, 0xBF)

/-- The ends of encodings that are not below one end. -/
def sequencesAbove : List Nat → List (List ByteRange)
  | [] => [[]]
  | b :: bs =>
    if bs.all (· == 0x80) then [(b, 0xBF) :: anyContinuation bs]
    else
      (sequencesAbove bs).map ((b, b) :: ·) ++
        if b < 0xBF then [(b + 1, 0xBF) :: anyContinuation bs] else []

/-- The ends of encodings that are not above one end. -/
def sequencesBelow : List Nat → List (List ByteRange)
  | [] => [[]]
  | b :: bs =>
    if bs.all (· == 0xBF) then [(0x80, b) :: anyContinuation bs]
    else
      (if 0x80 < b then [(0x80, b - 1) :: anyContinuation bs] else []) ++
        (sequencesBelow bs).map ((b, b) :: ·)

/-- The sequences of intervals for the encodings between two encodings of one length. -/
def byteSequences : List Nat → List Nat → List (List ByteRange)
  | a :: as, b :: bs =>
    if a == b then (byteSequences as bs).map ((a, a) :: ·)
    else
      let startWhole := as.all (· == 0x80)
      let endWhole := bs.all (· == 0xBF)
      let start := if startWhole then [] else (sequencesAbove as).map ((a, a) :: ·)
      let finish := if endWhole then [] else (sequencesBelow bs).map ((b, b) :: ·)
      let low := if startWhole then a else a + 1
      let high := if endWhole then b else b - 1
      let middle := if low ≤ high then [(low, high) :: anyContinuation as] else []
      start ++ middle ++ finish
  | _, _ => [[]]

/-- The code points whose encodings have the same length; surrogates have none. -/
def encodingBlocks : List (Nat × Nat) :=
  [(0, 0x7F), (0x80, 0x7FF), (0x800, 0xD7FF), (0xE000, 0xFFFF), (0x10000, 0x10FFFF)]

/-- The bytes of a character. -/
def bytesOf (n : Nat) : List Nat := (String.utf8EncodeChar (Char.ofNat n)).map (·.toNat)

/-- The sequences of intervals of bytes for a set, in ascending order. -/
def CodePoints.byteSequences (s : CodePoints) : List (List ByteRange) :=
  s.intervals.flatMap fun (low, high) =>
    encodingBlocks.flatMap fun (first, last) =>
      let low := max low first
      let high := min high last
      if low ≤ high then Pattern.byteSequences (bytesOf low) (bytesOf high) else []

/-- Sequences grouped by what they begin with, which is left off. -/
def groupByHead (seqs : List (List ByteRange)) : List (ByteRange × List (List ByteRange)) :=
  seqs.foldr (fun s groups =>
    match s, groups with
    | [], _ => groups
    | r :: rest, (head, rests) :: more =>
      if r == head then (head, rest :: rests) :: more else (r, [rest]) :: groups
    | r :: rest, [] => [(r, [rest])]) []

/-- The sets of sequences that a tree of intervals leads to, within a number of bytes. -/
def treeNodes : Nat → List (List ByteRange) → List (List (List ByteRange))
  | 0, _ => []
  | n + 1, seqs =>
    match groupByHead seqs with
    | [] => []
    | groups => seqs :: groups.flatMap fun (_, rests) => treeNodes n rests

/-- How many intervals sequences have beyond those that they share with the sequence before. -/
def treeEdges : List ByteRange → List (List ByteRange) → Nat
  | _, [] => 0
  | before, s :: rest =>
    let shared := ((before.zip s).takeWhile fun (a, b) => a == b).length
    s.length - shared + treeEdges s rest

/-! ### Parts of an automaton -/

/-- A direction of reading. -/
inductive Direction where
  | forward
  | backward
  deriving DecidableEq

/-- The size of a part of an automaton. -/
structure PartSize where
  bytes : Nat
  /-- The part ends in a branching, which takes one more branch to lead on. -/
  branching : Bool := false

namespace PartSize

/-- A state. -/
def state : Nat := 32

/-- A branch of a branching. -/
def branch : Nat := 4

/-- An interval of bytes with where it leads. -/
def arc : Nat := 8

/-- What it takes to lead on from a part. -/
def link (p : PartSize) : Nat := if p.branching then branch else 0

/-- A set of characters.  A tree for reading forward shares the ends of sequences, one for reading
backward their starts. -/
def ofSet (d : Direction) (s : CodePoints) : PartSize :=
  let seqs := s.byteSequences
  if s.isAscii then ⟨2 * state + arc * s.intervals.length, false⟩
  else match d with
    | .forward =>
      let nodes := (treeNodes 4 seqs).eraseDups
      ⟨state + Regex.total (nodes.map fun n => state + arc * (groupByHead n).length), false⟩
    | .backward => ⟨2 * state + state * treeEdges [] seqs + branch * seqs.length, false⟩

/-- `n` copies of a part in a row. -/
def copies (p : PartSize) : Nat → PartSize
  | 0 => ⟨state, false⟩
  | n + 1 => ⟨(n + 1) * p.bytes + n * p.link, p.branching⟩

/-- A part repeated within bounds; `mayBeEmpty` says whether one repetition can be empty. -/
def repeated (p : PartSize) (mayBeEmpty : Bool) (least : Nat) : Option Nat → PartSize
  | none =>
    match least with
    | 0 =>
      if mayBeEmpty then ⟨p.bytes + p.link + 3 * state + 4 * branch, false⟩
      else ⟨p.bytes + p.link + state + branch, true⟩
    | n + 1 =>
      let start := if n == 0 then 0 else (p.copies n).bytes + p.link
      ⟨start + p.bytes + p.link + state + branch, true⟩
  | some most =>
    if least == 0 && most == 1 then ⟨p.bytes + p.link + 2 * state + 2 * branch, false⟩
    else if least == most then p.copies least
    else
      let start := p.copies least
      let optional := most - least
      ⟨start.bytes + start.link + state + optional * (state + p.bytes + 2 * branch) +
        optional * p.link, false⟩

end PartSize

/-! ### Literals in a choice -/

/-- The parts of a list of words between the empty ones. -/
def chunks : List (List Nat) → List (List (List Nat))
  | [] => [[]]
  | w :: rest =>
    match w, chunks rest with
    | [], more => [] :: more
    | w, chunk :: more => (w :: chunk) :: more
    | w, [] => [[w]]

/-- The words that start with a byte, without it. -/
def tailsAt (b : Nat) (words : List (List Nat)) : List (List Nat) :=
  words.filterMap fun
    | c :: rest => if c == b then some rest else none
    | [] => none

/-- The size of the tree for words of at most some length.  A word that ends at a node separates the
words in front of it from those behind. -/
def wordTreeSize : Nat → List (List Nat) → Nat
  | 0, _ => 0
  | n + 1, words =>
    let groups := chunks words
    let full := groups.filter (!·.isEmpty)
    let inChunk (chunk : List (List Nat)) : Nat :=
      let heads := (chunk.filterMap (·.head?)).eraseDups
      let leads := if heads.length == 1 then 0 else PartSize.arc * heads.length
      let below := heads.map fun b =>
        let tails := tailsAt b chunk
        if tails.all (·.isEmpty) then 0 else wordTreeSize n tails
      PartSize.state + leads + Regex.total below
    PartSize.state + PartSize.branch * (full.length + (groups.length - 1)) +
      Regex.total (full.map inChunk)

/-- The literals of a choice that has only literals as branches. -/
def Regex.words? : Regex → Option (List (List Char))
  | .literal s => some [s]
  | .alt (.literal s) b => b.words?.map (s :: ·)
  | _ => none

/-- The size of a choice between literals. -/
def PartSize.ofWords (d : Direction) (words : List (List Char)) : PartSize :=
  let encoded := words.map fun w => w.flatMap fun c => bytesOf c.toNat
  let read := match d with
    | .forward => encoded
    | .backward => encoded.map List.reverse
  ⟨state + wordTreeSize (Regex.total (read.map List.length) + 1) read, false⟩

/-! ### Expressions -/

/-- The size of an expression, as it is and as one branch or more of a choice. -/
structure ExprSize where
  whole : PartSize
  asBranches : Nat

/-- The sizes of an expression that is no choice. -/
def ExprSize.ofPart (p : PartSize) : ExprSize := ⟨p, p.bytes + p.link + PartSize.branch⟩

/-- The size of the automaton for an expression. -/
def Regex.exprSize (d : Direction) : Regex → ExprSize
  | .empty => .ofPart ⟨PartSize.state, false⟩
  | .literal cs =>
    .ofPart ⟨PartSize.state * total (cs.map fun c => (bytesOf c.toNat).length), false⟩
  | .chars set => .ofPart (.ofSet d set)
  | .assertion _ => .ofPart ⟨PartSize.state, false⟩
  | .group _ a =>
    let p := (a.exprSize d).whole
    .ofPart (match d with
      | .forward => ⟨2 * PartSize.state + p.bytes + p.link, false⟩
      | .backward => p)
  | .seq a b =>
    let p := (a.exprSize d).whole
    let q := (b.exprSize d).whole
    .ofPart (match d with
      | .forward => ⟨p.bytes + p.link + q.bytes, q.branching⟩
      | .backward => ⟨q.bytes + q.link + p.bytes, p.branching⟩)
  | .alt a b =>
    let branches := (a.exprSize d).asBranches + (b.exprSize d).asBranches
    let whole : PartSize := match (Regex.alt a b).words? with
      | some words => .ofWords d words
      | none => ⟨2 * PartSize.state + branches, false⟩
    ⟨whole, branches⟩
  | .repeated a least most =>
    .ofPart ((a.exprSize d).whole.repeated (a.minLength?.all (· == 0)) least most)

/-- The size of the automaton that searches for an expression. -/
def Regex.automatonSize (d : Direction) (r : Regex) : Nat :=
  let p := (r.exprSize d).whole
  let anchored := match d with
    | .forward => r.isStartAnchored
    | .backward => r.isEndAnchored
  let search :=
    if anchored then PartSize.state else 3 * PartSize.state + PartSize.arc + 2 * PartSize.branch
  let marks := match d with
    | .forward => 2 * PartSize.state
    | .backward => 0
  search + marks + p.bytes + p.link + PartSize.state

/-- The most memory that an automaton may take. -/
def maxAutomatonSize : Nat := 10 * 1024 * 1024

/-- The automata for an expression are within the limit. -/
def Regex.fits (r : Regex) : Bool :=
  r.automatonSize .forward ≤ maxAutomatonSize && r.automatonSize .backward ≤ maxAutomatonSize

end Pattern

end TableMapper
