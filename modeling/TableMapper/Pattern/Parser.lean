import TableMapper.Pattern.Bracket
import TableMapper.Pattern.Matcher
import TableMapper.Pattern.Size

/-!
# Reading patterns

* `Pattern.parse?` reads a regular expression.  Look-around and back-references are not part of the
  language; an expression that nests too deep, or whose automaton grows too large, is refused.
* `Pattern.accepts?` searches a text for a match.
-/

namespace TableMapper

namespace Pattern

/-! ### Repetitions -/

/-- White space, which counts around numbers do not need. -/
def dropBlanks (cs : List Char) : List Char := cs.dropWhile (spaceClass.contains ·.toNat)

/-- Decimal digits, with what is passed over behind each. -/
def Modes.digits (m : Modes) : Nat → List Char → List Char × List Char
  | 0, cs => ([], cs)
  | fuel + 1, cs =>
    match cs with
    | c :: rest =>
      if Text.isDigit c then
        let (ds, rest) := m.digits fuel (m.skip rest)
        (c :: ds, rest)
      else ([], cs)
    | [] => ([], [])

/-- A decimal count with blanks around it, which 32 bits hold. -/
def Modes.count? (m : Modes) (cs : List Char) : Option (Nat × List Char) :=
  let (ds, rest) := m.digits cs.length (dropBlanks cs)
  if ds.isEmpty || Nat.pow 2 32 ≤ Text.decimalValue ds then none
  else some (Text.decimalValue ds, m.skip (dropBlanks rest))

/-- A counted repetition after its opening brace: the least and the greatest number. -/
def Modes.bounds? (m : Modes) (cs : List Char) : Option ((Nat × Option Nat) × List Char) := do
  let (least, rest) ← m.count? (m.skip cs)
  match rest with
  | '\x7d' :: rest => return ((least, some least), rest)
  | ',' :: rest =>
    match m.skip rest with
    | '\x7d' :: rest => return ((least, none), rest)
    | rest =>
      let (most, rest) ← m.count? rest
      match rest with
      | '\x7d' :: rest => if most < least then none else return ((least, some most), rest)
      | _ => none
  | _ => none

/-- What follows a question mark that makes a repetition lazy. -/
def dropLazy : List Char → List Char
  | '?' :: rest => rest
  | rest => rest

/-- What follows a question mark that makes a counted repetition lazy.  The spaced mode lets it
stand apart. -/
def Modes.dropLazy (m : Modes) (cs : List Char) : List Char := Pattern.dropLazy (m.skip cs)

/-! ### Groups -/

/-- A character that a name may have, at its start or further on. -/
def isNameChar (first : Bool) (c : Char) : Bool :=
  c == '_' || alphabeticClass.contains c.toNat ||
    (!first && (c == '.' || c == '[' || c == ']' || numberClass.contains c.toNat))

/-- The name of a group, up to its closing bracket. -/
def groupName? (cs : List Char) : Option (String × List Char) :=
  match Text.cutAtChars? ['>'] cs with
  | some (c :: more, rest) =>
    if isNameChar true c && more.all (isNameChar false) then
      some (String.ofList (c :: more), rest)
    else none
  | _ => none

/-- What stands behind an opening parenthesis. -/
inductive Opening where
  /-- A numbered group, perhaps with a name. -/
  | numbered (name : Option String)
  /-- A group with modes of its own. -/
  | plain (modes : Modes)
  /-- No group but a switch of modes. -/
  | switch (modes : Modes)

/-- Reads what stands behind an opening parenthesis. -/
def Modes.opening? (m : Modes) (cs : List Char) : Option (Opening × List Char) :=
  let named (rest : List Char) : Option (Opening × List Char) :=
    (groupName? rest).map fun (name, rest) => (.numbered (some name), rest)
  match m.skip cs with
  | '?' :: '=' :: _ | '?' :: '!' :: _ | '?' :: '<' :: '=' :: _ | '?' :: '<' :: '!' :: _ => none
  | '?' :: 'P' :: '<' :: rest => named rest
  | '?' :: '<' :: rest => named rest
  | '?' :: rest =>
    match Modes.letters? [] rest with
    | some (letters, ':', rest) => some (.plain (m.switched letters), rest)
    | some ([], _, _) => none
    | some (letters, _, rest) => some (.switch (m.switched letters), rest)
    | none => none
  | rest => some (.numbered none, rest)

/-! ### Expressions -/

/-- An expression that was read, and how deep it nests. -/
structure Piece where
  expr : Regex
  depth : Nat

/-- How deep an expression of several others nests. -/
def depthOver (depths : List Nat) : Nat :=
  match depths with
  | [] => 0
  | [d] => d
  | d :: rest => rest.foldl max d + 1

/-- The elements of a sequence, the last one first; a switch of modes is no expression. -/
abbrev Elements := List (Option Piece)

/-- The sequence of some elements. -/
def Elements.sequence (done : Elements) : Piece :=
  ⟨.concat (done.reverse.filterMap fun e => e.map (·.expr)),
    depthOver (done.map fun e => (e.map (·.depth)).getD 0)⟩

/-- The elements with the last one repeated.  A switch of modes cannot be repeated. -/
def Elements.repeatLast? (least : Nat) (most : Option Nat) : Elements → Option Elements
  | some p :: done => some (some ⟨p.expr.times least most, p.depth + 1⟩ :: done)
  | _ => none

/-- The choice between the alternatives in `left`, the last one first, and a sequence. -/
def choiceOf (left : List Piece) (done : Elements) : Piece :=
  match left with
  | [] => done.sequence
  | left =>
    let all := done.sequence :: left
    ⟨.alternation (all.reverse.map (·.expr)), depthOver (all.map (·.depth))⟩

/-- A state of reading: the modes, the number of groups and their names. -/
structure Reading where
  modes : Modes := {}
  groups : Nat := 0
  names : List String := []

/-- The state after a numbered group opens.  No two groups have the same name. -/
def Reading.open? (st : Reading) (name : Option String) : Option Reading :=
  match name with
  | none => some { st with groups := st.groups + 1 }
  | some name =>
    if st.names.contains name then none
    else some { st with groups := st.groups + 1, names := name :: st.names }

/-- A sign that is not part of the structure of an expression, or an escape. -/
def Modes.atom? (m : Modes) : List Char → Option (Regex × List Char)
  | '.' :: rest => m.dot?.map (·, rest)
  | '^' :: rest => some (.assertion m.caret, rest)
  | '$' :: rest => some (.assertion m.dollar, rest)
  | '\\' :: rest =>
    match m.escape? rest with
    | some (.char c asByte, rest) => (m.literal? c asByte).map (·, rest)
    | some (.set s, rest) => some (.ofSet s, rest)
    | some (.assertion a, rest) => some (.assertion a, rest)
    | none => none
  | c :: rest => (m.literal? c false).map (·, rest)
  | [] => none

/-- How deep the parts of a pattern may nest. -/
def maxDepth : Nat := 250

/-- An expression up to the end of its group, which `room` more groups may nest in.  `left` holds
the alternatives so far and `done` the elements of this one, both with the last one first. -/
def read? : Nat → Nat → Reading → List Piece → Elements → List Char →
    Option (Piece × Reading × List Char)
  | 0, _, _, _, _, _ => none
  | fuel + 1, room, st, left, done, cs =>
    let again (least : Nat) (most : Option Nat) (rest : List Char) :=
      match done.repeatLast? least most with
      | some done => read? fuel room st left done rest
      | none => none
    let group (inner : Reading) (wrap : Regex → Regex) (rest : List Char) :=
      match room with
      | 0 => none
      | room + 1 =>
        match read? fuel room inner [] [] rest with
        | some (p, after, ')' :: rest) =>
          read? fuel (room + 1) { after with modes := st.modes } left
            (some ⟨wrap p.expr, p.depth + 1⟩ :: done) rest
        | _ => none
    match st.modes.skip cs with
    | [] => some (choiceOf left done, st, [])
    | ')' :: rest => some (choiceOf left done, st, ')' :: rest)
    | '|' :: rest => read? fuel room st (done.sequence :: left) [] rest
    | '*' :: rest => again 0 none (dropLazy rest)
    | '+' :: rest => again 1 none (dropLazy rest)
    | '?' :: rest => again 0 (some 1) (dropLazy rest)
    | '\x7b' :: rest =>
      match st.modes.bounds? rest with
      | some ((least, most), rest) => again least most (st.modes.dropLazy rest)
      | none => none
    | '(' :: rest =>
      match st.modes.opening? rest with
      | some (.numbered name, rest) =>
        match st.open? name with
        | some inner => group inner (.group inner.groups) rest
        | none => none
      | some (.plain modes, rest) => group { st with modes } id rest
      | some (.switch modes, rest) => read? fuel room { st with modes } left (none :: done) rest
      | none => none
    | '[' :: rest =>
      match Modes.bracket? (3 * rest.length + 3) maxDepth st.modes rest with
      | some (c, rest) => read? fuel room st left (some ⟨.ofSet c.set, c.depth⟩ :: done) rest
      | none => none
    | cs =>
      match st.modes.atom? cs with
      | some (r, rest) => read? fuel room st left (some ⟨r, 0⟩ :: done) rest
      | none => none

/-- The regular expression written in a pattern. -/
def parse? (pattern : String) : Option Regex :=
  let cs := pattern.toList
  match read? (3 * cs.length + 3) maxDepth {} [] [] cs with
  | some (p, _, []) => if p.depth ≤ maxDepth && p.expr.fits then some p.expr else none
  | _ => none

/-- Whether a part of the text matches the pattern; `none` when the pattern cannot be read. -/
def accepts? (pattern text : String) : Option Bool := (parse? pattern).map (·.accepts text)

end Pattern

end TableMapper
