import TableMapper.Pattern.Escape

/-!
# Classes in brackets

A class in brackets lists characters, intervals and other classes, and may combine such lists.
`Modes.bracket?` reads one.  How deep classes nest is counted, as there is a limit for patterns.
-/

namespace TableMapper

namespace Pattern

/-- A class that was read, and how deep it nests. -/
structure Nested where
  set : CodePoints
  depth : Nat

/-- The items of a list that were read. -/
structure Items where
  set : CodePoints := .empty
  count : Nat := 0
  /-- How deep the deepest item nests. -/
  depth : Nat := 0

namespace Items

/-- One item more. -/
def add (items : Items) (item : Nested) : Items :=
  ⟨items.set.union item.set, items.count + 1, max items.depth item.depth⟩

/-- One character more. -/
def addChar (items : Items) (c : Char) : Items := items.add ⟨.single c, 0⟩

/-- The list as a class.  A list of several items is one level above them. -/
def nested (items : Items) : Nested :=
  ⟨items.set, if 2 ≤ items.count then items.depth + 1 else items.depth⟩

end Items

/-- An operator between lists. -/
inductive SetOperator where
  | intersection
  | difference
  | symmetricDifference
  deriving DecidableEq

/-- The operator with a sign, which is written twice. -/
def setOperator? (sign : Char) : Option SetOperator :=
  match sign with
  | '&' => some .intersection
  | '-' => some .difference
  | '~' => some .symmetricDifference
  | _ => none

/-- What an operator makes of two sets. -/
def SetOperator.apply (o : SetOperator) (a b : CodePoints) : CodePoints :=
  match o with
  | intersection => a.inter b
  | difference => a.diff b
  | symmetricDifference => a.symmDiff b

/-- A list with the operand and the operator in front of it. -/
def Modes.joined (m : Modes) (left : Option (Nested × SetOperator)) (items : Items) : Nested :=
  let right := items.nested
  match left with
  | none => right
  | some (a, o) => ⟨o.apply (m.folded a.set) (m.folded right.set), max a.depth right.depth + 1⟩

/-- A class such as `[:alpha:]`, after `[:`. -/
def Modes.asciiClass? (m : Modes) (cs : List Char) : Option (Option CodePoints × List Char) := do
  let (negated, cs) := match cs with
    | '^' :: rest => (true, rest)
    | cs => (false, cs)
  let s ← Pattern.asciiClass? (String.ofList (cs.takeWhile (· != ':')))
  match cs.dropWhile (· != ':') with
  | ':' :: ']' :: rest => return (m.finish? negated s, rest)
  | _ => none

/-- An item that is a single sign or an escape. -/
def Modes.classItem? (m : Modes) : List Char → Option (Escape × List Char)
  | '\\' :: rest => m.escape? rest
  | c :: rest => some (.char c false, rest)
  | [] => none

/-- A character may stand in a class.  Without Unicode it has to be ASCII. -/
def Modes.admits (m : Modes) (c : Char) : Bool := m.unicode || c.toNat < 128

/-- The set of an item or, if a hyphen follows it, of the interval that it begins. -/
def Modes.classRange? (m : Modes) (cs : List Char) : Option (CodePoints × List Char) := do
  let (item, rest) ← m.classItem? cs
  let one : Option CodePoints := match item with
    | .char c _ => if m.admits c then some (.single c) else none
    | .set s => some s
    | .assertion _ => none
  match m.skip rest with
  | [] => none
  | '-' :: more =>
    if m.glance more == some ']' || m.glance more == some '-' then return (← one, '-' :: more)
    else
      let (last, rest) ← m.classItem? (m.skip more)
      match item, last with
      | .char c _, .char d _ =>
        if c ≤ d && m.admits c && m.admits d then return (.range c.toNat d.toNat, rest) else none
      | _, _ => none
  | rest => return (← one, rest)

/-- The hyphens that a class starts with, which count as characters. -/
def Modes.hyphens (m : Modes) : Nat → Items → List Char → Items × List Char
  | fuel + 1, items, '-' :: rest => m.hyphens fuel (items.addChar '-') (m.skip rest)
  | _, items, cs => (items, cs)

/-- The characters that a class starts with although they are signs: hyphens, or else a closing
bracket. -/
def Modes.leading (m : Modes) (cs : List Char) : Items × List Char :=
  match cs with
  | ']' :: rest => (({} : Items).addChar ']', m.skip rest)
  | cs => m.hyphens cs.length {} cs

mutual

/-- A class after its opening bracket, which `room` more classes may nest in. -/
def Modes.bracket? : Nat → Nat → Modes → List Char → Option (Nested × List Char)
  | 0, _, _, _ | _, 0, _, _ => none
  | fuel + 1, room + 1, m, cs =>
    let (negated, cs) := match m.skip cs with
      | '^' :: rest => (true, m.skip rest)
      | cs => (false, cs)
    let (items, cs) := m.leading cs
    match Modes.classBody? fuel room m none items cs with
    | some (body, rest) =>
      (m.finish? negated body.set).map fun s => (⟨s, body.depth + 1⟩, rest)
    | none => none

/-- The items of a class up to its closing bracket.  `left` is the operand and operator in front,
`items` what was read since. -/
def Modes.classBody? : Nat → Nat → Modes → Option (Nested × SetOperator) → Items → List Char →
    Option (Nested × List Char)
  | 0, _, _, _, _, _ => none
  | fuel + 1, room, m, left, items, cs =>
    match m.skip cs with
    | [] => none
    | ']' :: rest => some (m.joined left items, rest)
    | '[' :: rest =>
      let ascii := match rest with
        | ':' :: more => m.asciiClass? more
        | _ => none
      match ascii with
      | some (some s, rest) => Modes.classBody? fuel room m left (items.add ⟨s, 0⟩) rest
      | some (none, _) => none
      | none =>
        match Modes.bracket? fuel room m rest with
        | some (inner, rest) => Modes.classBody? fuel room m left (items.add inner) rest
        | none => none
    | c :: rest =>
      let operator := if rest.head? == some c then setOperator? c else none
      match operator with
      | some o => Modes.classBody? fuel room m (some (m.joined left items, o)) {} (rest.drop 1)
      | none =>
        match m.classRange? (c :: rest) with
        | some (s, rest) => Modes.classBody? fuel room m left (items.add ⟨s, 0⟩) rest
        | none => none

end

end Pattern

end TableMapper
