/-!
# Finding and cutting pieces of text

* `Text.dropStart?` and `Text.dropEnd?` take a fixed text off the ends.
* `Text.occurs` says whether one text stands in another, `Text.cutAt?` cuts at its first
  occurrence, and `Text.replaceAll` replaces its occurrences from left to right.
* `Text.splitOn` splits at every occurrence of a character.
-/

namespace TableMapper

namespace Text

/-! ### On lists -/

/-- What follows `p` in a list that starts with `p`. -/
def dropStart? : List Char → List Char → Option (List Char)
  | [], s => some s
  | _ :: _, [] => none
  | p :: ps, c :: cs => if p = c then dropStart? ps cs else none

/-- What precedes `p` in a list that ends with `p`. -/
def dropEnd? (p s : List Char) : Option (List Char) :=
  (dropStart? p.reverse s.reverse).map List.reverse

/-- `p` stands somewhere in the list. -/
def occurs (p : List Char) : List Char → Bool
  | [] => p.isEmpty
  | c :: cs => p.isPrefixOf (c :: cs) || occurs p cs

/-- The list with the occurrences of `p` replaced by `new`, found from left to right without
overlap; `skip` characters of an occurrence are still to be passed over. -/
def replaceFrom (p new : List Char) : Nat → List Char → List Char
  | _, [] => []
  | skip + 1, _ :: cs => replaceFrom p new skip cs
  | 0, c :: cs =>
    if p.isPrefixOf (c :: cs) then new ++ replaceFrom p new (p.length - 1) cs
    else c :: replaceFrom p new 0 cs

/-- The parts before and after the first occurrence of `p`. -/
def cutAtChars? (p : List Char) : List Char → Option (List Char × List Char)
  | [] => if p.isEmpty then some ([], []) else none
  | c :: cs =>
    match dropStart? p (c :: cs) with
    | some rest => some ([], rest)
    | none => (cutAtChars? p cs).map fun (a, b) => (c :: a, b)

/-- The parts of the list between the occurrences of `p`, found from left to right without overlap;
`skip` characters of an occurrence are still to be passed over. -/
def splitAt (p : List Char) : Nat → List Char → List (List Char)
  | _, [] => [[]]
  | skip + 1, _ :: cs => splitAt p skip cs
  | 0, c :: cs =>
    if p.isPrefixOf (c :: cs) then [] :: splitAt p (p.length - 1) cs
    else
      match splitAt p 0 cs with
      | [] => [[c]]
      | part :: parts => (c :: part) :: parts

/-- The parts before and after the first character that satisfies `p`. -/
def cutWhere? (p : Char → Bool) : List Char → Option (List Char × List Char)
  | [] => none
  | c :: cs => if p c then some ([], cs) else (cutWhere? p cs).map fun (a, b) => (c :: a, b)

/-! ### On texts -/

/-- What follows `p` in a text that starts with `p`. -/
def after? (p s : String) : Option String := (dropStart? p.toList s.toList).map String.ofList

/-- What precedes `p` in a text that ends with `p`. -/
def before? (p s : String) : Option String := (dropEnd? p.toList s.toList).map String.ofList

/-- The text starts with `p`. -/
def startsWith (p s : String) : Bool := p.toList.isPrefixOf s.toList

/-- The text ends with `p`. -/
def endsWith (p s : String) : Bool := (dropEnd? p.toList s.toList).isSome

/-- `p` stands somewhere in `s`. -/
def contains (p s : String) : Bool := occurs p.toList s.toList

/-- `s` with every occurrence of the non-empty text `p` replaced by `new`. -/
def replaceAll (p new s : String) : String :=
  String.ofList (replaceFrom p.toList new.toList 0 s.toList)

/-- The parts of `s` before and after the first occurrence of `p`. -/
def cutAt? (p s : String) : Option (String × String) :=
  (cutAtChars? p.toList s.toList).map fun (a, b) => (String.ofList a, String.ofList b)

/-- The parts of `s` between the occurrences of `c`; one part when there is none. -/
def splitOn (c : Char) (s : String) : List String := (s.toList.splitOn c).map String.ofList

/-- The part of `s` before the first `c`, all of `s` when there is none. -/
def beforeFirst (c : Char) (s : String) : String :=
  String.ofList (s.toList.takeWhile (· != c))

/-- The part of `s` after the last `c`, all of `s` when there is none. -/
def afterLast (c : Char) (s : String) : String :=
  String.ofList (s.toList.reverse.takeWhile (· != c)).reverse

end Text

end TableMapper
