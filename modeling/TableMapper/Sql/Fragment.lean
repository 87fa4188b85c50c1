import TableMapper.Sql.DollarTag

/-!
# Fragments of statements

A fragment keeps values apart from SQL text until it is rendered, so one fragment can be rendered
with placeholders or with literals.

* `Piece` is a stretch of text or a value, `Fragment` a list of pieces.
* `Fragment.render` makes a `Statement` of it.
* `Template.expand` replaces the question marks of a template by its arguments.
-/

namespace TableMapper

/-- How values reach the server. -/
inductive Binding where
  /-- Text and documents for columns of known type become placeholders with arguments. -/
  | parameterized
  /-- Every value is written as a literal. -/
  | inline
  deriving DecidableEq, Inhabited

/-- SQL text with its arguments. -/
structure Statement where
  /-- The text. -/
  sql : String
  /-- The argument of `$1`, of `$2`, and so on. -/
  args : List Value
  deriving Inhabited

/-- A part of a fragment. -/
inductive Piece where
  /-- SQL text. -/
  | sql (text : String)
  /-- A value for a column of known type, and the cast of its placeholder. -/
  | value (value : Value) (cast : Option String)
  /-- A value of unknown type, always written as a literal. -/
  | untyped (value : Value)

/-- SQL text interleaved with values. -/
abbrev Fragment := List Piece

namespace Piece

/-- The value that a piece sends as an argument, and the cast of its placeholder.  Only text is
cast. -/
def argument? (binding : Binding) : Piece → Option (Value × Option String)
  | .value (.text s) cast => if binding = .parameterized then some (.text s, cast) else none
  | .value (.json d) _ => if binding = .parameterized then some (.json d, none) else none
  | _ => none

/-- The text of a piece that sends no argument. -/
def text (tag : DollarTag) : Piece → String
  | .sql s => s
  | .value v _ => tag.literal v
  | .untyped v => tag.literal v

end Piece

namespace Fragment

/-- The fragment of one text. -/
def ofText (s : String) : Fragment := [.sql s]

/-- The fragments one after the other, with a text between neighbours. -/
def join (separator : String) : List Fragment → Fragment
  | [] => []
  | [f] => f
  | f :: g :: rest => f ++ .sql separator :: join separator (g :: rest)

/-- The placeholder of argument number `n`. -/
def placeholder (n : Nat) (cast : Option String) : String :=
  "$" ++ toString n ++ match cast with
    | some c => "::" ++ c
    | none => ""

/-- The texts of the pieces, after `n` arguments. -/
def texts (binding : Binding) (tag : DollarTag) : Nat → Fragment → List String
  | _, [] => []
  | n, p :: ps =>
    match p.argument? binding with
    | some (_, cast) => placeholder (n + 1) cast :: texts binding tag (n + 1) ps
    | none => p.text tag :: texts binding tag n ps

/-- The arguments of the pieces, in order. -/
def arguments (binding : Binding) (f : Fragment) : List Value :=
  f.filterMap fun p => (p.argument? binding).map (·.1)

/-- The statement of a fragment. -/
def render (binding : Binding) (tag : DollarTag) (f : Fragment) : Statement where
  sql := String.join (texts binding tag 0 f)
  args := arguments binding f

end Fragment

/-! ### Templates

A template is SQL text in which each question mark stands for one argument.  The marks are replaced
from left to right; their number must be that of the arguments. -/

namespace Template

/-- Text as a fragment; none for the empty text. -/
def textPiece (cs : List Char) : Fragment :=
  if cs.isEmpty then [] else .ofText (String.ofList cs)

/-- The parts between the marks, with the arguments between them. -/
def interleave : List (List Char) → List Value → Fragment
  | [], _ => []
  | [part], _ => textPiece part
  | part :: parts, v :: args => textPiece part ++ .untyped v :: interleave parts args
  | part :: parts, [] => textPiece part ++ interleave parts []

/-- The fragment of a template.  Its arguments belong to no column, so they have no type. -/
def expand (sql : String) (args : List Value) : Except String Fragment :=
  let marks := sql.toList.count '?'
  if marks = 0 && args.isEmpty then .ok (Fragment.ofText sql)
  else if marks ≠ args.length then
    .error ("condition '" ++ sql ++ "' has " ++ toString marks ++ " markers but " ++
      toString args.length ++ " arguments")
  else .ok (interleave (sql.toList.splitOn '?') args)

end Template

end TableMapper
