import TableMapper.Json.Basic
import TableMapper.Binary64.Decimal
import TableMapper.Text.Letter

/-!
# Coercion of aggregates

`Coercion` says in which form the result of an aggregate is wanted, and `Coercion.apply` brings a
value into that form.  Every value takes the way over a double.
-/

namespace TableMapper

/-- The wanted form of a number. -/
inductive Coercion where
  /-- An integer, by truncation. -/
  | int
  /-- A double. -/
  | double
  /-- Text with a fixed number of decimal places. -/
  | fixed (places : Nat)
  /-- The double that is written with a fixed number of decimal places. -/
  | fixedDouble (places : Nat)
  deriving DecidableEq

namespace Coercion

/-- The number in a value: a JSON number, or text around which white space may stand. -/
def number? : Json → Option Binary64
  | .int n => some (.ofInt n)
  | .double x => some x
  | .string s => Binary64.read? (Text.trim s)
  | _ => none

/-- A finite double as a JSON number; `value` stays in place of another one. -/
def finiteOr (value : Json) (x : Binary64) : Json := if x.isFinite then .double x else value

/-- The value in the wanted form; a value that is no number is left as it is. -/
def apply (c : Coercion) (value : Json) : Json :=
  match number? value with
  | none => value
  | some x =>
    match c with
    | .int => .int x.toInt64
    | .double => finiteOr value x
    | .fixed places => .string (x.fixed places)
    | .fixedDouble places =>
      match Binary64.read? (x.fixed places) with
      | some y => finiteOr value y
      | none => value

end Coercion

end TableMapper
