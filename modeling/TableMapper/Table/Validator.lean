import TableMapper.Json.Printer
import TableMapper.Pattern.Parser

/-!
# Validators

A validator is a check of the values of one column.  `Validator.check` gives the reason for which a
value is refused.
-/

namespace TableMapper

/-- A check of values. -/
inductive Validator where
  /-- The text of the value matches a regular expression. -/
  | pattern (expression : String)
  /-- The value is one of these. -/
  | oneOf (allowed : List Json)
  /-- The number of characters of a string; any other value counts as empty. -/
  | length (min max : Option Nat)
  /-- A condition of the caller's. -/
  | custom (accepts : Json → Bool)

namespace Validator

/-- The text that a pattern is matched with: a string itself, any other value as JSON. -/
def subject : Json → String
  | .string s => s
  | other => other.render

/-- Why a value is refused; `none` when it is accepted. -/
def check (v : Validator) (value : Json) : Option String :=
  match v with
  | .pattern expression =>
    let text := subject value
    match Pattern.accepts? expression text with
    | none => some ("invalid pattern '" ++ expression ++ "'")
    | some true => none
    | some false => some ("'" ++ text ++ "' does not match " ++ expression)
  | .oneOf allowed =>
    if allowed.any (·.same value) then none
    else some (value.render ++ " is not an allowed value")
  | .length min max =>
    let n := (value.text?.map (·.toList.length)).getD 0
    if min.any (n < ·) || max.any (· < n) then
      some ("length " ++ toString n ++ " out of range")
    else none
  | .custom accepts => if accepts value then none else some "rejected by validator"

end Validator

end TableMapper
