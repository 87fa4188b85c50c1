import TableMapper.Binary64.Decimal
import TableMapper.Json.Printer
import TableMapper.Schema.TypeName
import TableMapper.Table.Decl

/-!
# Column defaults

* `Default.effective?` is the default that a declaration amounts to.
* `Default.literal` writes it in a definition.
* `Default.normalize` takes the casts, parentheses and quotation marks off a default that the
  catalog reports, and `Default.agrees` compares it with a declared one.
-/

namespace TableMapper

namespace Default

/-- The default of a column: the declared one, or else zero and the empty text for columns of
numbers and text that are not null. -/
def effective? (c : ColumnDecl) : Option Json :=
  match c.default? with
  | some .null => none
  | some v => some v
  | none =>
    if !c.notNull || TypeName.isArray c.type then none
    else if TypeName.isNumeric (TypeName.base c.type) then some (.int 0)
    else if TypeName.isString (TypeName.base c.type) then some (.string "")
    else none

/-- Text in single quotes, which are written twice inside. -/
def quoted (s : String) : String :=
  "'" ++ String.ofList (s.toList.flatMap fun c => if c == '\'' then ['\'', '\''] else [c]) ++ "'"

/-- A default as it stands in a definition. -/
def literal : Json → String
  | .int n => toString n
  | .double x => Json.doubleText x
  | .bool true => "TRUE"
  | .bool false => "FALSE"
  | .string s => quoted s
  | other => quoted other.render

/-- A declared default without its quotation marks. -/
def text : Json → String
  | .string s => s
  | other => other.render

/-! ### Defaults in the catalog -/

/-- A character of a type name. -/
def isNameChar (c : Char) : Bool := Text.isLetter c || Text.isDigit c || c == '_' || c == ' '

/-- The list without a parenthesis of digits, commas and blanks at its start. -/
def dropArguments (cs : List Char) : List Char :=
  match cs with
  | '(' :: rest =>
    match rest.dropWhile fun c => Text.isDigit c || c == ',' || c == ' ' with
    | ')' :: rest => rest
    | _ => cs
  | _ => cs

/-- A type as casts are made to: a name, with optional arguments and an optional array suffix. -/
def isCastType (cs : List Char) : Bool :=
  match cs with
  | c :: _ =>
    (Text.isLetter c || c == '_') &&
      (match dropArguments (cs.dropWhile isNameChar) with
        | [] => true
        | ['[', ']'] => true
        | _ => false)
  | [] => false

/-- The expression without the cast at its end. -/
def dropCast : List Char → List Char
  | ':' :: ':' :: rest => if isCastType rest then [] else ':' :: dropCast (':' :: rest)
  | c :: rest => c :: dropCast rest
  | [] => []

/-- What stands between an opening and a closing character at the two ends. -/
def between? (first last : Char) (cs : List Char) : Option (List Char) :=
  match cs with
  | c :: d :: rest =>
    if c = first ∧ (d :: rest).getLast? = some last then some (d :: rest).dropLast else none
  | _ => none

/-- One cast and one pair of parentheses less. -/
def unwrapOnce (cs : List Char) : List Char :=
  let cs := Text.trimChars (dropCast cs)
  match between? '(' ')' cs with
  | some inner => Text.trimChars inner
  | none => cs

/-- Takes casts and parentheses off until there are none, at most `rounds` times. -/
def unwrap : Nat → List Char → List Char
  | 0, cs => cs
  | rounds + 1, cs => if unwrapOnce cs = cs then cs else unwrap rounds (unwrapOnce cs)

/-- Two quotation marks in a row become one. -/
def undouble : List Char → List Char
  | '\'' :: '\'' :: rest => '\'' :: undouble rest
  | c :: rest => c :: undouble rest
  | [] => []

/-- A default of the catalog without casts, parentheses and quotation marks.  Every round shortens
the text. -/
def normalize (raw : String) : String :=
  let cs := Text.trimChars raw.toList
  let cs := unwrap (cs.length + 1) cs
  String.ofList (match between? '\'' '\'' cs with
    | some inner => undouble inner
    | none => cs)

/-- The live default equals a declared one: as text, as numbers, or up to the case of letters. -/
def agrees (live : Option String) (declared : Json) : Bool :=
  match live with
  | none => false
  | some raw =>
    let found := normalize raw
    let want := text declared
    found == want ||
      match Binary64.read? found, Binary64.read? want with
      | some a, some b => a.same b
      | _, _ => Text.sameLetters found want

end Default

end TableMapper
