import Mathlib.Data.List.Basic
import TableMapper.Sql.Fragment
import TableMapper.Text.Letter

/-!
# Lexemes

A fragment is read as SQL from left to right.

* `scan` runs a machine with output along a list.
* `Lexeme` is a word, a quotation, a symbol or a value, and `Lexing` where the reading of a lexeme
  stands.
* `Fragment.lexemes?` are the lexemes of a fragment that does not end in the middle of a quotation
  or a comment.
* `Fragment.lexemes?_and`: fragments around an AND keep their lexemes.
-/

namespace TableMapper

/-! ### Machines with output -/

/-- The state and the output of a machine after a list, unless one of its steps fails. -/
def scan {σ α β : Type} (step : σ → α → Option (σ × List β)) :
    σ → List α → Option (σ × List β)
  | s, [] => some (s, [])
  | s, a :: as =>
    (step s a).bind fun first => (scan step first.1 as).map fun rest =>
      (rest.1, first.2 ++ rest.2)

section

variable {σ α β : Type} {step : σ → α → Option (σ × List β)} {s t u : σ}

theorem scan_cons {a : α} {as : List α} {out rest : List β} (first : step s a = some (t, out))
    (others : scan step t as = some (u, rest)) : scan step s (a :: as) = some (u, out ++ rest) := by
  rw [scan, first, Option.bind_some, others]
  rfl

theorem scan_append {as bs : List α} {out rest : List β} (first : scan step s as = some (t, out))
    (others : scan step t bs = some (u, rest)) :
    scan step s (as ++ bs) = some (u, out ++ rest) := by
  induction as generalizing s out with
  | nil =>
    cases first
    exact others
  | cons a as ih =>
    rw [scan] at first
    obtain ⟨⟨s', here⟩, stepped, first⟩ := Option.bind_eq_some_iff.mp first
    obtain ⟨⟨t', there⟩, scanned, same⟩ := Option.map_eq_some_iff.mp first
    cases same
    rw [List.append_assoc]
    exact scan_cons stepped (ih scanned)

end

/-! ### Signs and lexemes -/

/-- What a fragment consists of: characters, and values that are written as they are. -/
inductive Sign where
  | char (c : Char)
  | value (p : Piece)

/-- The characters of a text. -/
def Sign.ofText (s : String) : List Sign := s.toList.map .char

theorem Sign.ofText_append (s t : String) : ofText (s ++ t) = ofText s ++ ofText t := by
  simp [ofText, String.toList_append]

/-- The characters and values of a piece. -/
def Piece.signs : Piece → List Sign
  | .sql s => Sign.ofText s
  | p => [.value p]

/-- The characters and values of a fragment. -/
def Fragment.signs (f : Fragment) : List Sign := f.flatMap Piece.signs

/-- A unit of SQL. -/
inductive Lexeme where
  /-- A keyword, a name or a number. -/
  | word (text : List Char)
  /-- A text between two delimiters. -/
  | quoted (delimiter text : List Char)
  | symbol (c : Char)
  | value (p : Piece)

/-- The quotation marks. -/
inductive Quote where
  | single
  | double

/-- The character of a quotation mark. -/
def Quote.char : Quote → Char
  | single => '\''
  | double => '"'

/-- Where the reading of a lexeme stands. -/
inductive Lexing where
  /-- Between lexemes. -/
  | ground
  | word (text : List Char)
  /-- Right after a value. -/
  | value
  /-- In a quotation, which may have escapes. -/
  | quoted (quote : Quote) (escapes : Bool) (text : List Char)
  /-- After the backslash of an escape. -/
  | escaped (quote : Quote) (text : List Char)
  /-- After a quote that is the end, unless it is doubled. -/
  | closing (quote : Quote) (escapes : Bool) (text : List Char)
  /-- In the tag of a dollar quotation. -/
  | tag (name : List Char)
  /-- In a dollar quotation. -/
  | dollar (name text : List Char)
  /-- After a dash, which may start a comment. -/
  | dash
  /-- After a slash, which may start a comment. -/
  | slash
  /-- In a comment up to the end of the line. -/
  | line
  /-- In a comment in brackets, in which others may be nested. -/
  | block (depth : Nat) (last : Char)

namespace Lexing

/-- A character of which words are made.  All characters outside of ASCII are. -/
def isWordChar (c : Char) : Bool :=
  Text.isLetter c || Text.isDigit c || c == '_' || 128 ≤ c.toNat

/-- The first character is a digit. -/
def isNumber (text : List Char) : Bool := text.head?.any Text.isDigit

/-- A word goes on with the character. -/
def goesOn (text : List Char) (c : Char) : Bool :=
  isWordChar c || c == '$' || (c == '.' && isNumber text)

/-- The delimiter of a dollar quotation. -/
def delimiter (name : List Char) : List Char := '$' :: (name ++ ['$'])

/-- A character between lexemes. -/
def start (c : Char) : Lexing × List Lexeme :=
  if isWordChar c then (word [c], [])
  else if Text.isBlank c then (ground, [])
  else if c == '\'' then (quoted .single false [], [])
  else if c == '"' then (quoted .double false [], [])
  else if c == '$' then (tag [], [])
  else if c == '-' then (dash, [])
  else if c == '/' then (slash, [])
  else (ground, [.symbol c])

/-- A character that ends a lexeme. -/
def after (l : Lexeme) (c : Char) : Lexing × List Lexeme := ((start c).1, l :: (start c).2)

/-- Reads a character. -/
def stepChar (c : Char) : Lexing → Option (Lexing × List Lexeme)
  | ground => some (start c)
  | word text =>
    if goesOn text c then some (word (text ++ [c]), [])
    -- a quotation has escapes if it stands right after this letter
    else if c == '\'' && (text == ['e'] || text == ['E']) then
      some (quoted .single true [], [.word text])
    else some (after (.word text) c)
  | value => if goesOn [] c then none else some (start c)
  | quoted quote escapes text =>
    if c == quote.char then some (closing quote escapes text, [])
    else if escapes && c == '\\' then some (escaped quote text, [])
    else some (quoted quote escapes (text ++ [c]), [])
  | escaped quote text => some (quoted quote true (text ++ ['\\', c]), [])
  | closing quote escapes text =>
    if c == quote.char then some (quoted quote escapes (text ++ [c]), [])
    else some (after (.quoted [quote.char] text) c)
  | tag name =>
    if c == '$' then some (dollar name [], [])
    -- a parameter, and no tag
    else if name.isEmpty && Text.isDigit c then some (word ['$', c], [])
    else if isWordChar c then some (tag (name ++ [c]), [])
    else none
  | dollar name text =>
    let text := text ++ [c]
    if (delimiter name).isSuffixOf text then
      some (ground, [.quoted (delimiter name) (text.take (text.length - (delimiter name).length))])
    else some (dollar name text, [])
  | dash => if c == '-' then some (line, []) else some (after (.symbol '-') c)
  | slash => if c == '*' then some (block 0 ' ', []) else some (after (.symbol '/') c)
  | line => if c == '\n' || c == '\r' then some (ground, []) else some (line, [])
  | block depth last =>
    if last == '*' && c == '/' then
      match depth with
      | 0 => some (ground, [])
      | depth + 1 => some (block depth ' ', [])
    else if last == '/' && c == '*' then some (block (depth + 1) ' ', [])
    else some (block depth c, [])

/-- Reads a value, which must not stand in a quotation or a comment, nor touch a word, another value
or a dash. -/
def stepValue (p : Piece) : Lexing → Option (Lexing × List Lexeme)
  | ground => some (value, [.value p])
  | closing quote _ text => some (value, [.quoted [quote.char] text, .value p])
  | slash => some (value, [.symbol '/', .value p])
  | _ => none

/-- Reads a sign. -/
def step (m : Lexing) : Sign → Option (Lexing × List Lexeme)
  | .char c => m.stepChar c
  | .value p => m.stepValue p

/-- The lexeme that is complete at the end, if any; the end may not stand in a quotation or a
comment. -/
def finish : Lexing → Option (List Lexeme)
  | ground | value => some []
  | word text => some [.word text]
  | closing quote _ text => some [.quoted [quote.char] text]
  | dash => some [.symbol '-']
  | slash => some [.symbol '/']
  | _ => none

/-- A blank ends the lexeme before it. -/
theorem step_blank {m : Lexing} {last : List Lexeme} (h : m.finish = some last) :
    m.step (.char ' ') = some (ground, last) := by
  have started : start ' ' = (ground, []) := rfl
  cases m with
  | word text =>
    cases h
    have ends : goesOn text ' ' = false := by
      simp [goesOn, isWordChar, Text.isLetter, Text.isDigit]
    simp [step, stepChar, ends, after, started]
  | closing quote escapes text => cases h; cases quote <;> rfl
  | ground => cases h; rfl
  | value => cases h; rfl
  | dash => cases h; rfl
  | slash => cases h; rfl
  | _ => cases h

/-- The lexemes of signs. -/
def lexemes? (ss : List Sign) : Option (List Lexeme) := do
  let (m, ls) ← scan step ground ss
  return ls ++ (← m.finish)

theorem lexemes?_eq_some_iff {ss : List Sign} {ls : List Lexeme} :
    lexemes? ss = some ls ↔
      ∃ m before last, scan step ground ss = some (m, before) ∧ m.finish = some last ∧
        ls = before ++ last := by
  unfold lexemes?
  constructor
  · intro read
    obtain ⟨⟨m, before⟩, scanned, read⟩ := Option.bind_eq_some_iff.mp read
    obtain ⟨last, finished, same⟩ := Option.bind_eq_some_iff.mp read
    cases same
    exact ⟨m, before, last, scanned, finished, rfl⟩
  · rintro ⟨m, before, last, scanned, finished, rfl⟩
    simp [scanned, finished]

/-- What is on both sides of a blank keeps its lexemes. -/
theorem lexemes?_blank {ss ts : List Sign} {ls ks : List Lexeme} (hs : lexemes? ss = some ls)
    (ht : lexemes? ts = some ks) : lexemes? (ss ++ .char ' ' :: ts) = some (ls ++ ks) := by
  obtain ⟨m, before, last, scanned, finished, rfl⟩ := lexemes?_eq_some_iff.mp hs
  obtain ⟨n, others, rest, scanned', finished', rfl⟩ := lexemes?_eq_some_iff.mp ht
  have all := scan_append scanned (scan_cons (step_blank finished) scanned')
  refine lexemes?_eq_some_iff.mpr ⟨n, before ++ (last ++ others), rest, all, finished', ?_⟩
  simp only [List.append_assoc]

end Lexing

namespace Fragment

/-- The lexemes of a fragment. -/
def lexemes? (f : Fragment) : Option (List Lexeme) := Lexing.lexemes? f.signs

theorem signs_append (f g : Fragment) : signs (f ++ g) = signs f ++ signs g :=
  List.flatMap_append

theorem signs_sql_cons (s : String) (f : Fragment) :
    signs (.sql s :: f) = Sign.ofText s ++ signs f :=
  List.flatMap_cons

/-- Fragments around an AND keep their lexemes. -/
theorem lexemes?_and {f g : Fragment} {ls ks : List Lexeme} (hf : f.lexemes? = some ls)
    (hg : g.lexemes? = some ks) :
    (f ++ .sql " AND " :: g).lexemes? = some (ls ++ .word ['A', 'N', 'D'] :: ks) := by
  have word : Lexing.lexemes? (Sign.ofText "AND") = some [.word ['A', 'N', 'D']] := rfl
  have joined := Lexing.lexemes?_blank hf (Lexing.lexemes?_blank word hg)
  rw [lexemes?, signs_append, signs_sql_cons]
  exact joined

end Fragment

end TableMapper
