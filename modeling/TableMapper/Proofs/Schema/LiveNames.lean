import TableMapper.Proofs.Schema.Ignored
import TableMapper.Proofs.Text.Search

/-!
# Names that come from the catalog

A plan removes live columns that are not declared and live constraints that are stale.  Their names
are whatever somebody once called them, with blanks, commas, quotation marks and capitals, and they
are written by the rule for declared names, which leaves alone what is not plain.

* `Sql.readIdent?` reads an identifier as the server does: letters outside quotation marks are in
  lower case, and what stands in quotation marks is taken as it is.  `Sql.operand?` reads the one
  identifier that follows the first words of a statement.
* `Sql.Marked` holds of the names that are put in quotation marks, `Sql.Unmarked` of those that need
  none.
* `Plan.live_names_read_iff` says that a statement removes what it is meant to remove exactly if the
  name is one of these.
-/

namespace TableMapper

namespace Sql

/-! ### Reading identifiers -/

/-- A character that an identifier outside quotation marks may start with.  Beyond ASCII it can be
any. -/
def startsIdent (c : Char) : Bool := Text.isLetter c || c == '_' || decide (0x80 ≤ c.toNat)

/-- A character of such an identifier. -/
def continuesIdent (c : Char) : Bool := startsIdent c || Text.isDigit c || c == '$'

/-- The shape of an identifier outside quotation marks. -/
def isWord : List Char → Bool
  | [] => false
  | c :: cs => startsIdent c && cs.all continuesIdent

/-- What precedes the closing quotation mark, which has to be the last character.  Two quotation
marks stand for one. -/
def readMarked? : List Char → Option (List Char)
  | [] => none
  | c :: cs =>
    if c = '"' then
      match cs with
      | [] => some []
      | d :: rest => if d = '"' then (readMarked? rest).map ('"' :: ·) else none
    else (readMarked? cs).map (c :: ·)

/-- The name that a text denotes which is one identifier and nothing else.  A key word of the server
is no identifier, unless it is in quotation marks, and nor are two quotation marks with nothing in
between. -/
def readIdent? (keyword : String → Bool) (text : String) : Option String :=
  match text.toList with
  | '"' :: cs => ((readMarked? cs).filter (!·.isEmpty)).map String.ofList
  | cs =>
    let name := Text.lowerAscii text
    if isWord cs && !keyword name then some name else none

/-- The name that a statement is about, which starts with these words and goes on with one
identifier. -/
def operand? (keyword : String → Bool) (words text : String) : Option String :=
  (Text.after? words text).bind (readIdent? keyword)

/-- The names that are put in quotation marks. -/
def Marked (name : String) : Prop :=
  isPlain name = true ∧ (Text.lowerAscii name ≠ name ∨
    Text.lowerAscii name ∈ quotedWords ∨ Text.lowerAscii name ∈ forbiddenWords)

/-- The names that need no quotation marks. -/
structure Unmarked (keyword : String → Bool) (name : String) : Prop where
  word : isWord name.toList = true
  lower : Text.lowerAscii name = name
  free : keyword name = false

section Reading

variable {keyword : String → Bool} {name : String} {cs out : List Char}

theorem readMarked?_cons_of_ne {c : Char} (other : c ≠ '"') :
    readMarked? (c :: cs) = (readMarked? cs).map (c :: ·) := by
  rw [readMarked?.eq_def]
  exact if_neg other

/-- Without quotation marks inside, the text is read to the closing one. -/
theorem readMarked?_append (none : '"' ∉ cs) : readMarked? (cs ++ ['"']) = some cs := by
  induction cs with
  | nil => rfl
  | cons c cs ih =>
    have other : c ≠ '"' := by
      rintro rfl
      exact none List.mem_cons_self
    rw [List.cons_append, readMarked?_cons_of_ne other,
      ih fun inside => none (List.mem_cons_of_mem c inside)]
    rfl

theorem length_lt_of_readMarked? (read : readMarked? cs = some out) : out.length < cs.length := by
  fun_induction readMarked? cs generalizing out with
  | case1 => cases read
  | case2 =>
    obtain rfl := Option.some.inj read
    exact Nat.zero_lt_one
  | case3 rest ih =>
    obtain ⟨inner, found, rfl⟩ := Option.map_eq_some_iff.mp read
    have := ih found
    simp only [List.length_cons]
    omega
  | case4 => cases read
  | case5 c cs other ih =>
    obtain ⟨inner, found, rfl⟩ := Option.map_eq_some_iff.mp read
    have := ih found
    simp only [List.length_cons]
    omega

/-- The characters of a plain name are no quotation marks. -/
theorem quote_not_mem_of_isPlain (plain : isPlain name = true) : '"' ∉ name.toList := by
  intro listed
  unfold isPlain at plain
  split at plain
  next => cases plain
  next c cs chars =>
    rw [chars] at listed
    obtain ⟨first, rest⟩ := Bool.and_eq_true_iff.mp plain
    obtain rfl | inside := List.mem_cons.mp listed
    · exact absurd first (by decide)
    · exact absurd (List.all_eq_true.mp rest _ inside) (by decide)

theorem toList_ne_nil_of_isPlain (plain : isPlain name = true) : name.toList ≠ [] := by
  intro none
  rw [isPlain, none] at plain
  cases plain

theorem ident_of_marked (marked : Marked name) : ident name = "\"" ++ name ++ "\"" := by
  obtain ⟨plain, capital | quoted | forbidden⟩ := marked
  · simp [ident, plain, capital]
  · simp [ident, plain, quoted]
  · simp [ident, plain, forbidden]

theorem ident_of_not_marked (free : ¬ Marked name) : ident name = name := by
  unfold ident
  cases plain : isPlain name with
  | false => rfl
  | true =>
    have none : ¬ (Text.lowerAscii name ≠ name ∨ Text.lowerAscii name ∈ quotedWords ∨
        Text.lowerAscii name ∈ forbiddenWords) := fun why => free ⟨plain, why⟩
    simp only [not_or, ne_eq, not_not] at none
    obtain ⟨lower, quoted, forbidden⟩ := none
    rw [lower] at quoted forbidden
    simp [lower, quoted, forbidden]

/-- A name in quotation marks is read as it is. -/
theorem readIdent?_of_marked (marked : Marked name) :
    readIdent? keyword (ident name) = some name := by
  have chars : ("\"" ++ name ++ "\"").toList = '"' :: (name.toList ++ ['"']) := by
    simp [String.toList_append]
  have read := readMarked?_append (quote_not_mem_of_isPlain marked.1)
  have some : name ≠ "" := by
    rintro rfl
    exact toList_ne_nil_of_isPlain marked.1 rfl
  rw [ident_of_marked marked, readIdent?, chars]
  simp [read, some]

/-- A text is read as itself only if it needs no quotation marks: with them, fewer characters are
read than stand there. -/
theorem readIdent?_eq_self_iff : readIdent? keyword name = some name ↔ Unmarked keyword name := by
  unfold readIdent?
  split
  next cs chars =>
    refine iff_of_false (fun read => ?_) fun unmarked => ?_
    · obtain ⟨out, found, same⟩ := Option.map_eq_some_iff.mp read
      have short := length_lt_of_readMarked? (Option.filter_eq_some_iff.mp found).1
      have length : out.length = cs.length + 1 := by
        rw [← String.toList_ofList (l := out), same, chars, List.length_cons]
      omega
    · have word := unmarked.word
      rw [chars] at word
      have parts : (startsIdent '"' && cs.all continuesIdent) = true := word
      exact absurd (Bool.and_eq_true_iff.mp parts).1 (by decide)
  next cs plain =>
    constructor
    · intro read
      dsimp only at read
      split at read
      next word =>
        have lower := Option.some.inj read
        rw [lower] at word
        obtain ⟨word, free⟩ := Bool.and_eq_true_iff.mp word
        exact ⟨word, lower, by simpa using free⟩
      next => cases read
    · rintro ⟨word, lower, free⟩
      simp [word, lower, free]

/-- **Names that are read back.**  A name is read from how it is written exactly if it is put in
quotation marks, or needs none. -/
theorem readIdent?_ident_iff :
    readIdent? keyword (ident name) = some name ↔ Marked name ∨ Unmarked keyword name := by
  by_cases marked : Marked name
  · exact iff_of_true (readIdent?_of_marked marked) (.inl marked)
  · rw [ident_of_not_marked marked, readIdent?_eq_self_iff, or_iff_right marked]

end Reading

end Sql

/-! ### Removing live objects -/

namespace Plan

section Live

variable {keyword : String → Bool} {schema name : String} {t : TableDecl}

/-- The first words of a statement that takes something away from a table. -/
def removalWords (schema : String) (t : TableDecl) (verb : String) : String :=
  "ALTER TABLE " ++ Sql.qualified schema t.name ++ " " ++ verb

theorem operand?_words (words name : String) :
    Sql.operand? keyword words (words ++ Sql.ident name) = some name ↔
      Sql.Marked name ∨ Sql.Unmarked keyword name := by
  have rest : Text.after? words (words ++ Sql.ident name) = some (Sql.ident name) :=
    Text.after?_eq_some_iff.mpr rfl
  rw [Sql.operand?, rest, Option.bind_some, Sql.readIdent?_ident_iff]

/-- The removal of a foreign key that is stale. -/
def keyRemoval (name : String) : Step := { change := .dropConstraint name false, object := name }

theorem sql_removal : (removal t name).change.sql schema t.name =
    removalWords schema t "DROP COLUMN " ++ Sql.ident name := by
  exact congrArg (· ++ Sql.ident name) String.append_empty

theorem sql_keyRemoval : (keyRemoval name).change.sql schema t.name =
    removalWords schema t "DROP CONSTRAINT " ++ Sql.ident name := by
  exact congrArg (· ++ Sql.ident name) String.append_empty

end Live

/-- **Live names are read back.**  Whatever key words the server has, the statement that removes a
live column which is not declared, or a foreign key that is stale, goes on after its first words
with one identifier which is the name of that column or key, exactly if the name is put in quotation
marks, or needs none. -/
theorem live_names_read_iff (keyword : String → Bool) (schema : String) (t : TableDecl)
    (live : Catalog) :
    (∀ force, ∀ name ∈ undeclared t live, removal t name ∈ (columns t live force true).steps ∧
      (Sql.operand? keyword (removalWords schema t "DROP COLUMN ")
          ((removal t name).change.sql schema t.name) = some name ↔
        Sql.Marked name ∨ Sql.Unmarked keyword name)) ∧
    ∀ changed, ∀ name ∈ staleKeys t live, keyRemoval name ∈ (foreignKeys t live changed).steps ∧
      (Sql.operand? keyword (removalWords schema t "DROP CONSTRAINT ")
          ((keyRemoval name).change.sql schema t.name) = some name ↔
        Sql.Marked name ∨ Sql.Unmarked keyword name) := by
  refine ⟨fun force name listed => ⟨?_, ?_⟩, fun changed name listed => ⟨?_, ?_⟩⟩
  · exact mem_steps_columns.mpr (.inr ⟨rfl, name, listed, rfl⟩)
  · rw [sql_removal, operand?_words]
  · exact mem_steps_foreignKeys.mpr (.inl ⟨name, listed, rfl⟩)
  · rw [sql_keyRemoval, operand?_words]

/-! ### Patrons -/

/-- A table of patrons. -/
def patrons : TableDecl :=
  { name := "patrons"
    columns := [("id", { type := "int" })]
    primaryKey := some (.single "id") }

/-- The table as it is, with columns that are not declared. -/
def livePatrons : Catalog :=
  { present := true
    columns := [{ name := "id", dataType := "integer" }, { name := "fullName", dataType := "text" },
      { name := "id cascade", dataType := "text" }] }

/-- The column of the full name is removed by its name.  The statement for the other one does not
name it, and would remove the key of patrons. -/
theorem live_names_read_patrons :
    "fullName" ∈ undeclared patrons livePatrons ∧ "id cascade" ∈ undeclared patrons livePatrons ∧
      Sql.operand? (fun _ => false) (removalWords "public" patrons "DROP COLUMN ")
        ((removal patrons "fullName").change.sql "public" "patrons") = some "fullName" ∧
      Sql.operand? (fun _ => false) (removalWords "public" patrons "DROP COLUMN ")
        ((removal patrons "id cascade").change.sql "public" "patrons") ≠ some "id cascade" ∧
      (removal patrons "id cascade").change.sql "public" "patrons" =
        "ALTER TABLE public.patrons DROP COLUMN id cascade" := by
  have full : "fullName" ∈ undeclared patrons livePatrons :=
    mem_undeclared_iff.mpr ⟨by decide, by decide, by decide⟩
  have cascade : "id cascade" ∈ undeclared patrons livePatrons :=
    mem_undeclared_iff.mpr ⟨by decide, by decide, by decide⟩
  have read := (live_names_read_iff (fun _ => false) "public" patrons livePatrons).1 false
  refine ⟨full, cascade, (read _ full).2.mpr (.inl ?_), fun back => ?_, by decide +kernel⟩
  · exact ⟨by decide +kernel, .inl (by decide +kernel)⟩
  · obtain ⟨plain, -⟩ | unmarked := (read _ cascade).2.mp back
    · exact absurd plain (by decide +kernel)
    · exact absurd unmarked.word (by decide +kernel)

end Plan

end TableMapper
