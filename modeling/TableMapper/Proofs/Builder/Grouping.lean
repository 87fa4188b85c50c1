import TableMapper.Proofs.Builder.Conjunction
import TableMapper.Proofs.Sql.Reading

/-!
# Conditions as SQL reads them

The entries of a condition are written with AND between them, without parentheses.

* `Test.reading?_fragment`: the test of a named column is one operand.
* `Filter.reading?_entry`: so an entry of tests has no OR.
* `Filter.entries_grouped` says when the filter of a condition has the value of the conjunction of
  its entries.
-/

namespace TableMapper

/-! ### Names -/

namespace Lexing

theorem scan_word {cs : List Char} (h : ∀ c ∈ cs, isWordChar c = true) (text : List Char) :
    scan step (word text) (cs.map .char) = some (word (text ++ cs), []) := by
  induction cs generalizing text with
  | nil => simp [scan]
  | cons c cs ih =>
    have on : goesOn text c = true := by simp [goesOn, h c List.mem_cons_self]
    have first : step (word text) (.char c) = some (word (text ++ [c]), []) := by
      simp [step, stepChar, on]
    have rest := ih (fun d hd => h d (List.mem_cons_of_mem c hd)) (text ++ [c])
    rw [List.append_assoc] at rest
    exact scan_cons first rest

theorem scan_quoted {cs : List Char} (h : ∀ c ∈ cs, c ≠ '"') (text : List Char) :
    scan step (quoted .double false text) (cs.map .char) =
      some (quoted .double false (text ++ cs), []) := by
  induction cs generalizing text with
  | nil => simp [scan]
  | cons c cs ih =>
    have other : (c == '"') = false := beq_false_of_ne (h c List.mem_cons_self)
    have first : step (quoted .double false text) (.char c) =
        some (quoted .double false (text ++ [c]), []) := by
      simp [step, stepChar, Quote.char, other]
    have rest := ih (fun d hd => h d (List.mem_cons_of_mem c hd)) (text ++ [c])
    rw [List.append_assoc] at rest
    exact scan_cons first rest

end Lexing

namespace Sql

theorem isWordChar_of_isPlain {name : String} (h : isPlain name = true) :
    ∃ c cs, name.toList = c :: cs ∧ Lexing.start c = (.word [c], []) ∧
      ∀ d ∈ c :: cs, Lexing.isWordChar d = true := by
  unfold isPlain at h
  cases letters : name.toList with
  | nil => simp [letters] at h
  | cons c cs =>
    simp only [letters, Bool.and_eq_true, List.all_eq_true] at h
    have first : Lexing.isWordChar c = true := by
      have letter := h.1
      simp only [Bool.or_eq_true] at letter
      simp only [Lexing.isWordChar, Bool.or_eq_true]
      tauto
    refine ⟨c, cs, rfl, by simp [Lexing.start, first], fun d hd => ?_⟩
    rcases List.mem_cons.mp hd with rfl | hd
    · exact first
    · have other := h.2 d hd
      simp only [Bool.or_eq_true] at other
      simp only [Lexing.isWordChar, Bool.or_eq_true]
      tauto

/-- A word that needs no quotation marks as a name is no connective. -/
theorem ofWord_of_unquoted {name : String} (free : quotedWords.contains name = false)
    (allowed : forbiddenWords.contains name = false) : Role.ofWord name.toList = .plain := by
  have other (word : String)
      (reserved : quotedWords.contains word = true ∨ forbiddenWords.contains word = true) :
      name.toList ≠ word.toList := by
    intro same
    obtain rfl := String.toList_injective same
    simp_all
  unfold Role.ofWord
  rw [if_neg (other "case" (by decide)), if_neg (other "end" (by decide)),
    if_neg (other "between" (by decide)), if_neg (other "and" (by decide)),
    if_neg (other "or" (by decide))]

/-- A name is one lexeme, which is no connective. -/
theorem lexemes?_ident {name : String} (h : isPlain name = true) :
    ∃ l, Lexing.lexemes? (Sign.ofText (ident name)) = some [l] ∧ l.role false = .plain := by
  obtain ⟨c, cs, letters, start, words⟩ := isWordChar_of_isPlain h
  have signs : name.toList.map Sign.char = .char c :: cs.map .char := by rw [letters, List.map_cons]
  unfold ident
  rw [h]
  simp only [Bool.not_true, Bool.false_eq_true, if_false]
  split_ifs with reserved
  · -- no letter of the name is a quotation mark
    have inner : ∀ d ∈ name.toList, d ≠ '"' := by
      rw [letters]
      rintro d hd rfl
      exact absurd (words _ hd) (by decide)
    have text : Sign.ofText ("\"" ++ name ++ "\"") =
        .char '"' :: (name.toList.map .char ++ [.char '"']) := by
      simp [Sign.ofText, String.toList_append]
    refine ⟨.quoted ['"'] name.toList, ?_, rfl⟩
    rw [text]
    have opened : Lexing.step .ground (.char '"') = some (.quoted .double false [], []) := rfl
    have closed : scan Lexing.step (.quoted .double false name.toList) [.char '"'] =
        some (.closing .double false name.toList, []) := by
      simp [scan, Lexing.step, Lexing.stepChar, Quote.char]
    have all := scan_cons opened (scan_append (Lexing.scan_quoted inner []) closed)
    exact Lexing.lexemes?_eq_some_iff.mpr ⟨_, _, _, all, rfl, rfl⟩
  · simp only [Bool.or_eq_true, not_or, Bool.not_eq_true] at reserved
    obtain ⟨⟨small, free⟩, allowed⟩ := reserved
    have same : Text.lowerAscii name = name := by simpa using small
    rw [same] at free allowed
    refine ⟨.word name.toList, ?_, ?_⟩
    · have first : Lexing.step .ground (.char c) = some (.word [c], []) := by
        rw [Lexing.step, Lexing.stepChar, start]
      have rest := Lexing.scan_word (fun d hd => words d (List.mem_cons_of_mem c hd)) [c]
      rw [Sign.ofText, signs, letters]
      exact Lexing.lexemes?_eq_some_iff.mpr ⟨_, _, _, scan_cons first rest, rfl, rfl⟩
    · have lowered : name.toList.map Char.toLower = name.toList := by
        have lists := congrArg String.toList same
        rwa [Text.lowerAscii, String.toList_ofList] at lists
      rw [Lexeme.role, lowered]
      exact ofWord_of_unquoted free allowed

end Sql

/-! ### Operands -/

namespace Filter

variable {decl : Option TableDecl}

theorem signs_operand (column : String) (castable : Bool) (v : Value) :
    (operand decl column castable v).signs = [.value (operand decl column castable v)] := by
  unfold operand
  cases decl.bind (·.column? (bareName column)) <;> rfl

end Filter

/-- An accepted operator is no connective. -/
theorem Operator.lexemes?_plain {op : String} (h : op ∈ all) :
    ∃ ls, Lexing.lexemes? (Sign.ofText op) = some ls ∧ ∀ l ∈ ls, l.role false = .plain := by
  have each : ∀ op ∈ all, ((Lexing.lexemes? (Sign.ofText op)).any fun ls =>
      ls.all fun l => decide (l.role false = .plain)) = true := by
    decide +kernel
  have own := each op h
  cases lexed : Lexing.lexemes? (Sign.ofText op) with
  | none => simp [lexed] at own
  | some ls => exact ⟨ls, rfl, by simpa [lexed] using own⟩

namespace Test

/-- The test is about a column with a plain name, and its operator is one that is accepted. -/
def IsNamed : Test → Prop
  | isNull column | equals column _ | among column _ => Sql.isPlain column = true
  | never => True
  | relates column operator _ => Sql.isPlain column = true ∧ operator ∈ Operator.all

variable {decl : Option TableDecl}

variable (decl) in
/-- Values with commas between them. -/
theorem scan_values (column : String) (values : List Value) :
    ∃ m ls, scan Lexing.step .ground (Fragment.signs
        (Fragment.join "," (values.map fun v => Filter.columnValue decl column v true))) =
          some (m, ls) ∧
      (m = .ground ∨ m = .value) ∧
      ∀ l ∈ ls, l.role false = .plain ∨ l.role false = .comma := by
  induction values with
  | nil => exact ⟨.ground, [], rfl, .inl rfl, by simp⟩
  | cons v values ih =>
    have own : scan Lexing.step .ground (Fragment.signs (Filter.columnValue decl column v true)) =
        some (.value, [.value (Filter.operand decl column true v)]) := by
      rw [Filter.columnValue_eq, Fragment.signs, List.flatMap_singleton, Filter.signs_operand]
      rfl
    cases values with
    | nil => exact ⟨.value, _, own, .inr rfl, by simp [Lexeme.role]⟩
    | cons w values =>
      obtain ⟨m, ls, scanned, closed, plain⟩ := ih
      have comma : Lexing.step .value (.char ',') = some (.ground, [.symbol ',']) := rfl
      have all := scan_append own (scan_cons comma scanned)
      rw [List.map_cons, List.map_cons, Fragment.join, Fragment.signs_append,
        Fragment.signs_sql_cons]
      refine ⟨m, _, all, closed, fun l hl => ?_⟩
      simp only [List.mem_append, List.mem_singleton] at hl
      rcases hl with rfl | rfl | hl
      · exact .inl rfl
      · exact .inr rfl
      · exact plain l hl

variable (decl) in
theorem lexemes?_columnValue (column : String) (castable : Bool) (v : Value) :
    Lexing.lexemes? (Fragment.signs (Filter.columnValue decl column v castable)) =
      some [.value (Filter.operand decl column castable v)] := by
  rw [Filter.columnValue_eq, Fragment.signs, List.flatMap_singleton, Filter.signs_operand]
  rfl

/-- A text that starts with the name of a column. -/
theorem lexemes?_named {column text tail : String} (h : Sql.isPlain column = true)
    (split : text = Sql.ident column ++ (" " ++ tail)) {f : Fragment} {ls : List Lexeme}
    (lexed : Lexing.lexemes? (Sign.ofText tail ++ f.signs) = some ls) :
    ∃ l, Fragment.lexemes? (.sql text :: f) = some (l :: ls) ∧ l.role false = .plain := by
  obtain ⟨l, name, plain⟩ := Sql.lexemes?_ident h
  have all := Lexing.lexemes?_blank name lexed
  refine ⟨l, ?_, plain⟩
  rw [Fragment.lexemes?, Fragment.signs_sql_cons, split, Sign.ofText_append, Sign.ofText_append,
    List.append_assoc, List.append_assoc]
  exact all

/-- A name and lexemes that are no connectives are one operand. -/
theorem reading?_named {column text tail : String} (h : Sql.isPlain column = true)
    (split : text = Sql.ident column ++ (" " ++ tail)) {f : Fragment} {ls : List Lexeme}
    (lexed : Lexing.lexemes? (Sign.ofText tail ++ f.signs) = some ls)
    (plain : ∀ k ∈ ls, k.role false = .plain) :
    ∃ o, Fragment.reading? (.sql text :: f) = some [[o]] := by
  obtain ⟨l, lexed, first⟩ := lexemes?_named h split lexed
  have all : ∀ k ∈ l :: ls, k.role false = .plain := List.forall_mem_cons.mpr ⟨first, plain⟩
  exact ⟨_, Fragment.reading?_of_parts lexed (List.cons_ne_nil _ _) (Scope.scan_plain rfl all)⟩

variable (decl) in
theorem reading?_relates {column operator : String} (h : Sql.isPlain column = true)
    (accepted : operator ∈ Operator.all) (v : Value) :
    ∃ o, ((relates column operator v).fragment decl).reading? = some [[o]] := by
  let value := Filter.columnValue decl column v (Operator.castsValue operator)
  obtain ⟨ls, sign, plain⟩ := Operator.lexemes?_plain accepted
  have rest := Lexing.lexemes?_blank sign
    (lexemes?_columnValue decl column (Operator.castsValue operator) v)
  have text : Sign.ofText (operator ++ " ") ++ Fragment.signs value =
      Sign.ofText operator ++ .char ' ' :: Fragment.signs value := by
    rw [Sign.ofText_append, List.append_assoc]
    rfl
  have split : Sql.ident column ++ " " ++ operator ++ " " =
      Sql.ident column ++ (" " ++ (operator ++ " ")) := by
    simp only [String.append_assoc]
  rw [← text] at rest
  refine reading?_named h split rest fun k hk => ?_
  rcases List.mem_append.mp hk with of_operator | of_value
  · exact plain k of_operator
  · rw [List.mem_singleton.mp of_value]
    rfl

variable (decl) in
theorem reading?_among {column : String} (h : Sql.isPlain column = true) (values : List Value) :
    ∃ o, ((among column values).fragment decl).reading? = some [[o]] := by
  let list := Fragment.join "," (values.map fun v => Filter.columnValue decl column v true)
  obtain ⟨m, ls, scanned, closed, plain⟩ := scan_values decl column values
  have opening : Lexing.step .ground (.char '(') = some (.ground, [.symbol '(']) := rfl
  have closing : scan Lexing.step m [.char ')'] = some (.ground, [.symbol ')']) := by
    rcases closed with rfl | rfl <;> rfl
  have inBrackets : Lexing.lexemes? (.char '(' :: (Fragment.signs list ++ [.char ')'])) =
      some (.symbol '(' :: (ls ++ [.symbol ')'])) := by
    have all := scan_cons opening (scan_append scanned closing)
    exact Lexing.lexemes?_eq_some_iff.mpr ⟨_, _, _, all, rfl, by simp⟩
  have keyword : Lexing.lexemes? (Sign.ofText "IN") = some [.word "IN".toList] := rfl
  have rest := Lexing.lexemes?_blank keyword inBrackets
  have text : Sign.ofText "IN (" ++ Fragment.signs (list ++ [.sql ")"]) =
      Sign.ofText "IN" ++ .char ' ' :: .char '(' :: (Fragment.signs list ++ [.char ')']) := by
    rw [Fragment.signs_append]
    rfl
  have split : Sql.ident column ++ " IN (" = Sql.ident column ++ (" " ++ "IN (") := rfl
  rw [← text] at rest
  obtain ⟨l, lexed, first⟩ := lexemes?_named h split rest
  -- the commas stand within the brackets
  have before : scan Scope.step {} [l, .word "IN".toList] =
      some ({}, [l, .word "IN".toList].map .part) := by
    refine Scope.scan_plain rfl fun k hk => ?_
    rcases List.mem_cons.mp hk with rfl | hk
    · exact first
    · rw [List.mem_singleton.mp hk]
      decide
  have opened : Scope.step {} (.symbol '(') =
      some ({ opened := [.round] }, [.part (.symbol '(')]) := rfl
  have inside := Scope.scan_inside (s := { opened := [.round] }) rfl (List.cons_ne_nil _ _) plain
  have closed : scan Scope.step { opened := [.round] } [.symbol ')'] =
      some ({}, [.part (.symbol ')')]) := rfl
  have marks := scan_append before (scan_cons opened (scan_append inside closed))
  refine ⟨_, Fragment.reading?_of_parts lexed (List.cons_ne_nil _ _) ?_⟩
  simpa using marks

variable (decl) in
/-- The test of a named column is one operand. -/
theorem reading?_fragment {t : Test} (h : t.IsNamed) :
    ∃ o, (t.fragment decl).reading? = some [[o]] := by
  cases t with
  | never =>
    have lexed : Fragment.lexemes? (.ofText "FALSE") = some [.word "FALSE".toList] := rfl
    exact ⟨_, Fragment.reading?_of_parts lexed (List.cons_ne_nil _ _)
      (Scope.scan_plain rfl (by decide))⟩
  | isNull column =>
    have rest : Lexing.lexemes? (Sign.ofText "IS NULL" ++ Fragment.signs []) =
        some [.word "IS".toList, .word "NULL".toList] := rfl
    have split : Sql.ident column ++ " IS NULL" = Sql.ident column ++ (" " ++ "IS NULL") := rfl
    exact reading?_named h split rest (by decide)
  | equals column v =>
    have sign : Lexing.lexemes? (Sign.ofText "=") = some [.symbol '='] := rfl
    have rest := Lexing.lexemes?_blank sign (lexemes?_columnValue decl column true v)
    rw [List.append_cons] at rest
    have split : Sql.ident column ++ " = " = Sql.ident column ++ (" " ++ "= ") := rfl
    exact reading?_named h split rest (by simp [Lexeme.role, Role.ofSymbol])
  | relates column operator v => exact reading?_relates decl h.1 h.2 v
  | among column values => exact reading?_among decl h values

end Test

/-! ### Entries -/

theorem Operator.mem_of_canonical? {operator name : String} (h : canonical? operator = some name) :
    name ∈ all := by
  obtain ⟨capitals, -, chosen⟩ := Option.bind_eq_some_iff.mp h
  dsimp only at chosen
  split_ifs at chosen with accepted
  cases chosen
  exact List.contains_iff_mem.mp accepted

namespace Filter

variable {decl : Option TableDecl}

theorem isNamed_of_ofComparison? {column : String} (plain : Sql.isPlain column = true)
    {c : Comparison} {tests : List Test} (h : Test.ofComparison? (column, c) = some tests) :
    ∀ t ∈ tests, t.IsNamed := by
  cases c with
  | eq v => cases v <;> cases h <;> simpa [Test.IsNamed] using plain
  | among values => cases values <;> cases h <;> simp [Test.IsNamed, plain]
  | raw args => cases h
  | ops relations =>
    intro t ht
    obtain ⟨r, -, accepted⟩ := exists_of_forall₂ (mapM_eq_some_iff.mp h) t ht
    obtain ⟨name, canonical, rfl⟩ := Option.map_eq_some_iff.mp accepted
    exact ⟨plain, Operator.mem_of_canonical? canonical⟩

/-- An entry that compares a named column has no OR. -/
theorem reading?_entry {column : String} (plain : Sql.isPlain column = true) {c : Comparison}
    (test : c.IsTest) {g : Fragment} (h : entry? decl column c = .ok (some g)) :
    ∃ operands, g.reading? = some [operands] := by
  cases accepted : Test.ofComparison? (column, c) with
  | none =>
    obtain ⟨relations, -, r, -, -, failed⟩ := entry?_of_refused decl accepted test
    rw [failed] at h
    cases h
  | some tests =>
    obtain ⟨written, some⟩ := entry?_of_tests decl accepted test
    rw [written] at h
    cases h
    have named := isNamed_of_ofComparison? plain accepted
    obtain ⟨rs, reads⟩ : ∃ rs, List.Forall₂
        (fun t r => (Test.fragment decl t).reading? = Option.some r ∧ r.length = 1) tests rs := by
      refine exists_forall₂ fun t ht => ?_
      obtain ⟨o, reads⟩ := Test.reading?_fragment decl (named t ht)
      exact ⟨[[o]], reads, rfl⟩
    have each : List.Forall₂ (fun f r => Fragment.reading? f = Option.some r)
        (tests.map (Test.fragment decl)) rs :=
      List.forall₂_map_left_iff.mpr (reads.imp fun _ _ both => both.1)
    have single : ∀ r ∈ rs, r.length = 1 := by
      intro r hr
      obtain ⟨t, -, own⟩ := exists_of_forall₂ reads r hr
      exact own.2
    have given : rs ≠ [] := by
      rintro rfl
      cases reads
      exact some rfl
    refine ⟨rs.flatten.flatten, ?_⟩
    rw [Test.conjunction, Fragment.reading?_join (by simpa using some) each,
      Reading.chain_single given single]

open Reading (chain)

/-- **The filter of a condition is the conjunction of its entries as long as none of them has an
OR.**  Let each entry be an expression of its own; those that compare named columns with values are,
and have no OR.  The filter is read with AND between the expressions.  Where all of them are true the
filter is true as well.  If there is only one, or none has an OR outside of brackets, the filter is
true on exactly the rows on which all of them are.  Otherwise there are values of the operands for
which it is not, provided that no operand is repeated. -/
theorem entries_grouped {es : List (String × Comparison)} {f : Fragment}
    (compiled : fragment? decl (.entries es) = .ok (some f))
    (formed : ∀ e ∈ es, ¬ (e.2.IsTest ∧ Sql.isPlain e.1 = true) →
      ∀ g, entry? decl e.1 e.2 = .ok (some g) → g.reading?.isSome = true) :
    ∃ (parts : List (Option Fragment)) (rs : List Reading),
      Compiles decl es parts ∧
      List.Forall₂ (fun g r => Fragment.reading? g = some r) (parts.filterMap id) rs ∧
      f.reading? = some (chain rs) ∧
      (∀ e ∈ es, e.2.IsTest → Sql.isPlain e.1 = true →
        ∀ g, entry? decl e.1 e.2 = .ok (some g) → ∃ operands, g.reading? = some [operands]) ∧
      (∀ ν, (∀ r ∈ rs, r.truth ν = some true) → (chain rs).truth ν = some true) ∧
      ((rs.length = 1 ∨ ∀ r ∈ rs, r.length = 1) →
        ∀ ν, (chain rs).truth ν = some true ↔ ∀ r ∈ rs, r.truth ν = some true) ∧
      (rs.flatten.flatten.Nodup → ¬ (rs.length = 1 ∨ ∀ r ∈ rs, r.length = 1) →
        ∃ ν, ¬ ((chain rs).truth ν = some true ↔ ∀ r ∈ rs, r.truth ν = some true)) := by
  have filled : es ≠ [] := by
    rintro rfl
    cases compiled
  obtain ⟨parts, compiles, given, rfl⟩ := compiles_of_fragment? filled compiled
  have tests : ∀ e ∈ es, e.2.IsTest → Sql.isPlain e.1 = true →
      ∀ g, entry? decl e.1 e.2 = .ok (some g) → ∃ operands, g.reading? = some [operands] :=
    fun e _ test plain g written => reading?_entry plain test written
  obtain ⟨rs, reads⟩ : ∃ rs,
      List.Forall₂ (fun g r => Fragment.reading? g = some r) (parts.filterMap id) rs := by
    refine exists_forall₂ fun g hg => ?_
    obtain ⟨part, there, same⟩ := List.mem_filterMap.mp hg
    obtain rfl : part = some g := same
    obtain ⟨e, he, written⟩ := exists_of_forall₂ compiles _ there
    by_cases test : e.2.IsTest ∧ Sql.isPlain e.1 = true
    · obtain ⟨operands, own⟩ := tests e he test.1 test.2 g written
      exact ⟨_, own⟩
    · exact Option.isSome_iff_exists.mp (formed e he test g written)
  have full : ∀ r ∈ rs, r.IsFull := by
    intro r hr
    obtain ⟨g, -, own⟩ := exists_of_forall₂ reads r hr
    exact Fragment.isFull_of_reading? own
  have some_rs : rs ≠ [] := by
    rintro rfl
    exact given (List.forall₂_nil_right_iff.mp reads)
  refine ⟨parts, rs, compiles, reads, Fragment.reading?_join given reads, tests,
    fun ν => Reading.truth_chain_of_all some_rs full,
    fun single ν => Reading.truth_chain_iff some_rs single ν, fun distinct several => ?_⟩
  by_contra same
  push Not at same
  exact several (Reading.single_of_truth_chain full distinct same)

/-- Users out of an age, of one name. -/
def outsiders : List (String × Comparison) :=
  [("age < 18 OR age > 60", .raw []), ("name", .eq (.text "Ann"))]

/-- The filter of the outsiders is not true on the same rows as both of its entries. -/
theorem entries_grouped_outsiders :
    let ages : Fragment := .ofText "age < 18 OR age > 60"
    let named : Fragment := [.sql "name = ", operand Builder.users.decl "name" true (.text "Ann")]
    fragment? Builder.users.decl (.entries outsiders) =
        .ok (some (ages ++ .sql " AND " :: named)) ∧
      (∀ e ∈ outsiders, ¬ (e.2.IsTest ∧ Sql.isPlain e.1 = true) →
        ∀ g, entry? Builder.users.decl e.1 e.2 = .ok (some g) → g.reading?.isSome = true) ∧
      ∃ first second r, ages.reading? = some first ∧ named.reading? = some second ∧
        Fragment.reading? (ages ++ .sql " AND " :: named) = some r ∧
        ∃ ν, ¬ (r.truth ν = some true ↔
          first.truth ν = some true ∧ second.truth ν = some true) := by
  intro ages named
  have compiled : fragment? Builder.users.decl (.entries outsiders) =
      .ok (some (ages ++ .sql " AND " :: named)) := rfl
  have formed : ∀ e ∈ outsiders, ¬ (e.2.IsTest ∧ Sql.isPlain e.1 = true) →
      ∀ g, entry? Builder.users.decl e.1 e.2 = .ok (some g) → g.reading?.isSome = true := by
    intro e he raw g written
    simp only [outsiders, List.mem_cons, List.not_mem_nil, or_false] at he
    rcases he with rfl | rfl
    · cases written
      decide +kernel
    · exact absurd ⟨trivial, by decide⟩ raw
  obtain ⟨parts, rs, compiles, reads, whole, -, -, -, differs⟩ := entries_grouped compiled formed
  obtain rfl : [some ages, some named] = parts := Except.ok.inj (mapM_eq_ok_iff.mpr compiles)
  let first : Reading :=
    [[[.word "age".toList, .symbol '<', .word "18".toList]],
      [[.word "age".toList, .symbol '>', .word "60".toList]]]
  let second : Reading :=
    [[[.word "name".toList, .symbol '=',
      .value (operand Builder.users.decl "name" true (.text "Ann"))]]]
  -- the reader is run on the two entries
  have both : [first, second] = rs := Option.some.inj (mapM_eq_some_iff.mpr reads)
  subst both
  obtain ⟨ν, differs⟩ := differs (by simp [first, second]) (by simp [first, second])
  refine ⟨compiled, formed, first, second, _, rfl, rfl, whole, ν, ?_⟩
  simpa using differs

end Filter

end TableMapper
