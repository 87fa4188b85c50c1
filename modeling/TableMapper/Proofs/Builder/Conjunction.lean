import TableMapper.Proofs.Builder.Filter
import TableMapper.Proofs.Builder.Filtered

/-!
# Conditions as conjunctions

A condition whose entries compare columns with values is the conjunction of its tests.

* `Test` is one comparison of a column, and `Test.ofEntries?` are the tests that the entries of a
  condition stand for, in order; there are none if an operator is not accepted.
* `Test.Reads` says that a text is the conjunction of tests, with each value in its place.
* `Filter.fragment?_of_tests` and `Filter.fragment?_of_refused` compile a condition.
* `Builder.conditions_conjoined` says what statement a builder writes after several conditions.
-/

namespace TableMapper

/-- A comparison of a column with values. -/
inductive Test where
  | isNull (column : String)
  | equals (column : String) (value : Value)
  /-- A column among no values. -/
  | never
  | among (column : String) (values : List Value)
  | relates (column operator : String) (value : Value)

/-- The right-hand side compares a column, and requires something of it. -/
def Comparison.IsTest : Comparison → Prop
  | .raw _ => False
  | .ops relations => relations ≠ []
  | _ => True

namespace Test

/-- The tests of an entry, in order, if all of its operators are accepted. -/
def ofComparison? : String × Comparison → Option (List Test)
  | (column, .eq .null) => some [isNull column]
  | (column, .eq v) => some [equals column v]
  | (_, .among []) => some [never]
  | (column, .among values) => some [among column values]
  | (column, .ops relations) =>
    relations.mapM fun r => (Operator.canonical? r.1).map (relates column · r.2)
  | (_, .raw _) => none

/-- The tests of the entries of a condition, in order, if all operators are accepted. -/
def ofEntries? (entries : List (String × Comparison)) : Option (List Test) :=
  (entries.mapM ofComparison?).map List.flatten

/-- The values of a test, in order, as they go into a statement. -/
def operands (decl : Option TableDecl) : Test → List Piece
  | isNull _ => []
  | equals column v => [Filter.operand decl column true v]
  | never => []
  | among column values => values.map (Filter.operand decl column true)
  | relates column operator v => [Filter.operand decl column (Operator.castsValue operator) v]

/-- The text of a test, from what is written for its values. -/
def sql : Test → List String → String
  | isNull column, _ => Sql.ident column ++ " IS NULL"
  | equals column _, written => Sql.ident column ++ " = " ++ String.join written
  | never, _ => "FALSE"
  | among column _, written => Sql.ident column ++ " IN (" ++ ",".intercalate written ++ ")"
  | relates column operator _, written =>
    Sql.ident column ++ " " ++ operator ++ " " ++ String.join written

/-- The text is the conjunction of the tests, in a statement with these arguments: each value stands
in its place, as a literal or as the placeholder of an argument. -/
def Reads (decl : Option TableDecl) (binding : Binding) (tag : DollarTag) (args : List Value)
    (tests : List Test) (text : String) : Prop :=
  ∃ written : List (List String),
    List.Forall₂ (fun t ws => List.Forall₂ (Piece.Stands binding tag args) (operands decl t) ws)
      tests written ∧
    text = " AND ".intercalate (List.zipWith sql tests written)

/-! ### Fragments of tests -/

/-- The fragment of a test. -/
def fragment (decl : Option TableDecl) : Test → Fragment
  | isNull column => Fragment.ofText (Sql.ident column ++ " IS NULL")
  | equals column v =>
    .sql (Sql.ident column ++ " = ") :: Filter.columnValue decl column v true
  | never => Fragment.ofText "FALSE"
  | among column values =>
    .sql (Sql.ident column ++ " IN (") ::
      (Fragment.join "," (values.map fun v => Filter.columnValue decl column v true) ++
        [.sql ")"])
  | relates column operator v =>
    .sql (Sql.ident column ++ " " ++ operator ++ " ") ::
      Filter.columnValue decl column v (Operator.castsValue operator)

/-- The fragment of several tests. -/
def conjunction (decl : Option TableDecl) (tests : List Test) : Fragment :=
  Fragment.join " AND " (tests.map (fragment decl))

variable {decl : Option TableDecl} {binding : Binding} {tag : DollarTag}

theorem arguments_fragment (t : Test) :
    Fragment.arguments binding (t.fragment decl) =
      Fragment.arguments binding (t.operands decl) := by
  cases t with
  | isNull column => rfl
  | never => rfl
  | equals column v =>
    rw [fragment, Fragment.arguments_sql_cons, Filter.columnValue_eq]
    rfl
  | relates column operator v =>
    rw [fragment, Fragment.arguments_sql_cons, Filter.columnValue_eq]
    rfl
  | among column values =>
    rw [fragment, Fragment.arguments_sql_cons, Fragment.arguments_append,
      Fragment.arguments_join]
    have singles : (values.map fun v => Filter.columnValue decl column v true).flatten =
        values.map (Filter.operand decl column true) := by
      simp only [Filter.columnValue_eq]
      rw [← List.flatMap_def, ← List.map_eq_flatMap]
    rw [singles]
    exact List.append_nil _

theorem count_fragment (t : Test) :
    Fragment.count binding (t.fragment decl) = Fragment.count binding (t.operands decl) :=
  congrArg List.length (arguments_fragment t)

theorem sqlAfter_fragment (n : Nat) (t : Test) :
    Fragment.sqlAfter binding tag n (t.fragment decl) =
      t.sql (Fragment.texts binding tag n (t.operands decl)) := by
  cases t with
  | isNull column => exact Fragment.sqlAfter_ofText n _
  | never => exact Fragment.sqlAfter_ofText n _
  | equals column v =>
    rw [fragment, Fragment.sqlAfter_sql_cons, Filter.columnValue_eq]
    rfl
  | relates column operator v =>
    rw [fragment, Fragment.sqlAfter_sql_cons, Filter.columnValue_eq]
    rfl
  | among column values =>
    have singles : (values.map fun v => Filter.columnValue decl column v true) =
        (values.map (Filter.operand decl column true)).map ([·]) := by
      simp [Filter.columnValue_eq]
    rw [fragment, Fragment.sqlAfter_sql_cons, Fragment.sqlAfter_append, Fragment.sqlAfter_join,
      Fragment.sqlAfter_sql_cons, Fragment.sqlAfter_nil, singles, Fragment.sqlsAfter_singletons,
      String.append_empty, ← String.append_assoc]
    rfl

theorem sqlsAfter_fragments (n : Nat) (tests : List Test) :
    Fragment.sqlsAfter binding tag n (tests.map (fragment decl)) =
      List.zipWith sql tests (Fragment.writtenAfter binding tag n (tests.map (operands decl))) := by
  induction tests generalizing n with
  | nil => rfl
  | cons t tests ih =>
    rw [List.map_cons, Fragment.sqlsAfter, sqlAfter_fragment, count_fragment, ih]
    rfl

theorem arguments_fragments (tests : List Test) :
    Fragment.arguments binding (tests.map (fragment decl)).flatten =
      Fragment.arguments binding (tests.map (operands decl)).flatten := by
  induction tests with
  | nil => rfl
  | cons t tests ih =>
    rw [List.map_cons, List.flatten_cons, Fragment.arguments_append, ih, arguments_fragment,
      ← Fragment.arguments_append]
    rfl

theorem arguments_conjunction (tests : List Test) :
    Fragment.arguments binding (conjunction decl tests) =
      Fragment.arguments binding (tests.map (operands decl)).flatten := by
  rw [conjunction, Fragment.arguments_join, arguments_fragments]

variable (decl binding tag) in
/-- The fragment of tests reads as their conjunction, wherever it stands in a statement. -/
theorem reads_conjunction (before after : List Value) (tests : List Test) :
    Reads decl binding tag
      (before ++ Fragment.arguments binding (conjunction decl tests) ++ after) tests
      (Fragment.sqlAfter binding tag before.length (conjunction decl tests)) := by
  refine ⟨Fragment.writtenAfter binding tag before.length (tests.map (operands decl)), ?_, ?_⟩
  · rw [arguments_conjunction]
    have stand := Fragment.stands_writtenAfter binding tag before after
      (tests.map (operands decl))
    exact List.forall₂_map_left_iff.mp stand
  · rw [conjunction, Fragment.sqlAfter_join, sqlsAfter_fragments]

theorem arguments_conjunctions (tss : List (List Test)) :
    Fragment.arguments binding (tss.map (conjunction decl)).flatten =
      Fragment.arguments binding (tss.flatten.flatMap (operands decl)) := by
  induction tss with
  | nil => rfl
  | cons ts tss ih =>
    rw [List.map_cons, List.flatten_cons, Fragment.arguments_append, ih, arguments_conjunction,
      ← Fragment.arguments_append, List.flatten_cons, List.flatMap_append, ← List.flatMap_def]

variable (decl binding tag) in
/-- Conjunctions one after the other read as such, wherever they stand in a statement. -/
theorem reads_conjunctions (before after : List Value) (tss : List (List Test)) :
    List.Forall₂
      (Reads decl binding tag
        (before ++ Fragment.arguments binding (tss.map (conjunction decl)).flatten ++ after))
      tss (Fragment.sqlsAfter binding tag before.length (tss.map (conjunction decl))) := by
  induction tss generalizing before with
  | nil => exact .nil
  | cons ts tss ih =>
    have here := reads_conjunction decl binding tag before
      (Fragment.arguments binding (tss.map (conjunction decl)).flatten ++ after) ts
    have rest := ih (before ++ Fragment.arguments binding (conjunction decl ts))
    rw [List.length_append] at rest
    rw [List.map_cons, List.flatten_cons, Fragment.arguments_append]
    simp only [List.append_assoc] at here rest ⊢
    exact .cons here rest

end Test

/-! ### Compiling conditions -/

namespace Filter

open Test (ofComparison? ofEntries? conjunction)

variable {decl : Option TableDecl}

/-- The message about an operator that is not accepted. -/
def refusal (column operator : String) : String :=
  "unsupported operator '" ++ operator ++ "' on " ++ column

theorem relation_of_some {column operator name : String}
    (h : Operator.canonical? operator = some name) (v : Value) :
    relation decl column operator v = .ok ((Test.relates column name v).fragment decl) := by
  unfold relation
  rw [h]
  rfl

theorem relation_of_none {column operator : String} (h : Operator.canonical? operator = none)
    (v : Value) : relation decl column operator v = .error (refusal column operator) := by
  unfold relation
  rw [h]
  rfl

variable (decl) in
/-- An entry gives the fragment of its tests. -/
theorem entry?_of_tests {column : String} {c : Comparison} {tests : List Test}
    (h : ofComparison? (column, c) = some tests) (test : c.IsTest) :
    entry? decl column c = .ok (some (conjunction decl tests)) ∧ tests ≠ [] := by
  cases c with
  | eq v => cases v <;> cases h <;> exact ⟨rfl, List.cons_ne_nil _ _⟩
  | among values => cases values <;> cases h <;> exact ⟨rfl, List.cons_ne_nil _ _⟩
  | raw args => cases h
  | ops relations =>
    have each := mapM_eq_some_iff.mp h
    have parts : relations.mapM (fun r => relation decl column r.1 r.2) =
        .ok (tests.map (Test.fragment decl)) := by
      refine mapM_eq_ok_iff.mpr (List.forall₂_map_right_iff.mpr (each.imp ?_))
      intro r t accepted
      obtain ⟨name, canonical, rfl⟩ := Option.map_eq_some_iff.mp accepted
      exact relation_of_some canonical r.2
    cases each with
    | nil => exact absurd rfl test
    | cons first others =>
      refine ⟨?_, List.cons_ne_nil _ _⟩
      rw [entry?_ops column (List.cons_ne_nil _ _), parts]
      rfl

variable (decl) in
/-- An entry with an operator that is not accepted fails. -/
theorem entry?_of_refused {column : String} {c : Comparison} (h : ofComparison? (column, c) = none)
    (test : c.IsTest) :
    ∃ relations, c = .ops relations ∧ ∃ r ∈ relations, Operator.canonical? r.1 = none ∧
      entry? decl column c = .error (refusal column r.1) := by
  cases c with
  | eq v => cases v <;> cases h
  | among values => cases values <;> cases h
  | raw args => exact absurd test id
  | ops relations =>
    obtain ⟨before, r, after, split, passed, refused⟩ := exists_first_none h
    have canonical : Operator.canonical? r.1 = none := Option.map_eq_none_iff.mp refused
    have failed : relations.mapM (fun r => relation decl column r.1 r.2) =
        .error (refusal column r.1) := by
      rw [split]
      refine mapM_eq_error (fun x hx => ?_) (relation_of_none canonical r.2)
      obtain ⟨t, accepted⟩ := Option.isSome_iff_exists.mp (passed x hx)
      obtain ⟨name, canonical, -⟩ := Option.map_eq_some_iff.mp accepted
      exact ⟨_, relation_of_some canonical x.2⟩
    refine ⟨relations, rfl, r, by simp [split], canonical, ?_⟩
    rw [entry?_ops column test, failed]
    rfl

variable {es : List (String × Comparison)}

/-- **A condition of tests is their conjunction**, in the order of the entries. -/
theorem fragment?_of_tests (filled : es ≠ []) (test : ∀ e ∈ es, e.2.IsTest) {tests : List Test}
    (h : ofEntries? es = some tests) :
    fragment? decl (.entries es) = .ok (some (conjunction decl tests)) := by
  obtain ⟨tss, accepted, rfl⟩ := Option.map_eq_some_iff.mp h
  have each := mapM_eq_some_iff.mp accepted
  have nonempty : ∀ ts ∈ tss, ts.map (Test.fragment decl) ≠ [] := by
    intro ts hts
    obtain ⟨e, he, own⟩ := exists_of_forall₂ each ts hts
    simpa using (entry?_of_tests decl own (test e he)).2
  have parts : Compiles decl es (tss.map fun ts => some (conjunction decl ts)) := by
    refine List.forall₂_map_right_iff.mpr ?_
    clear nonempty filled accepted h
    induction each with
    | nil => exact .nil
    | cons first _ ih =>
      exact .cons (entry?_of_tests decl first (test _ List.mem_cons_self)).1
        (ih fun e he => test e (List.mem_cons_of_mem _ he))
  have given : (tss.map fun ts => some (conjunction decl ts)).filterMap id =
      (tss.map (List.map (Test.fragment decl))).map (Fragment.join " AND ") := by
    simp [conjunction, List.filterMap_map, Function.comp_def]
  have some : tss ≠ [] := by
    rintro rfl
    cases each
    exact filled rfl
  rw [fragment?_of_compiles filled parts, given,
    Fragment.join_flatten (by simpa using nonempty), ← List.map_flatten]
  simp [some, conjunction]

variable (decl) in
/-- **A condition with an operator that is not accepted fails.** -/
theorem fragment?_of_refused (test : ∀ e ∈ es, e.2.IsTest) (h : ofEntries? es = none) :
    ∃ e ∈ es, ∃ relations, e.2 = .ops relations ∧ ∃ r ∈ relations,
      Operator.canonical? r.1 = none ∧
      fragment? decl (.entries es) = .error (refusal e.1 r.1) := by
  obtain ⟨before, e, after, rfl, passed, refused⟩ :=
    exists_first_none (Option.map_eq_none_iff.mp h)
  obtain ⟨relations, shape, r, hr, canonical, failed⟩ :=
    entry?_of_refused decl refused (test e (by simp))
  refine ⟨e, by simp, relations, shape, r, hr, canonical, fragment?_of_failed ?_ failed⟩
  intro x hx
  obtain ⟨ts, accepted⟩ := Option.isSome_iff_exists.mp (passed x hx)
  exact ⟨_, (entry?_of_tests decl accepted (test x (by simp [hx]))).1⟩

end Filter

/-! ### Builders with conditions -/

namespace Clause

/-- A clause that filters by at least one entry, and by comparisons only; or one that does not
filter. -/
def IsStructured : Clause → Prop
  | .filter c => ∃ es, c = .entries es ∧ es ≠ [] ∧ ∀ e ∈ es, e.2.IsTest
  | _ => True

/-- The entries that a clause filters by. -/
def entries? : Clause → Option (List (String × Comparison))
  | .filter (.entries es) => some es
  | _ => none

variable {decl : Option TableDecl} {c : Clause}

theorem filter?_of_structured (h : c.IsStructured) :
    c.filter? decl = (c.entries?.bind Test.ofEntries?).map (Test.conjunction decl) := by
  cases c with
  | filter condition =>
    obtain ⟨es, rfl, filled, test⟩ := h
    simp only [filter?, entries?, Option.bind_some]
    cases accepted : Test.ofEntries? es with
    | some tests => simp [Filter.fragment?_of_tests filled test accepted]
    | none =>
      obtain ⟨e, he, relations, shape, r, hr, canonical, failed⟩ :=
        Filter.fragment?_of_refused decl test accepted
      simp [failed]
  | _ => rfl

/-- Only an operator that is not accepted is a mistake. -/
theorem refused_of_mistake (h : c.IsStructured) {m : String} (mistaken : c.mistake? decl = some m) :
    ∃ es, c.entries? = some es ∧ ∃ e ∈ es, ∃ relations, e.2 = .ops relations ∧
      ∃ r ∈ relations, Operator.canonical? r.1 = none ∧ m = Filter.refusal e.1 r.1 := by
  cases c with
  | filter condition =>
    obtain ⟨es, rfl, filled, test⟩ := h
    refine ⟨es, rfl, ?_⟩
    simp only [mistake?] at mistaken
    cases accepted : Test.ofEntries? es with
    | some tests => rw [Filter.fragment?_of_tests filled test accepted] at mistaken; cases mistaken
    | none =>
      obtain ⟨e, he, relations, shape, r, hr, canonical, failed⟩ :=
        Filter.fragment?_of_refused decl test accepted
      rw [failed] at mistaken
      cases mistaken
      exact ⟨e, he, relations, shape, r, hr, canonical, rfl⟩
  | _ => cases mistaken

variable (decl) in
theorem mistake?_of_structured (h : c.IsStructured) :
    c.mistake? decl = none ↔ ∀ es, c.entries? = some es → (Test.ofEntries? es).isSome := by
  cases c with
  | filter condition =>
    obtain ⟨es, rfl, filled, test⟩ := h
    simp only [mistake?, entries?, Option.some.injEq, forall_eq']
    cases accepted : Test.ofEntries? es with
    | some tests => simp [Filter.fragment?_of_tests filled test accepted]
    | none =>
      obtain ⟨e, he, relations, shape, r, hr, canonical, failed⟩ :=
        Filter.fragment?_of_refused decl test accepted
      simp [failed]
  | _ => simp [mistake?, entries?]

/-- There is no mistake among conditions of which all operators are accepted. -/
theorem firstMistake?_of_structured {clauses : List Clause} (h : ∀ c ∈ clauses, c.IsStructured) :
    firstMistake? decl clauses = none ↔
      ((clauses.filterMap entries?).mapM Test.ofEntries?).isSome := by
  unfold firstMistake?
  induction clauses with
  | nil => simp
  | cons c clauses ih =>
    have first := mistake?_of_structured decl (h c List.mem_cons_self)
    have rest := ih fun c' hc' => h c' (List.mem_cons_of_mem _ hc')
    rw [List.findSome?_cons, List.filterMap_cons]
    cases conditions : c.entries? with
    | none =>
      rw [first.mpr (by simp [conditions])]
      exact rest
    | some es =>
      rw [List.mapM_cons]
      cases accepted : Test.ofEntries? es with
      | none =>
        have mistaken : c.mistake? decl ≠ none := by simp [first, conditions, accepted]
        obtain ⟨m, mistaken⟩ := Option.ne_none_iff_exists'.mp mistaken
        simp [mistaken]
      | some tests =>
        rw [first.mpr (by simp [conditions, accepted])]
        cases others : (clauses.filterMap entries?).mapM Test.ofEntries? with
        | none => simpa [others] using rest
        | some tss => simpa [others] using rest

end Clause

namespace Builder

variable {b : Builder} {clauses : List Clause}

theorem filters_of_structured (structured : ∀ c ∈ clauses, c.IsStructured) :
    (b.addAll clauses).draft.filters = b.draft.filters ++
      ((clauses.filterMap Clause.entries?).filterMap Test.ofEntries?).map
        (Test.conjunction b.decl) := by
  rw [b.filters_addAll clauses, List.filterMap_filterMap, List.map_filterMap]
  congr 1
  exact List.filterMap_congr fun c hc => Clause.filter?_of_structured (structured c hc)

/-- If an operator is not accepted, the first mistake is about such an operator. -/
theorem exists_refused (structured : ∀ c ∈ clauses, c.IsStructured)
    (refused : (clauses.filterMap Clause.entries?).mapM Test.ofEntries? = none) :
    ∃ es ∈ clauses.filterMap Clause.entries?, ∃ e ∈ es, ∃ relations, e.2 = .ops relations ∧
      ∃ r ∈ relations, Operator.canonical? r.1 = none ∧
        Clause.firstMistake? b.decl clauses = some (Filter.refusal e.1 r.1) := by
  have mistaken : Clause.firstMistake? b.decl clauses ≠ none := by
    rw [Ne, Clause.firstMistake?_of_structured structured]
    simp [refused]
  obtain ⟨m, first⟩ := Option.ne_none_iff_exists'.mp mistaken
  obtain ⟨c, hc, own⟩ := List.exists_of_findSome?_eq_some first
  obtain ⟨es, hes, e, he, relations, shape, r, hr, canonical, rfl⟩ :=
    Clause.refused_of_mistake (structured c hc) own
  exact ⟨es, List.mem_filterMap.mpr ⟨c, hc, hes⟩, e, he, relations, shape, r, hr, canonical, first⟩

/-- Conditions on the age and the name of users. -/
def grownUps : List Clause :=
  [.filter (.entries [("age", .ops [(">=", .int 18), (" < ", .int 60)]), ("name", .eq .null)]),
    .limit 5 0, .filter (.entries [("name", .among [.text "Ann", .text "Bob"])])]

example : ((users.addAll grownUps).outcome .delete still).toOption.map (·.sql) =
    some ("DELETE FROM public.users WHERE (age >= 18 AND age < 60 AND name IS NULL)" ++
      " AND (name IN ($1,$2))") := by
  decide +kernel

end Builder

end TableMapper
