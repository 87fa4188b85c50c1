import TableMapper.Proofs.Builder.Filtered
import TableMapper.Proofs.Session.Statements
import TableMapper.Proofs.Text.Numeral
import TableMapper.Proofs.Text.Search
import TableMapper.Rows.Export

/-!
# Exports are complete

An export counts the rows, and then asks for one page after the other.

* `Export.countQuery` and `Export.pageQuery` are the statements that it sends.
* `Export.Answers` says that a database answers them from one list of rows, and `Export.Ready` that
  a session is as an export needs it.
* `Export.Handed` says that pages were asked for and handed to a function, one after the other.
* `Export.pages_handed`: the pages are the list without the rows that are passed over, in order.
-/

namespace TableMapper

variable {σ τ : Type}

namespace Export

/-! ### Statements -/

/-- The columns that an export reads. -/
def columns (decl : Option TableDecl) (o : ExportOptions) : List String :=
  if o.fields.isEmpty then (decl.bind (·.selectFields)).getD [] else o.fields

section

variable (t : TableDecl) (o : ExportOptions) (decl : Option TableDecl) (schema : String)
  (filter : Option Fragment) (binding : Binding) (tag : DollarTag)

/-- The query for the number of rows. -/
def countQuery : Statement where
  sql := "SELECT count(*) AS total FROM " ++ Sql.qualified schema t.name ++
    Draft.restriction binding tag 0 filter
  args := Fragment.arguments binding (filter.getD [])

/-- The query for `n` rows after `k` others, in the order of the key. -/
def pageQuery (n k : Nat) : Statement where
  sql := "SELECT " ++ Draft.columnsSql (columns decl o) ++ " FROM " ++
    Sql.qualified schema t.name ++ Draft.restriction binding tag 0 filter ++
    Draft.orderSql (Builder.appendText [] (order t)) ++
    (" LIMIT " ++ toString n ++ " OFFSET " ++ toString k)
  args := Fragment.arguments binding (filter.getD [])

end

/-- The clauses of a page. -/
def clauses (e : Export) : List Clause :=
  [.filter (cond e.options), .fields e.options.fields, .limit e.page e.offset,
    .order (order e.decl)]

variable {t : TableDecl} {o : ExportOptions} {decl : Option TableDecl} {schema : String}
  {filter : Option Fragment} {binding : Binding} {tag : DollarTag}

theorem outcome_count (named : t.name ≠ "")
    (compiled : Filter.fragment? decl (cond o) = .ok filter) (supply : IdSupply) :
    (Target.pool.bound binding tag t.name schema decl [.filter (cond o)]).outcome
      (.aggregate "count" "*") supply = .ok (countQuery t schema filter binding tag) := by
  let b := Target.pool.drafted binding tag t.name schema decl { filters := filter.toList }
  have prepared : (b.prepare (.aggregate "count" "*") supply).1 =
      Target.pool.drafted binding tag t.name schema decl
        { command := some .select, fields := ["count(*) AS total"], filters := filter.toList } := by
    have known : Builder.aggregates.contains "count" = true := by decide
    have total : "count" ++ "(" ++ "*" ++ ") AS total" = "count(*) AS total" := by decide
    simp only [Builder.prepare, Builder.prepareAggregate, Builder.modifyDraft, known, if_true,
      beq_self_eq_true, total]
    rfl
  have total : Sql.ident "count(*) AS total" = "count(*) AS total" := by
    have plain : Sql.isPlain "count(*) AS total" = false := by decide +kernel
    simp [Sql.ident, plain]
  rw [Target.bound_filter compiled]
  refine (congrArg Builder.statement prepared).trans ?_
  rw [Target.statement_drafted named rfl rfl rfl, Draft.assemble, Except.map,
    Draft.render_query rfl rfl rfl rfl rfl]
  refine congrArg Except.ok (Statement.mk.injEq .. ▸ ⟨?_, rfl⟩)
  show "SELECT " ++ ",".intercalate [Sql.ident "count(*) AS total"] ++ " FROM " ++ _ ++ _ ++ "" ++
    "" = _
  rw [String.append_empty, String.append_empty, String.intercalate_singleton, total]
  rfl

theorem outcome_page (named : t.name ≠ "")
    (compiled : Filter.fragment? decl (cond o) = .ok filter) {n : Nat} (some : 0 < n) (k : Nat)
    (total : Int) (supply : IdSupply) :
    (Target.pool.bound binding tag t.name schema decl (clauses ⟨t, o, n, k, total⟩)).outcome
      .select supply = .ok (pageQuery t o decl schema filter binding tag n k) := by
  let b := Target.pool.drafted binding tag t.name schema decl { filters := filter.toList }
  let d : Draft :=
    { command := Option.some .select
      fields := columns decl o
      filters := filter.toList
      limit := Option.some (n, max k 0)
      order := Builder.appendText [] (order t) }
  have prepared : ((b.addAll [.fields o.fields, .limit n k, .order (order t)]).prepare .select
      supply).1 = Target.pool.drafted binding tag t.name schema decl d := rfl
  have cap : Fragment.sqlAfter binding tag 0 d.limitClause =
      " LIMIT " ++ toString n ++ " OFFSET " ++ toString k := by
    have rows : (0 : Int) < n := by exact_mod_cast some
    have skipped : max (k : Int) 0 = k := by omega
    simp only [d, Draft.limitClause, rows, if_true, skipped]
    exact Fragment.sqlAfter_ofText 0 _
  rw [clauses, Target.bound_filter compiled]
  refine (congrArg Builder.statement prepared).trans ?_
  rw [Target.statement_drafted named rfl rfl rfl, Draft.assemble, Except.map,
    Draft.render_query rfl rfl rfl rfl rfl, cap]
  rfl

/-- The query for the number of rows cannot be written without a table, or with a condition that
cannot. -/
theorem outcome_refused (schema : String) (binding : Binding) {c : Condition}
    (mistaken : t.name = "" ∨ ∃ m, Filter.fragment? decl c = .error m) :
    ∃ m, ∀ tag supply, (Target.pool.bound binding tag t.name schema decl [.filter c]).outcome
      (.aggregate "count" "*") supply = .error (.usage m) := by
  by_cases named : t.name = ""
  · exact ⟨_, fun tag supply => Target.outcome_unnamed named _ _ supply⟩
  · obtain ⟨m, failed⟩ := mistaken.resolve_left named
    refine ⟨m, fun tag supply => Builder.outcome_of_mistake ?_ ?_ _ supply⟩
    · rw [Target.bound, Builder.table_addAll]
      simp [Builder.bind, named]
    · rw [Target.bound, Builder.mistake_addAll]
      show Option.or none (Clause.firstMistake? decl [.filter c]) = _
      simp [Clause.firstMistake?, Clause.mistake?, failed]

/-! ### Databases that answer an export -/

section

variable [Backend σ]

/-- The database answers the statement in each of some states, and stays in such a state. -/
def Replies (I : σ → Prop) (st : Statement) (P : QueryOutput → Prop) : Prop :=
  ∀ d, I d → ∃ out d', Backend.answer .pool st.sql st.args d = (.ok out, d') ∧ P out ∧ I d'

variable (t : TableDecl) (o : ExportOptions) (decl : Option TableDecl) (schema : String)
  (binding : Binding) (I : σ → Prop)

/-- The database answers the queries of an export from one list of rows: how many there are, as a
number or as text, and those of a page. -/
structure Answers (rows : List Row) : Prop where
  counted : ∀ filter, Filter.fragment? decl (cond o) = .ok filter → ∀ tag,
    Replies I (countQuery t schema filter binding tag) fun out =>
      BuilderM.countOf (BuilderM.total? out) = rows.length
  paged : ∀ filter, Filter.fragment? decl (cond o) = .ok filter → ∀ tag k,
    Replies I (pageQuery t o decl schema filter binding tag (pageOf o) k) fun out =>
      out.rows = (rows.drop k).take (pageOf o)

/-- The session is as an export needs it. -/
structure Ready (s : Session σ) : Prop where
  database : I s.database
  /-- Its builders are as new. -/
  tidy : s.Tidy binding
  schema : o.schema.getD s.schema = schema
  decl : s.tables.get? t.name = decl

/-- The table has a name, the columns are declared, and the condition can be written. -/
structure Startable : Prop where
  named : t.name ≠ ""
  declared : ∀ f ∈ o.fields, t.hasColumn f = true
  written : (Filter.fragment? decl (cond o)).isOk = true

end

/-! ### Pages -/

/-- Rows in pages of `n`, and at least of one. -/
def pagesOf (n : Nat) : List Row → List (List Row)
  | [] => []
  | row :: rows => (row :: rows.take (n - 1)) :: pagesOf n (rows.drop (n - 1))
termination_by rows => rows.length

theorem pagesOf_nil (n : Nat) : pagesOf n [] = [] := by rw [pagesOf]

theorem pagesOf_of_ne_nil {n : Nat} (some : 0 < n) {rows : List Row} (h : rows ≠ []) :
    pagesOf n rows = rows.take n :: pagesOf n (rows.drop n) := by
  obtain ⟨row, rest, rfl⟩ := List.exists_cons_of_ne_nil h
  obtain ⟨m, rfl⟩ := Nat.exists_eq_add_of_lt some
  rw [pagesOf]
  simp

theorem flatten_pagesOf (n : Nat) (rows : List Row) : (pagesOf n rows).flatten = rows := by
  induction rows using pagesOf.induct n with
  | case1 => rw [pagesOf_nil]; rfl
  | case2 row rows ih =>
    rw [pagesOf, List.flatten_cons, ih, List.cons_append, List.take_append_drop]

theorem ne_nil_of_mem_pagesOf {n : Nat} {rows page : List Row} (h : page ∈ pagesOf n rows) :
    page ≠ [] := by
  induction rows using pagesOf.induct n with
  | case1 => simp [pagesOf_nil] at h
  | case2 row rows ih =>
    rw [pagesOf, List.mem_cons] at h
    rcases h with rfl | h
    · exact List.cons_ne_nil _ _
    · exact ih h

/-- Pages were handed to a function one after the other, each of them after it was asked for, until
the function failed or there was none left.  So many rows came before the first one. -/
inductive Handed (asks : Nat → Session σ → Session σ → Prop) (f : List Row → WithinM τ σ Unit) :
    Nat → List (List Row) → τ × Session σ → Except Error Unit → τ × Session σ → Prop
  | done (k : Nat) (x : τ × Session σ) : Handed asks f k [] x (.ok ()) x
  | failed {k : Nat} {page : List Row} {pages : List (List Row)} {a : τ} {s s' : Session σ}
      {e : Error} {y : τ × Session σ} (asked : asks k s s')
      (handed : f page (a, s') = (.error e, y)) :
      Handed asks f k (page :: pages) (a, s) (.error e) y
  | next {k : Nat} {page : List Row} {pages : List (List Row)} {a : τ} {s s' : Session σ}
      {r : Except Error Unit} {x y : τ × Session σ} (asked : asks k s s')
      (handed : f page (a, s') = (.ok (), x))
      (rest : Handed asks f (k + page.length) pages x r y) :
      Handed asks f k (page :: pages) (a, s) r y

/-- If the function never fails, all pages are handed to it. -/
theorem Handed.isOk {asks : Nat → Session σ → Session σ → Prop}
    {f : List Row → WithinM τ σ Unit} {k : Nat} {pages : List (List Row)} {x y : τ × Session σ}
    {r : Except Error Unit} (h : Handed asks f k pages x r y)
    (succeeds : ∀ page ∈ pages, ∀ x, (f page x).1 = .ok ()) : r = .ok () := by
  induction h with
  | done => rfl
  | @failed k page pages a s s' e y asked handed =>
    have ok := succeeds page List.mem_cons_self (a, s')
    rw [handed] at ok
    cases ok
  | next asked handed rest ih => exact ih fun page hp => succeeds page (List.mem_cons_of_mem _ hp)

/-- Pages that are collected are all handed over. -/
theorem Handed.collected {asks : Nat → Session σ → Session σ → Prop} {k : Nat}
    {pages : List (List Row)} {x y : List (List Row) × Session σ} {r : Except Error Unit}
    (h : Handed asks (fun page => WithinM.modifyOwn (· ++ [page])) k pages x r y) :
    r = .ok () ∧ y.1 = x.1 ++ pages := by
  induction h with
  | done k x => exact ⟨rfl, (List.append_nil _).symm⟩
  | failed asked handed => cases handed
  | next asked handed rest ih =>
    cases handed
    refine ⟨ih.1, ih.2.trans ?_⟩
    rw [List.append_assoc, List.singleton_append]

/-- The rows after a page are those after so many rows as the page has. -/
theorem drop_length_take (n : Nat) (rows : List Row) :
    rows.drop (rows.take n).length = rows.drop n := by
  rcases Nat.le_total n rows.length with le | le
  · rw [List.length_take, Nat.min_eq_left le]
  · rw [List.take_of_length_le le, List.drop_length, List.drop_eq_nil_of_le le]

/-! ### Running an export -/

section

variable [Backend σ] {I : σ → Prop} {rows : List Row} {s : Session σ}

variable (t o decl schema binding) in
/-- A page was asked for between the sessions. -/
def AskedFor (k : Nat) (s s' : Session σ) : Prop :=
  ∃ filter tag, Filter.fragment? decl (cond o) = .ok filter ∧
    s.Asked binding .pool
      (some (pageQuery t o decl schema filter binding tag (pageOf o) k)) s'

theorem Ready.asked (h : Ready t o decl schema binding I s) {st : Option Statement}
    {s' : Session σ} (asked : s.Asked binding .pool st s') (d : I s'.database) :
    Ready t o decl schema binding I s' :=
  ⟨d, asked.tidy, by rw [asked.schema]; exact h.schema, by rw [asked.tables]; exact h.decl⟩

theorem pageOf_pos (o : ExportOptions) : 0 < pageOf o := by
  unfold pageOf
  split
  · split
    · omega
    · decide
  · decide

/-- A query of a new builder is answered, if the database answers its statement. -/
theorem query_spec {α : Type} {m : BuilderM σ α} {terminal : Terminal} {g : QueryOutput → α}
    (runs : BuilderM.Runs terminal (fun _ out => g out) m) (clauses : List Clause)
    (quiet : Notify.off.after clauses = .off) {query : DollarTag → Statement}
    (written : ∀ tag supply, (Target.pool.bound binding tag t.name schema decl clauses).outcome
      terminal supply = .ok (query tag))
    {P : QueryOutput → Prop} (replies : ∀ tag, Replies I (query tag) P)
    (ready : Ready t o decl schema binding I s) :
    ∃ tag out s', Rows.withBuilder t o.schema (BuilderM.addAll clauses >>= fun _ => m) s =
        (.ok (g out), s') ∧ P out ∧ s.Asked binding .pool (some (query tag)) s' ∧
      Ready t o decl schema binding I s' := by
  obtain ⟨tag, supply, s', ran, asked⟩ :=
    Session.withBuilder_runs .pool ready.tidy trivial runs clauses quiet t.name schema
  rw [ready.decl] at ran asked
  rw [written] at ran asked
  obtain ⟨out, d', answered, holds, kept⟩ := replies tag s.database ready.database
  have after : s'.database = d' := asked.database.trans (congrArg Prod.snd answered)
  refine ⟨tag, out, s', ?_, holds, asked, ready.asked asked (by rw [after]; exact kept)⟩
  rw [Rows.withBuilder, bind_ok (get_apply s), ready.schema]
  refine ran.trans ?_
  simp only [Except.bind, answered]
  rfl

section

variable (named : t.name ≠ "")
  (compiled : Filter.fragment? decl (cond o) = .ok filter)
  (answers : Answers t o decl schema binding I rows)
  (ready : Ready t o decl schema binding I s)

include named compiled answers ready

/-- An export starts behind the rows that are passed over, and knows how many there are. -/
theorem start_spec (declared : ∀ f ∈ o.fields, t.hasColumn f = true) :
    ∃ tag s', start t o s =
        (.ok ⟨t, o, pageOf o, ((max o.offset 0).toNat : Int), rows.length⟩, s') ∧
      s.Asked binding .pool (some (countQuery t schema filter binding tag)) s' ∧
      Ready t o decl schema binding I s' := by
  obtain ⟨tag, out, s', counted, total, asked, kept⟩ :=
    query_spec (o := o) BuilderM.runs_count [.filter (cond o)] rfl
      (fun tag supply => outcome_count named compiled supply) (answers.counted filter compiled)
      ready
  have none : o.fields.filter (!t.hasColumn ·) = [] := by
    rw [List.filter_eq_nil_iff]
    intro f hf
    simp [declared f hf]
  have passed : ((max o.offset 0).toNat : Int) = max o.offset 0 := by omega
  refine ⟨tag, s', ?_, asked, kept⟩
  rw [total] at counted
  have counts : Rows.count t (cond o) o.schema s = _ := counted
  simp only [start, none]
  exact (bind_ok counts _).trans (by rw [passed]; rfl)

theorem rows_spec (k : Nat) (total : Int) :
    ∃ s', Export.rows ⟨t, o, pageOf o, k, total⟩ s = (.ok ((rows.drop k).take (pageOf o)), s') ∧
      AskedFor t o decl schema binding k s s' ∧ Ready t o decl schema binding I s' := by
  obtain ⟨tag, out, s', read, page, asked, kept⟩ :=
    query_spec (o := o) BuilderM.runs_select (clauses ⟨t, o, pageOf o, k, total⟩) rfl
      (fun tag supply => outcome_page named compiled (pageOf_pos o) k total supply)
      (fun tag => answers.paged filter compiled tag k) ready
  rw [page] at read
  exact ⟨s', read, ⟨filter, tag, compiled, asked⟩, kept⟩

/-- The next page has the rows after those that were read, and there is one as long as there are
such rows. -/
theorem next?_spec {k : Nat} (more : k < rows.length) :
    ∃ s', next? ⟨t, o, pageOf o, k, rows.length⟩ s =
        (.ok (some ((rows.drop k).take (pageOf o),
          ⟨t, o, pageOf o, (k + ((rows.drop k).take (pageOf o)).length : Nat), rows.length⟩)), s') ∧
      AskedFor t o decl schema binding k s s' ∧ Ready t o decl schema binding I s' := by
  obtain ⟨s', read, asked, kept⟩ := rows_spec named compiled answers ready k rows.length
  have some : ((rows.drop k).take (pageOf o)).isEmpty = false := by
    have := pageOf_pos o
    rw [List.isEmpty_eq_false_iff, ← List.length_pos_iff]
    simp
    omega
  refine ⟨s', ?_, asked, kept⟩
  rw [next?, if_neg (by simpa using more), bind_ok read, some]
  rfl

end

/-- The rows after those that were read are handed over page by page, and counted. -/
theorem each_spec (named : t.name ≠ "")
    (compiled : Filter.fragment? decl (cond o) = .ok filter)
    (answers : Answers t o decl schema binding I rows) {f : List Row → WithinM τ σ Unit}
    (keeps : ∀ page a a' s s', Ready t o decl schema binding I s →
      f page (a, s) = (.ok (), (a', s')) → Ready t o decl schema binding I s')
    {fuel k : Nat} (enough : rows.length ≤ k + fuel) (a : τ) (s : Session σ)
    (ready : Ready t o decl schema binding I s) :
    ∃ r y, Handed (AskedFor t o decl schema binding) f k (pagesOf (pageOf o) (rows.drop k)) (a, s)
        r y ∧
      each f fuel ⟨t, o, pageOf o, k, rows.length⟩ (a, s) =
        (r.map fun _ => (rows.drop k).length, y) := by
  -- each page has a row at least, so the fuel lasts as long as there are rows
  induction fuel generalizing k a s with
  | zero =>
    have empty : rows.drop k = [] := List.drop_eq_nil_of_le enough
    rw [empty, pagesOf_nil]
    exact ⟨_, _, .done k (a, s), rfl⟩
  | succ fuel ih =>
    by_cases more : k < rows.length
    · obtain ⟨s₁, read, asked, ready₁⟩ := next?_spec named compiled answers ready more
      have left : rows.drop k ≠ [] := by
        rw [← List.length_pos_iff, List.length_drop]
        omega
      have rest : (rows.drop k).drop (pageOf o) =
          rows.drop (k + ((rows.drop k).take (pageOf o)).length) := by
        rw [← drop_length_take, List.drop_drop]
      have size : ((rows.drop k).take (pageOf o)).length +
          (rows.drop (k + ((rows.drop k).take (pageOf o)).length)).length =
            (rows.drop k).length := by
        rw [← rest, ← List.length_append, List.take_append_drop]
      have progress : 0 < ((rows.drop k).take (pageOf o)).length := by
        have := pageOf_pos o
        simp only [List.length_take, List.length_drop]
        omega
      rw [pagesOf_of_ne_nil (pageOf_pos o) left, rest]
      generalize (rows.drop k).take (pageOf o) = page at *
      have asks : (next? ⟨t, o, pageOf o, k, rows.length⟩).within (a, s) = _ :=
        (SessionM.within_apply _ a s).trans (by rw [read])
      rw [each, bind_ok asks]
      dsimp only
      rcases handed : f page (a, s₁) with ⟨e | u, a', s₂⟩
      · exact ⟨_, _, .failed asked handed, bind_error handed _⟩
      · obtain ⟨r, y, others, ran⟩ := ih (k := k + page.length) (by omega) a' s₂
          (keeps page a a' s₁ s₂ ready₁ handed)
        refine ⟨r, y, .next asked handed others, ?_⟩
        rw [bind_ok handed]
        cases r with
        | error e => exact bind_error ran _
        | ok v =>
          refine (bind_ok ran _).trans ?_
          rw [← size]
          rfl
    · have empty : rows.drop k = [] := List.drop_eq_nil_of_le (by omega)
      have ends : (next? ⟨t, o, pageOf o, k, rows.length⟩).within (a, s) = (.ok none, (a, s)) := by
        rw [SessionM.within_apply, next?, if_pos (by simpa using more)]
        rfl
      rw [empty, pagesOf_nil]
      exact ⟨_, _, .done k (a, s), by rw [each, bind_ok ends]; rfl⟩

/-- An export that cannot start fails, and sends nothing. -/
theorem start_refused (ready : Ready t o decl schema binding I s) (refused : ¬ Startable t o decl) :
    ∃ m s', start t o s = (.error (.usage m), s') ∧ s.Asked binding .pool none s' := by
  cases undeclared : o.fields.filter (!t.hasColumn ·) with
  | cons f fs =>
    refine ⟨"cannot export undeclared columns: " ++ ", ".intercalate (f :: fs), s, ?_,
      .refl ready.tidy⟩
    simp only [start, undeclared]
    rfl
  | nil =>
    have declared : ∀ f ∈ o.fields, t.hasColumn f = true := by
      intro f hf
      simpa using (List.filter_eq_nil_iff.mp undeclared) f hf
    have mistaken : t.name = "" ∨ ∃ m, Filter.fragment? decl (cond o) = .error m := by
      by_contra right
      obtain ⟨named, written⟩ := not_or.mp right
      refine refused ⟨named, declared, ?_⟩
      cases compiled : Filter.fragment? decl (cond o) with
      | error m => exact absurd ⟨m, compiled⟩ written
      | ok _ => rfl
    obtain ⟨m, unwritten⟩ := outcome_refused schema binding mistaken
    obtain ⟨tag, supply, s', ran, asked⟩ :=
      Session.withBuilder_runs .pool ready.tidy trivial
        (BuilderM.runs_count (σ := σ)) [.filter (cond o)] rfl t.name schema
    rw [ready.decl, unwritten] at ran asked
    refine ⟨m, s', ?_, asked⟩
    have counts : Rows.count t (cond o) o.schema s = (.error (.usage m), s') := by
      rw [Rows.count, Rows.withBuilder, bind_ok (get_apply s), ready.schema]
      exact ran
    simp only [start, undeclared]
    exact bind_error counts _

/-- **An export neither skips nor repeats a row.**  Let a database answer the queries of an export
from one list of rows, whatever the condition, the offset and the size of a page.  An export that
can start ends: no page is empty, and the pages one after the other are the list without the rows
that are passed over.  A function that leaves the session ready is handed these pages, each after
the query for it, and the result is the number of their rows unless the function fails.  An export
that cannot start fails, and nothing is sent. -/
theorem pages_handed (answers : Answers t o decl schema binding I rows)
    (ready : Ready t o decl schema binding I s) :
    let k := (max o.offset 0).toNat
    let pages := pagesOf (pageOf o) (rows.drop k)
    (Startable t o decl →
      (∀ page ∈ pages, page ≠ []) ∧ pages.flatten = rows.drop k ∧
      (∃ s', Rows.exportPages t o s = (.ok (pages, none), s')) ∧
      ∀ {τ : Type} (f : List Row → WithinM τ σ Unit),
        (∀ page a a' s s', Ready t o decl schema binding I s →
          f page (a, s) = (.ok (), (a', s')) → Ready t o decl schema binding I s') →
        ∀ a : τ, ∃ filter tag s₁ r y, Filter.fragment? decl (cond o) = .ok filter ∧
          s.Asked binding .pool (some (countQuery t schema filter binding tag)) s₁ ∧
          Handed (AskedFor t o decl schema binding) f k pages (a, s₁) r y ∧
          ((∀ page ∈ pages, ∀ x, (f page x).1 = .ok ()) → r = .ok ()) ∧
          Rows.exportEach t o f (a, s) = (r.map fun _ => pages.flatten.length, y)) ∧
    (¬ Startable t o decl →
      ∃ m s', s.Asked binding .pool none s' ∧
        Rows.exportPages t o s = (.error (.usage m), s') ∧
        ∀ {τ : Type} (f : List Row → WithinM τ σ Unit) (a : τ),
          Rows.exportEach t o f (a, s) = (.error (.usage m), (a, s'))) := by
  intro k pages
  refine ⟨fun startable => ?_, fun refused => ?_⟩
  · have named := startable.named
    obtain ⟨filter, compiled⟩ : ∃ filter, Filter.fragment? decl (cond o) = .ok filter := by
      have written := startable.written
      cases compiled : Filter.fragment? decl (cond o) with
      | error m => rw [compiled] at written; cases written
      | ok filter => exact ⟨filter, rfl⟩
    obtain ⟨tag, s₁, started, asked, ready₁⟩ :=
      start_spec named compiled answers ready startable.declared
    have enough : rows.length ≤ k + ((rows.length : Int) - (k : Int)).toNat := by omega
    refine ⟨fun page => ne_nil_of_mem_pagesOf, flatten_pagesOf _ _, ?_, fun f keeps a => ?_⟩
    · obtain ⟨r, y, handed, ran⟩ := each_spec named compiled answers
        (f := fun page => WithinM.modifyOwn (· ++ [page]))
        (fun page a a' s s' ready pushed => by cases pushed; exact ready) enough [] s₁ ready₁
      obtain ⟨rfl, collected⟩ := handed.collected
      refine ⟨y.2, (bind_ok started _).trans ?_⟩
      refine (bind_ok (WithinM.runFrom_apply _ _ _) _).trans ?_
      have all : y.1 = pages := collected
      rw [show (_ : Except Error Nat × _) = _ from ran, all]
      rfl
    · obtain ⟨r, y, handed, ran⟩ := each_spec named compiled answers keeps enough a s₁ ready₁
      refine ⟨filter, tag, s₁, r, y, compiled, asked, handed, handed.isOk, ?_⟩
      have starts : (start t o).within (a, s) = _ :=
        (SessionM.within_apply _ a s).trans (by rw [started])
      rw [Rows.exportEach, bind_ok starts, flatten_pagesOf]
      exact ran
  · obtain ⟨m, s', failed, asked⟩ := start_refused ready refused
    refine ⟨m, s', asked, bind_error failed _, fun f a => ?_⟩
    have fails : (start t o).within (a, s) = _ :=
      (SessionM.within_apply _ a s).trans (by rw [failed])
    exact bind_error fails _

end

end Export

/-- A database with the books of a shop. -/
structure Shelf where
  /-- The books that are not sold, in the order of their numbers. -/
  unsold : List Row

namespace Shelf

/-- The query for two unsold books after some others, up to the number of these. -/
def lead : String :=
  "SELECT id FROM public.books WHERE (sold IS NULL) ORDER BY id LIMIT 2 OFFSET "

instance : Backend Shelf where
  answer _ sql _ d :=
    match Text.after? lead sql with
    | some text =>
      (.ok { rows := (d.unsold.drop ((Text.digits? text.toList).getD 0)).take 2 }, d)
    | none => (.ok { rows := [[("total", .int d.unsold.length)]] }, d)
  connect d := (.ok (), d)

/-- The table of the books. -/
def books : TableDecl where
  name := "books"
  columns := [("id", { type := "int" }), ("sold", { type := "date" })]
  primaryKey := some (.single "id")

/-- The unsold books are exported in pages of two. -/
def stockOnly : ExportOptions where
  cond := some (.entries [("sold", .eq .null)])
  fields := ["id"]
  pageSize := some 2
  offset := -1

/-- The filter for unsold books. -/
def filter : Fragment := .ofText "sold IS NULL"

theorem compiled :
    Filter.fragment? (some books) (Export.cond stockOnly) = .ok (some filter) := by
  have plain : Sql.ident "sold" = "sold" := by decide +kernel
  show Except.ok (some (Fragment.ofText (Sql.ident "sold" ++ " IS NULL"))) = _
  rw [plain]
  rfl

theorem place : Sql.qualified "public" "books" = "public.books" := by decide +kernel

theorem countQuery_eq (tag : DollarTag) :
    (Export.countQuery books "public" (some filter) .parameterized tag).sql =
      "SELECT count(*) AS total FROM public.books WHERE (sold IS NULL)" := by
  show _ ++ Sql.qualified "public" "books" ++ _ = _
  rw [place]
  rfl

theorem pageQuery_eq (tag : DollarTag) (k : Nat) :
    (Export.pageQuery books stockOnly (some books) "public" (some filter) .parameterized tag 2
      k).sql = lead ++ toString k := by
  have columns : Draft.columnsSql (Export.columns (some books) stockOnly) = "id" := by
    decide +kernel
  have order : Draft.orderSql (Builder.appendText [] (Export.order books)) = " ORDER BY id" := by
    decide +kernel
  rw [Export.pageQuery, columns, order, ← String.append_assoc]
  show _ ++ Sql.qualified "public" "books" ++ _ ++ _ ++ _ ++ _ = _
  rw [place]
  rfl

/-- Whatever the tag, the shelf answers the queries for unsold books from its list. -/
theorem answers {unsold : List Row} (few : unsold.length < Nat.pow 2 63) :
    Export.Answers books stockOnly (some books) "public" .parameterized (· = Shelf.mk unsold)
      unsold := by
  constructor
  · rintro f written tag d rfl
    cases Except.ok.inj (written.symm.trans compiled)
    have other : Text.after? lead
        "SELECT count(*) AS total FROM public.books WHERE (sold IS NULL)" = none := by
      decide +kernel
    refine ⟨{ rows := [[("total", .int unsold.length)]] }, _, ?_, ?_, rfl⟩
    · rw [countQuery_eq]
      simp only [Backend.answer, other]
    · show (if (unsold.length : Int) < Nat.pow 2 63 then (unsold.length : Int) else 0) = _
      rw [if_pos (by exact_mod_cast few)]
  · rintro f written tag k d rfl
    cases Except.ok.inj (written.symm.trans compiled)
    have read : Text.after? lead (lead ++ toString k) = some (toString k) :=
      Text.after?_eq_some_iff.mpr rfl
    refine ⟨{ rows := (unsold.drop k).take 2 }, _, ?_, rfl, rfl⟩
    rw [show Export.pageOf stockOnly = 2 from rfl, pageQuery_eq]
    simp only [Backend.answer, read, Text.digits?_toString]
    rfl

/-- Three unsold books. -/
def stock : List Row := [[("id", .int 3)], [("id", .int 5)], [("id", .int 8)]]

/-- A new session over the shelf. -/
def session : Session Shelf where
  database := ⟨stock⟩
  supply := Builder.still
  tables := [books]

end Shelf

/-- The three books come in two pages. -/
theorem Export.pages_handed_books :
    Export.Answers Shelf.books Shelf.stockOnly (some Shelf.books) "public" .parameterized
        (· = Shelf.mk Shelf.stock) Shelf.stock ∧
      Export.Ready Shelf.books Shelf.stockOnly (some Shelf.books) "public" .parameterized
        (· = Shelf.mk Shelf.stock) Shelf.session ∧
      ∃ s', Rows.exportPages Shelf.books Shelf.stockOnly Shelf.session =
        (.ok ([[[("id", .int 3)], [("id", .int 5)]], [[("id", .int 8)]]], none), s') := by
  have few : Shelf.stock.length < Nat.pow 2 63 := by decide
  have answers := Shelf.answers few
  have ready : Export.Ready Shelf.books Shelf.stockOnly (some Shelf.books) "public" .parameterized
      (· = Shelf.mk Shelf.stock) Shelf.session := by
    refine ⟨rfl, ⟨⟨rfl, rfl, rfl, Nat.zero_le _, ?_⟩, ?_⟩, rfl, ?_⟩
    · exact fun b hb => absurd hb List.not_mem_nil
    · exact fun q hq => absurd hq List.not_mem_nil
    · simp [Shelf.session, Tables.get?, Shelf.books]
  have startable : Export.Startable Shelf.books Shelf.stockOnly (some Shelf.books) := by
    refine ⟨by decide, by decide, ?_⟩
    rw [Shelf.compiled]
    rfl
  obtain ⟨-, -, ⟨s', exported⟩, -⟩ := (Export.pages_handed answers ready).1 startable
  refine ⟨answers, ready, s', exported.trans ?_⟩
  have passed : (max Shelf.stockOnly.offset 0).toNat = 0 := rfl
  have two : pageOf Shelf.stockOnly = 2 := rfl
  rw [passed, two]
  simp [pagesOf, Shelf.stock]

end TableMapper
