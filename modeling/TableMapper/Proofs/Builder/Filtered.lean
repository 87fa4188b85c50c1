import TableMapper.Proofs.Session.Isolation
import TableMapper.Proofs.Sql.Draft
import TableMapper.Proofs.Sql.Numbering

/-!
# Statements with filters

Queries, updates and deletions are about the rows that their filters let through.

* `Terminal.filtered?` are the terminals whose statements have filters, and `Terminal.IsComplete`
  says that nothing is missing from such a terminal.
* `Draft.assemble_filtered`: the WHERE clause stands between two fragments that the filters have no
  part in, and `Draft.sqlAfter_whereClause` is its text.
* `Clause.filter?` is the filter that a clause adds, and `Builder.filters_addAll` are those of
  several clauses.
* `Builder.outcome_withFilters` is the statement of such a terminal, and
  `Builder.outcome_filtered` says that it fails or has all filters.
-/

namespace TableMapper

namespace Fragment

variable {binding : Binding} {tag : DollarTag} {f : Fragment}

theorem IsText.arguments_eq (h : IsText f) : arguments binding f = [] := by
  rw [arguments, List.filterMap_eq_nil_iff]
  intro p hp
  obtain ⟨s, rfl⟩ := h p hp
  rfl

/-- The text of a fragment without values is the same after any arguments. -/
theorem IsText.sqlAfter_eq (h : IsText f) (n : Nat) :
    sqlAfter binding tag n f = sqlAfter binding tag 0 f := by
  induction f generalizing n with
  | nil => rfl
  | cons p f ih =>
    obtain ⟨s, rfl⟩ := h p List.mem_cons_self
    rw [sqlAfter_sql_cons, sqlAfter_sql_cons, ih fun q hq => h q (List.mem_cons_of_mem _ hq)]

end Fragment

namespace Draft

/-- What stands before the filters of a statement. -/
def beforeFilters (d : Draft) (target : String) : Command → Fragment
  | .select | .get => d.queryHead target
  | .update => .sql ("UPDATE " ++ target ++ " SET ") :: d.values
  | .delete => Fragment.ofText ("DELETE FROM " ++ target)
  | .insert | .insertAll => []

/-- What stands after the filters of a statement. -/
def afterFilters (d : Draft) : Command → Fragment
  | .select => d.queryTail ++ d.limitClause ++ d.lockClause
  | .get => d.queryTail ++ d.oneRowClause ++ d.lockClause
  | .update | .delete => d.returningClause
  | .insert | .insertAll => []

theorem isText_afterFilters (d : Draft) (c : Command) : (d.afterFilters c).IsText := by
  cases c with
  | select => exact (d.isText_queryTail.append d.isText_limitClause).append d.isText_lockClause
  | get => exact (d.isText_queryTail.append d.isText_oneRowClause).append d.isText_lockClause
  | update => exact isText_listClause _ _
  | delete => exact isText_listClause _ _
  | insert => exact Fragment.isText_nil
  | insertAll => exact Fragment.isText_nil

/-- The draft with other filters. -/
def withFilters (filters : List Fragment) (d : Draft) : Draft := { d with filters }

theorem beforeFilters_withFilters (filters : List Fragment) (d : Draft) (target : String)
    (c : Command) :
    (d.withFilters filters).beforeFilters target c = d.beforeFilters target c := by
  cases c <;> rfl

theorem afterFilters_withFilters (filters : List Fragment) (d : Draft) (c : Command) :
    (d.withFilters filters).afterFilters c = d.afterFilters c := by
  cases c <;> rfl

theorem assemble_filtered {d : Draft} {c : Command} (kind : c ≠ .insert ∧ c ≠ .insertAll)
    (values : c = .update → d.values ≠ []) (target : String) :
    d.assemble target c =
      .ok (d.beforeFilters target c ++ d.whereClause ++ d.afterFilters c) := by
  cases c with
  | select =>
    simp only [assemble, queryBody_eq, beforeFilters, afterFilters, List.append_assoc]
  | get =>
    simp only [assemble, queryBody_eq, beforeFilters, afterFilters, List.append_assoc]
  | insert => exact absurd rfl kind.1
  | insertAll => exact absurd rfl kind.2
  | update =>
    have some : d.values.isEmpty = false := by simpa using values rfl
    simp [assemble, some, beforeFilters, afterFilters]
  | delete => rfl

/-- The text of a WHERE clause, from the texts of its filters. -/
def whereSql (filters : List String) : String :=
  if filters.isEmpty then ""
  else " WHERE " ++ " AND ".intercalate (filters.map fun s => "(" ++ s ++ ")")

theorem arguments_whereClause (binding : Binding) (d : Draft) :
    Fragment.arguments binding d.whereClause = Fragment.arguments binding d.filters.flatten := by
  unfold whereClause
  split_ifs with none
  · rw [List.isEmpty_iff.mp none]
    rfl
  · rw [Fragment.arguments_sql_cons, Fragment.arguments_join]
    induction d.filters with
    | nil => rfl
    | cons f fs ih =>
      rw [List.map_cons, List.flatten_cons, List.cons_append, Fragment.arguments_sql_cons,
        Fragment.arguments_append, Fragment.arguments_append, ih, List.flatten_cons,
        Fragment.arguments_append]
      exact congrArg (· ++ _) (List.append_nil _)

theorem sqlsAfter_parenthesized (binding : Binding) (tag : DollarTag) (n : Nat)
    (fs : List Fragment) :
    Fragment.sqlsAfter binding tag n (fs.map fun f => Piece.sql "(" :: (f ++ [.sql ")"])) =
      (Fragment.sqlsAfter binding tag n fs).map fun s => "(" ++ s ++ ")" := by
  induction fs generalizing n with
  | nil => rfl
  | cons f fs ih =>
    have count : Fragment.count binding (Piece.sql "(" :: (f ++ [.sql ")"])) =
        Fragment.count binding f := by
      rw [Fragment.count_sql_cons, Fragment.count_append]
      rfl
    have closing : Fragment.sqlAfter binding tag (n + Fragment.count binding f) [.sql ")"] = ")" :=
      Fragment.sqlAfter_ofText _ _
    rw [List.map_cons, Fragment.sqlsAfter, ih, count, Fragment.sqlAfter_sql_cons,
      Fragment.sqlAfter_append, closing, ← String.append_assoc]
    rfl

theorem sqlAfter_whereClause (binding : Binding) (tag : DollarTag) (n : Nat) (d : Draft) :
    Fragment.sqlAfter binding tag n d.whereClause =
      whereSql (Fragment.sqlsAfter binding tag n d.filters) := by
  unfold whereClause whereSql
  cases d.filters with
  | nil => rfl
  | cons f fs =>
    rw [if_neg (by simp), if_neg (by simp [Fragment.sqlsAfter]), Fragment.sqlAfter_sql_cons,
      Fragment.sqlAfter_join, sqlsAfter_parenthesized]

end Draft

/-- The filter that a clause adds. -/
def Clause.filter? (decl : Option TableDecl) : Clause → Option Fragment
  | .filter c =>
    match Filter.fragment? decl c with
    | .ok f => f
    | .error _ => none
  | _ => none

namespace Terminal

/-- The kind of statement that a terminal ends, if it is one with filters. -/
def filtered? : Terminal → Option Command
  | .select | .aggregate _ _ => some .select
  | .get => some .get
  | .update _ => some .update
  | .delete => some .delete
  | .insert _ | .insertAll _ => none

/-- An update has something to write, and an aggregate is a known one. -/
def IsComplete : Terminal → Prop
  | .update data => data.isEmpty = false
  | .aggregate function _ => Builder.aggregates.contains function = true
  | _ => True

theorem filtered?_kind {t : Terminal} {c : Command} (h : t.filtered? = some c) :
    c ≠ .insert ∧ c ≠ .insertAll := by
  cases t <;> cases h <;> simp

end Terminal

namespace Builder

/-- The builder with other filters. -/
def withFilters (filters : List Fragment) (b : Builder) : Builder :=
  b.modifyDraft (·.withFilters filters)

theorem assignments_ne_nil (b : Builder) {data : UpdateData} (h : data.isEmpty = false) :
    b.assignments data ≠ [] := by
  cases data with
  | raw sql => simp [assignments, Fragment.ofText]
  | columns row =>
    obtain ⟨member, row, rfl⟩ : ∃ m r, row = m :: r := by
      cases row with
      | nil => cases h
      | cons m r => exact ⟨m, r, rfl⟩
    have first : b.assignment member ≠ [] := by
      unfold assignment
      split <;> simp [Fragment.ofText]
    cases row with
    | nil => simpa [assignments, Fragment.join] using first
    | cons m r => simp [assignments, Fragment.join]

/-! ### What clauses leave as it is -/

@[simp] theorem table_addAll (b : Builder) (clauses : List Clause) :
    (b.addAll clauses).table = b.table := by
  have same := congrArg Builder.table (b.spent_addAll clauses)
  exact same

@[simp] theorem decl_addAll (b : Builder) (clauses : List Clause) :
    (b.addAll clauses).decl = b.decl := by
  have same := congrArg Builder.decl (b.spent_addAll clauses)
  exact same

@[simp] theorem binding_addAll (b : Builder) (clauses : List Clause) :
    (b.addAll clauses).binding = b.binding := by
  have same := congrArg Builder.binding (b.spent_addAll clauses)
  exact same

@[simp] theorem tag_addAll (b : Builder) (clauses : List Clause) :
    (b.addAll clauses).tag = b.tag := by
  have same := congrArg Builder.tag (b.spent_addAll clauses)
  exact same

/-! ### Filters -/

theorem filters_add (b : Builder) (c : Clause) :
    (b.add c).draft.filters = b.draft.filters ++ (c.filter? b.decl).toList := by
  cases c with
  | filter c =>
    simp only [add, Clause.filter?]
    split
    next f written => simp [written, modifyDraft]
    next empty => simp [empty]
    next message wrong => simp [wrong, modifyDraft, Draft.fail]
  | _ => simp [add, Clause.filter?, modifyDraft]

/-- The filters of clauses, in the order of the clauses. -/
theorem filters_addAll (b : Builder) (clauses : List Clause) :
    (b.addAll clauses).draft.filters =
      b.draft.filters ++ clauses.filterMap (Clause.filter? b.decl) := by
  unfold addAll
  induction clauses generalizing b with
  | nil => simp
  | cons c clauses ih =>
    rw [List.foldl_cons, ih, filters_add, decl_add, List.filterMap_cons]
    cases c.filter? b.decl <;> simp

variable {b : Builder} {t : Terminal} {c : Command}

theorem draft_prepare_withFilters (h : t.filtered? = some c) (filters : List Fragment)
    (supply : IdSupply) :
    ((b.withFilters filters).prepare t supply).1.draft =
      (b.prepare t supply).1.draft.withFilters filters := by
  cases t with
  | insert row => cases h
  | insertAll rows => cases h
  | select => rfl
  | get => rfl
  | delete => rfl
  | update data =>
    simp only [prepare, prepareUpdate, modifyDraft]
    split <;> rfl
  | aggregate function field =>
    simp only [prepare, prepareAggregate, modifyDraft]
    split <;> rfl

theorem draft_prepare_filtered (h : t.filtered? = some c) (complete : t.IsComplete)
    (supply : IdSupply) :
    (b.prepare t supply).1.draft.command = some c ∧
      (b.prepare t supply).1.draft.mistake = b.draft.mistake ∧
      (b.prepare t supply).1.draft.schema = b.draft.schema ∧
      (c = .update → (b.prepare t supply).1.draft.values ≠ []) := by
  cases t with
  | insert row => cases h
  | insertAll rows => cases h
  | select => cases h; exact ⟨rfl, rfl, rfl, by simp⟩
  | get => cases h; exact ⟨rfl, rfl, rfl, by simp⟩
  | delete => cases h; exact ⟨rfl, rfl, rfl, by simp⟩
  | update data =>
    cases h
    have some : data.isEmpty = false := complete
    simp only [prepare, prepareUpdate, modifyDraft, some]
    exact ⟨rfl, rfl, rfl, fun _ => b.assignments_ne_nil some⟩
  | aggregate function field =>
    cases h
    have known : aggregates.contains function = true := complete
    simp only [prepare, prepareAggregate, modifyDraft, known]
    exact ⟨rfl, rfl, rfl, by simp⟩

/-- The statement of a terminal with filters, of a builder for a table: the WHERE clause stands
between two parts that do not depend on the filters. -/
theorem outcome_withFilters {table : String} (bound : b.table = some table)
    (clean : b.draft.mistake = none) (h : t.filtered? = some c) (complete : t.IsComplete)
    (supply : IdSupply) :
    ∃ (head : Fragment) (foot : String), ∀ filters : List Fragment,
      (b.withFilters filters).outcome t supply = .ok
        { sql := Fragment.sqlAfter b.binding b.tag 0 head ++
            Draft.whereSql
              (Fragment.sqlsAfter b.binding b.tag (head.count b.binding) filters) ++ foot
          args := head.arguments b.binding ++ Fragment.arguments b.binding filters.flatten } := by
  obtain ⟨command, mistake, named, values⟩ := draft_prepare_filtered (b := b) h complete supply
  let d := (b.prepare t supply).1.draft
  let target := Sql.qualified b.schemaName table
  refine ⟨d.beforeFilters target c,
    Fragment.sqlAfter b.binding b.tag 0 (d.afterFilters c), fun filters => ?_⟩
  -- all but the draft is as it was before
  have cleared := (b.withFilters filters).cleared_prepare t supply
  have there := congrArg Builder.table cleared
  have schema := congrArg Builder.schema cleared
  have tag := congrArg Builder.tag cleared
  have binding := congrArg Builder.binding cleared
  simp only [Builder.cleared] at there schema tag binding
  have assembled := Draft.assemble_filtered (d := d.withFilters filters)
    (Terminal.filtered?_kind h) values target
  rw [Draft.beforeFilters_withFilters, Draft.afterFilters_withFilters] at assembled
  have written : (b.withFilters filters).outcome t supply =
      .ok (Fragment.render b.binding b.tag (d.beforeFilters target c ++
        (d.withFilters filters).whereClause ++ d.afterFilters c)) := by
    simp only [outcome, statement, there, schema, tag, binding, draft_prepare_withFilters h]
    simp only [withFilters, modifyDraft, bound, Draft.render, Draft.fragment]
    simp only [Draft.withFilters, mistake, clean, command, named]
    exact congrArg (Except.map (Fragment.render b.binding b.tag)) assembled
  have tail := d.isText_afterFilters c
  rw [written]
  congr 1
  refine Statement.mk.injEq .. ▸ ⟨?_, ?_⟩
  · show Fragment.sqlAfter b.binding b.tag 0 _ = _
    rw [Fragment.sqlAfter_append, Fragment.sqlAfter_append, Draft.sqlAfter_whereClause,
      tail.sqlAfter_eq, Nat.zero_add]
    rfl
  · show Fragment.arguments b.binding _ = _
    rw [Fragment.arguments_append, Fragment.arguments_append, Draft.arguments_whereClause,
      tail.arguments_eq, List.append_nil]
    rfl

/-- Without what a terminal needs there is no statement. -/
theorem outcome_incomplete (h : t.filtered? = some c) (incomplete : ¬ t.IsComplete)
    (supply : IdSupply) : ∃ message, b.outcome t supply = .error (.usage message) := by
  have mistaken : ∃ m, (b.prepare t supply).1.draft.mistake = some m := by
    cases t with
    | insert row => cases h
    | insertAll rows => cases h
    | select => exact absurd trivial incomplete
    | get => exact absurd trivial incomplete
    | delete => exact absurd trivial incomplete
    | update data =>
      have none : data.isEmpty = true := by simpa [Terminal.IsComplete] using incomplete
      simp [prepare, prepareUpdate, modifyDraft, none, Draft.fail]
    | aggregate function field =>
      have unknown : aggregates.contains function = false := by
        simpa [Terminal.IsComplete] using incomplete
      simp only [prepare, prepareAggregate, modifyDraft, unknown]
      simp [Draft.fail]
  obtain ⟨m, mistaken⟩ := mistaken
  unfold outcome statement
  cases (b.prepare t supply).1.table with
  | none => exact ⟨_, rfl⟩
  | some table =>
    refine ⟨m, ?_⟩
    simp only [Draft.render, Draft.fragment, mistaken]
    rfl

/-- A terminal with filters fails, or there was no mistake and its statement has all of them. -/
theorem outcome_filtered (b : Builder) (h : t.filtered? = some c) (supply : IdSupply) :
    (∃ e, b.outcome t supply = .error e) ∨ b.draft.mistake = none ∧
      ∃ (head : Fragment) (foot : String) (st : Statement), b.outcome t supply = .ok st ∧
        st.sql = Fragment.sqlAfter b.binding b.tag 0 head ++
          Draft.whereSql
            (Fragment.sqlsAfter b.binding b.tag (head.count b.binding) b.draft.filters) ++
          foot := by
  cases bound : b.table with
  | none =>
    have kept := congrArg Builder.table (b.cleared_prepare t supply)
    have unbound : (b.prepare t supply).1.table = none := kept.trans bound
    exact .inl ⟨_, by rw [outcome, statement, unbound]⟩
  | some table =>
    cases mistaken : b.draft.mistake with
    | some m =>
      exact .inl ⟨_, outcome_of_mistake (Option.isSome_of_eq_some bound) mistaken t supply⟩
    | none =>
      by_cases complete : t.IsComplete
      · obtain ⟨head, foot, written⟩ := outcome_withFilters bound mistaken h complete supply
        exact .inr ⟨rfl, head, foot, _, written b.draft.filters, rfl⟩
      · obtain ⟨message, failed⟩ := outcome_incomplete h complete supply
        exact .inl ⟨_, failed⟩

/-- A supply without random choices. -/
def still : IdSupply := { now := 0, counter := 0, random := .cycle [] }

/-- A builder for a table of users. -/
def users : Builder where
  tag := ⟨"ouvxwz"⟩
  binding := .parameterized
  target := .pool
  table := some "users"
  decl := some
    { name := "users"
      columns :=
        [("id", { type := "varchar(16)" }), ("name", { type := "varchar(30)" }),
          ("age", { type := "int" })]
      primaryKey := some (.single "id") }

end Builder

end TableMapper
