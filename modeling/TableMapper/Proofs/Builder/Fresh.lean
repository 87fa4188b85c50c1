import TableMapper.Proofs.Builder.Filtered
import TableMapper.Proofs.Session.Pools

/-!
# Statements of new builders

A call on a table uses a new builder for one plain statement: on one table, with one condition at
most.

* `Target.bound` is a new builder for a table with some clauses, and `Target.drafted` one with a
  draft.
* `Draft.restriction` is the text of a condition.
* `Draft.render_query`, `Draft.render_deletion` and `Draft.render_update` are plain statements.
-/

namespace TableMapper

/-- A new builder of a target for a table, with clauses. -/
def Target.bound (home : Target) (binding : Binding) (tag : DollarTag) (table schema : String)
    (decl : Option TableDecl) (clauses : List Clause) : Builder :=
  ((home.newBuilder binding tag).bind table schema decl .inUse).addAll clauses

/-- A new builder of a target for a table, with a draft. -/
def Target.drafted (home : Target) (binding : Binding) (tag : DollarTag) (table schema : String)
    (decl : Option TableDecl) (d : Draft) : Builder :=
  { (home.newBuilder binding tag).bind table schema decl .inUse with draft := d }

section

variable {home : Target} {binding : Binding} {tag : DollarTag} {table schema : String}
  {decl : Option TableDecl}

theorem Target.target_bound (home : Target) (clauses : List Clause) :
    (home.bound binding tag table schema decl clauses).target = home := by
  have same := congrArg Builder.target (Builder.spent_addAll
    ((home.newBuilder binding tag).bind table schema decl .inUse) clauses)
  exact same

theorem Target.bound_nil :
    home.bound binding tag table schema decl [] = home.drafted binding tag table schema decl {} :=
  rfl

/-- A condition that can be written is the filter of a new builder. -/
theorem Target.bound_filter {c : Condition} {filter : Option Fragment}
    (compiled : Filter.fragment? decl c = .ok filter) (clauses : List Clause) :
    home.bound binding tag table schema decl (.filter c :: clauses) =
      (home.drafted binding tag table schema decl { filters := filter.toList }).addAll clauses := by
  have own : (Builder.bind table schema decl .inUse (home.newBuilder binding tag)).decl = decl :=
    rfl
  rw [bound, Builder.addAll, List.foldl_cons]
  congr 1
  simp only [Builder.add]
  rw [own, compiled]
  cases filter <;> rfl

theorem Target.statement_drafted (named : table ≠ "") {d : Draft} {c : Command}
    (command : d.command = some c) (clean : d.mistake = none) (own : d.schema = none) :
    (home.drafted binding tag table schema decl d).statement =
      (d.assemble (Sql.qualified schema table) c).map (Fragment.render binding tag) := by
  have bound : (home.drafted binding tag table schema decl d).table = some table := by
    simp [drafted, Builder.bind, named]
  simp only [Builder.statement, bound]
  show Draft.render d schema table binding tag = _
  simp only [Draft.render, Draft.fragment, command, clean, own]
  rfl

/-- Without a name of a table there is no statement. -/
theorem Target.outcome_unnamed (unnamed : table = "") (clauses : List Clause) (t : Terminal)
    (supply : IdSupply) :
    (home.bound binding tag table schema decl clauses).outcome t supply =
      .error (.usage "no table bound to this builder") := by
  have free : (home.bound binding tag table schema decl clauses).table = none := by
    rw [bound, Builder.table_addAll]
    simp [Builder.bind, unnamed]
  have kept := congrArg Builder.table
    ((home.bound binding tag table schema decl clauses).cleared_prepare t supply)
  have unbound : ((home.bound binding tag table schema decl clauses).prepare t supply).1.table =
      none := kept.trans free
  simp only [Builder.outcome, Builder.statement, unbound]

end

namespace Draft

variable {binding : Binding} {tag : DollarTag} {filter : Option Fragment} {d : Draft}

/-- The text of a condition, after some arguments. -/
def restriction (binding : Binding) (tag : DollarTag) (n : Nat) : Option Fragment → String
  | none => ""
  | some f => " WHERE (" ++ Fragment.sqlAfter binding tag n f ++ ")"

theorem sqlAfter_restriction (h : d.filters = filter.toList) (n : Nat) :
    Fragment.sqlAfter binding tag n d.whereClause = restriction binding tag n filter := by
  rw [sqlAfter_whereClause, h]
  cases filter with
  | none => rfl
  | some f =>
    have opening : " WHERE (" = " WHERE " ++ "(" := rfl
    simp only [Option.toList_some, Fragment.sqlsAfter, whereSql, restriction]
    rw [if_neg (by simp), List.map_singleton, String.intercalate_singleton, opening,
      String.append_assoc, String.append_assoc, String.append_assoc]

theorem arguments_restriction (h : d.filters = filter.toList) :
    Fragment.arguments binding d.whereClause = Fragment.arguments binding (filter.getD []) := by
  rw [arguments_whereClause, h]
  cases filter <;> simp

/-- The text of the columns of a query. -/
def columnsSql (fields : List String) : String :=
  if fields.isEmpty then "*" else ",".intercalate (fields.map Sql.ident)

/-- The text of the order of a query. -/
def orderSql (order : List String) : String :=
  if order.isEmpty then "" else " ORDER BY " ++ ",".intercalate order

theorem render_query (h : d.filters = filter.toList) (shortName : d.shortName = none)
    (joins : d.joins = []) (group : d.group = []) (lock : d.lock = none) (place : String) :
    Fragment.render binding tag (d.queryBody place ++ d.limitClause ++ d.lockClause) =
      { sql := "SELECT " ++ columnsSql d.fields ++ " FROM " ++ place ++
          restriction binding tag 0 filter ++ orderSql d.order ++
          Fragment.sqlAfter binding tag 0 d.limitClause
        args := Fragment.arguments binding (filter.getD []) } := by
  have order : Fragment.sqlAfter binding tag 0 (listClause " ORDER BY " d.order) =
      orderSql d.order := by
    unfold listClause orderSql
    split
    · rfl
    · exact Fragment.sqlAfter_ofText 0 _
  have tail := isText_listClause " ORDER BY " d.order
  have cap := d.isText_limitClause
  have whole : d.queryBody place ++ d.limitClause ++ d.lockClause =
      Fragment.ofText ("SELECT " ++ columnsSql d.fields ++ " FROM " ++ place) ++
        (d.whereClause ++ (listClause " ORDER BY " d.order ++ d.limitClause)) := by
    simp [queryBody, columnsSql, lockClause, shortName, joins, group, lock, listClause]
  rw [whole]
  refine Statement.mk.injEq .. ▸ ⟨?_, ?_⟩
  · show Fragment.sqlAfter binding tag 0 _ = _
    rw [Fragment.sqlAfter_append, Fragment.sqlAfter_append, (tail.append cap).sqlAfter_eq,
      Fragment.sqlAfter_append 0 (listClause _ _), cap.sqlAfter_eq, order,
      Fragment.sqlAfter_ofText, show Fragment.count binding (Fragment.ofText _) = 0 from rfl,
      Nat.zero_add, sqlAfter_restriction h]
    simp only [String.append_assoc]
  · show Fragment.arguments binding _ = _
    rw [Fragment.arguments_append, Fragment.arguments_append, Fragment.arguments_append,
      tail.arguments_eq, cap.arguments_eq, arguments_restriction h]
    exact List.append_nil _

theorem render_deletion (h : d.filters = filter.toList) (returning : d.returning = [])
    (place : String) :
    Fragment.render binding tag
        (.sql ("DELETE FROM " ++ place) :: (d.whereClause ++ d.returningClause)) =
      { sql := "DELETE FROM " ++ place ++ restriction binding tag 0 filter
        args := Fragment.arguments binding (filter.getD []) } := by
  have nothing : d.returningClause = [] := by rw [returningClause, returning]; rfl
  refine Statement.mk.injEq .. ▸ ⟨?_, ?_⟩
  · show Fragment.sqlAfter binding tag 0 _ = _
    rw [nothing, List.append_nil, Fragment.sqlAfter_sql_cons, sqlAfter_restriction h]
  · show Fragment.arguments binding _ = _
    rw [nothing, List.append_nil, Fragment.arguments_sql_cons, arguments_restriction h]

theorem render_update (h : d.filters = filter.toList) (returning : d.returning = [])
    (place : String) :
    Fragment.render binding tag
        (.sql ("UPDATE " ++ place ++ " SET ") ::
          (d.values ++ d.whereClause ++ d.returningClause)) =
      { sql := "UPDATE " ++ place ++ " SET " ++ Fragment.sqlAfter binding tag 0 d.values ++
          restriction binding tag (Fragment.count binding d.values) filter
        args := Fragment.arguments binding d.values ++
          Fragment.arguments binding (filter.getD []) } := by
  have nothing : d.returningClause = [] := by rw [returningClause, returning]; rfl
  refine Statement.mk.injEq .. ▸ ⟨?_, ?_⟩
  · show Fragment.sqlAfter binding tag 0 _ = _
    rw [nothing, List.append_nil, Fragment.sqlAfter_sql_cons, Fragment.sqlAfter_append,
      sqlAfter_restriction h, Nat.zero_add]
    simp only [String.append_assoc]
  · show Fragment.arguments binding _ = _
    rw [nothing, List.append_nil, Fragment.arguments_sql_cons, Fragment.arguments_append,
      arguments_restriction h]

end Draft

end TableMapper
