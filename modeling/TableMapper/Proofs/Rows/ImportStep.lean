import TableMapper.Proofs.Builder.Assignment
import TableMapper.Proofs.Builder.Conjunction
import TableMapper.Proofs.Builder.Insertion
import TableMapper.Proofs.Rows.Sorting

/-!
# Statements of an import

* `Row.Within` relates a row to the one that is written for it.
* `Import.Step` is a call of an import on the table.
* `Import.Tells` tells what the statement of a step says, and `Import.tells_step` that it says so.
-/

namespace TableMapper

/-! ### Rows to be written -/

namespace Row

/-- A row has the values of another one, but for those that are null. -/
def Within (row written : Row) : Prop :=
  ∀ name v, row.get? name = some v →
    ∃ v', written.get? name = some v' ∧ (v.isNull = false → v' = v)

variable {row row' row'' : Row}

theorem Within.refl (row : Row) : row.Within row := fun _ v there => ⟨v, there, fun _ => rfl⟩

theorem Within.trans (h : row.Within row') (h' : row'.Within row'') : row.Within row'' := by
  intro name v there
  obtain ⟨v', there', same⟩ := h name v there
  obtain ⟨v'', there'', same'⟩ := h' name v' there'
  refine ⟨v'', there'', fun given => ?_⟩
  rw [same given] at same'
  exact same' given

/-- A value is set where there is none, or null. -/
theorem within_insert {name : String} (h : ((row.get? name).getD .null).isNull = true)
    (value : Json) : row.Within (row.insert name value) := by
  intro k v there
  rw [get?_insert]
  split_ifs with same
  · subst same
    refine ⟨value, rfl, fun given => ?_⟩
    rw [there, Option.getD_some, given] at h
    cases h
  · exact ⟨v, there, fun _ => rfl⟩

/-- Rows to be written have names if the rows that are given have any. -/
theorem Within.ne_nil (h : row.Within row') (some : row ≠ []) : row' ≠ [] := by
  obtain ⟨m, rest, rfl⟩ := List.exists_cons_of_ne_nil some
  obtain ⟨v, there, -⟩ := h m.1 m.2 (by rw [get?_cons, if_pos rfl])
  rintro rfl
  cases there

end Row

theorem TableDecl.within_stampColumn (t : TableDecl) (now : Int) (row : Row) (column : String) :
    row.Within (t.stampColumn now row column) := by
  unfold stampColumn
  split_ifs with said
  · exact .refl row
  · refine Row.within_insert ?_ _
    have absent : column ∉ row.names := fun there => said (by simp [there])
    rw [← Row.isSome_get?_iff, Option.not_isSome_iff_eq_none] at absent
    rw [absent]
    rfl

/-- Timestamps are set where the row says nothing. -/
theorem TableDecl.within_stamp (t : TableDecl) (now : Int) (inserting : Bool) (row : Row) :
    row.Within (t.stamp now inserting row) := by
  unfold stamp
  induction t.stamped inserting generalizing row with
  | nil => exact .refl row
  | cons column columns ih => exact (t.within_stampColumn now row column).trans (ih _)

namespace Builder

theorem within_fillId (column : String) (strategy : Option IdStrategy) (row : Row)
    (supply : IdSupply) : row.Within (fillId column strategy row supply).1 := by
  unfold fillId
  split_ifs with missing
  · split
    · exact Row.within_insert missing _
    · exact .refl row
    · exact .refl row
  · exact .refl row

variable {rows rows' : List Row}

theorem forall₂_within_fillIdsIn (column : String) (strategy : Option IdStrategy)
    (h : List.Forall₂ Row.Within rows rows') (supply : IdSupply) :
    List.Forall₂ Row.Within rows (fillIdsIn column strategy rows' supply).1 := by
  induction h generalizing supply with
  | nil => exact .nil
  | @cons row row' rows rows' first _ ih =>
    exact .cons (first.trans (within_fillId column strategy row' supply)) (ih _)

/-- Keys are filled in where there are none. -/
theorem forall₂_within_fillIds (b : Builder) (h : List.Forall₂ Row.Within rows rows')
    (supply : IdSupply) : List.Forall₂ Row.Within rows (b.fillIds rows' supply).1 := by
  unfold fillIds
  split
  · exact h
  · exact forall₂_within_fillIdsIn _ _ h supply

theorem columnsOf_ne_nil {row : Row} (hr : row ∈ rows) (some : row ≠ []) : columnsOf rows ≠ [] := by
  obtain ⟨m, rest, rfl⟩ := List.exists_cons_of_ne_nil some
  refine List.ne_nil_of_mem (mem_columnsOf_iff.mpr ⟨_, hr, ?_⟩ : m.1 ∈ columnsOf rows)
  rw [Row.get?_cons, if_pos rfl]
  rfl

/-- Rows without columns cannot be inserted in one statement. -/
theorem outcome_insertAll_of_columnsOf {b : Builder} {table : String}
    (bound : b.table = some table) {supply : IdSupply}
    (none : columnsOf (b.fillIds rows supply).1 = []) :
    ∃ e, b.outcome (.insertAll rows) supply = .error e := by
  obtain ⟨m, mistaken⟩ : ∃ m, (b.prepare (.insertAll rows) supply).1.draft.mistake = some m := by
    simp only [prepare, prepareInsert]
    split
    · exact ⟨_, rfl⟩
    · exact ⟨_, by simp only [insertion, none]; rfl⟩
  have kept : (b.prepare (.insertAll rows) supply).1.table = b.table := by
    have same := congrArg Builder.table (b.cleared_prepare (.insertAll rows) supply)
    exact same
  refine ⟨.usage m, ?_⟩
  simp only [outcome, statement, kept, bound, Draft.render, Draft.fragment, mistaken]
  rfl

end Builder

namespace Import

/-- A call of an import on the table. -/
inductive Step where
  /-- Inserts rows in one statement. -/
  | insert (rows : List Row)
  /-- Deletes the rows with the keys of these rows. -/
  | delete (rows : List Row)
  /-- Asks which of the keys of these rows are in the table. -/
  | lookup (rows : List Row)
  /-- Updates the row with the key of this row. -/
  | update (row : Row)

/-- The key of a row, as a value. -/
def keyValue (i : Import) (row : Row) : Value := Value.ofJson ((row.get? i.key).getD .null)

namespace Step

/-- The rows that a step inserts. -/
def inserted : Step → List Row
  | insert rows => rows
  | _ => []

/-- The rows whose keys a step deletes. -/
def deleted : Step → List Row
  | delete rows => rows
  | _ => []

/-- The rows that a step updates. -/
def updated : Step → List Row
  | update row => [row]
  | _ => []

variable (i : Import)

/-- The clauses of the statement of a step. -/
def clauses : Step → List Clause
  | insert _ => []
  | delete rows => [.filter (i.among rows)]
  | lookup rows => [.filter (i.among rows), .fields [i.key]]
  | update row => [.filter (Condition.empty.eq i.key (i.keyValue (i.stamp false row)))]

/-- The terminal of a step. -/
def terminal : Step → Terminal
  | insert rows => .insertAll (rows.map (i.stamp true))
  | delete _ => .delete
  | lookup _ => .select
  | update row => .update (.columns (i.stamp false row))

/-- The step is about rows that carry their keys, or inserts. -/
def Keyed (key : String) : Step → Prop
  | insert _ => True
  | delete rows => rows ≠ [] ∧ ∀ row ∈ rows, Sorted.hasKey key row = true
  | lookup rows => rows ≠ [] ∧ ∀ row ∈ rows, Sorted.hasKey key row = true
  | update row => Sorted.hasKey key row = true

/-- The statement of the step cannot be written: the table has no name, or no row that is to be
inserted has a column. -/
def Unwritable (step : Step) : Prop :=
  i.decl.name = "" ∨ ∃ rows, step = insert rows ∧ ∀ row ∈ rows, row = []

end Step

section

variable (i : Import) (decl : Option TableDecl) (binding : Binding) (tag : DollarTag)

/-- The builder of a step with its clauses. -/
def bound (clauses : List Clause) : Builder :=
  i.transaction.target.bound binding tag i.decl.name i.schema decl clauses

/-- The table, as it stands in a statement. -/
def place : String := Sql.qualified i.schema i.decl.name

/-- What the statement of a step says. -/
inductive Tells (i : Import) (decl : Option TableDecl) (binding : Binding) :
    Step → Statement → Prop
  /-- An insertion has a tuple for each row, with the timestamps and the keys that were filled
  in. -/
  | insert (rows written : List Row) (tag : DollarTag) (supply : IdSupply) (st : Statement)
      (grid : List (List String))
      (filled : written =
        ((i.bound decl binding tag []).fillIds (rows.map (i.stamp true)) supply).1)
      (within : List.Forall₂ Row.Within rows written)
      (sql : st.sql = "INSERT INTO " ++ i.place ++ " (" ++
        ",".intercalate ((Builder.columnsOf written).map Sql.ident) ++ ") VALUES " ++
        ",".intercalate (grid.map fun cells => "(" ++ ",".intercalate cells ++ ")"))
      (cells : List.Forall₂ (fun row cells => List.Forall₂
          (fun column text => ((i.bound decl binding tag []).cellPiece row column).Stands binding
            tag st.args text)
          (Builder.columnsOf written) cells)
        written grid) :
      Tells i decl binding (.insert rows) st
  /-- A deletion names the keys of its rows. -/
  | delete (rows : List Row) (tag : DollarTag) (st : Statement) (text : String)
      (sql : st.sql = "DELETE FROM " ++ i.place ++ " WHERE (" ++ text ++ ")")
      (reads : Test.Reads decl binding tag st.args [.among i.key (rows.map i.keyValue)] text) :
      Tells i decl binding (.delete rows) st
  /-- A query for keys names the keys of its rows. -/
  | lookup (rows : List Row) (tag : DollarTag) (st : Statement) (text : String)
      (sql : st.sql = "SELECT " ++ Sql.ident i.key ++ " FROM " ++ i.place ++ " WHERE (" ++ text ++
        ")")
      (reads : Test.Reads decl binding tag st.args [.among i.key (rows.map i.keyValue)] text) :
      Tells i decl binding (.lookup rows) st
  /-- An update assigns the values of its row, with the timestamps, where the key is that of the
  row. -/
  | update (row : Row) (tag : DollarTag) (st : Statement) (sets text : String)
      (within : row.Within (i.stamp false row))
      (sql : st.sql = "UPDATE " ++ i.place ++ " SET " ++ sets ++ " WHERE (" ++ text ++ ")")
      (assigns : (i.bound decl binding tag []).Assigns st.args (i.stamp false row) sets)
      (reads : Test.Reads decl binding tag st.args [.equals i.key (i.keyValue row)] text) :
      Tells i decl binding (.update row) st

end

/-! ### Writing the statements -/

variable {i : Import} {decl : Option TableDecl} {binding : Binding} {tag : DollarTag}

theorem keyValue_within {row written : Row} (h : row.Within written)
    (keyed : Sorted.hasKey i.key row = true) : i.keyValue written = i.keyValue row := by
  obtain ⟨v, there, given⟩ := Sorted.hasKey_iff.mp keyed
  obtain ⟨v', there', same⟩ := h _ v there
  rw [keyValue, keyValue, there, there', same given]

theorem keyValue_ne_null {row : Row} (keyed : Sorted.hasKey i.key row = true) :
    i.keyValue row ≠ .null := by
  obtain ⟨v, there, given⟩ := Sorted.hasKey_iff.mp keyed
  rw [keyValue, there, Option.getD_some]
  cases v with
  | null => cases given
  | int n =>
    simp only [Value.ofJson]
    split <;> exact Value.noConfusion
  | _ => exact Value.noConfusion

theorem among_eq {rows : List Row} (keyed : ∀ row ∈ rows, Sorted.hasKey i.key row = true) :
    i.among rows = .entries [(i.key, .among (rows.map i.keyValue))] := by
  have values : (rows.filterMap fun row => (row.get? i.key).map Value.ofJson) =
      rows.map i.keyValue := by
    rw [← List.filterMap_eq_map]
    refine List.filterMap_congr fun row hr => ?_
    obtain ⟨v, there, -⟩ := Sorted.hasKey_iff.mp (keyed row hr)
    simp [keyValue, there]
  rw [among, values]
  rfl

/-- The condition on the keys of rows is a test. -/
theorem fragment?_among {rows : List Row} (some : rows ≠ [])
    (keyed : ∀ row ∈ rows, Sorted.hasKey i.key row = true) :
    Filter.fragment? decl (i.among rows) =
      .ok (Option.some (Test.conjunction decl [.among i.key (rows.map i.keyValue)])) := by
  rw [among_eq keyed]
  refine Filter.fragment?_of_tests (List.cons_ne_nil _ _) (by simp [Comparison.IsTest]) ?_
  obtain ⟨row, rest, rfl⟩ := List.exists_cons_of_ne_nil some
  rfl

theorem fragment?_equals {row : Row} (keyed : Sorted.hasKey i.key row = true) :
    Filter.fragment? decl (Condition.empty.eq i.key (i.keyValue row)) =
      .ok (some (Test.conjunction decl [.equals i.key (i.keyValue row)])) := by
  refine Filter.fragment?_of_tests (List.cons_ne_nil _ _) (by simp [Comparison.IsTest]) ?_
  have given := keyValue_ne_null keyed
  cases there : i.keyValue row with
  | null => exact absurd there given
  | _ => rfl

section

variable (named : i.decl.name ≠ "")

include named

theorem tells_delete {rows : List Row} (keyed : (Step.delete rows).Keyed i.key)
    (supply : IdSupply) :
    ∃ st, (i.bound decl binding tag ((Step.delete rows).clauses i)).outcome
      ((Step.delete rows).terminal i) supply = .ok st ∧ i.Tells decl binding (.delete rows) st := by
  let test : Fragment := Test.conjunction decl [.among i.key (rows.map i.keyValue)]
  have prepared : ((i.transaction.target.drafted binding tag i.decl.name i.schema decl
      { filters := [test] }).prepare .delete supply).1 =
        i.transaction.target.drafted binding tag i.decl.name i.schema decl
          { command := some .delete, filters := [test] } := rfl
  have written : (i.bound decl binding tag ((Step.delete rows).clauses i)).outcome
      ((Step.delete rows).terminal i) supply =
        .ok { sql := "DELETE FROM " ++ i.place ++ Draft.restriction binding tag 0 (some test)
              args := Fragment.arguments binding test } := by
    rw [bound, Step.clauses, Target.bound_filter (fragment?_among keyed.1 keyed.2)]
    refine (congrArg Builder.statement prepared).trans ?_
    have own : ({ command := some .delete, filters := [test] } : Draft).filters =
      (some test).toList := rfl
    rw [Target.statement_drafted named rfl rfl rfl, Draft.assemble, Except.map,
      Draft.render_deletion own rfl]
    rfl
  have reads := Test.reads_conjunction decl binding tag [] []
    [.among i.key (rows.map i.keyValue)]
  rw [List.nil_append, List.append_nil] at reads
  refine ⟨_, written, .delete rows tag _ _ ?_ reads⟩
  show "DELETE FROM " ++ i.place ++ (" WHERE (" ++ _ ++ ")") = _
  simp only [String.append_assoc]
  rfl

theorem tells_lookup {rows : List Row} (keyed : (Step.lookup rows).Keyed i.key)
    (supply : IdSupply) :
    ∃ st, (i.bound decl binding tag ((Step.lookup rows).clauses i)).outcome
      ((Step.lookup rows).terminal i) supply = .ok st ∧ i.Tells decl binding (.lookup rows) st := by
  let test : Fragment := Test.conjunction decl [.among i.key (rows.map i.keyValue)]
  let b := i.transaction.target.drafted binding tag i.decl.name i.schema decl { filters := [test] }
  have prepared : ((b.addAll [.fields [i.key]]).prepare .select supply).1 =
      i.transaction.target.drafted binding tag i.decl.name i.schema decl
        { command := some .select, fields := [i.key], filters := [test] } := rfl
  have written : (i.bound decl binding tag ((Step.lookup rows).clauses i)).outcome
      ((Step.lookup rows).terminal i) supply =
        .ok { sql := "SELECT " ++ Draft.columnsSql [i.key] ++ " FROM " ++ i.place ++
                Draft.restriction binding tag 0 (some test) ++ Draft.orderSql [] ++ ""
              args := Fragment.arguments binding test } := by
    rw [bound, Step.clauses, Target.bound_filter (fragment?_among keyed.1 keyed.2)]
    refine (congrArg Builder.statement prepared).trans ?_
    have own : ({ command := some .select, fields := [i.key], filters := [test] } : Draft).filters =
      (some test).toList := rfl
    rw [Target.statement_drafted named rfl rfl rfl, Draft.assemble, Except.map,
      Draft.render_query own rfl rfl rfl rfl]
    rfl
  have reads := Test.reads_conjunction decl binding tag [] []
    [.among i.key (rows.map i.keyValue)]
  rw [List.nil_append, List.append_nil] at reads
  refine ⟨_, written, .lookup rows tag _ _ ?_ reads⟩
  have column : Draft.columnsSql [i.key] = Sql.ident i.key := by
    show ",".intercalate [Sql.ident i.key] = _
    exact String.intercalate_singleton
  show "SELECT " ++ Draft.columnsSql [i.key] ++ " FROM " ++ i.place ++ (" WHERE (" ++ _ ++ ")") ++
    "" ++ "" = _
  rw [column, String.append_empty, String.append_empty]
  simp only [String.append_assoc]
  rfl

theorem tells_update {row : Row} (keyed : (Step.update row).Keyed i.key) (supply : IdSupply) :
    ∃ st, (i.bound decl binding tag ((Step.update row).clauses i)).outcome
      ((Step.update row).terminal i) supply = .ok st ∧ i.Tells decl binding (.update row) st := by
  have within : row.Within (i.stamp false row) := i.decl.within_stamp i.now false row
  have key : i.keyValue (i.stamp false row) = i.keyValue row := keyValue_within within keyed
  have filled : (UpdateData.columns (i.stamp false row)).isEmpty = false := by
    have some : row ≠ [] := by
      rintro rfl
      cases keyed
    simpa [UpdateData.isEmpty] using within.ne_nil some
  let test : Fragment := Test.conjunction decl [.equals i.key (i.keyValue row)]
  let b := i.bound decl binding tag []
  let values := b.assignments (.columns (i.stamp false row))
  have given : values.isEmpty = false := by simpa using b.assignments_ne_nil filled
  have prepared : ((i.transaction.target.drafted binding tag i.decl.name i.schema decl
      { filters := [test] }).prepare (.update (.columns (i.stamp false row))) supply).1 =
        i.transaction.target.drafted binding tag i.decl.name i.schema decl
          { command := Option.some .update, filters := [test], values } := by
    rw [Builder.prepare, Builder.prepareUpdate, Builder.modifyDraft]
    simp only [filled]
    rfl
  have written : (i.bound decl binding tag ((Step.update row).clauses i)).outcome
      ((Step.update row).terminal i) supply =
        .ok { sql := "UPDATE " ++ i.place ++ " SET " ++
                Fragment.sqlAfter binding tag 0 values ++
                Draft.restriction binding tag (Fragment.count binding values) (Option.some test)
              args := Fragment.arguments binding values ++ Fragment.arguments binding test } := by
    rw [bound, Step.clauses, key, Target.bound_filter (fragment?_equals keyed)]
    refine (congrArg Builder.statement prepared).trans ?_
    rw [Target.statement_drafted named rfl rfl rfl, Draft.assemble]
    simp only [given]
    have own : ({ command := Option.some .update, filters := [test], values } : Draft).filters =
      (Option.some test).toList := rfl
    rw [if_neg Bool.false_ne_true, Except.map, Draft.render_update own rfl]
    rfl
  have reads := Test.reads_conjunction decl binding tag (Fragment.arguments binding values) []
    [.equals i.key (i.keyValue row)]
  rw [List.append_nil] at reads
  refine ⟨_, written, .update row tag _ _ _ within ?_ (b.assigns_assignments _ _) reads⟩
  show "UPDATE " ++ i.place ++ " SET " ++ _ ++ (" WHERE (" ++ _ ++ ")") = _
  simp only [String.append_assoc]
  rfl

/-- An insertion is written if there is a column, and else no row has one. -/
theorem tells_insert (rows : List Row) (supply : IdSupply) :
    (∃ st, (i.bound decl binding tag ((Step.insert rows).clauses i)).outcome
      ((Step.insert rows).terminal i) supply = .ok st ∧ i.Tells decl binding (.insert rows) st) ∨
    (∃ e, (i.bound decl binding tag ((Step.insert rows).clauses i)).outcome
      ((Step.insert rows).terminal i) supply = .error e) ∧ ∀ row ∈ rows, row = [] := by
  let b := i.bound decl binding tag []
  let written := (b.fillIds (rows.map (i.stamp true)) supply).1
  have within : List.Forall₂ Row.Within rows written := by
    refine b.forall₂_within_fillIds (List.forall₂_map_right_iff.mpr ?_) supply
    exact List.forall₂_same.mpr fun row _ => i.decl.within_stamp i.now true row
  have bound : b.table = Option.some i.decl.name := by
    simp [b, Import.bound, Target.bound_nil, Target.drafted, Builder.bind, named]
  by_cases columns : Builder.columnsOf written = []
  · refine .inr ⟨Builder.outcome_insertAll_of_columnsOf bound columns, fun row hr => ?_⟩
    by_contra some
    obtain ⟨filled, hf, own⟩ := exists_of_forall₂ within.flip row hr
    exact Builder.columnsOf_ne_nil hf (Row.Within.ne_nil own some) columns
  have some : rows.map (i.stamp true) ≠ [] := by
    intro none
    rw [List.map_eq_nil_iff.mp none] at within
    rw [List.forall₂_nil_left_iff.mp within] at columns
    exact columns rfl
  obtain ⟨-, made⟩ := Builder.outcome_insertion bound rfl
    (t := .insertAll (rows.map (i.stamp true))) rfl some supply columns
  obtain ⟨grid, sql, -, cells⟩ := Builder.render_insertion (b := b) i.place
    (Builder.columnsOf written) written (Draft.isText_listClause " RETURNING " [])
  refine .inl ⟨_, made, .insert rows written tag supply _ grid rfl within
    (sql.trans String.append_empty) cells⟩

end

variable (decl binding tag) in
/-- **The statement of a step** tells what the step does, unless it cannot be written. -/
theorem tells_step (step : Step) (keyed : step.Keyed i.key) (supply : IdSupply) :
    (∃ st, (i.bound decl binding tag (step.clauses i)).outcome (step.terminal i) supply = .ok st ∧
      i.Tells decl binding step st) ∨
    (∃ e, (i.bound decl binding tag (step.clauses i)).outcome (step.terminal i) supply =
      .error e) ∧ step.Unwritable i := by
  by_cases named : i.decl.name = ""
  · exact .inr ⟨⟨_, Target.outcome_unnamed named _ _ supply⟩, .inl named⟩
  · cases step with
    | insert rows =>
      exact (tells_insert named rows supply).imp_right fun h => ⟨h.1, .inr ⟨rows, rfl, h.2⟩⟩
    | delete rows => exact .inl (tells_delete named keyed supply)
    | lookup rows => exact .inl (tells_lookup named keyed supply)
    | update row => exact .inl (tells_update named keyed supply)

end Import

end TableMapper
