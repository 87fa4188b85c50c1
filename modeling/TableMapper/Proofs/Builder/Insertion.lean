import TableMapper.Proofs.Builder.Filter
import TableMapper.Proofs.Builder.Filtered

/-!
# Inserted rows

* `Row.get?_insert` is what a row has under a name after one value was set.
* `Row.IsKeyed` relates a row to the one with its key filled in.
* `Builder.isKeyed_fillIds` says so of the rows of an insertion and of the keys that it reports.
* `Builder.pairwise_eraseDups` and `Builder.mem_columnsOf_iff` are about the columns of rows.
* `Builder.render_insertion` is the text of an insertion: a grid of cells, one for each row and
  column.
* `Builder.insertion_faithful` puts both together.
-/

namespace TableMapper

namespace Row

theorem get?_cons (k : String) (m : String × Json) (row : Row) :
    get? k (m :: row) = if k = m.1 then some m.2 else row.get? k := by
  unfold get?
  rw [List.lookup_cons]
  by_cases first : k = m.1
  · simp [first]
  · simp [first, beq_false_of_ne first]

/-- What a row has under a name after a value was set. -/
theorem get?_insert (name k : String) (value : Json) (row : Row) :
    (row.insert name value).get? k = if k = name then some value else row.get? k := by
  induction row with
  | nil => exact get?_cons k (name, value) []
  | cons m row ih =>
    obtain ⟨n, v⟩ := m
    rw [insert]
    by_cases before : name < n
    · rw [if_pos before, get?_cons]
    by_cases equal : name = n
    · subst equal
      rw [if_neg before, if_pos rfl, get?_cons, get?_cons]
      split_ifs <;> rfl
    · rw [if_neg before, if_neg equal, get?_cons, ih, get?_cons]
      by_cases first : k = n
      · subst first
        rw [if_pos rfl, if_neg (Ne.symm equal), if_pos rfl]
      · rw [if_neg first, if_neg first]

theorem isSome_get?_iff (row : Row) (name : String) :
    (row.get? name).isSome = true ↔ name ∈ row.names := by
  induction row with
  | nil => simp [get?, names]
  | cons m row ih =>
    rw [get?_cons, names, List.map_cons, List.mem_cons, ← names, ← ih]
    by_cases first : name = m.1 <;> simp [first]

/-- A row with its key filled in: a row with a key is as it was, and any other one has a key that
was made by the strategy, and nothing else that is new. -/
def IsKeyed (strategy : IdStrategy) (column : String) (row filled : Row) : Prop :=
  (∃ id, filled.get? column = some id ∧ id.isNull = false ∧
      if ((row.get? column).getD .null).isNull then
        ∃ supply, (strategy.generate supply).1 = some id
      else filled = row) ∧
    ∀ other, other ≠ column → filled.get? other = row.get? other

end Row

namespace IdStrategy

/-- A strategy other than the one of making no keys makes one, which is not null. -/
theorem generate_some {s : IdStrategy} (h : s ≠ .none) (supply : IdSupply) :
    ∃ id supply', s.generate supply = (some id, supply') ∧ id.isNull = false := by
  cases s with
  | none => exact absurd rfl h
  | short len lead => exact ⟨_, _, rfl, rfl⟩
  | long minLen => exact ⟨_, _, rfl, rfl⟩
  | serial len => exact ⟨_, _, rfl, rfl⟩
  | big => exact ⟨_, _, rfl, rfl⟩

end IdStrategy

/-- The rows that a terminal inserts, if it is an insertion. -/
def Terminal.inserted? : Terminal → Option (List Row)
  | .insert row => some [row]
  | .insertAll rows => some rows
  | _ => none

namespace TableDecl

/-- Keys that are generated go to a column. -/
theorem idColumn?_of_idStrategy? {d : TableDecl} {s : IdStrategy} (h : d.idStrategy? = some s) :
    s ≠ .none ∧ ∃ column, d.idColumn? = some column := by
  cases auto : d.autoId with
  | false => simp [idStrategy?, auto] at h
  | true =>
    simp only [idStrategy?, auto, Bool.not_true, Bool.false_eq_true, if_false] at h
    obtain ⟨-, -, h⟩ := Option.bind_eq_some_iff.mp h
    obtain ⟨column, there, chosen⟩ := Option.bind_eq_some_iff.mp h
    split_ifs at chosen with none
    cases chosen
    exact ⟨none, column, there⟩

end TableDecl

namespace Builder

variable {b : Builder}

/-! ### Keys -/

/-- Filling in a key makes one if there is none. -/
theorem isKeyed_fillId {s : IdStrategy} (h : s ≠ .none) (column : String) (row : Row)
    (supply : IdSupply) : row.IsKeyed s column (fillId column (some s) row supply).1 := by
  unfold fillId
  by_cases missing : ((row.get? column).getD .null).isNull = true
  · obtain ⟨id, supply', made, given⟩ := IdStrategy.generate_some h supply
    rw [if_pos missing]
    simp only [Option.map_some, made]
    refine ⟨⟨id, by rw [Row.get?_insert, if_pos rfl], given, ?_⟩, fun other different => ?_⟩
    · rw [if_pos missing]
      exact ⟨supply, by rw [made]⟩
    · rw [Row.get?_insert, if_neg different]
  · rw [if_neg missing]
    cases there : row.get? column with
    | none => simp [there, Json.isNull] at missing
    | some id =>
      have given : id.isNull = false := by simpa [there] using missing
      refine ⟨⟨id, there, given, ?_⟩, fun _ _ => rfl⟩
      rw [if_neg missing]

theorem forall₂_fillIdsIn {s : IdStrategy} (h : s ≠ .none) (column : String) (rows : List Row)
    (supply : IdSupply) :
    List.Forall₂ (Row.IsKeyed s column) rows (fillIdsIn column (some s) rows supply).1 := by
  induction rows generalizing supply with
  | nil => exact .nil
  | cons row rows ih => exact .cons (isKeyed_fillId h column row supply) (ih _)

theorem fillIdsIn_none (column : String) (rows : List Row) (supply : IdSupply) :
    fillIdsIn column none rows supply = (rows, supply) := by
  induction rows generalizing supply with
  | nil => rfl
  | cons row rows ih =>
    have same : fillId column none row supply = (row, supply) := by
      unfold fillId
      split_ifs <;> rfl
    simp only [fillIdsIn, same, ih]

/-- Each row with a key gives that key. -/
theorem forall₂_idsOf {column : String} {rows : List Row}
    (keyed : ∀ row ∈ rows, ∃ id, row.get? column = some id ∧ id.isNull = false) :
    List.Forall₂ (fun row id => Row.get? column row = some id ∧ id.isNull = false) rows
      (idsOf column rows) := by
  unfold idsOf
  induction rows with
  | nil => exact .nil
  | cons row rows ih =>
    obtain ⟨id, there, given⟩ := keyed row List.mem_cons_self
    rw [List.filterMap_cons_some (by rw [there, Option.filter_some_pos (by simpa using given)])]
    exact .cons ⟨there, given⟩ (ih fun r hr => keyed r (List.mem_cons_of_mem _ hr))

/-- The keys that an insertion fills in and reports. -/
theorem isKeyed_fillIds {d : TableDecl} (declared : b.decl = some d) {s : IdStrategy}
    (strategy : d.idStrategy? = some s) (rows : List Row) (supply : IdSupply) :
    ∃ column, d.idColumn? = some column ∧
      List.Forall₂ (Row.IsKeyed s column) rows (b.fillIds rows supply).1 ∧
      List.Forall₂ (fun row id => Row.get? column row = some id ∧ id.isNull = false)
        (b.fillIds rows supply).1 (b.fillIds rows supply).2.1 := by
  obtain ⟨makes, column, there⟩ := TableDecl.idColumn?_of_idStrategy? strategy
  have keyed := forall₂_fillIdsIn makes column rows supply
  refine ⟨column, there, ?_⟩
  simp only [fillIds, declared, Option.bind_some, there, Option.map_some, strategy]
  refine ⟨keyed, forall₂_idsOf fun row hr => ?_⟩
  obtain ⟨_, -, ⟨id, present, given, -⟩, -⟩ := exists_of_forall₂ keyed row hr
  exact ⟨id, present, given⟩

/-- Without a strategy the rows are as they were given. -/
theorem fillIds_of_none (none : ∀ d, b.decl = some d → d.idStrategy? = none) (rows : List Row)
    (supply : IdSupply) : (b.fillIds rows supply).1 = rows := by
  unfold fillIds
  cases declared : b.decl with
  | none => rfl
  | some d =>
    cases there : d.idColumn? with
    | none => simp [there]
    | some column => simp [there, none d declared, fillIdsIn_none]

/-! ### Columns -/

theorem idxOf_filter_lt_iff {α : Type} [BEq α] [LawfulBEq α] {p : α → Bool} {a c : α}
    (ha : p a = true) (hc : p c = true) (l : List α) :
    (l.filter p).idxOf a < (l.filter p).idxOf c ↔ l.idxOf a < l.idxOf c := by
  induction l with
  | nil => rfl
  | cons x l ih =>
    by_cases left : p x = true
    · rw [List.filter_cons_of_pos left, List.idxOf_cons, List.idxOf_cons, List.idxOf_cons,
        List.idxOf_cons]
      cases x == a <;> cases x == c <;> simp [ih]
    · have other_a : (x == a) = false := beq_false_of_ne fun same => left (same ▸ ha)
      have other_c : (x == c) = false := beq_false_of_ne fun same => left (same ▸ hc)
      rw [List.filter_cons_of_neg left, ih, List.idxOf_cons, List.idxOf_cons, other_a, other_c]
      simp

/-- Without repetitions a list is in the order in which its entries appear first. -/
theorem pairwise_eraseDups {α : Type} [BEq α] [LawfulBEq α] (l : List α) :
    l.eraseDups.Pairwise fun a c => l.idxOf a < l.idxOf c := by
  -- behind its first entry the list loses all copies of that one, so it is the length that decreases
  induction h : l.length using Nat.strongRecOn generalizing l with
  | ind n ih =>
    subst h
    cases l with
    | nil => exact .nil
    | cons x l =>
      have rest := ih _ (Nat.lt_succ_of_le (List.length_filter_le (fun a => !a == x) l)) _ rfl
      have other : ∀ a ∈ (l.filter fun a => !a == x).eraseDups, (!a == x) = true := by
        intro a ha
        exact (List.mem_filter.mp (List.mem_eraseDups.mp ha)).2
      rw [List.eraseDups_cons, List.pairwise_cons]
      refine ⟨fun a ha => ?_, rest.imp_of_mem fun {a c} ha hc before => ?_⟩
      · have different : x ≠ a := fun same => by simpa [same] using other a ha
        simp [List.idxOf_cons, beq_false_of_ne different]
      · have different_a : x ≠ a := fun same => by simpa [same] using other a ha
        have different_c : x ≠ c := fun same => by simpa [same] using other c hc
        have before := (idxOf_filter_lt_iff (p := fun a => !a == x) (other a ha) (other c hc) l).mp
          before
        simpa [List.idxOf_cons, beq_false_of_ne different_a, beq_false_of_ne different_c]

theorem mem_columnsOf_iff {rows : List Row} {column : String} :
    column ∈ columnsOf rows ↔ ∃ row ∈ rows, (Row.get? column row).isSome = true := by
  simp only [columnsOf, List.mem_eraseDups, List.mem_flatMap, Row.isSome_get?_iff]

/-! ### Cells -/

/-- The piece in the cell of a row under a column: the value as the column takes it, or the default
of the column if the row has none. -/
def cellPiece (b : Builder) (row : Row) (column : String) : Piece :=
  match row.get? column with
  | some v => Filter.operand b.decl column true (Value.ofJson v)
  | none => .sql "DEFAULT"

theorem cell_eq (row : Row) (column : String) : b.cell row column = [b.cellPiece row column] := by
  unfold cell cellPiece
  cases row.get? column with
  | none => rfl
  | some v => exact Filter.columnValue_eq column (Value.ofJson v) true

theorem arguments_tuple (columns : List String) (row : Row) :
    Fragment.arguments b.binding (b.tuple columns row) =
      Fragment.arguments b.binding (columns.map (b.cellPiece row)) := by
  have cells : (columns.map (b.cell row)).flatten = columns.map (b.cellPiece row) := by
    simp only [funext (cell_eq (b := b) row)]
    rw [← List.flatMap_def, ← List.map_eq_flatMap]
  rw [tuple, Fragment.arguments_sql_cons, Fragment.arguments_append, Fragment.arguments_join,
    cells]
  exact List.append_nil _

theorem arguments_tuples (columns : List String) (rows : List Row) :
    Fragment.arguments b.binding (rows.map (b.tuple columns)).flatten =
      Fragment.arguments b.binding
        (rows.map fun row => columns.map (b.cellPiece row)).flatten := by
  induction rows with
  | nil => rfl
  | cons row rows ih =>
    rw [List.map_cons, List.flatten_cons, Fragment.arguments_append, ih, arguments_tuple,
      ← Fragment.arguments_append]
    rfl

theorem sqlAfter_tuple (n : Nat) (columns : List String) (row : Row) :
    Fragment.sqlAfter b.binding b.tag n (b.tuple columns row) =
      "(" ++ ",".intercalate
        (Fragment.texts b.binding b.tag n (columns.map (b.cellPiece row))) ++ ")" := by
  have cells : columns.map (b.cell row) = (columns.map (b.cellPiece row)).map ([·]) := by
    simp [cell_eq]
  rw [tuple, Fragment.sqlAfter_sql_cons, Fragment.sqlAfter_append, Fragment.sqlAfter_join, cells,
    Fragment.sqlsAfter_singletons, ← String.append_assoc]
  exact congrArg (_ ++ ·) (Fragment.sqlAfter_ofText _ ")")

theorem sqlsAfter_tuples (n : Nat) (columns : List String) (rows : List Row) :
    Fragment.sqlsAfter b.binding b.tag n (rows.map (b.tuple columns)) =
      (Fragment.writtenAfter b.binding b.tag n
        (rows.map fun row => columns.map (b.cellPiece row))).map
          fun cells => "(" ++ ",".intercalate cells ++ ")" := by
  induction rows generalizing n with
  | nil => rfl
  | cons row rows ih =>
    have count : Fragment.count b.binding (b.tuple columns row) =
        Fragment.count b.binding (columns.map (b.cellPiece row)) :=
      congrArg List.length (arguments_tuple columns row)
    rw [List.map_cons, Fragment.sqlsAfter, sqlAfter_tuple, count, ih]
    rfl

/-! ### Statements -/

/-- The columns and tuples of an insertion as a grid of cells. -/
theorem render_insertion (place : String) (columns : List String) (rows : List Row)
    {foot : Fragment} (text : foot.IsText) :
    let st := Fragment.render b.binding b.tag
      (.sql ("INSERT INTO " ++ place ++ " ") :: (b.valuesFragment columns rows ++ foot))
    ∃ grid : List (List String),
      st.sql = "INSERT INTO " ++ place ++ " (" ++ ",".intercalate (columns.map Sql.ident) ++
        ") VALUES " ++
        ",".intercalate (grid.map fun cells => "(" ++ ",".intercalate cells ++ ")") ++
        Fragment.sqlAfter b.binding b.tag 0 foot ∧
      st.args = Fragment.arguments b.binding
        (rows.map fun row => columns.map (b.cellPiece row)).flatten ∧
      List.Forall₂ (fun row cells => List.Forall₂
          (fun column text => (b.cellPiece row column).Stands b.binding b.tag st.args text)
          columns cells)
        rows grid := by
  intro st
  have args : st.args = Fragment.arguments b.binding
      (rows.map fun row => columns.map (b.cellPiece row)).flatten := by
    show Fragment.arguments b.binding _ = _
    rw [Fragment.arguments_sql_cons, Fragment.arguments_append, text.arguments_eq,
      List.append_nil, valuesFragment, Fragment.arguments_sql_cons, Fragment.arguments_join,
      arguments_tuples]
  have stand := Fragment.stands_writtenAfter b.binding b.tag [] []
    (rows.map fun row => columns.map (b.cellPiece row))
  rw [List.nil_append, List.append_nil, ← args] at stand
  refine ⟨Fragment.writtenAfter b.binding b.tag 0
    (rows.map fun row => columns.map (b.cellPiece row)), ?_, args, ?_⟩
  · show Fragment.sqlAfter b.binding b.tag 0 _ = _
    rw [Fragment.sqlAfter_sql_cons, Fragment.sqlAfter_append, text.sqlAfter_eq, valuesFragment,
      Fragment.sqlAfter_sql_cons, Fragment.sqlAfter_join, sqlsAfter_tuples]
    -- the blank before the columns ends the first text
    have blank : " (" = " " ++ "(" := rfl
    rw [blank]
    simp only [String.append_assoc]
  · refine (List.forall₂_map_left_iff.mp stand).imp fun row cells cell => ?_
    exact List.forall₂_map_left_iff.mp cell

/-- The statement of an insertion, and the keys that it reports. -/
theorem outcome_insertion {table : String} (bound : b.table = some table)
    (clean : b.draft.mistake = none) {t : Terminal} {rows : List Row}
    (h : t.inserted? = some rows) (given : rows ≠ []) (supply : IdSupply)
    (keyed : columnsOf (b.fillIds rows supply).1 ≠ []) :
    (b.prepare t supply).2 = (b.fillIds rows supply).2 ∧
      b.outcome t supply = .ok (Fragment.render b.binding b.tag
        (.sql ("INSERT INTO " ++ Sql.qualified b.schemaName table ++ " ") ::
          (b.valuesFragment (columnsOf (b.fillIds rows supply).1) (b.fillIds rows supply).1 ++
            b.draft.returningClause))) := by
  -- one row is inserted as a list of one row is
  obtain ⟨command, inserts, prepared⟩ : ∃ command, (command = .insert ∨ command = .insertAll) ∧
      b.prepare t supply = b.prepareInsert rows command supply := by
    cases t <;> cases h
    · exact ⟨_, .inl rfl, rfl⟩
    · exact ⟨_, .inr rfl, rfl⟩
  have filled : b.prepareInsert rows command supply =
      ({ b with draft := b.insertion (b.fillIds rows supply).1 command },
        (b.fillIds rows supply).2) := by
    rw [prepareInsert, if_neg (by simpa using given)]
  have draft : b.insertion (b.fillIds rows supply).1 command =
      { b.draft with
        command := some command
        values := b.valuesFragment (columnsOf (b.fillIds rows supply).1)
          (b.fillIds rows supply).1 } := by
    simp only [insertion]
    rw [if_neg (by simpa using keyed)]
  rw [outcome, prepared, filled, draft]
  refine ⟨rfl, ?_⟩
  simp only [statement, bound, Draft.render, Draft.fragment, clean]
  rcases inserts with rfl | rfl <;> rfl

/-- A write that succeeds reports the keys of the rows that it inserted. -/
theorem ids_write {σ : Type} [Backend σ] {t : Terminal} {kind : EventKind} {s : Session σ}
    {r : WriteResult} {x : Builder × Session σ}
    (h : BuilderM.write t kind (b, s) = (.ok r, x)) : r.ids = (b.prepare t s.supply).2.1 := by
  cases rendered : (b.prepare t s.supply).1.statement with
  | error e =>
    rw [BuilderM.write_unrendered rendered] at h
    cases h
  | ok st =>
    cases answered : (Backend.answer b.target st.sql st.args s.database).1 with
    | error e =>
      rw [BuilderM.write_failed rendered answered] at h
      cases h
    | ok out =>
      obtain ⟨e, made⟩ := Option.isSome_iff_exists.mp
        (BuilderM.isSome_event? rendered kind (BuilderM.report t b s.supply out))
      obtain ⟨s', told, -⟩ := BuilderM.does_tell made
        (BuilderM.spent (b.prepare t s.supply).1)
        ((BuilderM.supplied t b s).afterSending b.target st.sql st.args)
      rw [BuilderM.write_ok rendered answered, told] at h
      cases h
      rfl

/-- A builder for a table of users, whose keys are generated. -/
def members : Builder := { users with decl := users.decl.map ({ · with autoId := true }) }

/-- Three users, one of which has a key. -/
def guests : List Row :=
  [[("name", .string "Ann")], [("age", .int 30), ("id", .null)],
    [("id", .string "u1"), ("name", .null)]]

end Builder

end TableMapper
