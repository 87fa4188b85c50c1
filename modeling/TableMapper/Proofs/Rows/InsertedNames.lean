import TableMapper.Proofs.Rows.ImportStep
import TableMapper.Proofs.Session.Statements
import TableMapper.Proofs.Text.Search
import TableMapper.Proofs.Transaction.Database
import TableMapper.Rows.Write

/-!
# The columns of inserted rows

A row loses the names that its table does not take before it is inserted, and gets timestamps and a
key.  The table takes the names of its columns, and besides them the names of SQL expressions for
its columns, which mean something in updates only.

* `TableDecl.Knows` holds of the names that may stand in the column list of an insertion, and
  `TableDecl.Spells` of those of SQL expressions.
* `TableDecl.Fills` relates a row to the one that is written for it.
* `Statement.Inserts` says which names the column list of a statement has.
* `Rows.inserted_names`: an insertion names columns only, unless a row has an SQL expression.
-/

namespace TableMapper

variable {σ α : Type}

/-! ### Names of rows -/

namespace Row

/-- A row has the names of another one, and perhaps some more. -/
def Extends (more : String → Prop) (row row' : Row) : Prop :=
  ∀ name, (name ∈ row.names → name ∈ row'.names) ∧
    (name ∈ row'.names → name ∈ row.names ∨ more name)

variable {more : String → Prop} {row row' row'' : Row}

theorem Extends.refl (row : Row) : row.Extends more row := fun _ => ⟨id, .inl⟩

theorem Extends.trans (h : row.Extends more row') (h' : row'.Extends more row'') :
    row.Extends more row'' := fun name =>
  ⟨fun there => (h' name).1 ((h name).1 there), fun there =>
    ((h' name).2 there).elim (fun early => (h name).2 early) .inr⟩

theorem mem_names_insert {name k : String} {v : Json} :
    name ∈ (row.insert k v).names ↔ name = k ∨ name ∈ row.names := by
  rw [← isSome_get?_iff, get?_insert, ← isSome_get?_iff]
  split_ifs with same <;> simp [same]

theorem extends_insert {k : String} (h : more k) (v : Json) :
    row.Extends more (row.insert k v) := by
  refine fun name => ⟨fun there => mem_names_insert.mpr (.inr there), fun there => ?_⟩
  obtain rfl | early := mem_names_insert.mp there
  · exact .inr h
  · exact .inl early

theorem mem_names_filter {p : String → Bool} {name : String} :
    name ∈ Row.names (row.filter fun m => p m.1) ↔ name ∈ row.names ∧ p name = true := by
  simp only [Row.names, List.mem_map, List.mem_filter]
  constructor
  · rintro ⟨m, ⟨hm, holds⟩, rfl⟩
    exact ⟨⟨m, hm, rfl⟩, holds⟩
  · rintro ⟨⟨m, hm, rfl⟩, holds⟩
    exact ⟨m, ⟨hm, holds⟩, rfl⟩

end Row

namespace TableDecl

variable {t : TableDecl} {row row' : Row}

/-- The name is that of the key or of a timestamp, which are filled in. -/
def Supplies (t : TableDecl) (name : String) : Prop :=
  t.idColumn? = some name ∨ name ∈ t.stamped true

/-- The table knows the name: as that of a column that it keeps, of its key or of a timestamp. -/
def Knows (t : TableDecl) (name : String) : Prop := t.keeps name = true ∨ t.Supplies name

/-- The name is that of an SQL expression for a column that the table keeps. -/
def Spells (t : TableDecl) (name : String) : Prop :=
  ∃ column, name = "@" ++ column ∧ t.keeps column = true

/-- The table takes values under the names of its columns, and expressions for them. -/
theorem takes_iff {name : String} :
    t.takes name = true ↔ t.keeps name = true ∧ Text.after? "@" name = none ∨ t.Spells name := by
  unfold takes Spells
  cases after : Text.after? "@" name with
  | none =>
    have other (column : String) : name ≠ "@" ++ column := fun same => by
      rw [Text.after?_eq_some_iff.mpr same] at after
      cases after
    simp [other]
  | some column =>
    obtain rfl := Text.after?_eq_some_iff.mp after
    simp

/-- The row that is written for another one has the names of this one that the table takes, and
perhaps some that are filled in. -/
def Fills (t : TableDecl) (row row' : Row) : Prop :=
  Row.Extends t.Supplies (row.filter fun m => t.takes m.1) row'

/-- Unknown columns are removed. -/
theorem checkRow_quiet (t : TableDecl) (row : Row) :
    t.checkRow row true = .ok (row.filter fun m => t.takes m.1) := by
  unfold checkRow
  dsimp only
  split
  next all =>
    have takes : ∀ m ∈ row, t.takes m.1 = true := by
      intro m hm
      have none := List.filter_eq_nil_iff.mp (List.isEmpty_iff.mp all) m.1
        (List.mem_map_of_mem hm)
      simpa using none
    rw [List.filter_eq_self.mpr takes]
  next => rfl

theorem extends_stampColumn (t : TableDecl) (now : Int) (row : Row) {column : String}
    {more : String → Prop} (h : more column) :
    row.Extends more (t.stampColumn now row column) := by
  unfold stampColumn
  split_ifs
  · exact .refl row
  · exact Row.extends_insert h _

/-- Nothing but timestamps is added. -/
theorem extends_stamp (t : TableDecl) (now : Int) (row : Row) :
    row.Extends t.Supplies (t.stamp now true row) := by
  unfold stamp
  have among : ∀ column ∈ t.stamped true, t.Supplies column := fun _ => .inr
  generalize t.stamped true = columns at among
  induction columns generalizing row with
  | nil => exact .refl row
  | cons column columns ih =>
    obtain ⟨here, among⟩ := List.forall_mem_cons.mp among
    exact (t.extends_stampColumn now row here).trans (ih _ among)

/-- A prepared row has the names that the table takes, and timestamps. -/
theorem fills_prepareRow {now : Int} (h : t.prepareRow now true row = .ok row') :
    t.Fills row row' := by
  unfold prepareRow at h
  rw [checkRow_quiet] at h
  cases valid : t.validateRow (row.filter fun m => t.takes m.1) with
  | error e => simp [bind, Except.bind, valid] at h
  | ok _ =>
    have same : t.stamp now true (row.filter fun m => t.takes m.1) = row' := by
      simpa [bind, Except.bind, valid, pure, Except.pure] using h
    exact same ▸ t.extends_stamp now _

end TableDecl

namespace Builder

variable {b : Builder} {t : TableDecl} {given rows : List Row}

theorem extends_fillId {column : String} {more : String → Prop} (h : more column)
    (strategy : Option IdStrategy) (row : Row) (supply : IdSupply) :
    row.Extends more (fillId column strategy row supply).1 := by
  unfold fillId
  split_ifs
  · split
    · exact Row.extends_insert h _
    · exact .refl row
    · exact .refl row
  · exact .refl row

theorem forall₂_fills_fillIdsIn {column : String} (key : t.idColumn? = some column)
    (strategy : Option IdStrategy) (h : List.Forall₂ t.Fills given rows) (supply : IdSupply) :
    List.Forall₂ t.Fills given (fillIdsIn column strategy rows supply).1 := by
  induction h generalizing supply with
  | nil => exact .nil
  | @cons _ row _ _ first _ ih =>
    exact .cons (first.trans (extends_fillId (.inl key) strategy row supply)) (ih _)

/-- Nothing but the key is added. -/
theorem forall₂_fills_fillIds (declared : b.decl = some t)
    (h : List.Forall₂ t.Fills given rows) (supply : IdSupply) :
    List.Forall₂ t.Fills given (b.fillIds rows supply).1 := by
  unfold fillIds
  rw [declared, Option.bind_some]
  cases key : t.idColumn? with
  | none => exact h
  | some column => exact forall₂_fills_fillIdsIn key _ h supply

end Builder

/-! ### Names of insertions -/

/-- The names are those of the given rows that the table takes, and perhaps some that are filled
in. -/
structure TableDecl.NamesOf (t : TableDecl) (given : List Row) (names : List String) : Prop where
  source : ∀ name ∈ names,
    (∃ row ∈ given, name ∈ row.names ∧ t.takes name = true) ∨ t.Supplies name
  complete : ∀ row ∈ given, ∀ name ∈ row.names, t.takes name = true → name ∈ names

namespace TableDecl.NamesOf

variable {t : TableDecl} {given : List Row} {names : List String}

/-- The columns of the rows that are written. -/
theorem of_fills {rows : List Row} (h : List.Forall₂ t.Fills given rows) :
    t.NamesOf given (Builder.columnsOf rows) := by
  constructor
  · intro name there
    obtain ⟨row', hr', there⟩ := Builder.mem_columnsOf_iff.mp there
    obtain ⟨row, hr, fills⟩ := exists_of_forall₂ h row' hr'
    refine ((fills name).2 ((Row.isSome_get?_iff _ _).mp there)).imp_left fun early => ?_
    exact ⟨row, hr, Row.mem_names_filter.mp early⟩
  · intro row hr name there takes
    obtain ⟨row', hr', fills⟩ := exists_of_forall₂ h.flip row hr
    refine Builder.mem_columnsOf_iff.mpr ⟨row', hr', (Row.isSome_get?_iff _ _).mpr ?_⟩
    exact (fills name).1 (Row.mem_names_filter.mpr ⟨there, takes⟩)

/-- All the names are known unless a row has an expression for a column. -/
theorem known_iff (h : t.NamesOf given names) :
    (∀ name ∈ names, t.Knows name) ↔
      ∀ row ∈ given, ∀ name ∈ row.names, t.Spells name → t.Knows name := by
  constructor
  · intro known row hr name there spells
    exact known name (h.complete row hr name there (takes_iff.mpr (.inr spells)))
  · intro known name there
    obtain ⟨row, hr, own, takes⟩ | supplied := h.source name there
    · obtain ⟨kept, -⟩ | spells := takes_iff.mp takes
      · exact .inl kept
      · exact known row hr name own spells
    · exact .inr supplied

end TableDecl.NamesOf

/-! ### Statements -/

/-- What an insertion has after its place and before its values. -/
def Statement.insertHead (names : List String) : String :=
  if names.isEmpty then "DEFAULT VALUES"
  else "(" ++ ",".intercalate (names.map Sql.ident) ++ ") VALUES "

/-- The statement inserts into a place, and has the names in its column list. -/
def Statement.Inserts (st : Statement) (place : String) (names : List String) : Prop :=
  ∃ rest, st.sql = "INSERT INTO " ++ place ++ " " ++ insertHead names ++ rest

namespace Builder

variable {b : Builder} {table : String} {supply : IdSupply}

/-- A row without columns is one of defaults. -/
theorem outcome_insert_of_columnsOf (bound : b.table = some table)
    (clean : b.draft.mistake = none) {row : Row}
    (none : columnsOf (b.fillIds [row] supply).1 = []) :
    b.outcome (.insert row) supply = .ok (Fragment.render b.binding b.tag
        (.sql ("INSERT INTO " ++ Sql.qualified b.schemaName table ++ " ") ::
          (Fragment.ofText "DEFAULT VALUES" ++ b.draft.returningClause))) := by
  have draft : b.insertion (b.fillIds [row] supply).1 .insert =
      { b.draft with command := some .insert, values := Fragment.ofText "DEFAULT VALUES" } := by
    simp only [insertion, none]
    rfl
  have prepared : b.prepare (.insert row) supply =
      ({ b with draft := b.insertion (b.fillIds [row] supply).1 .insert },
        (b.fillIds [row] supply).2) := rfl
  rw [outcome, prepared, draft]
  simp only [statement, bound, Draft.render, Draft.fragment, clean]
  rfl

/-- The statement of an insertion has the columns of its rows. -/
theorem outcome_inserts (bound : b.table = some table) (clean : b.draft.mistake = none)
    {term : Terminal} {rows : List Row} (h : term.inserted? = some rows)
    (some : columnsOf (b.fillIds rows supply).1 = [] → ∃ row, term = .insert row) :
    ∃ st, b.outcome term supply = .ok st ∧
      st.Inserts (Sql.qualified b.schemaName table) (columnsOf (b.fillIds rows supply).1) := by
  by_cases none : columnsOf (b.fillIds rows supply).1 = []
  · obtain ⟨row, rfl⟩ := some none
    cases h
    refine ⟨_, outcome_insert_of_columnsOf bound clean none,
      Fragment.sqlAfter b.binding b.tag 0 b.draft.returningClause, ?_⟩
    show Fragment.sqlAfter b.binding b.tag 0 _ = _
    rw [Fragment.sqlAfter_sql_cons, Fragment.sqlAfter_append, Fragment.sqlAfter_ofText, none]
    simp only [Statement.insertHead, String.append_assoc]
    rfl
  · have given : rows ≠ [] := by
      rintro rfl
      have empty := List.forall₂_nil_left_iff.mp (b.forall₂_within_fillIds .nil supply)
      exact none (by rw [empty]; rfl)
    obtain ⟨-, written⟩ := outcome_insertion bound clean h given supply none
    obtain ⟨grid, sql, -⟩ := render_insertion (b := b) (Sql.qualified b.schemaName table)
      (columnsOf (b.fillIds rows supply).1) (b.fillIds rows supply).1
      (Draft.isText_listClause " RETURNING " b.draft.returning)
    have head : Statement.insertHead (columnsOf (b.fillIds rows supply).1) =
        "(" ++ ",".intercalate ((columnsOf (b.fillIds rows supply).1).map Sql.ident) ++
          ") VALUES " := if_neg (by simpa using none)
    have blank : " (" = " " ++ "(" := rfl
    refine ⟨_, written,
      ",".intercalate (grid.map fun cells => "(" ++ ",".intercalate cells ++ ")") ++
        Fragment.sqlAfter b.binding b.tag 0 b.draft.returningClause, sql.trans ?_⟩
    rw [head, blank, Draft.returningClause]
    simp only [String.append_assoc]

end Builder

/-! ### Calls -/

namespace Rows

/-- A call that inserts rows. -/
inductive Insertion where
  | row (row : Row)
  | rows (rows : List Row)

namespace Insertion

/-- The rows that the call is given. -/
def given : Insertion → List Row
  | row r => [r]
  | rows rs => rs

/-- The statement of the call, for prepared rows. -/
def terminal : Insertion → List Row → Terminal
  | row _, rs => .insert (rs.headD [])
  | rows _, rs => .insertAll rs

/-- The call can be written with the names: without any it inserts one row. -/
def Accepts : Insertion → List String → Prop
  | row _, _ => True
  | rows _, names => names ≠ []

/-- What the call sends with the names: an insertion, or nothing if it cannot be written. -/
def Sends (t : TableDecl) (schema : String) (i : Insertion) (names : List String) :
    Option Statement → Prop
  | some st => t.name ≠ "" ∧ i.Accepts names ∧ st.Inserts (Sql.qualified schema t.name) names
  | none => t.name = "" ∨ ¬ i.Accepts names

/-- The session after the call. -/
def after [Backend σ] (t : TableDecl) (o : WriteOptions) (s : Session σ) : Insertion → Session σ
  | row r => (insert t r o s).2
  | rows rs => (insertAll t rs o s).2

end Insertion

variable {t : TableDecl} {o : WriteOptions}

theorem prepare_apply (t : TableDecl) (inserting : Bool) (row : Row) (s : Session σ) :
    prepare t inserting row s = (t.prepareRow s.supply.now inserting row, s) := by
  rw [prepare, bind_ok (get_apply s), liftExcept_apply]

theorem mapM_prepare_apply (t : TableDecl) (inserting : Bool) (rows : List Row) (s : Session σ) :
    rows.mapM (prepare t inserting) s = (rows.mapM (t.prepareRow s.supply.now inserting), s) := by
  induction rows with
  | nil => rfl
  | cons row rows ih =>
    rw [List.mapM_cons, List.mapM_cons]
    have first := prepare_apply t inserting row s
    cases prepared : t.prepareRow s.supply.now inserting row with
    | error e =>
      rw [prepared] at first
      rw [bind_error first]
      rfl
    | ok row' =>
      rw [prepared] at first
      rw [bind_ok first, bind_apply, ih]
      show _ = ((rows.mapM (t.prepareRow s.supply.now inserting)).bind _, s)
      cases rows.mapM (t.prepareRow s.supply.now inserting) <;> rfl

/-- The options of a write make no mistakes, and leave the schema as it is. -/
theorem draft_clauses (home : Target) (binding : Binding) (tag : DollarTag) (table schema : String)
    (decl : Option TableDecl) (o : WriteOptions) :
    (home.bound binding tag table schema decl o.clauses).draft.mistake = none ∧
      (home.bound binding tag table schema decl o.clauses).schemaName = schema := by
  rcases o with ⟨-, _ | columns, _ | _ | _⟩ <;> exact ⟨rfl, rfl⟩

variable [Backend σ]

/-- A call prepares its rows, and writes if none of them is refused. -/
theorem Insertion.after_eq (i : Insertion) (t : TableDecl) (o : WriteOptions) (s : Session σ) :
    i.after t o s = match i.given.mapM (t.prepareRow s.supply.now true) with
      | .error _ => s
      | .ok rs => (withBuilder t o.schema (do
          BuilderM.addAll o.clauses
          BuilderM.write (i.terminal rs) .insert) s).2 := by
  cases i with
  | row r =>
    have prepared := prepare_apply t true r s
    rw [given, List.mapM_cons, List.mapM_nil, after, insert]
    cases first : t.prepareRow s.supply.now true r with
    | error e =>
      rw [first] at prepared
      rw [bind_error prepared]
      rfl
    | ok r' =>
      rw [first] at prepared
      rw [bind_ok prepared, bind_apply]
      show _ = (withBuilder t o.schema (do
        BuilderM.addAll o.clauses
        BuilderM.write (.insert r') .insert) s).2
      -- what is made of the result leaves the session as it is
      rcases ran : withBuilder t o.schema (do BuilderM.addAll o.clauses; BuilderM.insert r') s with
        ⟨_ | result, s'⟩
      · rw [BuilderM.insert] at ran
        rw [ran]
      · rw [BuilderM.insert] at ran
        rw [ran]
        dsimp only
        split <;> rfl
  | rows rs =>
    have prepared := mapM_prepare_apply t true rs s
    rw [given, after, insertAll]
    cases all : rs.mapM (t.prepareRow s.supply.now true) with
    | error e =>
      rw [all] at prepared
      rw [bind_error prepared]
    | ok rs' =>
      rw [all] at prepared
      rw [bind_ok prepared]
      rfl

theorem Insertion.inserted?_terminal {i : Insertion} {now : Int} {rows : List Row}
    (h : i.given.mapM (t.prepareRow now true) = .ok rows) :
    (i.terminal rows).inserted? = some rows := by
  cases i with
  | row r =>
    obtain ⟨r', _, -, others, rfl⟩ := List.forall₂_cons_left_iff.mp (mapM_eq_ok_iff.mp h)
    rw [List.forall₂_nil_left_iff.mp others]
    rfl
  | rows rs => rfl

/-- A builder for the table renders what the call sends. -/
theorem Insertion.sends_rendered {b : Builder} (bound : b.table = some t.name)
    (named : t.name ≠ "") (clean : b.draft.mistake = none) {i : Insertion} {rs : List Row}
    (inserts : (i.terminal rs).inserted? = some rs) (supply : IdSupply) :
    i.Sends t b.schemaName (Builder.columnsOf (b.fillIds rs supply).1)
      (b.rendered? (i.terminal rs) supply) := by
  by_cases accepts : i.Accepts (Builder.columnsOf (b.fillIds rs supply).1)
  · have single (none : Builder.columnsOf (b.fillIds rs supply).1 = []) :
        ∃ row, i.terminal rs = .insert row := by
      cases i with
      | row r => exact ⟨_, rfl⟩
      | rows rs' => exact absurd none accepts
    obtain ⟨st, written, sql⟩ := Builder.outcome_inserts bound clean inserts single
    have rendered : b.rendered? (i.terminal rs) supply = some st := congrArg Except.toOption written
    rw [rendered]
    exact ⟨named, accepts, sql⟩
  · cases i with
    | row r => exact absurd trivial accepts
    | rows rs' =>
      obtain ⟨e, failed⟩ := Builder.outcome_insertAll_of_columnsOf bound (not_not.mp accepts)
      have rendered : b.rendered? (terminal (.rows rs') rs) supply = none :=
        congrArg Except.toOption failed
      rw [rendered]
      exact .inr accepts

/-- What a call sends for rows that are prepared. -/
theorem Insertion.exists_names {binding : Binding} {s : Session σ} (tidy : s.Tidy binding)
    (registered : s.tables.get? t.name = some t) {i : Insertion} {rs : List Row} {now : Int}
    (prepared : i.given.mapM (t.prepareRow now true) = .ok rs) (o : WriteOptions) :
    ∃ names st, t.NamesOf i.given names ∧ i.Sends t (o.schema.getD s.schema) names st ∧
      s.Sends .pool st (withBuilder t o.schema (do
        BuilderM.addAll o.clauses
        BuilderM.write (i.terminal rs) .insert) s).2 := by
  let schema := o.schema.getD s.schema
  let term := i.terminal rs
  have inserts : term.inserted? = some rs := inserted?_terminal prepared
  have call : withBuilder t o.schema (do BuilderM.addAll o.clauses; BuilderM.write term .insert) s =
      Session.withBuilder .pool t.name schema .inUse
        (do BuilderM.addAll o.clauses; BuilderM.write term .insert) s := by
    rw [withBuilder, bind_ok (get_apply s)]
  obtain ⟨tag, supply, sent⟩ := Session.withBuilder_sends .pool tidy trivial
    (BuilderM.sends_write term .insert) o.clauses t.name schema
  rw [registered, ← call] at sent
  let b := Target.pool.bound binding tag t.name schema (some t) o.clauses
  have declared : b.decl = some t := Builder.decl_addAll _ o.clauses
  have filled := Builder.forall₂_fills_fillIds declared
    ((mapM_eq_ok_iff.mp prepared).imp fun _ _ => TableDecl.fills_prepareRow) supply
  refine ⟨Builder.columnsOf (b.fillIds rs supply).1, b.rendered? term supply,
    .of_fills filled, ?_, sent⟩
  by_cases named : t.name = ""
  · have unwritten : b.outcome term supply = .error _ :=
      Target.outcome_unnamed named o.clauses term supply
    have none : b.rendered? term supply = none := congrArg Except.toOption unwritten
    rw [none]
    exact .inl named
  · have bound : b.table = some t.name :=
      (Builder.table_addAll _ o.clauses).trans (by simp [Builder.bind, named])
    obtain ⟨clean, own⟩ := draft_clauses .pool binding tag t.name schema (some t) o
    have sends := sends_rendered bound named clean inserts supply
    rwa [own] at sends

/-- **Insertions name columns, unless a row has an SQL expression.**  Nothing is sent if a row is
refused.  Otherwise there are names: those of the given rows that the table takes, and perhaps that
of its key and those of its timestamps.  One statement is sent, which inserts into the table and has
these names in its column list, or none at all, if the table has no name or several rows come
without any.  All the names are known to the table just when those of SQL expressions in the given
rows are. -/
theorem inserted_names {binding : Binding} {s : Session σ} (tidy : s.Tidy binding)
    (registered : s.tables.get? t.name = some t) (i : Insertion) (o : WriteOptions) :
    match i.given.mapM (t.prepareRow s.supply.now true) with
    | .error _ => s.Sends .pool none (i.after t o s)
    | .ok _ => ∃ names st, t.NamesOf i.given names ∧
        i.Sends t (o.schema.getD s.schema) names st ∧ s.Sends .pool st (i.after t o s) ∧
        ((∀ name ∈ names, t.Knows name) ↔
          ∀ row ∈ i.given, ∀ name ∈ row.names, t.Spells name → t.Knows name) := by
  rw [i.after_eq t o s]
  cases prepared : i.given.mapM (t.prepareRow s.supply.now true) with
  | error e => exact .of_eq rfl rfl
  | ok rs =>
    obtain ⟨names, st, own, sends, sent⟩ := Insertion.exists_names tidy registered prepared o
    exact ⟨names, st, own, sends, sent, own.known_iff⟩

/-- A table of users. -/
def people : TableDecl where
  name := "users"
  columns := [("id", { type := "varchar(16)" }), ("name", { type := "varchar(30)" })]
  primaryKey := some (.single "id")

/-- A user whose name is given as an SQL expression. -/
def shouting : Row := [("@name", .string "upper('x')"), ("id", .string "u1")]

/-- The name of the expression gets into the column list. -/
theorem inserted_names_shouting :
    let s : Session Ledger := { Ledger.session [] with tables := [people] }
    s.Tidy .parameterized ∧ s.tables.get? people.name = some people ∧
      ∃ names st, st.Inserts "public.users" names ∧
        s.Sends .pool (some st) (Insertion.after people {} s (.row shouting)) ∧
        "@name" ∈ names ∧ ¬ people.Knows "@name" := by
  intro s
  have tidy : s.Tidy .parameterized :=
    ⟨⟨rfl, rfl, rfl, Nat.zero_le _, fun _ hb => absurd hb List.not_mem_nil⟩,
      fun _ hq => absurd hq List.not_mem_nil⟩
  have registered : s.tables.get? people.name = some people := by
    simp [s, Tables.get?, people]
  have place : Sql.qualified "public" "users" = "public.users" := by decide +kernel
  have prepared : [shouting].mapM (people.prepareRow s.supply.now true) = .ok [shouting] := rfl
  have all := inserted_names tidy registered (.row shouting) {}
  rw [show (Insertion.row shouting).given = [shouting] from rfl, prepared] at all
  obtain ⟨names, st, own, sends, sent, -⟩ := all
  have there : "@name" ∈ names :=
    own.complete shouting (List.mem_singleton_self _) "@name" (by decide) (by decide)
  have unknown : ¬ people.Knows "@name" := by
    rintro (kept | key | stamp)
    · exact absurd kept (by decide)
    · exact absurd key (by decide)
    · exact absurd stamp (by decide)
  cases st with
  | none =>
    obtain unnamed | refused := sends
    · exact absurd unnamed (by decide)
    · exact absurd trivial refused
  | some st => exact ⟨tidy, registered, names, st, place ▸ sends.2.2, sent, there, unknown⟩

end Rows

end TableMapper
