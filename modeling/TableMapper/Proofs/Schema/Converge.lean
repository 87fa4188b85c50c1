import Mathlib.Data.List.Nodup
import TableMapper.Proofs.Schema.Server

/-!
# Columns come to rest

One run of the plan for the columns of a table is enough: planned again against the catalog that it
leaves, there is nothing to do.

* `CatalogColumn.Follows` holds of columns with the default and the nullability of a declaration.
* `Plan.Outcome` lists what a declared column can be after the run, and `Server.outcome_column` says
  that it is one of these.
* `TableDecl.Creatable` holds of declarations of columns with different names, none of which is to
  be removed, and with types that are written as the catalog writes them; for
  `TableDecl.Reconcilable` their old names are different, too, and none is declared.
* `Plan.columns_converge` is the result for all columns.
-/

namespace TableMapper

/-! ### Defaults and nullability -/

/-- The column has the default and the nullability of a declaration. -/
structure CatalogColumn.Follows (g : CatalogColumn) (c : ColumnDecl) : Prop where
  default : ∀ v, Default.effective? c = some v → Default.agrees g.default? v = true
  /-- A declared `null` takes the default away. -/
  cleared : Default.effective? c = none → c.default?.isSome = true → g.default? = none
  nullable : g.nullable = !c.notNull

/-- The default that a column has once it follows a declaration. -/
def CatalogColumn.followed (c : ColumnDecl) (d : CatalogColumn) : Option String :=
  match Default.effective? c with
  | some v =>
    if Default.agrees d.default? v then d.default? else some (Default.reported d.dataType v)
  | none => if c.default?.isSome then none else d.default?

/-- The column with the default and the nullability of a declaration. -/
def CatalogColumn.constrain (c : ColumnDecl) (d : CatalogColumn) : CatalogColumn :=
  { d with default? := d.followed c, nullable := !c.notNull }

section Constraints

variable {c : ColumnDecl} {d e g : CatalogColumn} {sv : Server} {live : Catalog}
  {object name : String}

/-- Whether a column has a type depends on what the catalog says about its type alone. -/
theorem CatalogColumn.hasType_congr (dataType : d.dataType = e.dataType)
    (length : d.charLength = e.charLength) (precision : d.numericPrecision = e.numericPrecision)
    (scale : d.numericScale = e.numericScale) (type : String) :
    d.hasType type = e.hasType type := by
  unfold hasType isArray lengthText precisionText
  rw [dataType, length, precision, scale]

@[simp] theorem CatalogColumn.hasType_constrain {type : String} :
    (d.constrain c).hasType type = d.hasType type := by
  have same := hasType_congr (d := d.constrain c) (e := d) rfl rfl rfl rfl type
  exact same

@[simp] theorem CatalogColumn.hasType_rename {type : String} :
    ({ d with name } : CatalogColumn).hasType type = d.hasType type := by
  have same := hasType_congr (d := { d with name }) (e := d) rfl rfl rfl rfl type
  exact same

theorem CatalogColumn.follows_constrain (cast : Default.CastName d.dataType) :
    (d.constrain c).Follows c where
  default v declared := by
    simp only [constrain, followed, declared]
    split
    next agrees => exact agrees
    next => exact Default.agrees_reported cast v
  cleared none some := by
    simp only [constrain, followed, none, some, if_true]
  nullable := rfl

namespace Plan

/-- A column that follows its declaration is left alone. -/
theorem steps_columnConstraints_of_follows (h : g.Follows c) {inKey : Bool} :
    (columnConstraints object name c g inKey).steps = [] := by
  have default : (columnDefault object name c g).steps = [] := by
    unfold columnDefault
    split
    next v declared => rw [if_pos (h.default v declared)]
    next none =>
      rw [if_neg]
      rw [Bool.and_eq_true]
      rintro ⟨some, present⟩
      rw [h.cleared none some] at present
      exact nomatch present
  have nullability : (columnNullability object name c g).steps = [] := by
    unfold columnNullability
    rw [h.nullable]
    cases c.notNull <;> rfl
  unfold columnConstraints
  split
  next => rfl
  next => rw [steps_append, default, nullability, List.nil_append]

end Plan

namespace Server

/-- A step that changes a column in place. -/
theorem column?_run_update {f : CatalogColumn → CatalogColumn} {change : Ddl}
    (here : live.column? name = some d) (effect : sv.apply live change = live.update name f)
    (keeps : ∀ d : CatalogColumn, d.name = name → (f d).name = name) :
    (sv.run live (Plan.step object change).steps).column? name = some (f d) := by
  refine (congrArg (Catalog.column? · name) effect).trans ?_
  rw [Catalog.column?_update_self keeps, here, Option.map_some]

theorem column?_run_columnDefault (here : live.column? name = some d)
    (same : e.default? = d.default?) :
    (sv.run live (Plan.columnDefault object name c e).steps).column? name =
      some { d with default? := d.followed c } := by
  have unchanged (fixed : d.followed c = d.default?) :
      live.column? name = some { d with default? := d.followed c } := by rw [fixed, here]
  unfold Plan.columnDefault
  rw [same]
  split
  next v declared =>
    split
    next agrees =>
      exact unchanged (by simp only [CatalogColumn.followed, declared, agrees, if_true])
    next differs =>
      have fixed : d.followed c = some (Default.reported d.dataType v) := by
        simp only [CatalogColumn.followed, declared, if_neg differs]
      rw [fixed]
      exact column?_run_update
        (f := fun d => { d with default? := some (Default.reported d.dataType v) }) here rfl
        fun d own => own
  next declared =>
    split
    next drop =>
      obtain ⟨some, -⟩ := Bool.and_eq_true_iff.mp drop
      have fixed : d.followed c = none := by
        simp only [CatalogColumn.followed, declared, if_pos some]
      rw [fixed]
      exact column?_run_update (f := fun d => { d with default? := none }) here rfl fun d own => own
    next keep =>
      refine unchanged ?_
      simp only [CatalogColumn.followed, declared]
      split
      next some => simp_all
      next => rfl

theorem column?_run_columnNullability (here : live.column? name = some d)
    (same : e.nullable = d.nullable) :
    (sv.run live (Plan.columnNullability object name c e).steps).column? name =
      some { d with nullable := !c.notNull } := by
  have unchanged {b : Bool} (fixed : d.nullable = b) :
      live.column? name = some { d with nullable := b } := by rw [← fixed, here]
  unfold Plan.columnNullability
  rw [same]
  cases c.notNull <;> cases found : d.nullable
  · exact column?_run_update (f := fun d => { d with nullable := true }) here rfl fun d own => own
  · exact unchanged found
  · exact unchanged found
  · exact column?_run_update (f := fun d => { d with nullable := false }) here rfl fun d own => own

/-- The steps for default and nullability of a column make it follow its declaration. -/
theorem column?_run_columnConstraints (here : live.column? name = some d)
    (default : e.default? = d.default?) (nullable : e.nullable = d.nullable) :
    (sv.run live (Plan.columnConstraints object name c e false).steps).column? name =
      some (d.constrain c) := by
  rw [Plan.columnConstraints, if_neg Bool.false_ne_true, Plan.steps_append, run_append,
    column?_run_columnNullability (column?_run_columnDefault here default) nullable]
  rfl

end Server

end Constraints

/-! ### One column -/

section Column

variable {t : TableDecl} {live mid after : Catalog} {force : Bool} {name : String}
  {c : ColumnDecl} {d g found : CatalogColumn} {sv : Server}

namespace Plan

theorem liveColumn?_of_column? (here : live.column? name = some d) :
    liveColumn? live name c = some d := by
  rw [liveColumn?, here, Option.some_or]

theorem rename_of_column? (here : live.column? name = some d) : rename t live name c = {} := by
  have none : renameSource? live name c = none := by rw [renameSource?, here]
  rw [rename, none]

/-- A managed type is no array, and the catalog has a name for it. -/
theorem exists_catalogName (managed : isManaged c = true) :
    TypeName.isArray c.type = false ∧
      ∃ type, TypeName.catalogName? (TypeName.base c.type) = some type := by
  simp only [isManaged, Bool.and_eq_true, Bool.not_eq_true', Option.isSome_iff_exists] at managed
  exact ⟨managed.2, managed.1.2⟩

/-- The catalog's name of a live type that is the declared one can be cast to. -/
theorem castName_of_hasType (managed : isManaged c = true) (same : d.hasType c.type = true) :
    Default.CastName d.dataType := by
  obtain ⟨scalar, type, known⟩ := exists_catalogName managed
  cases array : d.isArray with
  | true => exact Default.castName_of_sameLetters array
  | false =>
    simp only [CatalogColumn.hasType, array, scalar, known, Bool.or_self, Bool.false_eq_true,
      if_false, Bool.and_eq_true, beq_iff_eq] at same
    exact same.1 ▸ Default.castName_of_catalogName? known

theorem catalogName_of_hasType (managed : isManaged c = true) (same : d.hasType c.type = true)
    (scalar : d.isArray = false) :
    TypeName.catalogName? (TypeName.base c.type) = some d.dataType := by
  obtain ⟨plain, type, known⟩ := exists_catalogName managed
  simp only [CatalogColumn.hasType, scalar, plain, known, Bool.or_self, Bool.false_eq_true,
    if_false, Bool.and_eq_true, beq_iff_eq] at same
  rw [known, same.1]

theorem NeedsForce.rename (h : NeedsForce found c) : NeedsForce { found with name } c := by
  obtain ⟨other, textual, foreign⟩ := h
  refine ⟨?_, ?_, foreign⟩
  · rw [CatalogColumn.hasType_rename, other]
  · unfold CatalogColumn.isTextual at textual ⊢
    exact textual

/-- What a declared column can be after a run. -/
inductive Outcome (t : TableDecl) (live : Catalog) (force : Bool) (name : String)
    (c : ColumnDecl) (g : CatalogColumn) : Prop
  /-- The declaration says nothing on what the column is. -/
  | unmanaged (loose : isManaged c = false)
  /-- It has the declared type, default and nullability. -/
  | conforms (type : g.hasType c.type = true)
      (follows : t.keyColumns.contains name = false → g.Follows c)
      (named : (∀ found, liveColumn? live name c = some found → found.isArray = false) →
        TypeName.catalogName? (TypeName.base c.type) = some g.dataType)
  /-- It was refused, and will be again. -/
  | refused (found : CatalogColumn) (stands : liveColumn? live name c = some found)
      (needs : NeedsForce found c) (unforced : (c.force || force) = false)
      (still : NeedsForce g c)

/-- After a run there is nothing to do for a declared column. -/
theorem Outcome.steps_column (h : Outcome t live force name c g) (active : c.isActive = true)
    (here : after.column? name = some g) : (column t after force name c).steps = [] := by
  obtain ⟨drop, skip⟩ : c.drop = false ∧ c.ignore = false := by
    simpa [ColumnDecl.isActive] using active
  rw [column_found skip drop (liveColumn?_of_column? here), rename_of_column? here]
  cases managed : isManaged c with
  | false => rfl
  | true =>
    simp only [empty_append, if_true]
    cases h with
    | unmanaged loose => exact absurd managed (by simp [loose])
    | conforms type follows =>
      rw [columnType, if_pos type]
      cases inKey : t.keyColumns.contains name with
      | true => rfl
      | false => exact steps_columnConstraints_of_follows (follows inKey)
    | refused _ _ _ unforced still =>
      obtain ⟨other, textual, foreign⟩ := still
      simp only [columnType, other, textual, foreign, unforced, Bool.false_eq_true, if_false,
        Bool.not_false, Bool.and_self, if_true]
      rfl

end Plan

namespace Server

open Plan

/-- A column that is renamed goes by its new name. -/
theorem column?_run_rename (sv : Server) (own : mid.column? name = live.column? name)
    (source : ∀ old, c.oldName = some old → mid.column? old = live.column? old)
    (stands : liveColumn? live name c = some found) :
    (sv.run mid (rename t live name c).steps).column? name = some { found with name } := by
  unfold liveColumn? at stands
  cases here : live.column? name with
  | some d =>
    rw [here, Option.some_or] at stands
    obtain rfl := Option.some.inj stands
    obtain rfl := Catalog.name_of_column? here
    rw [rename_of_column? here]
    exact own.trans here
  | none =>
    rw [here, Option.none_or] at stands
    obtain ⟨-, from_⟩ := renameSource?_eq_some_iff.mp stands
    obtain ⟨old, declared, there⟩ := Option.bind_eq_some_iff.mp from_
    obtain rfl := Catalog.name_of_column? there
    have free : mid.column? name = none := own.trans here
    have moved : mid.column? found.name = some found := (source _ declared).trans there
    simp only [rename, stands]
    refine (Catalog.column?_update_rename free).trans ?_
    rw [moved, Option.map_some]

/-- A column that is created follows the declaration that its definition is taken from. -/
theorem follows_newColumn {key : List String} {definition : ColumnDef}
    (default : definition.default? = Default.effective? c)
    (notNull : (definition.notNull || definition.primaryKey || key.contains definition.name) =
      c.notNull) (cast : Default.CastName (sv.report definition.type).dataType) :
    (sv.newColumn key definition).Follows c where
  default v declared := by
    simp only [newColumn, retype, default, declared, Option.map_some]
    exact Default.agrees_reported cast v
  cleared none _ := by simp only [newColumn, retype, default, none, Option.map_none]
  nullable := by simp only [newColumn, retype, notNull]

/-- A column that is created with a managed type has it. -/
theorem hasType_newColumn {key : List String} {definition : ColumnDef}
    (managed : isManaged c = true) (canonical : TypeName.Canonical c.type)
    (type : definition.type = c.type) : (sv.newColumn key definition).hasType c.type = true := by
  obtain ⟨scalar, known, named⟩ := exists_catalogName managed
  rw [newColumn, type]
  exact hasType_retype canonical scalar named

/-- A declared column is added under its name. -/
theorem column?_run_add (sv : Server) (object : String) {inKey : Bool}
    (free : mid.column? name = none) :
    (sv.run mid
        (Plan.step object (.addColumn (ColumnDef.ofDecl name c inKey))).steps).column? name =
      some (sv.newColumn [] (ColumnDef.ofDecl name c inKey)) := by
  have named : (ColumnDef.ofDecl name c inKey).name = name := ColumnDef.name_ofDecl
  have added := column?_apply_add sv (ColumnDef.ofDecl name c inKey) (named.symm ▸ free)
  rw [named] at added
  exact added

/-- A column that is added as declared conforms. -/
theorem outcome_newColumn (canonical : TypeName.Canonical c.type) {inKey : Bool}
    (key : inKey = true → t.keyColumns.contains name = true) :
    Outcome t live force name c (sv.newColumn [] (ColumnDef.ofDecl name c inKey)) := by
  cases managed : isManaged c with
  | false => exact .unmanaged managed
  | true =>
  have type : (ColumnDef.ofDecl name c inKey).type = c.type := ColumnDef.type_ofDecl
  obtain ⟨scalar, known, named⟩ := exists_catalogName managed
  have reported : (sv.report (ColumnDef.ofDecl name c inKey).type).dataType = known := by
    rw [type, sv.report_name scalar named]
  refine .conforms (hasType_newColumn managed canonical type) (fun outside => ?_)
    fun _ => named.trans (congrArg some reported.symm)
  cases inKey with
  | true => exact absurd (key rfl) (by rw [outside]; exact Bool.false_ne_true)
  | false =>
    refine follows_newColumn rfl (by simp [ColumnDef.ofDecl]) ?_
    exact reported ▸ Default.castName_of_catalogName? named

/-- The steps for default and nullability make a column of the declared type conform. -/
theorem outcome_columnConstraints {object : String} (managed : isManaged c = true)
    (type : d.hasType c.type = true)
    (named : (∀ found, liveColumn? live name c = some found → found.isArray = false) →
      TypeName.catalogName? (TypeName.base c.type) = some d.dataType)
    (here : mid.column? name = some d) (default : found.default? = d.default?)
    (nullable : found.nullable = d.nullable) :
    ∃ g, (sv.run mid (columnConstraints object name c found
        (t.keyColumns.contains name)).steps).column? name = some g ∧
      Outcome t live force name c g := by
  cases inKey : t.keyColumns.contains name with
  | true =>
    refine ⟨d, here, .conforms type (fun outside => ?_) named⟩
    exact absurd inKey (by rw [outside]; exact Bool.false_ne_true)
  | false =>
    refine ⟨d.constrain c, column?_run_columnConstraints here default nullable,
      .conforms ?_ (fun _ => ?_) named⟩
    · rw [CatalogColumn.hasType_constrain, type]
    · exact CatalogColumn.follows_constrain (castName_of_hasType managed type)

/-- The run for a declared column leaves it in one of the ways listed. -/
theorem outcome_column (sv : Server) (force : Bool) (active : c.isActive = true)
    (canonical : TypeName.Canonical c.type) (own : mid.column? name = live.column? name)
    (source : ∀ old, c.oldName = some old → mid.column? old = live.column? old) :
    ∃ g, (sv.run mid (column t live force name c).steps).column? name = some g ∧
      Outcome t live force name c g := by
  have treated := treatment_column t live force name c
  generalize column t live force name c = q at treated
  cases treated with
  | ignored skip => simp [ColumnDecl.isActive, skip] at active
  | dropped skip drop => simp [ColumnDecl.isActive, drop] at active
  | missing _ absent =>
    have free : mid.column? name = none := own.trans (Option.or_eq_none_iff.mp absent).1
    exact ⟨_, column?_run_add sv (t.member name) free,
      outcome_newColumn canonical (absurd · Bool.false_ne_true)⟩
  | unmanaged _ found stands loose =>
    exact ⟨_, column?_run_rename sv own source stands, .unmanaged loose⟩
  | typed _ found stands managed same =>
    have renamed := column?_run_rename sv (t := t) own source stands
    rw [steps_append, run_append]
    refine outcome_columnConstraints managed ?_ (fun scalar => ?_) renamed rfl rfl
    · rw [CatalogColumn.hasType_rename, same]
    · exact catalogName_of_hasType (d := found) managed same (scalar found stands)
  | refused _ found stands managed needs unforced =>
    rw [steps_append, List.append_nil]
    exact ⟨{ found with name }, column?_run_rename sv own source stands,
      .refused found stands needs unforced needs.rename⟩
  | forced _ found stands managed needs forced =>
    rw [steps_append, recreateColumn, steps_append, steps_append, run_append, run_append,
      run_append]
    have free : (sv.run (sv.run mid (rename t live name c).steps)
        (Plan.step (t.member name) (.dropColumn name false)).steps).column? name = none :=
      column?_apply_drop sv _ name false
    exact ⟨_, column?_run_add sv (t.member name) free, outcome_newColumn canonical id⟩
  | retyped _ found stands managed other convertible =>
    have renamed := column?_run_rename sv (t := t) own source stands
    obtain ⟨scalar, known, named⟩ := exists_catalogName managed
    have altered : (sv.run (sv.run mid (rename t live name c).steps)
        (Plan.step (t.member name) (.alterType name c.type)).steps).column? name =
          some (sv.retype c.type { found with name }) :=
      column?_run_update renamed rfl fun d own => own
    have reported : known = (sv.retype c.type { found with name }).dataType :=
      (sv.report_name scalar named).symm
    rw [steps_append, steps_append, steps_append, run_append, run_append, run_append]
    exact outcome_columnConstraints managed (hasType_retype canonical scalar named)
      (fun _ => named.trans (congrArg some reported)) altered rfl rfl

end Server

end Column

/-! ### All columns -/

/-- The declaration is one of columns to be had. -/
structure TableDecl.Creatable (t : TableDecl) : Prop where
  /-- No two columns have one name. -/
  distinct : t.columnNames.Nodup
  /-- No column is to be removed. -/
  kept : ∀ name c, (name, c) ∈ t.columns → c.drop = false
  canonical : ∀ name c, (name, c) ∈ t.columns → TypeName.Canonical c.type

/-- Columns beside one have other names. -/
theorem TableDecl.apart {t : TableDecl} (distinct : t.columnNames.Nodup) {name : String}
    {c : ColumnDecl} {pre post : List (String × ColumnDecl)}
    (split : t.columns = pre ++ (name, c) :: post) {entry : String × ColumnDecl}
    (there : entry ∈ pre ++ post) : entry.1 ≠ name := by
  rw [columnNames, split, List.map_append, List.map_cons, List.nodup_middle, ← List.map_append,
    List.nodup_cons] at distinct
  exact fun same => distinct.1 (List.mem_map.mpr ⟨entry, there, same⟩)

theorem TableDecl.Creatable.isActive {t : TableDecl} (h : t.Creatable) {name : String}
    {c : ColumnDecl} (declared : (name, c) ∈ t.columns) (counted : c.ignore = false) :
    c.isActive = true := by
  rw [ColumnDecl.isActive, h.kept name c declared, counted]
  rfl

/-- The declaration can be reconciled in one run. -/
structure TableDecl.Reconcilable (t : TableDecl) : Prop extends t.Creatable where
  /-- No two columns are renamed from one. -/
  sources : ∀ name c other d old, (name, c) ∈ t.columns → (other, d) ∈ t.columns →
    c.oldName = some old → d.oldName = some old → name = other
  /-- No column is renamed from one that is declared. -/
  fresh : ∀ name c old, (name, c) ∈ t.columns → c.oldName = some old → t.hasColumn old = false

section All

variable {t : TableDecl} {live : Catalog} {force dropUndeclared : Bool} {name : String}
  {c : ColumnDecl} {sv : Server}

namespace Plan

/-- A step for one column leaves those alone that have another name and are not its source. -/
theorem ColumnStep.spares {change : Ddl} (h : ColumnStep live name c change) {other : String}
    (ne : other ≠ name) (source : c.oldName ≠ some other) : change.Spares other := by
  have about := h.column?
  cases h with
  | rename active old from_ =>
    obtain ⟨_, declared, there⟩ :=
      Option.bind_eq_some_iff.mp (renameSource?_eq_some_iff.mp from_).2
    obtain rfl := Catalog.name_of_column? there
    exact ⟨fun same => source (declared.trans (congrArg some same.symm)), ne⟩
  | add | remove | retype => exact fun same => ne (Option.some.inj (same.symm.trans about))
  | adjust _ adjusts =>
    cases change <;> first
      | exact adjusts.elim
      | exact fun same => ne (Option.some.inj (same.symm.trans about))

theorem ColumnStep.brings {change : Ddl} (h : ColumnStep live name c change) {other : String}
    (ne : other ≠ name) : ¬ change.Brings other := by
  cases h with
  | rename active old source => exact fun same => ne same.symm
  | add inKey => cases inKey <;> exact fun same => ne same.symm
  | remove | retype => exact id
  | adjust _ adjusts => cases change <;> first | exact adjusts.elim | exact id

end Plan

namespace Server

open Plan

/-- The other columns of a declaration that can be reconciled are not in the way of one. -/
theorem spares_others (h : t.Reconcilable) {pre post : List (String × ColumnDecl)}
    (split : t.columns = pre ++ (name, c) :: post) {entry : String × ColumnDecl}
    (there : entry ∈ pre ++ post) {other : String} (mine : other = name ∨ c.oldName = some other) :
    ∀ s ∈ (column t live force entry.1 entry.2).steps, s.change.Spares other := by
  have declared : (name, c) ∈ t.columns := split ▸ List.mem_append_cons_self
  have known : entry ∈ t.columns := by
    rw [split]
    simp only [List.mem_append, List.mem_cons] at there ⊢
    exact there.imp id .inr
  have column {entry : String × ColumnDecl} (mem : entry ∈ t.columns) :
      t.hasColumn entry.1 = true :=
    TableDecl.hasColumn_iff.mpr (List.mem_map_of_mem mem)
  have apart : entry.1 ≠ name := TableDecl.apart h.distinct split there
  intro s hs
  obtain rfl | mine := mine
  · refine (columnStep_of_mem hs).spares apart.symm fun source => ?_
    have fresh := h.fresh _ _ _ known source
    rw [column declared] at fresh
    exact nomatch fresh
  · refine (columnStep_of_mem hs).spares ?_ fun source => ?_
    · rintro rfl
      have fresh := h.fresh _ _ _ declared mine
      rw [column known] at fresh
      exact nomatch fresh
    · exact apart (h.sources _ _ _ _ _ known declared source mine)

/-- After the run every declared column is one of the listed things. -/
theorem outcome_columns (sv : Server) (h : t.Reconcilable) (declared : (name, c) ∈ t.columns)
    (counted : c.ignore = false) :
    ∃ g, (sv.run live (columns t live force dropUndeclared).steps).column? name = some g ∧
      Outcome t live force name c g := by
  have active := h.isActive declared counted
  obtain ⟨pre, post, split⟩ := List.append_of_mem declared
  have before {other : String} (mine : other = name ∨ c.oldName = some other) :
      (sv.run live (pre.flatMap fun entry => (column t live force entry.1 entry.2).steps)).column?
        other = live.column? other := by
    refine column?_run_of_spares fun s hs => ?_
    obtain ⟨entry, mem, hs⟩ := List.mem_flatMap.mp hs
    exact spares_others h split (List.mem_append_left post mem) mine s hs
  obtain ⟨g, here, outcome⟩ := outcome_column sv (t := t) force active
    (h.canonical name c declared) (before (.inl rfl)) fun old source => before (.inr source)
  refine ⟨g, ?_, outcome⟩
  rw [steps_columns, split, List.flatMap_append, List.flatMap_cons, run_append, run_append,
    run_append, column?_run_of_spares fun s hs => ?_, column?_run_of_spares fun s hs => ?_, here]
  · obtain ⟨entry, mem, hs⟩ := List.mem_flatMap.mp hs
    exact spares_others h split (List.mem_append_right pre mem) (.inl rfl) s hs
  · obtain ⟨other, listed, rfl⟩ := List.mem_map.mp hs
    have unknown : t.hasColumn other = false := by
      cases dropUndeclared with
      | true => exact (mem_undeclared_iff.mp listed).2.1
      | false => exact absurd listed List.not_mem_nil
    intro same
    obtain rfl : other = name := Option.some.inj same
    rw [TableDecl.hasColumn_iff.mpr (List.mem_map.mpr ⟨_, declared, rfl⟩)] at unknown
    exact nomatch unknown

/-- After the run no column is left that is not declared, if those are to go. -/
theorem column?_columns_eq_none (sv : Server) (unknown : t.hasColumn name = false) :
    (sv.run live (columns t live force true).steps).column? name = none := by
  refine column?_run_eq_none (fun s hs => ?_) ?_
  · obtain ⟨n, c, declared, step⟩ | ⟨n, listed, drop⟩ := columnStep_of_mem_columns hs
    · refine step.brings ?_
      rintro rfl
      rw [TableDecl.hasColumn_iff.mpr (List.mem_map.mpr ⟨_, declared, rfl⟩)] at unknown
      exact nomatch unknown
    · rw [drop]
      exact id
  · by_cases present : live.column? name = none
    · exact .inl present
    · refine .inr ?_
      by_cases renamed : name ∈ renamedFrom t live
      · obtain ⟨n, c, d, declared, active, source, rfl⟩ := mem_renamedFrom_iff.mp renamed
        obtain ⟨s, hs, change⟩ := exists_rename_of_source (t := t) active source
        exact ⟨s, mem_steps_columns.mpr (.inl ⟨n, c, declared, hs⟩), .inr ⟨n, change⟩⟩
      · have listed := mem_undeclared_iff.mpr
          ⟨Option.isSome_iff_ne_none.mpr present, unknown, renamed⟩
        exact ⟨_, mem_steps_columns.mpr (.inr ⟨rfl, name, listed, rfl⟩), .inl ⟨false, rfl⟩⟩

end Server

namespace Plan

/-- A managed column as it is declared. -/
structure Conforms (t : TableDecl) (name : String) (c : ColumnDecl) (g : CatalogColumn) :
    Prop where
  /-- The catalog has the name of the declared type, and the arguments agree. -/
  named : TypeName.catalogName? (TypeName.base c.type) = some g.dataType
  type : g.hasType c.type = true
  /-- A key column keeps its default and nullability. -/
  follows : t.keyColumns.contains name = false → g.Follows c

/-- One run of the plan for the columns of a live table brings them to rest: planned again, there is
no step.  Then every declared column exists, unless it takes no part, and is as it was declared,
unless it is not managed, is an array, or was refused for lack of force. -/
theorem columns_converge (h : t.Reconcilable) (sv : Server) (live : Catalog)
    (force dropUndeclared : Bool) :
    let after := sv.run live (columns t live force dropUndeclared).steps
    (columns t after force dropUndeclared).steps = [] ∧
      ∀ name c, (name, c) ∈ t.columns → c.ignore = false →
        ∃ g, after.column? name = some g ∧
          (isManaged c = true →
            (∀ found, liveColumn? live name c = some found → found.isArray = false ∧
              ¬ (NeedsForce found c ∧ c.force = false ∧ force = false)) →
            Conforms t name c g) := by
  intro after
  constructor
  · have declared : t.columns.flatMap (fun entry => (column t after force entry.1 entry.2).steps) =
        [] := by
      refine List.flatMap_eq_nil_iff.mpr fun entry declared => ?_
      obtain ⟨name, c⟩ := entry
      cases counted : c.ignore with
      | true => simp only [column, counted, if_true]
      | false =>
        obtain ⟨g, here, outcome⟩ := Server.outcome_columns sv h declared counted
        exact outcome.steps_column (h.isActive declared counted) here
    have others : (if dropUndeclared then undeclared t after else []) = [] := by
      cases drop : dropUndeclared with
      | false => rfl
      | true =>
        refine List.eq_nil_iff_forall_not_mem.mpr fun name listed => ?_
        obtain ⟨present, unknown, -⟩ := mem_undeclared_iff.mp listed
        subst drop
        rw [Server.column?_columns_eq_none sv unknown] at present
        cases present
    rw [steps_columns, declared, others]
    rfl
  · intro name c declared counted
    obtain ⟨g, here, outcome⟩ := Server.outcome_columns sv h declared counted
    refine ⟨g, here, fun managed fit => ?_⟩
    cases outcome with
    | unmanaged loose => exact absurd managed (by simp [loose])
    | conforms type follows named =>
      exact ⟨named fun found stands => (fit found stands).1, type, follows⟩
    | refused found stands needs unforced =>
      exact absurd ⟨needs, by simpa using unforced⟩ (fit found stands).2

end Plan

end All

/-! ### People -/

namespace Plan

/-- A table of people, whose titles have been names. -/
def people : TableDecl :=
  { name := "people"
    columns :=
      [("id", { type := "varchar(16)" }),
        ("title", { type := "varchar(60)", oldName := some "name" }),
        ("age", { type := "int", notNull := false })]
    primaryKey := some (.single "id") }

/-- The table as it was before, with ages in words and a column that is not declared. -/
def formerPeople : Catalog :=
  { present := true
    columns :=
      [{ name := "id", dataType := "character varying", charLength := some 16 },
        { name := "name", dataType := "character varying", charLength := some 30
          nullable := true },
        { name := "age", dataType := "text", default? := some "'none'::text" },
        { name := "remark", dataType := "text" }] }

theorem mem_people {name : String} {c : ColumnDecl} (h : (name, c) ∈ people.columns) :
    (name = "id" ∧ c = { type := "varchar(16)" }) ∨
      (name = "title" ∧ c = { type := "varchar(60)", oldName := some "name" }) ∨
      name = "age" ∧ c = { type := "int", notNull := false } := by
  simpa [people] using h

theorem reconcilable_people : people.Reconcilable where
  distinct := by decide
  kept _ _ declared := by
    obtain ⟨-, rfl⟩ | ⟨-, rfl⟩ | ⟨-, rfl⟩ := mem_people declared <;> rfl
  canonical _ _ declared := by
    obtain ⟨-, rfl⟩ | ⟨-, rfl⟩ | ⟨-, rfl⟩ := mem_people declared
    · exact TypeName.canonical_varchar 16
    · exact TypeName.canonical_varchar 60
    · exact TypeName.canonical_of_none (by decide)
  sources _ _ _ _ _ here there source other := by
    obtain ⟨rfl, rfl⟩ | ⟨rfl, rfl⟩ | ⟨rfl, rfl⟩ := mem_people here
    · exact nomatch source
    · obtain ⟨rfl, rfl⟩ | ⟨rfl, rfl⟩ | ⟨rfl, rfl⟩ := mem_people there
      · exact nomatch other
      · rfl
      · exact nomatch other
    · exact nomatch source
  fresh _ _ _ here source := by
    obtain ⟨-, rfl⟩ | ⟨-, rfl⟩ | ⟨-, rfl⟩ := mem_people here
    · exact nomatch source
    · obtain rfl := Option.some.inj source
      decide
    · exact nomatch source

/-- With force, and without what is not declared, the former people come to rest. -/
theorem columns_converge_people :
    people.Reconcilable ∧
      (columns people (Server.literal.run formerPeople
        (columns people formerPeople true true).steps) true true).steps = [] :=
  ⟨reconcilable_people,
    (columns_converge reconcilable_people Server.literal formerPeople true true).1⟩

end Plan

end TableMapper
