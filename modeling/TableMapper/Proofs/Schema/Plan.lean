import TableMapper.Schema.Plan.Tables

/-!
# What plans are made of

Plans are put together from plans of single columns, indexes and keys.  The lemmas of this module
give the steps, issues and changed columns of the whole in terms of those of its parts.

* `Ddl.column?` is the column that a change is about.
* `Ddl.Adjusts` holds of changes of the default or the nullability of a column, `Ddl.Beside` of
  changes of indexes and foreign keys.
* `Plan.Treatment` lists the ways in which a declared column can be treated, each with the condition
  under which it is and the plan that comes of it, and `Plan.treatment_column` says that there are
  no others.
* `Plan.ColumnStep` holds of the changes that are made for a declared column.
* `Plan.steps_columns` and `Plan.steps_liveTable` say where the steps of a plan for a live table
  come from.
-/

namespace TableMapper

/-- The column that is made, changed or removed; a column that is renamed goes by its new name. -/
def Ddl.column? : Ddl → Option String
  | .addColumn d => some d.name
  | .dropColumn name _ => some name
  | .renameColumn _ name => some name
  | .alterType name _ => some name
  | .setDefault name _ => some name
  | .dropDefault name => some name
  | .setNotNull name => some name
  | .dropNotNull name => some name
  | .createTable .. | .createIndex .. | .createUniqueIndex .. | .dropIndex _ | .addForeignKey _
  | .dropConstraint .. => none

@[simp] theorem ColumnDef.name_ofDecl {name : String} {c : ColumnDecl} {inKey : Bool} :
    (ofDecl name c inKey).name = name := by cases inKey <;> rfl

@[simp] theorem ColumnDef.type_ofDecl {name : String} {c : ColumnDecl} {inKey : Bool} :
    (ofDecl name c inKey).type = c.type := by cases inKey <;> rfl

/-- The change is one of the default or of the nullability of a column. -/
def Ddl.Adjusts (column : String) : Ddl → Prop
  | .setDefault name _ | .dropDefault name | .setNotNull name | .dropNotNull name => name = column
  | _ => False

theorem Ddl.Adjusts.column? {change : Ddl} {column : String} (h : change.Adjusts column) :
    change.column? = some column := by
  cases change <;> first | exact congrArg some h | exact h.elim

theorem Catalog.isSome_column?_iff {live : Catalog} {name : String} :
    (live.column? name).isSome = true ↔ ∃ d ∈ live.columns, d.name = name := by
  simp [column?]

theorem TableDecl.hasColumn_iff {t : TableDecl} {name : String} :
    t.hasColumn name = true ↔ name ∈ t.columnNames := by
  rw [hasColumn, column?, List.lookup_isSome_iff, columnNames, List.mem_map]
  constructor
  · rintro ⟨entry, mem, eq⟩
    exact ⟨entry, mem, (eq_of_beq eq).symm⟩
  · rintro ⟨entry, mem, rfl⟩
    exact ⟨entry, mem, BEq.rfl⟩

/-- The change is one of an index or a foreign key. -/
def Ddl.Beside : Ddl → Prop
  | .createIndex .. | .createUniqueIndex .. | .dropIndex _ | .addForeignKey _
  | .dropConstraint .. => True
  | _ => False

theorem Ddl.Beside.column? {change : Ddl} (h : change.Beside) : change.column? = none := by
  cases change <;> first | rfl | exact h.elim

namespace Plan

/-! ### Plans one after the other -/

@[simp] theorem steps_append (p q : Plan) : (p ++ q).steps = p.steps ++ q.steps := rfl

@[simp] theorem issues_append (p q : Plan) : (p ++ q).issues = p.issues ++ q.issues := rfl

@[simp] theorem changed_append (p q : Plan) : (p ++ q).changed = p.changed ++ q.changed := rfl

@[simp] theorem append_empty (p : Plan) : p ++ ({} : Plan) = p := by
  show Plan.mk (p.steps ++ []) (p.issues ++ []) (p.changed ++ []) = p
  simp only [List.append_nil]

@[simp] theorem empty_append (p : Plan) : ({} : Plan) ++ p = p := rfl

theorem append_assoc (p q r : Plan) : p ++ q ++ r = p ++ (q ++ r) := by
  show Plan.mk (p.steps ++ q.steps ++ r.steps) (p.issues ++ q.issues ++ r.issues)
    (p.changed ++ q.changed ++ r.changed) = Plan.mk _ _ _
  simp only [List.append_assoc]
  rfl

theorem concat_cons (p : Plan) (plans : List Plan) : concat (p :: plans) = p ++ concat plans := by
  have start (q : Plan) : plans.foldl append q = q ++ concat plans := by
    induction plans generalizing q with
    | nil => exact (append_empty q).symm
    | cons r plans ih =>
      have rest : concat (r :: plans) = r ++ concat plans := ih r
      rw [List.foldl_cons, ih, rest]
      exact append_assoc q r _
  exact start p

@[simp] theorem steps_concat (plans : List Plan) :
    (concat plans).steps = plans.flatMap (·.steps) := by
  induction plans with
  | nil => rfl
  | cons p plans ih => rw [concat_cons, steps_append, ih, List.flatMap_cons]

@[simp] theorem issues_concat (plans : List Plan) :
    (concat plans).issues = plans.flatMap (·.issues) := by
  induction plans with
  | nil => rfl
  | cons p plans ih => rw [concat_cons, issues_append, ih, List.flatMap_cons]

@[simp] theorem changed_concat (plans : List Plan) :
    (concat plans).changed = plans.flatMap (·.changed) := by
  induction plans with
  | nil => rfl
  | cons p plans ih => rw [concat_cons, changed_append, ih, List.flatMap_cons]

/-! ### One column -/

section Column

variable {t : TableDecl} {live : Catalog} {force : Bool} {name : String} {c : ColumnDecl}

theorem renameSource?_eq_some_iff {found : CatalogColumn} :
    renameSource? live name c = some found ↔
      live.column? name = none ∧ c.oldName.bind live.column? = some found := by
  unfold renameSource?
  cases live.column? name <;> simp

/-- The rename of a column, if it has to be renamed. -/
def rename (t : TableDecl) (live : Catalog) (name : String) (c : ColumnDecl) : Plan :=
  match renameSource? live name c with
  | some old => .step (t.member name) (.renameColumn old.name name)
  | none => {}

/-- The remark on a column that is not converted for lack of force. -/
def refusal (t : TableDecl) (name : String) (c : ColumnDecl) (found : CatalogColumn) : Issue :=
  ⟨t.member name,
    "refusing to convert " ++ found.dataType ++ " to " ++ c.type ++ " without force"⟩

/-- The column is converted only by force: it holds text, and its declared type does not. -/
def NeedsForce (found : CatalogColumn) (c : ColumnDecl) : Prop :=
  found.hasType c.type = false ∧ found.isTextual = true ∧
    TypeName.isString (TypeName.base c.type) = false

/-- The ways in which a declared column is treated, and the plans for them. -/
inductive Treatment (t : TableDecl) (live : Catalog) (force : Bool) (name : String)
    (c : ColumnDecl) : Plan → Prop
  | ignored (skip : c.ignore = true) : Treatment t live force name c {}
  | dropped (skip : c.ignore = false) (drop : c.drop = true) :
      Treatment t live force name c (.tryStep (t.member name) (.dropColumn name true))
  | missing (active : c.isActive = true) (absent : liveColumn? live name c = none) :
      Treatment t live force name c
        (.step (t.member name) (.addColumn (ColumnDef.ofDecl name c false)))
  | unmanaged (active : c.isActive = true) (found : CatalogColumn)
      (stands : liveColumn? live name c = some found) (loose : isManaged c = false) :
      Treatment t live force name c (rename t live name c)
  | typed (active : c.isActive = true) (found : CatalogColumn)
      (stands : liveColumn? live name c = some found) (managed : isManaged c = true)
      (same : found.hasType c.type = true) :
      Treatment t live force name c (rename t live name c ++
        columnConstraints (t.member name) name c found (t.keyColumns.contains name))
  | refused (active : c.isActive = true) (found : CatalogColumn)
      (stands : liveColumn? live name c = some found) (managed : isManaged c = true)
      (needs : NeedsForce found c) (unforced : (c.force || force) = false) :
      Treatment t live force name c
        (rename t live name c ++ { issues := [refusal t name c found] })
  | forced (active : c.isActive = true) (found : CatalogColumn)
      (stands : liveColumn? live name c = some found) (managed : isManaged c = true)
      (needs : NeedsForce found c) (forced : (c.force || force) = true) :
      Treatment t live force name c (rename t live name c ++
        recreateColumn (t.member name) name c (t.keyColumns.contains name))
  | retyped (active : c.isActive = true) (found : CatalogColumn)
      (stands : liveColumn? live name c = some found) (managed : isManaged c = true)
      (other : found.hasType c.type = false)
      (convertible : found.isTextual = false ∨ TypeName.isString (TypeName.base c.type) = true) :
      Treatment t live force name c (rename t live name c ++
        (.step (t.member name) (.alterType name c.type) ++ .change name ++
          columnConstraints (t.member name) name c found (t.keyColumns.contains name)))

/-- A column that stands for a live one is renamed if need be, and then its type is looked at. -/
theorem column_found {found : CatalogColumn} (skip : c.ignore = false) (drop : c.drop = false)
    (stands : liveColumn? live name c = some found) :
    column t live force name c = rename t live name c ++
      if isManaged c then
        columnType (t.member name) name c found (t.keyColumns.contains name) force
      else {} := by
  simp only [column, skip, drop, stands, Bool.false_eq_true, if_false]
  rfl

/-- A column that lacks force is renamed and remarked on. -/
theorem column_refused {found : CatalogColumn} (active : c.isActive = true)
    (stands : liveColumn? live name c = some found) (managed : isManaged c = true)
    (needs : NeedsForce found c) (unforced : (c.force || force) = false) :
    column t live force name c =
      rename t live name c ++ { issues := [refusal t name c found] } := by
  obtain ⟨drop, skip⟩ : c.drop = false ∧ c.ignore = false := by
    simpa [ColumnDecl.isActive] using active
  obtain ⟨other, textual, foreign⟩ := needs
  rw [column_found skip drop stands, if_pos managed, columnType, other, textual, foreign, unforced]
  rfl

/-- Every declared column is treated in one of the ways listed. -/
theorem treatment_column (t : TableDecl) (live : Catalog) (force : Bool) (name : String)
    (c : ColumnDecl) : Treatment t live force name c (column t live force name c) := by
  cases skip : c.ignore with
  | true =>
    have : column t live force name c = {} := by simp only [column, skip, if_true]
    exact this ▸ .ignored skip
  | false =>
  cases drop : c.drop with
  | true =>
    have : column t live force name c = .tryStep (t.member name) (.dropColumn name true) := by
      simp only [column, skip, drop, Bool.false_eq_true, if_false, if_true]
    exact this ▸ .dropped skip drop
  | false =>
  have active : c.isActive = true := by simp [ColumnDecl.isActive, skip, drop]
  cases stands : liveColumn? live name c with
  | none =>
    have : column t live force name c =
        .step (t.member name) (.addColumn (ColumnDef.ofDecl name c false)) := by
      simp only [column, skip, drop, stands, Bool.false_eq_true, if_false]
    exact this ▸ .missing active stands
  | some found =>
  rw [column_found skip drop stands]
  cases managed : isManaged c with
  | false =>
    simpa only [Bool.false_eq_true, if_false, append_empty] using
      Treatment.unmanaged active found stands managed
  | true =>
  simp only [if_true, columnType]
  cases same : found.hasType c.type with
  | true => simpa only [if_true] using Treatment.typed active found stands managed same
  | false =>
  simp only [Bool.false_eq_true, if_false]
  split
  next needs =>
    obtain ⟨textual, other⟩ : found.isTextual = true ∧
        TypeName.isString (TypeName.base c.type) = false := by simpa using needs
    split
    next forced => exact .forced active found stands managed ⟨same, textual, other⟩ forced
    next unforced =>
      exact .refused active found stands managed ⟨same, textual, other⟩ (by simpa using unforced)
  next convertible =>
    exact .retyped active found stands managed same (by
      cases textual : found.isTextual <;> simp_all)

/-! ### The steps of one column -/

theorem mem_steps_rename {s : Step} (h : s ∈ (rename t live name c).steps) :
    ∃ old, renameSource? live name c = some old ∧ s.change = .renameColumn old.name name := by
  unfold rename at h
  cases source : renameSource? live name c with
  | none => simp [source] at h
  | some old => exact ⟨old, rfl, by simp_all [step]⟩

theorem mem_steps_columnDefault {object : String} {found : CatalogColumn} {s : Step}
    (h : s ∈ (columnDefault object name c found).steps) : s.change.Adjusts name := by
  unfold columnDefault at h
  split at h <;> split at h
  all_goals simp_all [step, Ddl.Adjusts]

theorem mem_steps_columnNullability {object : String} {found : CatalogColumn} {s : Step}
    (h : s ∈ (columnNullability object name c found).steps) : s.change.Adjusts name := by
  unfold columnNullability at h
  split at h
  next => simp_all [step, Ddl.Adjusts]
  next =>
    split at h
    all_goals simp_all [step, Ddl.Adjusts]

theorem mem_steps_columnConstraints {object : String} {found : CatalogColumn} {inKey : Bool}
    {s : Step} (h : s ∈ (columnConstraints object name c found inKey).steps) :
    s.change.Adjusts name := by
  unfold columnConstraints at h
  split at h
  next => exact absurd h (List.not_mem_nil)
  next =>
    rw [steps_append, List.mem_append] at h
    exact h.elim mem_steps_columnDefault mem_steps_columnNullability

theorem steps_recreateColumn {object : String} {inKey : Bool} :
    (recreateColumn object name c inKey).steps =
      [{ change := .dropColumn name false, object },
        { change := .addColumn (ColumnDef.ofDecl name c inKey), object }] := rfl

/-- The changes that are made for a declared column. -/
inductive ColumnStep (live : Catalog) (name : String) (c : ColumnDecl) : Ddl → Prop
  | rename (active : c.isActive = true) (old : CatalogColumn)
      (source : renameSource? live name c = some old) :
      ColumnStep live name c (.renameColumn old.name name)
  | add (inKey : Bool) : ColumnStep live name c (.addColumn (ColumnDef.ofDecl name c inKey))
  | remove (ifExists : Bool) : ColumnStep live name c (.dropColumn name ifExists)
  | retype (active : c.isActive = true) (found : CatalogColumn)
      (stands : liveColumn? live name c = some found)
      (convertible : found.isTextual = false ∨ TypeName.isString (TypeName.base c.type) = true) :
      ColumnStep live name c (.alterType name c.type)
  | adjust (change : Ddl) (adjusts : change.Adjusts name) : ColumnStep live name c change

theorem ColumnStep.column? {change : Ddl} (h : ColumnStep live name c change) :
    change.column? = some name := by
  cases h with
  | rename | remove | retype => rfl
  | add inKey => cases inKey <;> rfl
  | adjust _ adjusts => exact adjusts.column?

/-- A column that stands for a live one is renamed first. -/
theorem rename_subset_column {found : CatalogColumn} (active : c.isActive = true)
    (stands : liveColumn? live name c = some found) :
    (rename t live name c).steps ⊆ (column t live force name c).steps := by
  obtain ⟨drop, skip⟩ : c.drop = false ∧ c.ignore = false := by
    simpa [ColumnDecl.isActive] using active
  rw [column_found skip drop stands, steps_append]
  exact List.subset_append_left _ _

/-- A column that has a source is renamed from it. -/
theorem exists_rename_of_source {old : CatalogColumn} (active : c.isActive = true)
    (source : renameSource? live name c = some old) :
    ∃ s ∈ (column t live force name c).steps, s.change = .renameColumn old.name name := by
  have stands : liveColumn? live name c = some old := by
    rw [liveColumn?, (renameSource?_eq_some_iff.mp source).1, Option.none_or, source]
  refine ⟨{ change := .renameColumn old.name name, object := t.member name },
    rename_subset_column active stands ?_, rfl⟩
  simp only [rename, source]
  exact List.mem_singleton_self _

theorem columnStep_of_mem {s : Step} (h : s ∈ (column t live force name c).steps) :
    ColumnStep live name c s.change := by
  have renamed (active : c.isActive = true) (h : s ∈ (rename t live name c).steps) :
      ColumnStep live name c s.change := by
    obtain ⟨old, source, change⟩ := mem_steps_rename h
    exact change ▸ .rename active old source
  have treated := treatment_column t live force name c
  generalize column t live force name c = q at treated h
  cases treated with
  | ignored => exact absurd h List.not_mem_nil
  | dropped => rw [List.mem_singleton.mp h]; exact .remove true
  | missing => rw [List.mem_singleton.mp h]; exact .add false
  | unmanaged active => exact renamed active h
  | typed active =>
    exact (List.mem_append.mp h).elim (renamed active) fun h =>
      .adjust _ (mem_steps_columnConstraints h)
  | refused active =>
    exact (List.mem_append.mp h).elim (renamed active) fun h => absurd h List.not_mem_nil
  | forced active =>
    obtain h | h := List.mem_append.mp h
    · exact renamed active h
    · rw [steps_recreateColumn, List.mem_cons, List.mem_singleton] at h
      obtain rfl | rfl := h
      · exact .remove false
      · exact .add _
  | retyped active found stands managed other convertible =>
    obtain h | h := List.mem_append.mp h
    · exact renamed active h
    · obtain h | h := List.mem_append.mp h
      · rw [List.mem_singleton.mp h]; exact .retype active found stands convertible
      · exact .adjust _ (mem_steps_columnConstraints h)

end Column

/-! ### A live table -/

section Table

variable {t : TableDecl} {live : Catalog} {force dropUndeclared : Bool}

theorem mem_undeclared_iff {name : String} :
    name ∈ undeclared t live ↔
      (live.column? name).isSome = true ∧ t.hasColumn name = false ∧
        name ∉ renamedFrom t live := by
  simp only [undeclared, List.mem_mergeSort, List.mem_filter, List.mem_map,
    Catalog.isSome_column?_iff, Bool.and_eq_true, Bool.not_eq_true', List.contains_eq_mem,
    decide_eq_false_iff_not]

theorem mem_renamedFrom_iff {old : String} :
    old ∈ renamedFrom t live ↔ ∃ name c d, (name, c) ∈ t.columns ∧ c.isActive = true ∧
      renameSource? live name c = some d ∧ d.name = old := by
  simp only [renamedFrom, List.mem_filterMap, Prod.exists]
  constructor
  · rintro ⟨name, c, declared, source⟩
    split at source
    next => exact nomatch source
    next active =>
      obtain ⟨d, source, named⟩ := Option.map_eq_some_iff.mp source
      refine ⟨name, c, d, declared, ?_, source, named⟩
      simpa [ColumnDecl.isActive, and_comm] using active
  · rintro ⟨name, c, d, declared, active, source, named⟩
    refine ⟨name, c, declared, ?_⟩
    obtain ⟨kept, counted⟩ : c.drop = false ∧ c.ignore = false := by
      simpa [ColumnDecl.isActive] using active
    simp only [kept, counted, source, Bool.or_self, Bool.false_eq_true, if_false, Option.map_some,
      named]

/-- The removal of a column that is not declared. -/
def removal (t : TableDecl) (name : String) : Step :=
  { change := .dropColumn name false, object := t.member name }

theorem steps_columns : (columns t live force dropUndeclared).steps =
    t.columns.flatMap (fun entry => (column t live force entry.1 entry.2).steps) ++
      (if dropUndeclared then undeclared t live else []).map (removal t) := by
  simp only [columns, steps_append, steps_concat, List.flatMap_map]
  exact congrArg (_ ++ ·) List.map_eq_flatMap.symm

theorem mem_steps_columns {s : Step} :
    s ∈ (columns t live force dropUndeclared).steps ↔
      (∃ name c, (name, c) ∈ t.columns ∧ s ∈ (column t live force name c).steps) ∨
      (dropUndeclared = true ∧ ∃ name ∈ undeclared t live, removal t name = s) := by
  rw [steps_columns, List.mem_append, List.mem_flatMap, Prod.exists, List.mem_map]
  cases dropUndeclared <;> simp

/-- A change of a column is made for a declared column, or removes one that is not declared. -/
theorem columnStep_of_mem_columns {s : Step}
    (h : s ∈ (columns t live force dropUndeclared).steps) :
    (∃ name c, (name, c) ∈ t.columns ∧ ColumnStep live name c s.change) ∨
      ∃ name ∈ undeclared t live, s.change = .dropColumn name false := by
  obtain ⟨name, c, declared, h⟩ | ⟨-, name, listed, rfl⟩ := mem_steps_columns.mp h
  · exact .inl ⟨name, c, declared, columnStep_of_mem h⟩
  · exact .inr ⟨name, listed, rfl⟩

/-- An index that is created has the name of its columns, which no index had before. -/
theorem mem_steps_createUnlessPresent {columns : List String} {change : String → Ddl} {s : Step}
    (h : s ∈ (createUnlessPresent t live columns change).steps) :
    live.hasIndex (Naming.indexName t.name columns) = false ∧
      s.change = change (Naming.indexName t.name columns) := by
  unfold createUnlessPresent at h
  split at h
  next => exact absurd h List.not_mem_nil
  next =>
    dsimp only at h
    split at h
    next => exact absurd h List.not_mem_nil
    next absent =>
      rw [List.mem_singleton.mp h]
      exact ⟨Bool.eq_false_iff.mpr absent, rfl⟩

theorem usable_of_mem_createUnlessPresent {columns : List String} {change : String → Ddl} {s : Step}
    (h : s ∈ (createUnlessPresent t live columns change).steps) : unusable? t columns = none := by
  unfold createUnlessPresent at h
  split at h
  next => exact absurd h List.not_mem_nil
  next usable => exact usable

theorem index_subset {columns : List String} : (index t live columns).steps ⊆
    (createUnlessPresent t live columns fun name =>
      .createIndex name (indexMethod? t columns) columns).steps := by
  unfold index
  split
  next => exact List.nil_subset _
  next =>
    split
    next => exact List.nil_subset _
    next => exact List.Subset.refl _

theorem uniqueIndex_subset {columns : List String} : (uniqueIndex t live columns).steps ⊆
    (createUnlessPresent t live columns fun name => .createUniqueIndex name columns).steps := by
  unfold uniqueIndex
  split
  next => exact List.nil_subset _
  next => exact List.Subset.refl _

theorem mem_steps_index {columns : List String} {s : Step}
    (h : s ∈ (index t live columns).steps) :
    s.change =
      .createIndex (Naming.indexName t.name columns) (indexMethod? t columns) columns := by
  unfold index at h
  split at h
  next => exact absurd h List.not_mem_nil
  next =>
    split at h
    next => exact absurd h List.not_mem_nil
    next => exact (mem_steps_createUnlessPresent h).2

theorem mem_steps_uniqueIndex {columns : List String} {s : Step}
    (h : s ∈ (uniqueIndex t live columns).steps) :
    s.change = .createUniqueIndex (Naming.indexName t.name columns) columns := by
  unfold uniqueIndex at h
  split at h
  next => exact absurd h List.not_mem_nil
  next => exact (mem_steps_createUnlessPresent h).2

theorem mem_steps_indexes {s : Step} : s ∈ (indexes t live).steps ↔
    (∃ columns ∈ columnLists t.indexes, s ∈ (index t live columns).steps) ∨
      (∃ columns ∈ columnLists t.uniques, s ∈ (uniqueIndex t live columns).steps) ∨
      ∃ entry ∈ t.removedIndexes, s ∈ (removedIndex t live entry).steps := by
  simp only [indexes, steps_append, steps_concat, List.mem_append, List.flatMap_map,
    List.mem_flatMap, or_assoc]

theorem change_of_mem_removedIndex {entry : String} {s : Step}
    (h : s ∈ (removedIndex t live entry).steps) :
    ∃ name, namedIndex? t live entry = some name ∧ s.change = .dropIndex name := by
  unfold removedIndex at h
  split at h
  next name named => exact ⟨name, named, by rw [List.mem_singleton.mp h]⟩
  next => exact absurd h List.not_mem_nil

theorem beside_removedIndex {entry : String} {s : Step}
    (h : s ∈ (removedIndex t live entry).steps) : s.change.Beside := by
  unfold removedIndex at h
  split at h
  next => rw [List.mem_singleton.mp h]; trivial
  next => exact absurd h List.not_mem_nil

/-- Indexes are made and removed without a change of a column. -/
theorem beside_indexes {s : Step} (h : s ∈ (indexes t live).steps) :
    s.change.Beside := by
  simp only [indexes, steps_append, steps_concat, List.mem_append, List.mem_flatMap,
    List.mem_map] at h
  obtain (⟨_, ⟨_, -, rfl⟩, h⟩ | ⟨_, ⟨_, -, rfl⟩, h⟩) | ⟨_, ⟨_, -, rfl⟩, h⟩ := h
  · rw [mem_steps_index h]; trivial
  · rw [mem_steps_uniqueIndex h]; trivial
  · exact beside_removedIndex h

theorem mem_steps_foreignKeys {changed : List String} {s : Step} :
    s ∈ (foreignKeys t live changed).steps ↔
      (∃ name ∈ staleKeys t live, s = { change := .dropConstraint name false, object := name }) ∨
      ∃ k ∈ t.foreignKeys, s ∈ (foreignKey live changed k).steps := by
  simp only [foreignKeys, steps_append, steps_concat, List.mem_append, List.flatMap_map,
    List.mem_flatMap, step, List.mem_singleton]

/-- A declared foreign key is removed or added. -/
theorem change_of_mem_foreignKey {changed : List String} {k : ForeignKey} {s : Step}
    (h : s ∈ (foreignKey live changed k).steps) :
    s.change = .dropConstraint k.name true ∨ s.change = .addForeignKey k := by
  rw [foreignKey, steps_append] at h
  obtain h | h := List.mem_append.mp h <;> split at h
  all_goals first
    | exact absurd h List.not_mem_nil
    | rw [List.mem_singleton.mp h]; simp

theorem beside_foreignKey {changed : List String} {k : ForeignKey} {s : Step}
    (h : s ∈ (foreignKey live changed k).steps) : s.change.Beside := by
  simp only [foreignKey, steps_append, List.mem_append] at h
  obtain h | h := h <;> split at h
  all_goals first
    | exact absurd h List.not_mem_nil
    | rw [List.mem_singleton.mp h]; trivial

/-- Foreign keys are made and removed without a change of a column. -/
theorem beside_foreignKeys {changed : List String} {s : Step}
    (h : s ∈ (foreignKeys t live changed).steps) : s.change.Beside := by
  simp only [foreignKeys, steps_append, steps_concat, List.mem_append, List.mem_flatMap,
    List.mem_map] at h
  obtain ⟨_, ⟨_, -, rfl⟩, h⟩ | ⟨_, ⟨_, -, rfl⟩, h⟩ := h
  · rw [List.mem_singleton.mp h]; trivial
  · exact beside_foreignKey h

/-- The steps that follow the changes of the columns. -/
def tail (t : TableDecl) (live : Catalog) (changed : List String) : List Step :=
  (indexes t live).steps ++ (foreignKeys t live changed).steps

theorem beside_tail {changed : List String} {s : Step} (h : s ∈ tail t live changed) :
    s.change.Beside :=
  (List.mem_append.mp h).elim beside_indexes beside_foreignKeys

theorem steps_liveTable {o : SyncOptions} : (liveTable t live o).steps =
    (columns t live o.force o.dropUndeclared).steps ++
      tail t live (columns t live o.force o.dropUndeclared).changed := by
  simp only [liveTable, steps_append, tail, List.append_assoc]

theorem column_subset_liveTable {o : SyncOptions} {name : String} {c : ColumnDecl}
    (declared : (name, c) ∈ t.columns) :
    (column t live o.force name c).steps ⊆ (liveTable t live o).steps := by
  intro s hs
  rw [steps_liveTable]
  exact List.mem_append_left _ (mem_steps_columns.mpr (.inl ⟨name, c, declared, hs⟩))

theorem column_issues_subset_liveTable {o : SyncOptions} {name : String} {c : ColumnDecl}
    (declared : (name, c) ∈ t.columns) :
    (column t live o.force name c).issues ⊆ (liveTable t live o).issues := by
  intro i hi
  simp only [liveTable, columns, issues_append, issues_concat, List.mem_append, List.mem_flatMap]
  exact .inl (.inl (.inl ⟨_, List.mem_map.mpr ⟨(name, c), declared, rfl⟩, hi⟩))

/-- A step for a live table that changes a column is one of those for its columns. -/
theorem mem_columns_of_column? {o : SyncOptions} {s : Step} {name : String}
    (h : s ∈ (liveTable t live o).steps) (about : s.change.column? = some name) :
    s ∈ (columns t live o.force o.dropUndeclared).steps := by
  rw [steps_liveTable] at h
  obtain h | h := List.mem_append.mp h
  · exact h
  · rw [(beside_tail h).column?] at about
    exact nomatch about

end Table

end Plan

end TableMapper
