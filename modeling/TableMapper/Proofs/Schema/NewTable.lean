import TableMapper.Proofs.Schema.Converge
import TableMapper.Schema.References

/-!
# A new table needs nothing more

The plan for a table that the catalog does not have creates it as the plan for a live table wants
it: planned again against the catalog that it leaves, there is no step.

* `Ddl.Adds` holds of the changes that only add an index or a foreign key, `Ddl.indexName?` and
  `Ddl.keyName?` are the names added, and `Server.run_of_adds` is the catalog after such changes.
* `Server.made` is the catalog in which a table has been created.
* `TableDecl.Creatable` is what a declaration has to be for the result, `Plan.table_settled`.
-/

namespace TableMapper

/-! ### Changes that add -/

namespace Ddl

/-- The name of an index that is added. -/
def indexName? : Ddl → Option String
  | .createIndex name _ _ | .createUniqueIndex name _ => some name
  | _ => none

/-- The name of a foreign key that is added. -/
def keyName? : Ddl → Option String
  | .addForeignKey k => some k.name
  | _ => none

/-- The change adds an index or a foreign key. -/
def Adds (change : Ddl) : Prop := change.indexName?.isSome = true ∨ change.keyName?.isSome = true

end Ddl

theorem Server.run_of_adds (sv : Server) (live : Catalog) {steps : List Step}
    (h : ∀ s ∈ steps, s.change.Adds) :
    sv.run live steps =
      { live with
        indexes := live.indexes ++ steps.filterMap (·.change.indexName?)
        foreignKeys := live.foreignKeys ++ steps.filterMap (·.change.keyName?) } := by
  induction steps generalizing live with
  | nil => simp
  | cons s steps ih =>
    rw [run_cons, ih _ fun u hu => h u (List.mem_cons_of_mem s hu)]
    have adds := h s List.mem_cons_self
    obtain ⟨change, object, bestEffort⟩ := s
    cases change with
    | createIndex | createUniqueIndex | addForeignKey =>
      simp [apply, Ddl.indexName?, Ddl.keyName?]
    | _ => simp [Ddl.Adds, Ddl.indexName?, Ddl.keyName?] at adds

/-! ### The plan for a new table -/

section New

variable {t : TableDecl} {sv : Server} {name : String} {c : ColumnDecl}

namespace Plan

/-- For a table that does not exist indexes are only created. -/
theorem indexName?_indexes {s : Step} (h : s ∈ (indexes t {}).steps) :
    s.change.indexName?.isSome = true := by
  simp only [indexes, steps_append, steps_concat, List.mem_append, List.mem_flatMap,
    List.mem_map] at h
  obtain (⟨_, ⟨_, -, rfl⟩, h⟩ | ⟨_, ⟨_, -, rfl⟩, h⟩) | ⟨_, ⟨_, -, rfl⟩, h⟩ := h
  · rw [mem_steps_index h]; rfl
  · rw [mem_steps_uniqueIndex h]; rfl
  · exact absurd h List.not_mem_nil

/-- Of a table that does not exist no foreign key is stale, and every declared one is added. -/
theorem steps_foreignKeys_empty : (foreignKeys t {} []).steps =
    t.foreignKeys.map fun k => { change := .addForeignKey k, object := k.name } := by
  have stale : staleKeys t {} = [] := by
    simp only [staleKeys, List.filter_nil, List.eraseDups_nil, List.mergeSort_nil]
  rw [foreignKeys, stale, List.map_nil, steps_append, steps_concat, steps_concat, List.flatMap_map,
    List.map_eq_flatMap]
  rfl

theorem adds_foreignKeys {s : Step} (h : s ∈ (foreignKeys t {} []).steps) : s.change.Adds := by
  rw [steps_foreignKeys_empty] at h
  obtain ⟨k, -, rfl⟩ := List.mem_map.mp h
  exact .inr rfl

/-- The definitions of the columns of a new table. -/
def definitions (t : TableDecl) : List ColumnDef :=
  (t.columns.filter (·.2.isActive)).map fun (name, c) => newColumn t name c

/-- The primary key of a new table as a list of its own, when it has several columns. -/
def keyList (t : TableDecl) : List String := if 1 < t.keyColumns.length then t.keyColumns else []

theorem createTable_eq : createTable t = .step t.name (.createTable (definitions t) (keyList t)) :=
  rfl

@[simp] theorem name_newColumn : (newColumn t name c).name = name := by
  simp only [newColumn, ColumnDef.name_ofDecl]

@[simp] theorem type_newColumn : (newColumn t name c).type = c.type := by
  simp only [newColumn, ColumnDef.type_ofDecl]

end Plan

namespace Server

/-- The catalog in which a table has been created. -/
def made (sv : Server) (t : TableDecl) : Catalog := sv.run {} (Plan.newTable t).steps

theorem made_eq : sv.made t =
    { present := true
      columns := (Plan.definitions t).map (sv.newColumn (Plan.keyList t))
      indexes := sv.keyIndexes (Plan.definitions t) (Plan.keyList t) ++
        (Plan.indexes t {}).steps.filterMap (·.change.indexName?)
      foreignKeys := t.foreignKeys.map (·.name) } := by
  have keys : (Plan.indexes t {}).steps.filterMap (·.change.keyName?) = [] := by
    refine List.filterMap_eq_nil_iff.mpr fun s hs => ?_
    have index := Plan.indexName?_indexes hs
    revert index
    cases s.change <;> first | exact fun _ => rfl | exact nofun
  have names : (Plan.foreignKeys t {} []).steps.filterMap (·.change.indexName?) = [] := by
    rw [Plan.steps_foreignKeys_empty]
    refine List.filterMap_eq_nil_iff.mpr fun s hs => ?_
    obtain ⟨k, -, rfl⟩ := List.mem_map.mp hs
    rfl
  have added : (Plan.foreignKeys t {} []).steps.filterMap (·.change.keyName?) =
      t.foreignKeys.map (·.name) := by
    rw [Plan.steps_foreignKeys_empty, List.filterMap_map]
    exact congrFun (List.filterMap_eq_map (f := ForeignKey.name)) t.foreignKeys
  rw [made, Plan.newTable, Plan.steps_append, Plan.steps_append, run_append, run_append,
    run_of_adds _ _ fun s => Plan.adds_foreignKeys,
    run_of_adds _ _ fun s hs => .inl (Plan.indexName?_indexes hs), keys, names, added]
  simp [Plan.createTable_eq, Plan.step, apply]

/-- An active column of a new table is found as it was defined. -/
theorem column?_made (distinct : t.columnNames.Nodup) (declared : (name, c) ∈ t.columns)
    (active : c.isActive = true) :
    (sv.made t).column? name =
      some (sv.newColumn (Plan.keyList t) (Plan.newColumn t name c)) := by
  have first : (t.columns.find? fun entry => decide (entry.2.isActive = true ∧
      ((Plan.newColumn t entry.1 entry.2).name == name) = true)) = some (name, c) := by
    obtain ⟨pre, post, split⟩ := List.append_of_mem declared
    refine List.find?_eq_some_iff_append.mpr ⟨by simp [active], pre, post, split, ?_⟩
    intro entry before
    simp [TableDecl.apart distinct split (List.mem_append_left post before)]
  rw [made_eq, Catalog.column?, Plan.definitions, List.map_map, List.find?_map, List.find?_filter]
  exact congrArg (Option.map _) first

/-- A new table has only columns that are declared. -/
theorem hasColumn_of_made (present : ((sv.made t).column? name).isSome = true) :
    t.hasColumn name = true := by
  obtain ⟨d, there, rfl⟩ := Catalog.isSome_column?_iff.mp present
  rw [made_eq] at there
  obtain ⟨definition, defined, rfl⟩ := List.mem_map.mp there
  obtain ⟨entry, declared, rfl⟩ := List.mem_map.mp defined
  rw [name_newColumn, Plan.name_newColumn, TableDecl.hasColumn_iff]
  exact List.mem_map_of_mem (List.mem_filter.mp declared).1

end Server

namespace Plan

/-! ### The second plan -/

/-- A column of a new table is as its declaration wants it. -/
theorem outcome_made (h : t.Creatable) (force : Bool) (declared : (name, c) ∈ t.columns) :
    Outcome t (sv.made t) force name c (sv.newColumn (keyList t) (newColumn t name c)) := by
  cases managed : isManaged c with
  | false => exact .unmanaged managed
  | true =>
  obtain ⟨scalar, known, named⟩ := exists_catalogName managed
  have reported : (sv.report (newColumn t name c).type).dataType = known := by
    rw [type_newColumn, sv.report_name scalar named]
  refine .conforms (Server.hasType_newColumn managed (h.canonical name c declared) type_newColumn)
    (fun outside => ?_) fun _ => named.trans (congrArg some reported.symm)
  have plain : newColumn t name c =
      { ColumnDef.ofDecl name c false with primaryKey := false } := by
    simp only [newColumn, outside, Bool.false_and]
  have free : (keyList t).contains name = false := by
    unfold keyList
    split
    next => exact outside
    next => rfl
  refine Server.follows_newColumn (by rw [plain]; rfl) ?_
    (reported ▸ Default.castName_of_catalogName? named)
  rw [name_newColumn, free, plain]
  simp [ColumnDef.ofDecl]

theorem steps_columns_made (h : t.Creatable) (force dropUndeclared : Bool) :
    (columns t (sv.made t) force dropUndeclared).steps = [] := by
  have declared : t.columns.flatMap
      (fun entry => (column t (sv.made t) force entry.1 entry.2).steps) = [] := by
    refine List.flatMap_eq_nil_iff.mpr fun entry declared => ?_
    obtain ⟨name, c⟩ := entry
    cases counted : c.ignore with
    | true => simp only [column, counted, if_true]
    | false =>
      have active := h.isActive declared counted
      exact (outcome_made h force declared).steps_column active
        (Server.column?_made h.distinct declared active)
  have others : undeclared t (sv.made t) = [] := by
    refine List.eq_nil_iff_forall_not_mem.mpr fun name listed => ?_
    obtain ⟨present, unknown, -⟩ := mem_undeclared_iff.mp listed
    rw [Server.hasColumn_of_made present] at unknown
    cases unknown
  rw [steps_columns, declared, others]
  cases dropUndeclared <;> rfl

theorem changed_rename {live : Catalog} : (rename t live name c).changed = [] := by
  unfold rename
  split <;> rfl

theorem changed_columnConstraints {object : String} {d : CatalogColumn} {inKey : Bool} :
    (columnConstraints object name c d inKey).changed = [] := by
  have default : (columnDefault object name c d).changed = [] := by
    unfold columnDefault
    split <;> split <;> rfl
  have nullability : (columnNullability object name c d).changed = [] := by
    unfold columnNullability
    split
    next => rfl
    next => split <;> rfl
  unfold columnConstraints
  split
  next => rfl
  next => rw [changed_append, default, nullability, List.nil_append]

/-- A column that no step is planned for does not change its type. -/
theorem changed_column {live : Catalog} {force : Bool}
    (h : (column t live force name c).steps = []) :
    (column t live force name c).changed = [] := by
  have treated := treatment_column t live force name c
  generalize column t live force name c = q at treated h
  cases treated with
  | ignored | dropped | missing => rfl
  | unmanaged => exact changed_rename
  | typed => rw [changed_append, changed_rename, changed_columnConstraints, List.nil_append]
  | refused => rw [changed_append, changed_rename, List.nil_append]
  | forced => exact nomatch (List.append_eq_nil_iff.mp h).2
  | retyped => exact nomatch (List.append_eq_nil_iff.mp h).2

theorem changed_columns {live : Catalog} {force dropUndeclared : Bool}
    (h : (columns t live force dropUndeclared).steps = []) :
    (columns t live force dropUndeclared).changed = [] := by
  rw [steps_columns] at h
  have still := List.flatMap_eq_nil_iff.mp (List.append_eq_nil_iff.mp h).1
  simp only [columns, changed_append, changed_concat, List.flatMap_map]
  refine List.append_eq_nil_iff.mpr ⟨?_, ?_⟩
  · exact List.flatMap_eq_nil_iff.mpr fun entry declared => changed_column (still entry declared)
  · exact List.flatMap_eq_nil_iff.mpr fun _ _ => rfl

/-- Nothing is created twice. -/
theorem steps_createUnlessPresent_made {columns : List String} {change : String → Ddl}
    (named : ∀ name, (change name).indexName? = some name)
    (within : (createUnlessPresent t {} columns change).steps ⊆ (indexes t {}).steps) :
    (createUnlessPresent t (sv.made t) columns change).steps = [] := by
  have present (usable : unusable? t columns = none) :
      (sv.made t).hasIndex (Naming.indexName t.name columns) = true := by
    have created : (⟨change (Naming.indexName t.name columns),
        Naming.indexName t.name columns, false⟩ : Step) ∈
          (createUnlessPresent t {} columns change).steps := by
      simp only [createUnlessPresent, usable]
      exact List.mem_singleton_self _
    rw [Catalog.hasIndex, List.contains_iff_mem, Server.made_eq]
    exact List.mem_append_right _ (List.mem_filterMap.mpr ⟨_, within created, named _⟩)
  unfold createUnlessPresent
  split
  next => rfl
  next usable =>
    dsimp only
    rw [if_pos (present usable)]

theorem steps_index_made {columns : List String} (declared : columns ∈ columnLists t.indexes) :
    (index t (sv.made t) columns).steps = [] := by
  have within : (index t {} columns).steps ⊆ (indexes t {}).steps := by
    intro s hs
    simp only [indexes, steps_append, steps_concat, List.flatMap_map, List.mem_append,
      List.mem_flatMap]
    exact .inl (.inl ⟨columns, declared, hs⟩)
  unfold index at within ⊢
  split
  next => rfl
  next kept =>
    rw [if_neg kept] at within
    split
    next => rfl
    next sole =>
      rw [if_neg sole] at within
      exact steps_createUnlessPresent_made (fun _ => rfl) within

theorem steps_uniqueIndex_made {columns : List String}
    (declared : columns ∈ columnLists t.uniques) :
    (uniqueIndex t (sv.made t) columns).steps = [] := by
  have within : (uniqueIndex t {} columns).steps ⊆ (indexes t {}).steps := by
    intro s hs
    simp only [indexes, steps_append, steps_concat, List.flatMap_map, List.mem_append,
      List.mem_flatMap]
    exact .inl (.inr ⟨columns, declared, hs⟩)
  unfold uniqueIndex at within ⊢
  split
  next => rfl
  next kept =>
    rw [if_neg kept] at within
    exact steps_createUnlessPresent_made (fun _ => rfl) within

theorem steps_indexes_made
    (kept : ∀ entry ∈ t.removedIndexes, namedIndex? t (sv.made t) entry = none) :
    (indexes t (sv.made t)).steps = [] := by
  simp only [indexes, steps_append, steps_concat, List.flatMap_map, List.append_eq_nil_iff,
    List.flatMap_eq_nil_iff]
  refine ⟨⟨fun columns => steps_index_made, fun columns => steps_uniqueIndex_made⟩,
    fun entry listed => ?_⟩
  rw [removedIndex, kept entry listed]

theorem steps_foreignKeys_made : (foreignKeys t (sv.made t) []).steps = [] := by
  have stale : staleKeys t (sv.made t) = [] := by
    refine List.eq_nil_iff_forall_not_mem.mpr fun name listed => ?_
    simp only [staleKeys, List.mem_mergeSort, List.mem_eraseDups, List.mem_filter,
      Server.made_eq] at listed
    obtain ⟨declared, -, unknown⟩ := by simpa only [Bool.and_eq_true] using listed
    rw [List.contains_iff_mem.mpr declared] at unknown
    exact nomatch unknown
  rw [foreignKeys, stale, List.map_nil, steps_append, steps_concat, steps_concat, List.flatMap_map]
  refine List.append_eq_nil_iff.mpr ⟨rfl, List.flatMap_eq_nil_iff.mpr fun k declared => ?_⟩
  have present : (sv.made t).hasForeignKey k.name = true := by
    rw [Catalog.hasForeignKey, List.contains_iff_mem, Server.made_eq]
    exact List.mem_map_of_mem declared
  simp only [foreignKey, present]
  rfl

/-- A table that has been created as planned needs nothing more: planned again against the catalog
that the server then has, there is no step, whatever the second plan may do.  No index that the new
table has may be one that the declaration wants removed. -/
theorem table_settled (tables : Tables) (t : TableDecl) (sv : Server) (first second : SyncOptions)
    (creatable : (Tables.effective tables t).Creatable) :
    let made := sv.run {} (table (Tables.effective tables t) {} first).steps
    (∀ entry ∈ t.removedIndexes,
      made.hasIndex (Naming.indexName t.name (Naming.entryColumns entry)) = false ∧
        made.hasIndex (Text.trim entry) = false) →
    (table (Tables.effective tables t) made second).steps = [] := by
  intro made kept
  have created : made = sv.made (Tables.effective tables t) := rfl
  have present : made.present = true := by rw [created, Server.made_eq]
  have removed : ∀ entry ∈ (Tables.effective tables t).removedIndexes,
      namedIndex? (Tables.effective tables t) made entry = none := by
    intro entry listed
    obtain ⟨canonical, literal⟩ := kept entry listed
    rw [namedIndex?]
    simp only [Tables.effective, canonical, literal]
    rfl
  rw [table, if_pos present, steps_liveTable, tail, created]
  have still : (columns (Tables.effective tables t) (sv.made (Tables.effective tables t))
      second.force second.dropUndeclared).steps = [] :=
    steps_columns_made creatable second.force second.dropUndeclared
  rw [still, changed_columns still, steps_indexes_made removed, steps_foreignKeys_made]
  rfl

end Plan

end New

/-! ### Visits -/

namespace Plan

/-- A table of visits of people. -/
def visits : TableDecl :=
  { name := "visits"
    columns :=
      [("id", { type := "bigint" }), ("guest", { type := "text", references := some "people:id" }),
        ("paid", { type := "numeric(10,2)", default? := some (.int 5) }),
        ("note", { type := "text", notNull := false, default? := some (.string "it's fine") })]
    primaryKey := some (.single "id")
    indexes := ["guest"]
    uniques := ["guest, paid"]
    removedIndexes := ["note"] }

/-- The guests of visits have the type of the people. -/
theorem columns_effective_visits : (Tables.effective [people] visits).columns =
    [("id", { type := "bigint" }),
      ("guest", { type := "varchar(16)", references := some "people:id" }),
      ("paid", { type := "numeric(10,2)", default? := some (.int 5) }),
      ("note", { type := "text", notNull := false, default? := some (.string "it's fine") })] := by
  rfl

theorem creatable_visits : (Tables.effective [people] visits).Creatable where
  distinct := by
    rw [TableDecl.columnNames, columns_effective_visits]
    decide
  kept name c declared := by
    rw [columns_effective_visits] at declared
    simp only [List.mem_cons, Prod.mk.injEq, List.not_mem_nil, or_false] at declared
    obtain ⟨-, rfl⟩ | ⟨-, rfl⟩ | ⟨-, rfl⟩ | ⟨-, rfl⟩ := declared <;> rfl
  canonical name c declared := by
    rw [columns_effective_visits] at declared
    simp only [List.mem_cons, Prod.mk.injEq, List.not_mem_nil, or_false] at declared
    obtain ⟨-, rfl⟩ | ⟨-, rfl⟩ | ⟨-, rfl⟩ | ⟨-, rfl⟩ := declared
    · exact TypeName.canonical_of_none (by decide)
    · exact TypeName.canonical_varchar 16
    · exact TypeName.canonical_decimal 10 2
    · exact TypeName.canonical_of_none (by decide)

/-- Visits that have been created need nothing more, not even with force. -/
theorem table_settled_visits :
    (Tables.effective [people] visits).Creatable ∧
      (table (Tables.effective [people] visits) (Server.literal.run {}
        (table (Tables.effective [people] visits) {} {}).steps)
        { dropUndeclared := true, force := true }).steps = [] := by
  refine ⟨creatable_visits, table_settled [people] visits Server.literal {}
    { dropUndeclared := true, force := true } creatable_visits fun entry listed => ?_⟩
  obtain rfl : entry = "note" := by simpa [visits] using listed
  have made : Server.literal.run {} (table (Tables.effective [people] visits) {} {}).steps =
      Server.literal.made (Tables.effective [people] visits) := rfl
  rw [made, Server.made_eq]
  decide +kernel

end Plan

end TableMapper
