import TableMapper.Proofs.Schema.NewTable
import TableMapper.Proofs.Schema.Stored

/-!
# Indexes that a plan loses

The indexes of a live table are planned for the catalog as it was before its columns changed.  An
index that goes with a column is not missed then, and only the next plan creates it.

* `Plan.Ends` holds of a declared column that is removed, or created anew in the place of a live
  one, `Plan.Lost` of the live columns that are gone after the steps for columns.
* `Plan.fate_columns_eq_none_iff` says that these are the columns that the steps remove.
* `Plan.Wanted` holds of the columns of an index that is to be there, and
  `Plan.mem_newIndexes_iff` says that it is created when there is none of its name.
* `Plan.hasIndex_after_iff` says which of the wanted indexes are there after a run.
-/

namespace TableMapper

/-- The name and the columns of an index that is created. -/
def Ddl.newIndex? : Ddl → Option (String × List String)
  | .createIndex name _ columns | .createUniqueIndex name columns => some (name, columns)
  | _ => none

theorem Ddl.indexName?_eq (change : Ddl) : change.indexName? = change.newIndex?.map Prod.fst := by
  cases change <;> rfl

namespace Plan

/-! ### Columns that are gone -/

/-- The steps for a declared column remove a live one: it is declared to go, or the declared one is
created anew in its place. -/
def Ends (live : Catalog) (force : Bool) (entry : String × ColumnDecl) (name : String) : Prop :=
  entry.2.ignore = false ∧ entry.2.drop = true ∧ entry.1 = name ∨
    Recreated live force entry.1 entry.2 ∧
      ∃ d, liveColumn? live entry.1 entry.2 = some d ∧ d.name = name

section Column

variable {t : TableDecl} {live : Catalog} {force : Bool} {name other : String} {c : ColumnDecl}
  {entries : List (String × ColumnDecl)} {entry earlier : String × ColumnDecl}

/-- A rename is disturbed by whatever takes its source before. -/
theorem Renames.disturbs (renames : Renames live entry name) (takes : Takes live earlier name) :
    Disturbs t live force earlier entry := by
  obtain ⟨active, d, source, rfl⟩ := renames
  have planned : ∃ s ∈ (column t live force entry.1 entry.2).steps, _ :=
    exists_rename_of_source active source
  obtain ⟨s, hs, -⟩ := planned
  exact ⟨active, List.ne_nil_of_mem hs, d, liveColumn?_of_renameSource? source, takes⟩

/-- A column that is created anew is disturbed by whatever takes the live one before. -/
theorem Recreated.disturbs (recreated : Recreated live force entry.1 entry.2) {d : CatalogColumn}
    (stands : liveColumn? live entry.1 entry.2 = some d) (takes : Takes live earlier d.name) :
    Disturbs t live force earlier entry := by
  refine ⟨recreated.1, ?_, d, stands, takes⟩
  rw [column_recreated recreated, steps_append, steps_recreateColumn]
  exact List.append_ne_nil_of_right_ne_nil _ (List.cons_ne_nil _ _)

theorem fate_column_of_ends (ends : Ends live force (other, c) name) :
    fate (column t live force other c).steps name = none := by
  obtain ⟨skip, drop, rfl⟩ | ⟨recreated, d, stands, rfl⟩ := ends
  · obtain ⟨ignored, -⟩ | ⟨-, -, eq⟩ := steps_column_of_inactive t live force other
      (Bool.eq_false_iff.mpr (not_isActive_of_drop drop))
    · exact absurd skip (by rw [ignored]; exact Bool.false_ne_true.symm)
    · rw [eq, fate_cons, Ddl.carry, if_pos rfl, Option.bind_none]
  · rw [column_recreated recreated, steps_append, steps_recreateColumn]
    obtain ⟨-, named, own⟩ | source := own_or_source stands
    · rw [steps_rename_of_none own, List.nil_append, fate_cons, Ddl.carry, if_pos named,
        Option.bind_none]
    · rw [steps_rename_of_source source, List.singleton_append]
      simp only [fate_cons, Ddl.carry, Naming.renamed, if_true, Option.bind_some, Option.bind_none]

/-- The source of a rename goes by the new name then. -/
theorem fate_column_of_renames (kept : ¬ Ends live force (other, c) name)
    (renames : Renames live (other, c) name) :
    fate (column t live force other c).steps name = some other := by
  have absent := renames.not_has
  obtain ⟨active, d, source, rfl⟩ := renames
  have stands := liveColumn?_of_renameSource? source
  obtain ⟨rest, eq, -⟩ := inPlace_column t force active stands
  have within : rest ⊆ (column t live force other c).steps := by
    rw [eq]
    exact List.subset_append_right _ _
  rw [eq, steps_rename_of_source source, List.singleton_append, fate_cons, Ddl.carry,
    Naming.renamed, if_pos rfl, Option.bind_some]
  refine fate_of_not_removes fun s hs => ?_
  rintro (⟨ifExists, drop⟩ | ⟨new, rename⟩)
  · obtain ⟨-, ⟨-, drop⟩ | recreated⟩ := exists_drop_column_iff.mp ⟨s, within hs, ifExists, drop⟩
    · exact not_isActive_of_drop drop active
    · exact kept (.inr ⟨recreated, d, stands, rfl⟩)
  · exact absent (exists_rename_column_iff.mp ⟨s, within hs, rename⟩).2.has

/-- A live column keeps its name if it is neither removed nor the source of a rename. -/
theorem fate_column_of_spared (here : live.Has name) (kept : ¬ Ends live force (other, c) name)
    (stays : ¬ Renames live (other, c) name) :
    fate (column t live force other c).steps name = some name := by
  refine fate_of_not_removes fun s hs => ?_
  rintro (⟨ifExists, drop⟩ | ⟨new, rename⟩)
  · obtain ⟨rfl, ⟨skip, marked⟩ | recreated⟩ := exists_drop_column_iff.mp ⟨s, hs, ifExists, drop⟩
    · exact kept (.inl ⟨skip, marked, rfl⟩)
    · obtain ⟨d, there⟩ := Option.isSome_iff_exists.mp (Catalog.isSome_column?_iff.mpr here)
      exact kept (.inr ⟨recreated, d, liveColumn?_of_column? there, Catalog.name_of_column? there⟩)
  · exact stays (exists_rename_column_iff.mp ⟨s, hs, rename⟩).2

/-- A column that is neither declared nor the source of a rename is left alone. -/
theorem fate_columnSteps_of_unlisted (unlisted : name ∉ entries.map Prod.fst)
    (stays : ∀ entry ∈ entries, ¬ Renames live entry name) :
    fate (columnSteps t live force entries) name = some name := by
  refine fate_of_not_removes fun s hs => ?_
  obtain ⟨entry, listed, hs⟩ := List.mem_flatMap.mp hs
  rintro (⟨ifExists, drop⟩ | ⟨new, rename⟩)
  · obtain ⟨rfl, -⟩ := exists_drop_column_iff.mp ⟨s, hs, ifExists, drop⟩
    exact unlisted (List.mem_map_of_mem listed)
  · exact stays entry listed (exists_rename_column_iff.mp ⟨s, hs, rename⟩).2

/-- The live columns that the steps for declared columns remove.  One that is declared to go is not
removed if it is renamed before. -/
theorem fate_columnSteps_eq_none_iff (here : live.Has name)
    (distinct : (entries.map Prod.fst).Nodup)
    (undisturbed : entries.Pairwise fun earlier later => ¬ Disturbs t live force earlier later) :
    fate (columnSteps t live force entries) name = none ↔
      ∃ entry ∈ entries, Ends live force entry name ∧
        (entry.2.drop = true → ¬ ∃ other ∈ entries, Renames live other name) := by
  induction entries with
  | nil => simp
  | cons entry entries ih =>
    obtain ⟨sole, distinct⟩ := List.nodup_cons.mp distinct
    obtain ⟨first, undisturbed⟩ := List.pairwise_cons.mp undisturbed
    rw [columnSteps_cons, fate_append]
    by_cases ends : Ends live force entry name
    -- the column goes at once: a rename of it comes neither before nor after
    · rw [fate_column_of_ends ends, Option.bind_none]
      refine iff_of_true rfl ⟨entry, List.mem_cons_self, ends, fun drop => ?_⟩
      rintro ⟨other, listed, renames⟩
      obtain gone | ⟨recreated, -⟩ := ends
      · obtain rfl | listed := List.mem_cons.mp listed
        · exact not_isActive_of_drop drop renames.1
        · exact first other listed (renames.disturbs (.inl gone))
      · exact not_isActive_of_drop drop recreated.1
    by_cases renames : Renames live entry name
    -- the column goes on under a name that the other entries do not concern
    · have stays : ∀ later ∈ entries, ¬ Renames live later entry.1 :=
        fun _ _ again => renames.not_has again.has
      rw [fate_column_of_renames ends renames, Option.bind_some,
        fate_columnSteps_of_unlisted sole stays]
      refine iff_of_false nofun ?_
      rintro ⟨later, listed, gone, free⟩
      obtain rfl | listed := List.mem_cons.mp listed
      · exact ends gone
      obtain ⟨-, drop, -⟩ | ⟨recreated, d, stands, rfl⟩ := gone
      · exact free drop ⟨entry, List.mem_cons_self, renames⟩
      · exact first later listed (recreated.disturbs stands (.inr renames))
    · rw [fate_column_of_spared here ends renames, Option.bind_some, ih distinct undisturbed]
      simp only [List.mem_cons, exists_eq_or_imp, renames, ends, false_and, false_or]

end Column

/-- The reasons for which a live column, with its data and indexes, is gone after the steps for
columns. -/
inductive Lost (t : TableDecl) (live : Catalog) (o : SyncOptions) (name : String) : Prop
  /-- It is declared to go, and nothing is renamed from it. -/
  | dropped (c : ColumnDecl) (declared : (name, c) ∈ t.columns) (skip : c.ignore = false)
      (drop : c.drop = true) (stays : name ∉ renamedFrom t live)
  /-- A declared column is created anew in its place. -/
  | recreated (new : String) (c : ColumnDecl) (found : CatalogColumn)
      (declared : (new, c) ∈ t.columns) (anew : Recreated live o.force new c)
      (stands : liveColumn? live new c = some found) (named : found.name = name)
  /-- It is not declared, nothing is renamed from it, and columns of that kind are to go. -/
  | undeclared (allowed : o.dropUndeclared = true) (listed : name ∈ undeclared t live)

section Columns

variable {t : TableDecl} {live : Catalog} {o : SyncOptions} {name : String}

theorem fate_removals_eq_none_iff {names : List String} :
    fate (names.map (removal t)) name = none ↔ name ∈ names := by
  rw [fate_eq_none_iff]
  · simp [removal]
  · simp [removal]

/-- **Columns that are gone.**  If no declared column disturbs a later one, the steps for columns
remove those live ones that are lost for one of the reasons listed. -/
theorem fate_columns_eq_none_iff (here : live.Has name) (distinct : t.columnNames.Nodup)
    (undisturbed : t.columns.Pairwise fun earlier later =>
      ¬ Disturbs t live o.force earlier later) :
    fate (columns t live o.force o.dropUndeclared).steps name = none ↔ Lost t live o name := by
  have declared : fate (columnSteps t live o.force t.columns) name = none ↔ _ :=
    fate_columnSteps_eq_none_iff here distinct undisturbed
  rw [← mem_renamedFrom_iff_renames] at declared
  rw [steps_columns_eq, fate_append]
  constructor
  · intro gone
    cases carried : fate (columnSteps t live o.force t.columns) name with
    | none =>
      obtain ⟨⟨new, c⟩, listed, ⟨skip, drop, rfl⟩ | ⟨anew, found, stands, named⟩, free⟩ :=
        declared.mp carried
      · exact .dropped c listed skip drop (free drop)
      · exact .recreated new c found listed anew stands named
    | some now =>
      rw [carried, Option.bind_some, fate_removals_eq_none_iff] at gone
      obtain ⟨allowed, listed⟩ : o.dropUndeclared = true ∧ now ∈ undeclared t live := by
        split at gone
        next allowed => exact ⟨allowed, gone⟩
        next => exact absurd gone List.not_mem_nil
      have there : live.Has now := Catalog.isSome_column?_iff.mp (mem_undeclared_iff.mp listed).1
      obtain rfl : name = now := by
        by_contra ne
        refine fate_ne_of_ne (fun s hs old change => ?_) ne carried
        obtain ⟨entry, -, hs⟩ := List.mem_flatMap.mp hs
        obtain ⟨rfl, renames⟩ := exists_rename_column_iff.mp ⟨s, hs, change⟩
        exact renames.not_has there
      exact .undeclared allowed listed
  · intro lost
    cases lost with
    | dropped c listed skip drop stays =>
      rw [declared.mpr ⟨(name, c), listed, .inl ⟨skip, drop, rfl⟩, fun _ => stays⟩]
      rfl
    | recreated new c found listed anew stands named =>
      have kept (drop : c.drop = true) : name ∉ renamedFrom t live :=
        absurd anew.1 (not_isActive_of_drop drop)
      rw [declared.mpr ⟨(new, c), listed, .inr ⟨anew, found, stands, named⟩, kept⟩]
      rfl
    | undeclared allowed listed =>
      rw [fate_columnSteps_of_unlisted (not_declared_of_mem_undeclared listed)
        fun entry declared renames => not_takes_of_mem_undeclared listed declared (.inr renames),
        Option.bind_some, if_pos allowed, fate_removals_eq_none_iff]
      exact listed

end Columns

/-! ### Indexes that are wanted -/

/-- An index on these columns is to be there: it is declared, either as an index or as a unique one,
it is not declared to be removed, and its columns are active. -/
structure Wanted (t : TableDecl) (columns : List String) : Prop where
  listed : columns ∈ columnLists t.indexes ∨ columns ∈ columnLists t.uniques
  once : ¬ (columns ∈ columnLists t.indexes ∧ columns ∈ columnLists t.uniques)
  kept : columns ∉ columnLists t.removedIndexes
  active : ∀ name ∈ columns, ∃ c, t.column? name = some c ∧ c.isActive = true

/-- The indexes that are created, by name and columns. -/
def newIndexes (t : TableDecl) (live : Catalog) : List (String × List String) :=
  (indexes t live).steps.filterMap (·.change.newIndex?)

section Wanted

variable {t : TableDecl} {live : Catalog} {columns : List String} {i : String}

/-- An index that is created has a name that no index had before. -/
theorem absent_of_created {s : Step} (h : s ∈ (indexes t live).steps)
    (named : s.change.indexName? = some i) : live.hasIndex i = false := by
  obtain ⟨list, -, h⟩ | ⟨list, -, h⟩ | ⟨entry, -, h⟩ := mem_steps_indexes.mp h
  · obtain rfl : Naming.indexName t.name list = i := by
      simpa [mem_steps_index h, Ddl.indexName?] using named
    exact (mem_steps_createUnlessPresent (index_subset h)).1
  · obtain rfl : Naming.indexName t.name list = i := by
      simpa [mem_steps_uniqueIndex h, Ddl.indexName?] using named
    exact (mem_steps_createUnlessPresent (uniqueIndex_subset h)).1
  · obtain ⟨name, -, drop⟩ := change_of_mem_removedIndex h
    rw [drop] at named
    exact absurd named.symm (Option.some_ne_none i)

theorem steps_createUnlessPresent {change : String → Ddl} (wanted : Wanted t columns)
    (absent : live.hasIndex (Naming.indexName t.name columns) = false) :
    (createUnlessPresent t live columns change).steps =
      [{ change := change (Naming.indexName t.name columns)
         object := Naming.indexName t.name columns }] := by
  have usable : unusable? t columns = none := by
    refine List.find?_eq_none.mpr fun name listed => ?_
    obtain ⟨c, declared, active⟩ := wanted.active name listed
    simp [declared, active]
  simp only [createUnlessPresent, usable, absent, Bool.false_eq_true, if_false]
  rfl

theorem index_of_wanted (wanted : Wanted t columns) (listed : columns ∈ columnLists t.indexes) :
    index t live columns = createUnlessPresent t live columns fun name =>
      .createIndex name (indexMethod? t columns) columns := by
  have kept : (columnLists t.removedIndexes).contains columns = false := by simpa using wanted.kept
  have sole : (columnLists t.uniques).contains columns = false := by
    simpa using fun unique => wanted.once ⟨listed, unique⟩
  rw [index, kept, sole, if_neg Bool.false_ne_true, if_neg Bool.false_ne_true]

theorem uniqueIndex_of_wanted (wanted : Wanted t columns)
    (listed : columns ∈ columnLists t.uniques) :
    uniqueIndex t live columns = createUnlessPresent t live columns fun name =>
      .createUniqueIndex name columns := by
  have kept : (columnLists t.removedIndexes).contains columns = false := by simpa using wanted.kept
  have sole : (columnLists t.indexes).contains columns = false := by
    simpa using fun index => wanted.once ⟨index, listed⟩
  rw [uniqueIndex, kept, sole, Bool.or_self, if_neg Bool.false_ne_true]

theorem active_of_unusable?_eq_none (usable : unusable? t columns = none) :
    ∀ name ∈ columns, ∃ c, t.column? name = some c ∧ c.isActive = true := by
  intro name listed
  have active := List.find?_eq_none.mp usable name listed
  simpa [Option.any_eq_true] using active

theorem wanted_of_mem_index {s : Step} (listed : columns ∈ columnLists t.indexes)
    (h : s ∈ (index t live columns).steps) : Wanted t columns := by
  have usable := usable_of_mem_createUnlessPresent (index_subset h)
  unfold index at h
  split at h
  next => exact absurd h List.not_mem_nil
  next kept =>
    split at h
    next => exact absurd h List.not_mem_nil
    next sole =>
      rw [List.contains_iff_mem] at kept sole
      exact ⟨.inl listed, fun both => sole both.2, kept, active_of_unusable?_eq_none usable⟩

theorem wanted_of_mem_uniqueIndex {s : Step} (listed : columns ∈ columnLists t.uniques)
    (h : s ∈ (uniqueIndex t live columns).steps) : Wanted t columns := by
  have usable := usable_of_mem_createUnlessPresent (uniqueIndex_subset h)
  unfold uniqueIndex at h
  split at h
  next => exact absurd h List.not_mem_nil
  next free =>
    rw [Bool.or_eq_true, List.contains_iff_mem, List.contains_iff_mem, not_or] at free
    exact ⟨.inr listed, fun both => free.2 both.1, free.1, active_of_unusable?_eq_none usable⟩

/-- An index is created on the columns of a wanted one, with its name, when there is none of that
name. -/
theorem mem_newIndexes_iff {name : String} : (name, columns) ∈ newIndexes t live ↔
    Wanted t columns ∧ live.hasIndex (Naming.indexName t.name columns) = false ∧
      name = Naming.indexName t.name columns := by
  rw [newIndexes, List.mem_filterMap]
  constructor
  · rintro ⟨s, hs, created⟩
    obtain ⟨list, listed, h⟩ | ⟨list, listed, h⟩ | ⟨entry, -, h⟩ := mem_steps_indexes.mp hs
    · obtain ⟨rfl, rfl⟩ : Naming.indexName t.name list = name ∧ list = columns := by
        simpa [mem_steps_index h, Ddl.newIndex?] using created
      exact ⟨wanted_of_mem_index listed h, (mem_steps_createUnlessPresent (index_subset h)).1, rfl⟩
    · obtain ⟨rfl, rfl⟩ : Naming.indexName t.name list = name ∧ list = columns := by
        simpa [mem_steps_uniqueIndex h, Ddl.newIndex?] using created
      exact ⟨wanted_of_mem_uniqueIndex listed h,
        (mem_steps_createUnlessPresent (uniqueIndex_subset h)).1, rfl⟩
    · obtain ⟨index, -, drop⟩ := change_of_mem_removedIndex h
      rw [drop] at created
      cases created
  · rintro ⟨wanted, absent, rfl⟩
    let name := Naming.indexName t.name columns
    obtain listed | listed := wanted.listed
    · have created : ⟨.createIndex name (indexMethod? t columns) columns, name, false⟩ ∈
          (index t live columns).steps := by
        rw [index_of_wanted wanted listed, steps_createUnlessPresent wanted absent]
        exact List.mem_singleton_self _
      exact ⟨_, mem_steps_indexes.mpr (.inl ⟨columns, listed, created⟩), rfl⟩
    · have created : ⟨.createUniqueIndex name columns, name, false⟩ ∈
          (uniqueIndex t live columns).steps := by
        rw [uniqueIndex_of_wanted wanted listed, steps_createUnlessPresent wanted absent]
        exact List.mem_singleton_self _
      exact ⟨_, mem_steps_indexes.mpr (.inr (.inl ⟨columns, listed, created⟩)), rfl⟩

/-- A wanted index is created when there is none of its name. -/
theorem exists_create_iff (wanted : Wanted t columns) :
    (∃ s ∈ (indexes t live).steps,
      s.change.indexName? = some (Naming.indexName t.name columns)) ↔
      live.hasIndex (Naming.indexName t.name columns) = false := by
  refine ⟨fun ⟨s, hs, named⟩ => absent_of_created hs named, fun absent => ?_⟩
  have planned := mem_newIndexes_iff.mpr ⟨wanted, absent, rfl⟩
  obtain ⟨s, hs, created⟩ := List.mem_filterMap.mp planned
  exact ⟨s, hs, by rw [Ddl.indexName?_eq, created]; rfl⟩

end Wanted

end Plan

/-! ### Indexes after a run -/

namespace StoredTable

variable {sv : Server} {r : StoredTable} {i : String}

theorem mem_indexes_apply_of_beside {change : Ddl} (beside : change.Beside)
    (kept : change ≠ .dropIndex i) : i ∈ (r.apply sv change).catalog.indexes ↔
      i ∈ r.catalog.indexes ∨ change.indexName? = some i := by
  cases change with
  | createIndex name | createUniqueIndex name =>
    simp [apply, Server.apply, Ddl.indexName?, eq_comm (a := name)]
  | dropIndex name =>
    have other : i ≠ name := fun same => kept (same ▸ rfl)
    simp [apply, Server.apply, Ddl.indexName?, other]
  | addForeignKey | dropConstraint => simp [apply, Server.apply, Ddl.indexName?]
  | _ => exact beside.elim

/-- After changes of indexes and foreign keys that do not remove an index, it is there exactly when
it was or has been created. -/
theorem mem_indexes_run_of_beside {steps : List Step} (beside : ∀ s ∈ steps, s.change.Beside)
    (kept : ∀ s ∈ steps, s.change ≠ .dropIndex i) : i ∈ (r.run sv steps).catalog.indexes ↔
      i ∈ r.catalog.indexes ∨ ∃ s ∈ steps, s.change.indexName? = some i := by
  induction steps generalizing r with
  | nil => simp
  | cons s steps ih =>
    rw [run_cons, ih (fun u hu => beside u (List.mem_cons_of_mem s hu))
      fun u hu => kept u (List.mem_cons_of_mem s hu), mem_indexes_apply_of_beside
      (beside s List.mem_cons_self) (kept s List.mem_cons_self), List.exists_mem_cons_iff, or_assoc]

end StoredTable

namespace Plan

section After

variable {t : TableDecl} {live : Catalog} {columns changed : List String} {i : String} {s : Step}

theorem finds_of_beside {sv : Server} {steps : List Step} (beside : ∀ s ∈ steps, s.change.Beside) :
    sv.Along Server.Finds live steps := by
  induction steps generalizing live with
  | nil => trivial
  | cons s steps ih =>
    refine ⟨fun _ name needs => ?_, ih fun u hu => beside u (List.mem_cons_of_mem s hu)⟩
    have apart := beside s List.mem_cons_self
    generalize s.change = change at apart needs
    cases change <;> first | exact apart.elim | exact nomatch needs

theorem isSome_column?_of_mem_columns {force dropUndeclared : Bool}
    (h : s ∈ (Plan.columns t live force dropUndeclared).steps) :
    s.change.column?.isSome = true := by
  obtain ⟨n, c, -, step⟩ | ⟨n, -, drop⟩ := columnStep_of_mem_columns h
  · rw [step.column?]
    rfl
  · rw [drop]
    rfl

theorem ne_dropIndex_of_mem_tail
    (kept : ∀ entry ∈ t.removedIndexes, namedIndex? t live entry ≠ some i)
    (h : s ∈ tail t live changed) : s.change ≠ .dropIndex i := by
  intro drop
  obtain h | h := List.mem_append.mp h
  · obtain ⟨list, -, h⟩ | ⟨list, -, h⟩ | ⟨entry, listed, h⟩ := mem_steps_indexes.mp h
    · exact Ddl.noConfusion ((mem_steps_index h).symm.trans drop)
    · exact Ddl.noConfusion ((mem_steps_uniqueIndex h).symm.trans drop)
    · obtain ⟨name, named, change⟩ := change_of_mem_removedIndex h
      obtain rfl : name = i := Ddl.dropIndex.inj (change.symm.trans drop)
      exact kept entry listed named
  · obtain ⟨name, -, rfl⟩ | ⟨k, -, h⟩ := mem_steps_foreignKeys.mp h
    · exact Ddl.noConfusion drop
    · obtain change | change := change_of_mem_foreignKey h <;>
        exact Ddl.noConfusion (change.symm.trans drop)

theorem indexName?_of_mem_foreignKeys (h : s ∈ (foreignKeys t live changed).steps) :
    s.change.indexName? = none := by
  obtain ⟨name, -, rfl⟩ | ⟨k, -, h⟩ := mem_steps_foreignKeys.mp h
  · rfl
  · obtain change | change := change_of_mem_foreignKey h <;> rw [change] <;> rfl

theorem exists_create_tail_iff (wanted : Wanted t columns) :
    (∃ s ∈ tail t live changed,
      s.change.indexName? = some (Naming.indexName t.name columns)) ↔
      live.hasIndex (Naming.indexName t.name columns) = false := by
  rw [← exists_create_iff wanted]
  constructor
  · rintro ⟨s, hs, named⟩
    obtain hs | hs := List.mem_append.mp hs
    · exact ⟨s, hs, named⟩
    · rw [indexName?_of_mem_foreignKeys hs] at named
      exact nomatch named
  · rintro ⟨s, hs, named⟩
    exact ⟨s, List.mem_append_left _ hs, named⟩

/-- The steps for a live table find what they need exactly when no declared column disturbs a later
one: those for indexes and foreign keys need no column that is not there. -/
theorem finds_liveTable_iff {sv : Server} {o : SyncOptions}
    (once : (live.columns.map (·.name)).Nodup) :
    sv.Along Server.Finds live (liveTable t live o).steps ↔
      t.columns.Pairwise fun earlier later => ¬ Disturbs t live o.force earlier later := by
  rw [steps_liveTable, Server.along_append, finds_columns_iff once]
  exact and_iff_left (finds_of_beside fun s hs => beside_tail hs)

/-- **Wanted indexes after a run.**  Let the steps of a plan for a live table find what they need,
and let no declaration remove the index of a wanted name.  Then the index is there in the end
exactly when it was not there before, or none of its columns was lost; and the next plan creates
it exactly when it is not there. -/
theorem hasIndex_after_iff (sv : Server) (t : TableDecl) (r : StoredTable) (o : SyncOptions)
    (distinct : t.columnNames.Nodup) (once : (r.catalog.columns.map (·.name)).Nodup)
    (wanted : Wanted t columns) (sound : ∀ k ∈ r.indexed (Naming.indexName t.name columns),
      r.catalog.Has k) (kept : ∀ entry ∈ t.removedIndexes,
      namedIndex? t r.catalog entry ≠ some (Naming.indexName t.name columns))
    (succeeds : sv.Along Server.Finds r.catalog (liveTable t r.catalog o).steps) :
    let name := Naming.indexName t.name columns
    let after := r.run sv (liveTable t r.catalog o).steps
    (after.catalog.hasIndex name = true ↔
      (r.catalog.hasIndex name = true → ∀ k ∈ r.indexed name, ¬ Lost t r.catalog o k)) ∧
    ((∃ s ∈ (indexes t after.catalog).steps, s.change.indexName? = some name) ↔
      after.catalog.hasIndex name = false) := by
  intro name after
  refine ⟨?_, exists_create_iff wanted⟩
  have undisturbed : t.columns.Pairwise fun earlier later =>
      ¬ Disturbs t r.catalog o.force earlier later := (finds_liveTable_iff once).mp succeeds
  have gone : (∀ k ∈ r.indexed name,
      fate (Plan.columns t r.catalog o.force o.dropUndeclared).steps k ≠ none) ↔
        ∀ k ∈ r.indexed name, ¬ Lost t r.catalog o k :=
    forall₂_congr fun k listed =>
      not_congr (fate_columns_eq_none_iff (sound k listed) distinct undisturbed)
  have present (live : Catalog) : live.hasIndex name = true ↔ name ∈ live.indexes :=
    List.contains_iff_mem
  -- the columns decide on what was there, then the steps planned for the old catalog add what it
  -- did not have
  rw [present, show after = r.run sv (liveTable t r.catalog o).steps from rfl, steps_liveTable,
    StoredTable.run_append, StoredTable.mem_indexes_run_of_beside (fun s hs => beside_tail hs)
    (fun s hs => ne_dropIndex_of_mem_tail kept hs), exists_create_tail_iff wanted,
    StoredTable.mem_indexes_run_iff fun s hs => isSome_column?_of_mem_columns hs, gone, ← present]
  cases r.catalog.hasIndex name <;> simp

end After

/-! ### Visitors -/

/-- A table of visitors with an index on their ages. -/
def visitors : TableDecl :=
  { name := "visitors"
    columns := [("id", { type := "int" }), ("age", { type := "int" })]
    primaryKey := some (.single "id")
    indexes := ["age"] }

/-- The table as it was before, with ages in words. -/
def formerVisitors : StoredTable where
  catalog :=
    { present := true
      columns := [{ name := "id", dataType := "integer" }, { name := "age", dataType := "text" }]
      indexes := ["visitors_pkey", "visitors_age_idx"] }
  key := ["id"]
  indexed i := if i = "visitors_age_idx" then ["age"] else ["id"]

theorem wanted_visitors : Wanted visitors ["age"] where
  listed := by decide +kernel
  once := by decide +kernel
  kept := by decide +kernel
  active name listed := by
    obtain rfl := List.mem_singleton.mp listed
    exact ⟨{ type := "int" }, rfl, rfl⟩

/-- Neither column of visitors takes anything from the other. -/
theorem undisturbed_visitors : visitors.columns.Pairwise fun earlier later =>
    ¬ Disturbs visitors formerVisitors.catalog true earlier later := by
  refine List.pairwise_pair.mpr ?_
  rintro ⟨-, -, d, -, ⟨-, drop, -⟩ | ⟨-, source, renamed, -⟩⟩
  · exact nomatch drop
  · exact nomatch renamed

/-- The ages are created anew as numbers. -/
theorem lost_visitors : Lost visitors formerVisitors.catalog { force := true } "age" := by
  refine .recreated "age" { type := "int" } _ (List.mem_cons_of_mem _ (List.mem_singleton_self _))
    ⟨rfl, by decide +kernel, rfl, _, rfl, ?_⟩ rfl rfl
  unfold NeedsForce
  decide +kernel

/-- The index on the ages goes with them. -/
theorem hasIndex_after_iff_visitors :
    visitors.columnNames.Nodup ∧ (formerVisitors.catalog.columns.map (·.name)).Nodup ∧
      Wanted visitors ["age"] ∧
      (∀ k ∈ formerVisitors.indexed (Naming.indexName visitors.name ["age"]),
        formerVisitors.catalog.Has k) ∧
      visitors.removedIndexes = [] ∧
      Server.literal.Along Server.Finds formerVisitors.catalog
        (liveTable visitors formerVisitors.catalog { force := true }).steps ∧
      (formerVisitors.run Server.literal (liveTable visitors formerVisitors.catalog
        { force := true }).steps).catalog.hasIndex (Naming.indexName visitors.name ["age"]) =
          false := by
  have distinct : visitors.columnNames.Nodup := by decide
  have once : (formerVisitors.catalog.columns.map (·.name)).Nodup := by decide
  have name : Naming.indexName visitors.name ["age"] = "visitors_age_idx" := by decide +kernel
  have sound : ∀ k ∈ formerVisitors.indexed (Naming.indexName visitors.name ["age"]),
      formerVisitors.catalog.Has k := by
    rw [name]
    decide
  have succeeds : Server.literal.Along Server.Finds formerVisitors.catalog
      (liveTable visitors formerVisitors.catalog { force := true }).steps :=
    (finds_liveTable_iff once).mpr undisturbed_visitors
  refine ⟨distinct, once, wanted_visitors, sound, rfl, succeeds, ?_⟩
  have after := (hasIndex_after_iff Server.literal visitors formerVisitors { force := true }
    distinct once wanted_visitors sound nofun succeeds).1
  rw [name] at after ⊢
  refine Bool.eq_false_iff.mpr fun there => ?_
  exact after.mp there (by decide) "age" (List.mem_singleton_self _) lost_visitors

end Plan

end TableMapper
