import TableMapper.Proofs.Schema.Careful
import TableMapper.Proofs.Schema.Sequence
import TableMapper.Proofs.Table.Traversal

/-!
# What hangs on columns

The catalog names the indexes of a table, but it says neither what columns they are on nor what the
primary key is.  Both go with their columns: a column that is removed takes along the key and the
indexes that it belongs to, and a column that is renamed stays in them.

* `StoredTable` is a table with its key and the columns of its indexes, `StoredTable.run` what the
  steps of a plan make of it.
* `Plan.fate` is the name under which a column comes out of some steps, if it is not removed;
  `StoredTable.key_run` and `StoredTable.index?_run` say that it decides on the key and on the
  indexes.
* `Plan.Recreated` holds of declared columns that are removed and added anew.
* `Plan.key_kept_iff` says when a plan for a live table keeps its primary key.
-/

namespace TableMapper

/-! ### Tables with their keys and indexes -/

/-- A table as a server stores it. -/
structure StoredTable where
  catalog : Catalog
  /-- The columns of the primary key, none if the table has no key. -/
  key : List String
  /-- The columns that an index is on. -/
  indexed : String → List String

/-- A name after a column has been renamed. -/
def Naming.renamed (old new name : String) : String := if name = old then new else name

namespace StoredTable

/-- The table after a change.  Only a clause for it makes a primary key.  Foreign keys go by their
names alone. -/
def apply (sv : Server) (r : StoredTable) (change : Ddl) : StoredTable :=
  let catalog := sv.apply r.catalog change
  match change with
  | .createTable columns key =>
    if r.catalog.present then r
    else
      let key := if key.isEmpty then (columns.filter (·.primaryKey)).map (·.name) else key
      { catalog, key
        indexed := fun i => if i ∈ sv.keyIndexes columns key then key else r.indexed i }
  | .addColumn d => { r with catalog, key := if d.primaryKey then [d.name] else r.key }
  | .dropColumn name _ =>
    { r with
      catalog :=
        { catalog with indexes := catalog.indexes.filter fun i => !(r.indexed i).contains name }
      key := if r.key.contains name then [] else r.key }
  | .renameColumn old new =>
    { catalog
      key := r.key.map (Naming.renamed old new)
      indexed := fun i => (r.indexed i).map (Naming.renamed old new) }
  | .createIndex name _ columns | .createUniqueIndex name columns =>
    { r with catalog, indexed := fun i => if i = name then columns else r.indexed i }
  | _ => { r with catalog }

/-- The table after the steps of a plan. -/
def run (sv : Server) (r : StoredTable) (steps : List Step) : StoredTable :=
  steps.foldl (fun r s => r.apply sv s.change) r

variable {sv : Server} {r : StoredTable}

@[simp] theorem run_nil : r.run sv [] = r := rfl

@[simp] theorem run_cons {s : Step} {steps : List Step} :
    r.run sv (s :: steps) = (r.apply sv s.change).run sv steps := rfl

@[simp] theorem run_append {steps more : List Step} :
    r.run sv (steps ++ more) = (r.run sv steps).run sv more := List.foldl_append

end StoredTable

/-! ### The fate of a column -/

/-- The name of a column after a change, if the change does not remove it. -/
def Ddl.carry (name : String) : Ddl → Option String
  | .dropColumn column _ => if name = column then none else some name
  | .renameColumn old new => some (Naming.renamed old new name)
  | _ => some name

/-- The change makes no primary key. -/
def Ddl.Keyless : Ddl → Prop
  | .createTable .. => False
  | .addColumn d => d.primaryKey = false
  | _ => True

theorem Ddl.carry_of_not_removes {change : Ddl} {name : String} (h : ¬ change.Removes name) :
    change.carry name = some name := by
  cases change with
  | dropColumn column ifExists =>
    refine if_neg ?_
    rintro rfl
    exact h (.inl ⟨ifExists, rfl⟩)
  | renameColumn old new =>
    refine congrArg some (if_neg ?_)
    rintro rfl
    exact h (.inr ⟨new, rfl⟩)
  | _ => rfl

namespace Plan

/-- The name under which a column comes out of some steps, if they do not remove it. -/
def fate (steps : List Step) (name : String) : Option String :=
  steps.foldlM (fun name s => s.change.carry name) name

section Fate

variable {steps more : List Step} {s : Step} {name other : String}

@[simp] theorem fate_nil : fate [] name = some name := rfl

@[simp] theorem fate_cons :
    fate (s :: steps) name = (s.change.carry name).bind (fate steps) := by
  simp only [fate, List.foldlM_cons]
  rfl

@[simp] theorem fate_append : fate (steps ++ more) name = (fate steps name).bind (fate more) := by
  simp only [fate, List.foldlM_append]
  rfl

/-- A column that is neither removed nor renamed keeps its name. -/
theorem fate_of_not_removes (h : ∀ s ∈ steps, ¬ s.change.Removes name) :
    fate steps name = some name := by
  induction steps with
  | nil => rfl
  | cons s steps ih =>
    rw [fate_cons, Ddl.carry_of_not_removes (h s List.mem_cons_self), Option.bind_some]
    exact ih fun u hu => h u (List.mem_cons_of_mem s hu)

/-- A column never comes to a name that no column is renamed to. -/
theorem fate_ne_of_ne (h : ∀ s ∈ steps, ∀ old, s.change ≠ .renameColumn old name)
    (ne : other ≠ name) :
    fate steps other ≠ some name := by
  induction steps generalizing other with
  | nil => exact fun same => ne (Option.some.inj same)
  | cons s steps ih =>
    rw [fate_cons]
    intro same
    obtain ⟨next, carried, rest⟩ := Option.bind_eq_some_iff.mp same
    refine ih (fun u hu => h u (List.mem_cons_of_mem s hu)) ?_ rest
    rintro rfl
    -- the step would have to rename to the name
    have fresh := h s List.mem_cons_self
    generalize s.change = change at fresh carried
    cases change with
    | dropColumn =>
      simp only [Ddl.carry] at carried
      split at carried
      next => exact nomatch carried
      next => exact ne (Option.some.inj carried)
    | renameColumn old new =>
      simp only [Ddl.carry, Naming.renamed] at carried
      split at carried
      next => exact fresh old (congrArg _ (Option.some.inj carried))
      next => exact ne (Option.some.inj carried)
    | _ => exact ne (Option.some.inj carried)

/-- A column that no other is renamed to keeps its name exactly when no step removes or renames
it. -/
theorem fate_eq_self_iff (h : ∀ s ∈ steps, ∀ old, s.change ≠ .renameColumn old name) :
    fate steps name = some name ↔ ∀ s ∈ steps, ¬ s.change.Removes name := by
  refine ⟨fun same => ?_, fate_of_not_removes⟩
  induction steps with
  | nil => exact fun s hs => absurd hs List.not_mem_nil
  | cons s steps ih =>
    have later := fun u hu => h u (List.mem_cons_of_mem s hu)
    have kept : ¬ s.change.Removes name := by
      rintro (⟨ifExists, drop⟩ | ⟨new, rename⟩)
      · simp [fate_cons, drop, Ddl.carry] at same
      · rw [fate_cons, rename, Ddl.carry, Naming.renamed, if_pos rfl, Option.bind_some] at same
        refine fate_ne_of_ne later ?_ same
        rintro rfl
        exact h s List.mem_cons_self _ rename
    rw [fate_cons, Ddl.carry_of_not_removes kept, Option.bind_some] at same
    exact List.forall_mem_cons.mpr ⟨kept, ih later same⟩

/-- A column that no step renames is lost exactly when a step removes it. -/
theorem fate_eq_none_iff (h : ∀ s ∈ steps, ∀ new, s.change ≠ .renameColumn name new) :
    fate steps name = none ↔ ∃ s ∈ steps, ∃ ifExists, s.change = .dropColumn name ifExists := by
  constructor
  · intro lost
    by_contra kept
    have same : fate steps name = some name := by
      refine fate_of_not_removes fun s hs => ?_
      rintro (⟨ifExists, drop⟩ | ⟨new, rename⟩)
      · exact kept ⟨s, hs, ifExists, drop⟩
      · exact h s hs new rename
    exact nomatch lost.symm.trans same
  · rintro ⟨s, hs, ifExists, drop⟩
    induction steps with
    | nil => exact absurd hs List.not_mem_nil
    | cons u steps ih =>
      have later := fun v hv => h v (List.mem_cons_of_mem u hv)
      by_cases removes : u.change.Removes name
      · obtain ⟨ifExists, drop⟩ | ⟨new, rename⟩ := removes
        · simp [fate_cons, drop, Ddl.carry]
        · exact absurd rename (h u List.mem_cons_self new)
      · rw [fate_cons, Ddl.carry_of_not_removes removes, Option.bind_some]
        obtain rfl | hs := List.mem_cons.mp hs
        · exact absurd (.inl ⟨ifExists, drop⟩) removes
        · exact ih later hs

end Fate

end Plan

/-! ### What columns carry along -/

section Carry

variable {names : List String} {column : String} {change : Ddl}

theorem mapM_eq_some_self_iff {f : String → Option String} :
    names.mapM f = some names ↔ ∀ name ∈ names, f name = some name := by
  induction names with
  | nil => simp
  | cons name names ih =>
    rw [List.mapM_cons, List.forall_mem_cons, ← ih]
    simp only [Option.bind_eq_bind, Option.bind_eq_some_iff, Option.pure_def, Option.some.injEq,
      List.cons.injEq]
    constructor
    · rintro ⟨first, eq, rest, eqs, rfl, rfl⟩
      exact ⟨eq, eqs⟩
    · rintro ⟨eq, eqs⟩
      exact ⟨name, eq, names, eqs, rfl, rfl⟩

theorem mapM_bind {f g : String → Option String} :
    names.mapM (fun name => (f name).bind g) = (names.mapM f).bind (List.mapM g) := by
  induction names with
  | nil => rfl
  | cons name names ih =>
    simp only [List.mapM_cons, ih, Option.bind_eq_bind, Option.pure_def]
    cases f name with
    | none => rfl
    | some first =>
      cases names.mapM f with
      | none =>
        simp only [Option.bind_some, Option.bind_none]
        cases g first <;> rfl
      | some rest => simp [List.mapM_cons]

/-- The columns of a list after a change that removes and renames none. -/
theorem mapM_carry_of_fixed (fixed : ∀ name, change.carry name = some name) :
    names.mapM (fun name => change.carry name) = some names :=
  mapM_eq_some_self_iff.mpr fun name _ => fixed name

/-- A list of columns is gone with any of them. -/
theorem mapM_carry_drop {ifExists : Bool} :
    names.mapM (fun name => Ddl.carry name (.dropColumn column ifExists)) =
      if names.contains column then none else some names := by
  split
  next listed => exact mapM_eq_none_iff.mpr ⟨column, List.contains_iff_mem.mp listed, if_pos rfl⟩
  next free =>
    refine mapM_eq_some_self_iff.mpr fun name listed => if_neg ?_
    rintro rfl
    exact free (List.contains_iff_mem.mpr listed)

theorem mapM_carry_rename {old new : String} :
    names.mapM (fun name => Ddl.carry name (.renameColumn old new)) =
      some (names.map (Naming.renamed old new)) :=
  List.mapM_pure

end Carry

namespace StoredTable

open Plan

section Carry

variable {sv : Server} {r : StoredTable} {steps : List Step} {change : Ddl} {i : String}

/-- The columns of the index of a name, if there is one. -/
def index? (r : StoredTable) (i : String) : Option (List String) :=
  if i ∈ r.catalog.indexes then some (r.indexed i) else none

theorem index?_apply (about : change.column?.isSome = true) :
    (r.apply sv change).index? i =
      (r.index? i).bind (List.mapM fun name => change.carry name) := by
  have same (fixed : ∀ name, change.carry name = some name) :
      r.index? i = (r.index? i).bind (List.mapM fun name => change.carry name) := by
    cases r.index? i with
    | none => rfl
    | some names => exact (mapM_carry_of_fixed fixed).symm
  cases change with
  | dropColumn column ifExists =>
    have kept : i ∈ (r.apply sv (.dropColumn column ifExists)).catalog.indexes ↔
        i ∈ r.catalog.indexes ∧ (r.indexed i).contains column = false := by
      simp only [apply, Server.apply, List.mem_filter, Bool.not_eq_true']
    simp only [index?, kept]
    by_cases here : i ∈ r.catalog.indexes
    · rw [if_pos here, Option.bind_some, mapM_carry_drop]
      cases (r.indexed i).contains column <;> simp [here, apply]
    · simp only [here, false_and, if_false, Option.bind_none]
  | renameColumn old new =>
    have kept : i ∈ (r.apply sv (.renameColumn old new)).catalog.indexes ↔
        i ∈ r.catalog.indexes := .rfl
    simp only [index?, kept]
    split
    next => exact mapM_carry_rename.symm
    next => rfl
  | createTable | createIndex | createUniqueIndex | dropIndex | addForeignKey | dropConstraint =>
    exact absurd about Bool.false_ne_true
  | _ => exact same fun _ => rfl

theorem key_apply (keyless : change.Keyless) :
    (r.apply sv change).key = (r.key.mapM fun name => change.carry name).getD [] := by
  have same (fixed : ∀ name, change.carry name = some name) :
      r.key = (r.key.mapM fun name => change.carry name).getD [] := by
    rw [mapM_carry_of_fixed fixed, Option.getD_some]
  cases change with
  | createTable => exact keyless.elim
  | addColumn d =>
    have none : d.primaryKey = false := keyless
    simp only [apply, none, Bool.false_eq_true, if_false]
    exact same fun _ => rfl
  | dropColumn column ifExists =>
    rw [mapM_carry_drop, apply]
    split <;> rfl
  | renameColumn old new =>
    rw [mapM_carry_rename]
    rfl
  | _ => exact same fun _ => rfl

/-- An index is on the columns that it was on, and gone with any of them. -/
theorem index?_run (about : ∀ s ∈ steps, s.change.column?.isSome = true) :
    (r.run sv steps).index? i = (r.index? i).bind (List.mapM (fate steps)) := by
  induction steps generalizing r with
  | nil =>
    rw [run_nil]
    cases r.index? i with
    | none => rfl
    | some names => exact (mapM_eq_some_self_iff.mpr fun _ _ => fate_nil).symm
  | cons s steps ih =>
    have fates : fate (s :: steps) = fun name => (s.change.carry name).bind (fate steps) :=
      funext fun _ => fate_cons
    rw [run_cons, ih fun u hu => about u (List.mem_cons_of_mem s hu),
      index?_apply (about s List.mem_cons_self), fates, Option.bind_assoc]
    exact congrArg _ (funext fun _ => mapM_bind.symm)

/-- An index is there after changes of columns exactly when none of its columns is removed. -/
theorem mem_indexes_run_iff (about : ∀ s ∈ steps, s.change.column?.isSome = true) :
    i ∈ (r.run sv steps).catalog.indexes ↔
      i ∈ r.catalog.indexes ∧ ∀ name ∈ r.indexed i, fate steps name ≠ none := by
  have present (r : StoredTable) : i ∈ r.catalog.indexes ↔ r.index? i ≠ none := by
    rw [index?]
    split <;> simp [*]
  rw [present, index?_run about]
  by_cases here : i ∈ r.catalog.indexes
  · rw [index?, if_pos here, Option.bind_some, Ne, mapM_eq_none_iff]
    simp [here]
  · simp [index?, here]

/-- The key is that of the columns that it is on, and gone with any of them. -/
theorem key_run (keyless : ∀ s ∈ steps, s.change.Keyless) :
    (r.run sv steps).key = (r.key.mapM (fate steps)).getD [] := by
  induction steps generalizing r with
  | nil => rw [mapM_eq_some_self_iff.mpr fun _ _ => fate_nil, Option.getD_some, run_nil]
  | cons s steps ih =>
    have fates : fate (s :: steps) = fun name => (s.change.carry name).bind (fate steps) :=
      funext fun _ => fate_cons
    rw [run_cons, ih fun u hu => keyless u (List.mem_cons_of_mem s hu),
      key_apply (keyless s List.mem_cons_self), fates, mapM_bind]
    cases r.key.mapM fun name => s.change.carry name <;> rfl

/-- The key stays what it is exactly when each of its columns keeps its name. -/
theorem key_run_eq_iff (keyless : ∀ s ∈ steps, s.change.Keyless) :
    (r.run sv steps).key = r.key ↔ ∀ name ∈ r.key, fate steps name = some name := by
  rw [key_run keyless, ← mapM_eq_some_self_iff]
  cases carried : r.key.mapM (fate steps) with
  | some names => simp
  | none =>
    simp only [Option.getD_none, reduceCtorEq, iff_false]
    intro none
    rw [← none] at carried
    exact nomatch carried

end Carry

end StoredTable

/-! ### Columns that are removed -/

namespace Plan

/-- The declared column is removed and added anew: it is live as text, its declared type is not one
of text, and force is given. -/
def Recreated (live : Catalog) (force : Bool) (name : String) (c : ColumnDecl) : Prop :=
  c.isActive = true ∧ isManaged c = true ∧ (c.force || force) = true ∧
    ∃ found, liveColumn? live name c = some found ∧ NeedsForce found c

section Removed

variable {t : TableDecl} {live : Catalog} {force dropUndeclared : Bool} {name other : String}
  {c : ColumnDecl}

/-- A column that is recreated is renamed if need be, removed, and added. -/
theorem column_recreated (h : Recreated live force name c) :
    column t live force name c = rename t live name c ++
      recreateColumn (t.member name) name c (t.keyColumns.contains name) := by
  obtain ⟨active, managed, forced, found, stands, other, textual, foreign⟩ := h
  obtain ⟨drop, skip⟩ : c.drop = false ∧ c.ignore = false := by
    simpa [ColumnDecl.isActive] using active
  rw [column_found skip drop stands, if_pos managed, columnType, other, textual, foreign, forced]
  rfl

theorem ne_drop_of_mem_rename {s : Step} (h : s ∈ (rename t live name c).steps) {ifExists : Bool} :
    s.change ≠ .dropColumn other ifExists := by
  obtain ⟨old, -, change⟩ := mem_steps_rename h
  rw [change]
  exact nofun

theorem ne_drop_of_mem_columnConstraints {object : String} {found : CatalogColumn} {inKey : Bool}
    {s : Step} (h : s ∈ (columnConstraints object name c found inKey).steps) {ifExists : Bool} :
    s.change ≠ .dropColumn other ifExists := by
  intro drop
  have adjusts := mem_steps_columnConstraints h
  rw [drop] at adjusts
  exact adjusts

/-- The steps for a declared column remove it when it is to be removed, or created anew. -/
theorem exists_drop_column_iff :
    (∃ s ∈ (column t live force name c).steps, ∃ ifExists,
      s.change = .dropColumn other ifExists) ↔
    name = other ∧ (c.ignore = false ∧ c.drop = true ∨ Recreated live force name c) := by
  constructor
  · rintro ⟨s, hs, ifExists, drop⟩
    refine ⟨?_, ?_⟩
    · have about := (columnStep_of_mem hs).column?
      rw [drop] at about
      exact (Option.some.inj about).symm
    · have treated := treatment_column t live force name c
      generalize column t live force name c = q at treated hs
      cases treated with
      | ignored => exact absurd hs List.not_mem_nil
      | dropped skip marked => exact .inl ⟨skip, marked⟩
      | missing =>
        rw [List.mem_singleton.mp hs] at drop
        exact nomatch drop
      | unmanaged => exact absurd drop (ne_drop_of_mem_rename hs)
      | typed =>
        obtain hs | hs := List.mem_append.mp hs
        · exact absurd drop (ne_drop_of_mem_rename hs)
        · exact absurd drop (ne_drop_of_mem_columnConstraints hs)
      | refused =>
        rw [steps_append, List.append_nil] at hs
        exact absurd drop (ne_drop_of_mem_rename hs)
      | forced active found stands managed needs forced =>
        exact .inr ⟨active, managed, forced, found, stands, needs⟩
      | retyped =>
        obtain hs | hs := List.mem_append.mp hs
        · exact absurd drop (ne_drop_of_mem_rename hs)
        · obtain hs | hs := List.mem_append.mp hs
          · rw [List.mem_singleton.mp hs] at drop
            exact nomatch drop
          · exact absurd drop (ne_drop_of_mem_columnConstraints hs)
  · rintro ⟨rfl, ⟨skip, marked⟩ | recreated⟩
    · obtain ⟨ignored, -⟩ | ⟨-, -, eq⟩ := steps_column_of_inactive t live force name
        (Bool.eq_false_iff.mpr (not_isActive_of_drop marked))
      · exact absurd ignored (by simp [skip])
      · exact ⟨_, eq ▸ List.mem_singleton_self _, true, rfl⟩
    · rw [column_recreated recreated, steps_append, steps_recreateColumn]
      exact ⟨_, List.mem_append_right _ List.mem_cons_self, false, rfl⟩

/-- The steps for columns remove those that are to be removed or created anew, and those that are
not declared, if these are to go. -/
theorem exists_drop_iff :
    (∃ s ∈ (columns t live force dropUndeclared).steps, ∃ ifExists,
      s.change = .dropColumn name ifExists) ↔
    (∃ c, (name, c) ∈ t.columns ∧
      (c.ignore = false ∧ c.drop = true ∨ Recreated live force name c)) ∨
    dropUndeclared = true ∧ name ∈ undeclared t live := by
  constructor
  · rintro ⟨s, hs, ifExists, drop⟩
    obtain ⟨n, c, declared, hs⟩ | ⟨allowed, n, listed, rfl⟩ := mem_steps_columns.mp hs
    · obtain ⟨rfl, reason⟩ := exists_drop_column_iff.mp ⟨s, hs, ifExists, drop⟩
      exact .inl ⟨c, declared, reason⟩
    · obtain ⟨rfl, -⟩ : n = name ∧ false = ifExists := by simpa [removal] using drop
      exact .inr ⟨allowed, listed⟩
  · rintro (⟨c, declared, reason⟩ | ⟨allowed, listed⟩)
    · obtain ⟨s, hs, drop⟩ := (exists_drop_column_iff (t := t)).mpr ⟨rfl, reason⟩
      exact ⟨s, mem_steps_columns.mpr (.inl ⟨name, c, declared, hs⟩), drop⟩
    · exact ⟨_, mem_steps_columns.mpr (.inr ⟨allowed, name, listed, rfl⟩), false, rfl⟩

/-- A live column is renamed exactly when it is the source of a rename. -/
theorem exists_rename_from_iff :
    (∃ s ∈ (columns t live force dropUndeclared).steps, ∃ new, s.change = .renameColumn name new) ↔
      name ∈ renamedFrom t live := by
  rw [mem_renamedFrom_iff_renames]
  constructor
  · rintro ⟨s, hs, new, change⟩
    obtain ⟨c, declared, renames⟩ := exists_rename_iff.mp ⟨s, hs, change⟩
    exact ⟨(new, c), declared, renames⟩
  · rintro ⟨⟨new, c⟩, declared, renames⟩
    obtain ⟨s, hs, change⟩ := exists_rename_iff.mpr ⟨c, declared, renames⟩
    exact ⟨s, hs, new, change⟩

/-- No live column is given a name that another has. -/
theorem not_renames_to_live {s : Step} (h : s ∈ (columns t live force dropUndeclared).steps)
    {old : String} (here : live.Has name) : s.change ≠ .renameColumn old name := by
  intro change
  obtain ⟨c, -, renames⟩ := exists_rename_iff.mp ⟨s, h, change⟩
  exact renames.not_has here

end Removed

end Plan

/-! ### The key of a live table -/

/-- A declaration that can be used declares the columns of its key. -/
theorem TableDecl.hasColumn_of_validate {t : TableDecl} {warnings : List Issue}
    (valid : t.validate = .ok warnings) {name : String} (inKey : name ∈ t.keyColumns) :
    t.hasColumn name = true := by
  cases found : t.keyColumns.find? (!t.hasColumn ·) with
  | none => simpa using List.find?_eq_none.mp found name inKey
  | some missing =>
    simp only [validate, found] at valid
    cases checked : t.columnNames.mapM t.checkName <;> rw [checked] at valid
    all_goals
      split at valid
      next => exact nomatch valid
      next => split at valid <;> exact nomatch valid

namespace Plan

section Live

variable {t : TableDecl} {live : Catalog} {o : SyncOptions} {name : String}

theorem keyless_ofDecl {c : ColumnDecl} {inKey : Bool} :
    (ColumnDef.ofDecl name c inKey).primaryKey = false := by cases inKey <;> rfl

/-- No step for a live table makes a primary key. -/
theorem keyless_liveTable {s : Step} (h : s ∈ (liveTable t live o).steps) : s.change.Keyless := by
  rw [steps_liveTable] at h
  obtain h | h := List.mem_append.mp h
  · obtain ⟨n, c, -, step⟩ | ⟨n, -, drop⟩ := columnStep_of_mem_columns h
    · generalize s.change = change at step
      cases step with
      | add inKey => exact keyless_ofDecl
      | adjust _ adjusts => cases change <;> first | exact adjusts.elim | trivial
      | _ => trivial
    · rw [drop]
      trivial
  · have beside := beside_tail h
    generalize s.change = change at beside
    cases change <;> first | exact beside.elim | trivial

/-- The columns that a plan for a live table takes the name from: the sources of renames, the
declared ones that are to be removed or created anew, and those that are not declared, if these are
to go. -/
theorem exists_removes_iff :
    (∃ s ∈ (liveTable t live o).steps, s.change.Removes name) ↔
      name ∈ renamedFrom t live ∨
        (∃ c, (name, c) ∈ t.columns ∧
          (c.ignore = false ∧ c.drop = true ∨ Recreated live o.force name c)) ∨
        o.dropUndeclared = true ∧ name ∈ undeclared t live := by
  have renames : (∃ s ∈ (columns t live o.force o.dropUndeclared).steps, ∃ new,
      s.change = .renameColumn name new) ↔ name ∈ renamedFrom t live := exists_rename_from_iff
  have drops : (∃ s ∈ (columns t live o.force o.dropUndeclared).steps, ∃ ifExists,
      s.change = .dropColumn name ifExists) ↔ _ := exists_drop_iff
  rw [← renames, ← drops]
  constructor
  · rintro ⟨s, hs, ⟨ifExists, drop⟩ | ⟨new, rename⟩⟩
    · have within := mem_columns_of_column? hs (by rw [drop]; rfl)
      exact .inr ⟨s, within, ifExists, drop⟩
    · have within := mem_columns_of_column? hs (by rw [rename]; rfl)
      exact .inl ⟨s, within, new, rename⟩
  · rw [steps_liveTable]
    rintro (⟨s, hs, rename⟩ | ⟨s, hs, drop⟩)
    · exact ⟨s, List.mem_append_left _ hs, .inr rename⟩
    · exact ⟨s, List.mem_append_left _ hs, .inl drop⟩

/-- A live column keeps its name exactly when no step takes it away. -/
theorem fate_liveTable_eq_self_iff (here : live.Has name) :
    fate (liveTable t live o).steps name = some name ↔
      ¬ ∃ s ∈ (liveTable t live o).steps, s.change.Removes name := by
  rw [fate_eq_self_iff fun s hs old change =>
    not_renames_to_live (mem_columns_of_column? hs (by rw [change]; rfl)) here change]
  simp only [not_exists, not_and]

/-- **The primary key of a live table.**  A declared key, all columns of which are active, is still
the key after a plan for the table has run, exactly when none of its columns is the source of a
rename and none is created anew.  A key column that is created anew is no key any more, and the
table has none then. -/
theorem key_kept_iff (sv : Server) (t : TableDecl) (r : StoredTable) (o : SyncOptions)
    {warnings : List Issue} (valid : t.validate = .ok warnings)
    (active : ∀ k ∈ t.keyColumns, ∀ c, (k, c) ∈ t.columns → c.isActive = true)
    (same : r.key = t.keyColumns) (here : ∀ k ∈ r.key, r.catalog.Has k) :
    let after := r.run sv (liveTable t r.catalog o).steps
    (after.key = t.keyColumns ↔ ∀ k ∈ t.keyColumns, k ∉ renamedFrom t r.catalog ∧
      ∀ c, (k, c) ∈ t.columns → ¬ Recreated r.catalog o.force k c) ∧
    ∀ k ∈ t.keyColumns, ∀ c, (k, c) ∈ t.columns → Recreated r.catalog o.force k c →
      k ∉ renamedFrom t r.catalog → after.key = [] := by
  intro after
  have keyless : ∀ s ∈ (liveTable t r.catalog o).steps, s.change.Keyless :=
    fun s hs => keyless_liveTable hs
  constructor
  · rw [← same, StoredTable.key_run_eq_iff keyless]
    refine forall₂_congr fun k inKey => ?_
    have known : k ∈ t.columnNames :=
      TableDecl.hasColumn_iff.mp (TableDecl.hasColumn_of_validate valid (same ▸ inKey))
    rw [fate_liveTable_eq_self_iff (here k inKey), exists_removes_iff]
    constructor
    · intro none
      exact ⟨fun source => none (.inl source),
        fun c listed recreated => none (.inr (.inl ⟨c, listed, .inr recreated⟩))⟩
    · rintro ⟨unrenamed, fixed⟩ (source | ⟨c, listed, ⟨-, drop⟩ | recreated⟩ | ⟨-, listed⟩)
      · exact unrenamed source
      · exact not_isActive_of_drop drop (active k (same ▸ inKey) c listed)
      · exact fixed c listed recreated
      · exact not_declared_of_mem_undeclared listed known
  · intro k inKey c declared recreated unrenamed
    have lost : fate (liveTable t r.catalog o).steps k = none := by
      refine (fate_eq_none_iff fun s hs new rename => unrenamed (mem_renamedFrom hs rename)).mpr ?_
      have drops : ∃ s ∈ (column t r.catalog o.force k c).steps, ∃ ifExists,
          s.change = .dropColumn k ifExists := exists_drop_column_iff.mpr ⟨rfl, .inr recreated⟩
      obtain ⟨s, hs, drop⟩ := drops
      exact ⟨s, column_subset_liveTable declared hs, drop⟩
    rw [StoredTable.key_run keyless, mapM_eq_none_iff.mpr ⟨k, same ▸ inKey, lost⟩, Option.getD_none]

end Live

/-! ### Accounts -/

/-- A table of accounts, with a number for its key. -/
def accounts : TableDecl :=
  { name := "accounts"
    columns := [("id", { type := "int" }), ("name", { type := "varchar(30)" })]
    primaryKey := some (.single "id") }

/-- The table as it was before, when the key was text. -/
def formerAccounts : StoredTable where
  catalog :=
    { present := true
      columns :=
        [{ name := "id", dataType := "text" },
          { name := "name", dataType := "character varying", charLength := some 30
            default? := some "''::character varying" }]
      indexes := ["accounts_pkey"] }
  key := ["id"]
  indexed i := if i = "accounts_pkey" then ["id"] else []

/-- The key is created anew as a number, and is no key then. -/
theorem recreated_accounts : Recreated formerAccounts.catalog true "id" { type := "int" } := by
  refine ⟨rfl, by decide +kernel, rfl, _, rfl, ?_⟩
  unfold NeedsForce
  decide +kernel

theorem key_kept_iff_accounts :
    accounts.validate = .ok [] ∧
      (∀ k ∈ accounts.keyColumns, ∀ c, (k, c) ∈ accounts.columns → c.isActive = true) ∧
      formerAccounts.key = accounts.keyColumns ∧
      (∀ k ∈ formerAccounts.key, formerAccounts.catalog.Has k) ∧
      (formerAccounts.run Server.literal
        (liveTable accounts formerAccounts.catalog { force := true }).steps).key = [] := by
  have valid : accounts.validate = .ok [] := by rfl
  have active : ∀ entry ∈ accounts.columns, entry.2.isActive = true := by decide
  have here : ∀ k ∈ formerAccounts.key, formerAccounts.catalog.Has k := by decide
  have each := fun k (_ : k ∈ accounts.keyColumns) c => active (k, c)
  refine ⟨valid, each, rfl, here, ?_⟩
  refine (key_kept_iff Server.literal accounts formerAccounts { force := true } valid each rfl
    here).2 "id" (List.mem_singleton_self _) _ List.mem_cons_self recreated_accounts ?_
  decide

end Plan

end TableMapper
