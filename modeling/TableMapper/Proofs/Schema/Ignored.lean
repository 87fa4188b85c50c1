import TableMapper.Proofs.Schema.Sequence

/-!
# Ignored columns

A column that is ignored is to be left out of a plan, with its indexes and its foreign key.

* `Ddl.Touches` holds of the changes of a column, of an index on it or of its foreign key.
* `Plan.Slip` lists the changes of a plan that touch an ignored column nevertheless, and
  `Plan.touches_ignored_iff` says that there are no others.
-/

namespace TableMapper

/-- The change makes, renames, alters or removes the column, makes an index on it, or makes or
removes a foreign key of its name. -/
def Ddl.Touches (table name : String) : Ddl → Prop
  | .createTable columns _ => ∃ d ∈ columns, d.name = name
  | .renameColumn old new => old = name ∨ new = name
  | .createIndex _ _ columns | .createUniqueIndex _ columns => name ∈ columns
  | .addForeignKey k => k.column = name ∨ k.name = Naming.foreignKeyName table name
  | .dropConstraint key _ => key = Naming.foreignKeyName table name
  | change => change.column? = some name

namespace Plan

/-- The changes that touch an ignored column nevertheless. -/
inductive Slip (t : TableDecl) (live : Catalog) (changed : List String) (name : String) : Ddl → Prop
  /-- Another column that is not live has it as its old name. -/
  | renamed (new : String) (c : ColumnDecl) (declared : (new, c) ∈ t.columns)
      (active : c.isActive = true) (former : c.oldName = some name) (here : live.Has name)
      (absent : ¬ live.Has new) : Slip t live changed name (.renameColumn name new)
  /-- Its foreign key is live, and none of that name is declared. -/
  | stale (there : Naming.foreignKeyName t.name name ∈ live.foreignKeys)
      (own : Text.startsWith (t.name ++ "_") (Naming.foreignKeyName t.name name) = true)
      (unknown : ∀ k ∈ t.foreignKeys, k.name ≠ Naming.foreignKeyName t.name name) :
      Slip t live changed name (.dropConstraint (Naming.foreignKeyName t.name name) false)
  /-- The foreign key of another column, cut to the same name, is to be made anew. -/
  | moved (k : ForeignKey) (declared : k ∈ t.foreignKeys)
      (same : k.name = Naming.foreignKeyName t.name name)
      (there : live.hasForeignKey k.name = true) (retyped : k.column ∈ changed) :
      Slip t live changed name (.dropConstraint (Naming.foreignKeyName t.name name) true)
  /-- The foreign key of another column, cut to the same name, is missing or to be made anew. -/
  | made (k : ForeignKey) (declared : k ∈ t.foreignKeys)
      (same : k.name = Naming.foreignKeyName t.name name)
      (due : live.hasForeignKey k.name = false ∨ k.column ∈ changed) :
      Slip t live changed name (.addForeignKey k)

section Ignored

variable {t : TableDecl} {live : Catalog} {force dropUndeclared : Bool} {name : String}
  {c : ColumnDecl} {changed : List String} {s : Step} {change : Ddl}

theorem eq_of_declared {d : ColumnDecl} (distinct : t.columnNames.Nodup)
    (declared : (name, c) ∈ t.columns) (also : (name, d) ∈ t.columns) : c = d :=
  (Prod.mk.inj (List.inj_on_of_nodup_map distinct declared also rfl)).2

/-- No other declaration of an ignored column is active. -/
theorem not_active_of_ignored {d : ColumnDecl} (distinct : t.columnNames.Nodup)
    (declared : (name, c) ∈ t.columns) (ignored : c.ignore = true)
    (also : (name, d) ∈ t.columns) : ¬ d.isActive = true := by
  obtain rfl := eq_of_declared distinct declared also
  simp [ColumnDecl.isActive, ignored]

/-! ### Columns -/

theorem steps_column_of_ignored (ignored : c.ignore = true) :
    (column t live force name c).steps = [] := by simp only [column, ignored, if_true]

/-- Of the changes of a column, only a rename touches another. -/
theorem eq_rename_of_touches {other : String} (about : change.column? = some other)
    (ne : other ≠ name) (touches : change.Touches t.name name) :
    change = .renameColumn name other := by
  cases change with
  | renameColumn old new =>
    obtain rfl : new = other := Option.some.inj about
    obtain rfl : old = name := touches.resolve_right ne
    rfl
  | createTable | createIndex | createUniqueIndex | dropIndex | addForeignKey | dropConstraint =>
    exact nomatch about
  | _ => exact absurd (Option.some.inj (about.symm.trans touches)) ne

/-- The steps for columns touch an ignored one only by a rename of it. -/
theorem touches_columns_iff (distinct : t.columnNames.Nodup) (declared : (name, c) ∈ t.columns)
    (ignored : c.ignore = true) :
    (∃ s ∈ (columns t live force dropUndeclared).steps, s.change = change) ∧
      change.Touches t.name name ↔
    ∃ new, change = .renameColumn name new ∧
      ∃ c, (new, c) ∈ t.columns ∧ Renames live (new, c) name := by
  constructor
  · rintro ⟨⟨s, hs, rfl⟩, touches⟩
    obtain ⟨other, d, listed, step⟩ | ⟨-, other, listed, rfl⟩ := mem_steps_columns.mp hs
    · have ne : other ≠ name := by
        rintro rfl
        obtain rfl := eq_of_declared distinct declared listed
        rw [steps_column_of_ignored ignored] at step
        exact absurd step List.not_mem_nil
      have rename := eq_rename_of_touches (columnStep_of_mem step).column? ne touches
      exact ⟨other, rename, exists_rename_iff.mp ⟨s, hs, rename⟩⟩
    · obtain rfl : other = name := Option.some.inj touches
      exact absurd (List.mem_map_of_mem declared) (not_declared_of_mem_undeclared listed)
  · rintro ⟨new, rfl, renames⟩
    exact ⟨exists_rename_iff.mpr renames, .inl rfl⟩

/-! ### Indexes -/

/-- The columns of an index that can be used are declared and active. -/
theorem active_of_usable {list : List String} (usable : unusable? t list = none)
    (listed : name ∈ list) : ∃ d, (name, d) ∈ t.columns ∧ d.isActive = true := by
  have found : (t.column? name).any (·.isActive) = true := by
    simpa using List.find?_eq_none.mp usable name listed
  cases there : t.column? name with
  | none => simp [there] at found
  | some d =>
    obtain ⟨pre, post, split, -⟩ := List.lookup_eq_some_iff.mp there
    exact ⟨d, split ▸ List.mem_append_cons_self, by simpa [there] using found⟩

/-- No index is made on an ignored column. -/
theorem not_touches_of_mem_indexes (distinct : t.columnNames.Nodup)
    (declared : (name, c) ∈ t.columns) (ignored : c.ignore = true)
    (h : s ∈ (indexes t live).steps) : ¬ s.change.Touches t.name name := by
  have unused {list : List String} (usable : unusable? t list = none) : name ∉ list := by
    intro listed
    obtain ⟨d, also, active⟩ := active_of_usable usable listed
    exact not_active_of_ignored distinct declared ignored also active
  obtain ⟨list, -, h⟩ | ⟨list, -, h⟩ | ⟨entry, -, h⟩ := mem_steps_indexes.mp h
  · rw [mem_steps_index h]
    exact unused (usable_of_mem_createUnlessPresent (index_subset h))
  · rw [mem_steps_uniqueIndex h]
    exact unused (usable_of_mem_createUnlessPresent (uniqueIndex_subset h))
  · obtain ⟨index, -, drop⟩ := change_of_mem_removedIndex h
    rw [drop]
    exact fun touches => Option.some_ne_none name touches.symm

/-! ### Foreign keys -/

theorem mem_staleKeys_iff {key : String} : key ∈ staleKeys t live ↔
    key ∈ live.foreignKeys ∧ Text.startsWith (t.name ++ "_") key = true ∧
      ∀ k ∈ t.foreignKeys, k.name ≠ key := by
  simp [staleKeys]

/-- A declared foreign key is that of an active column. -/
theorem active_of_mem_foreignKeys {k : ForeignKey} (h : k ∈ t.foreignKeys) :
    ∃ d, (k.column, d) ∈ t.columns ∧ d.isActive = true := by
  obtain ⟨⟨n, d⟩, listed, key⟩ := List.mem_filterMap.mp h
  replace key : d.foreignKey? t.name n = some k := key
  unfold ColumnDecl.foreignKey? at key
  split at key
  next active =>
    obtain ⟨text, -, rfl⟩ := Option.map_eq_some_iff.mp key
    exact ⟨d, listed, active⟩
  next => exact nomatch key

/-- A declared foreign key is removed when it is live and its column has changed its type, and
added when it is not live or has been removed. -/
theorem exists_foreignKey_iff {k : ForeignKey} :
    (∃ s ∈ (foreignKey live changed k).steps, s.change = change) ↔
      (live.hasForeignKey k.name = true ∧ k.column ∈ changed ∧
        change = .dropConstraint k.name true) ∨
      ((live.hasForeignKey k.name = false ∨ k.column ∈ changed) ∧ change = .addForeignKey k) := by
  cases present : live.hasForeignKey k.name <;> by_cases moved : k.column ∈ changed <;>
    simp [foreignKey, present, moved, tryStep, step, eq_comm (a := change)]

/-- The steps for foreign keys touch an ignored column when its key is stale, or when another key
has the same name. -/
theorem touches_foreignKeys_iff (distinct : t.columnNames.Nodup)
    (declared : (name, c) ∈ t.columns) (ignored : c.ignore = true) :
    (∃ s ∈ (foreignKeys t live changed).steps, s.change = change) ∧
      change.Touches t.name name ↔
    (Naming.foreignKeyName t.name name ∈ staleKeys t live ∧
        change = .dropConstraint (Naming.foreignKeyName t.name name) false) ∨
      ∃ k ∈ t.foreignKeys, k.name = Naming.foreignKeyName t.name name ∧
        ∃ s ∈ (foreignKey live changed k).steps, s.change = change := by
  constructor
  · rintro ⟨⟨s, hs, rfl⟩, touches⟩
    obtain ⟨key, listed, rfl⟩ | ⟨k, listed, hs⟩ := mem_steps_foreignKeys.mp hs
    · obtain rfl : key = Naming.foreignKeyName t.name name := touches
      exact .inl ⟨listed, rfl⟩
    · refine .inr ⟨k, listed, ?_, s, hs, rfl⟩
      obtain drop | add := change_of_mem_foreignKey hs
      · rw [drop] at touches
        exact touches
      · rw [add] at touches
        refine touches.resolve_left ?_
        rintro rfl
        obtain ⟨d, also, active⟩ := active_of_mem_foreignKeys listed
        exact not_active_of_ignored distinct declared ignored also active
  · rintro (⟨listed, rfl⟩ | ⟨k, listed, same, s, hs, rfl⟩)
    · exact ⟨⟨_, mem_steps_foreignKeys.mpr (.inl ⟨_, listed, rfl⟩), rfl⟩, rfl⟩
    · refine ⟨⟨s, mem_steps_foreignKeys.mpr (.inr ⟨k, listed, hs⟩), rfl⟩, ?_⟩
      obtain drop | add := change_of_mem_foreignKey hs
      · rw [drop]
        exact same
      · rw [add]
        exact .inr same

/-! ### The whole plan -/

/-- **Ignored columns are touched.**  Of the steps for columns, indexes and foreign keys, whatever
the catalog is and whatever columns have changed their type, those that touch an ignored column are
the ones listed: it can be renamed for another column, and a foreign key of its name can be removed
as one that is not declared. -/
theorem touches_ignored_iff (t : TableDecl) (live : Catalog) (force dropUndeclared : Bool)
    (changed : List String) {name : String} {c : ColumnDecl} (distinct : t.columnNames.Nodup)
    (declared : (name, c) ∈ t.columns) (ignored : c.ignore = true) (change : Ddl) :
    (∃ s ∈ (columns t live force dropUndeclared).steps ++ tail t live changed,
        s.change = change) ∧ change.Touches t.name name ↔
      Slip t live changed name change := by
  have parts : (∃ s ∈ (columns t live force dropUndeclared).steps ++ tail t live changed,
        s.change = change) ∧ change.Touches t.name name ↔
      ((∃ s ∈ (columns t live force dropUndeclared).steps, s.change = change) ∧
        change.Touches t.name name) ∨
      ((∃ s ∈ (foreignKeys t live changed).steps, s.change = change) ∧
        change.Touches t.name name) := by
    constructor
    · rintro ⟨⟨s, hs, rfl⟩, touches⟩
      obtain hs | hs := List.mem_append.mp hs
      · exact .inl ⟨⟨s, hs, rfl⟩, touches⟩
      obtain hs | hs := List.mem_append.mp hs
      · exact absurd touches (not_touches_of_mem_indexes distinct declared ignored hs)
      · exact .inr ⟨⟨s, hs, rfl⟩, touches⟩
    · rintro (⟨⟨s, hs, rfl⟩, touches⟩ | ⟨⟨s, hs, rfl⟩, touches⟩)
      · exact ⟨⟨s, List.mem_append_left _ hs, rfl⟩, touches⟩
      · exact ⟨⟨s, List.mem_append_right _ (List.mem_append_right _ hs), rfl⟩, touches⟩
  rw [parts, touches_columns_iff distinct declared ignored,
    touches_foreignKeys_iff distinct declared ignored]
  constructor
  · rintro (⟨new, rfl, d, listed, renames⟩ | ⟨listed, rfl⟩ | ⟨k, listed, same, planned⟩)
    · obtain ⟨active, former, here, absent⟩ := renames_iff.mp renames
      exact .renamed new d listed active former here absent
    · obtain ⟨there, own, unknown⟩ := mem_staleKeys_iff.mp listed
      exact .stale there own unknown
    · obtain ⟨there, retyped, rfl⟩ | ⟨due, rfl⟩ := exists_foreignKey_iff.mp planned
      · exact same ▸ .moved k listed same there retyped
      · exact .made k listed same due
  · intro slip
    cases slip with
    | renamed new d listed active former here absent =>
      exact .inl ⟨new, rfl, d, listed, renames_iff.mpr ⟨active, former, here, absent⟩⟩
    | stale there own unknown =>
      exact .inr (.inl ⟨mem_staleKeys_iff.mpr ⟨there, own, unknown⟩, rfl⟩)
    | moved k listed same there retyped =>
      exact .inr (.inr ⟨k, listed, same,
        exists_foreignKey_iff.mpr (.inl ⟨there, retyped, same ▸ rfl⟩)⟩)
    | made k listed same due =>
      exact .inr (.inr ⟨k, listed, same, exists_foreignKey_iff.mpr (.inr ⟨due, rfl⟩)⟩)

end Ignored

/-! ### Orders -/

/-- A table of orders, in which the owner is ignored. -/
def orders : TableDecl :=
  { name := "orders"
    columns :=
      [("id", { type := "int" }),
        ("owner", { type := "int", references := some "users:id", ignore := true })]
    primaryKey := some (.single "id") }

/-- The table as it is, with a foreign key for the owner. -/
def liveOrders : Catalog :=
  { present := true
    columns := [{ name := "id", dataType := "integer" }, { name := "owner", dataType := "integer" }]
    foreignKeys := ["orders_owner_fkey"] }

/-- The foreign key of the owner is removed, though the owner is ignored. -/
theorem touches_ignored_iff_orders :
    orders.columnNames.Nodup ∧
      (∃ c, ("owner", c) ∈ orders.columns ∧ c.ignore = true) ∧
      (∃ s ∈ (columns orders liveOrders false false).steps ++ tail orders liveOrders [],
        s.change = .dropConstraint "orders_owner_fkey" false) ∧
      Ddl.Touches orders.name "owner" (.dropConstraint "orders_owner_fkey" false) := by
  have distinct : orders.columnNames.Nodup := by decide
  have declared : ("owner", { type := "int", references := some "users:id", ignore := true }) ∈
      orders.columns := List.mem_cons_of_mem _ (List.mem_singleton_self _)
  have none : orders.foreignKeys = [] := rfl
  have key : Naming.foreignKeyName orders.name "owner" = "orders_owner_fkey" := by decide +kernel
  refine ⟨distinct, ⟨_, declared, rfl⟩, ?_⟩
  refine (touches_ignored_iff orders liveOrders false false [] distinct declared rfl _).mpr ?_
  rw [← key]
  refine .stale ?_ ?_ ?_
  · rw [key]
    exact List.mem_singleton_self _
  · rw [key]
    decide +kernel
  · rw [none]
    exact nofun

end Plan

end TableMapper
