import TableMapper.Proofs.Schema.Ignored
import TableMapper.Proofs.Schema.IndexLoss

/-!
# What the plan for a new table names

A new table is created with its active columns.  Its indexes and foreign keys are planned for these
columns only.  Its primary key is not: a column of it that is declared to be dropped or ignored is
no column of the new table, and yet it stands in the list of the key, or, where it is the whole key,
the table is created without one.

* `Ddl.primaryKeys` are the primary keys that a change makes, and `Ddl.names` the columns of the
  table that it names.
* `Plan.created` are the columns that a new table has.
* `TableDecl.LeavesOut` holds of the columns that a new table is created without.
* `Plan.newTable_names_iff` says when the plan for a new table names only columns that are created,
  and when it makes the declared key.
-/

namespace TableMapper

/-- The primary keys that a change makes: that of each column which is defined to be one, and that
of the list of its columns. -/
def Ddl.primaryKeys : Ddl → List (List String)
  | .createTable columns key =>
    (columns.filter (·.primaryKey)).map (fun d => [d.name]) ++ if key.isEmpty then [] else [key]
  | .addColumn d => if d.primaryKey then [[d.name]] else []
  | _ => []

/-- The columns of the table that a change names.  A new table names those of its key, and a foreign
key that refers to the table itself names the column that it refers to as well. -/
def Ddl.names (table : String) : Ddl → List String
  | .createTable columns key => (Ddl.createTable columns key).primaryKeys.flatten
  | .createIndex _ _ columns | .createUniqueIndex _ columns => columns
  | .addForeignKey k => k.column :: if k.target.table = table then [k.target.column] else []
  | change => change.column?.toList

/-- The table is created without a column that is declared: it is to be dropped, or ignored. -/
def TableDecl.LeavesOut (t : TableDecl) (name : String) : Prop :=
  name ∈ t.columnNames ∧ ∀ c, (name, c) ∈ t.columns → c.drop = true ∨ c.ignore = true

namespace Plan

/-- The columns that a new table has. -/
def created (t : TableDecl) : List String := (definitions t).map (·.name)

section New

variable {t : TableDecl} {name k : String} {s : Step}

theorem mem_created_iff :
    name ∈ created t ↔ ∃ c, (name, c) ∈ t.columns ∧ c.isActive = true := by
  rw [created, definitions, List.map_map]
  constructor
  · intro listed
    obtain ⟨⟨other, c⟩, found, same⟩ := List.mem_map.mp listed
    obtain ⟨declared, active⟩ := List.mem_filter.mp found
    obtain rfl : other = name := name_newColumn.symm.trans same
    exact ⟨c, declared, active⟩
  · rintro ⟨c, declared, active⟩
    exact List.mem_map.mpr ⟨(name, c), List.mem_filter.mpr ⟨declared, active⟩, name_newColumn⟩

/-- A column that is declared is created, or left out. -/
theorem mem_created_iff_of_declared (declared : name ∈ t.columnNames) :
    name ∈ created t ↔ ¬ t.LeavesOut name := by
  rw [mem_created_iff]
  constructor
  · rintro ⟨c, listed, active⟩ ⟨-, out⟩
    obtain dropped | ignored := out c listed
    · simp [ColumnDecl.isActive, dropped] at active
    · simp [ColumnDecl.isActive, ignored] at active
  · intro kept
    by_contra none
    refine kept ⟨declared, fun c listed => ?_⟩
    have inactive : c.isActive = false :=
      Bool.eq_false_iff.mpr fun active => none ⟨c, listed, active⟩
    cases dropped : c.drop with
    | true => exact .inl rfl
    | false =>
      rw [ColumnDecl.isActive, dropped] at inactive
      exact .inr (by simpa using inactive)

/-! ### The key -/

/-- There is no key, or it has one column, or several. -/
theorem keyColumns_cases (t : TableDecl) :
    t.keyColumns = [] ∨ (∃ k, t.keyColumns = [k]) ∨ 1 < t.keyColumns.length := by
  cases cols : t.keyColumns with
  | nil => exact .inl rfl
  | cons k rest =>
    cases rest with
    | nil => exact .inr (.inl ⟨k, rfl⟩)
    | cons l rest => exact .inr (.inr (Nat.succ_lt_succ (Nat.succ_pos _)))

theorem primaryKey_newColumn {c : ColumnDecl} : (newColumn t name c).primaryKey =
    (t.keyColumns.contains name && t.keyColumns.length == 1) := rfl

theorem primaryKey_of_mem_definitions {d : ColumnDef} (defined : d ∈ definitions t) :
    d.primaryKey = (t.keyColumns.contains d.name && t.keyColumns.length == 1) := by
  obtain ⟨entry, -, rfl⟩ := List.mem_map.mp defined
  rw [primaryKey_newColumn, name_newColumn]

/-- The keys of the columns of a name are as many as there are columns of that name. -/
theorem map_filter_name (columns : List ColumnDef) :
    (columns.filter (·.name == k)).map (fun d => [d.name]) =
      List.replicate ((columns.map (·.name)).count k) [k] := by
  rw [List.eq_replicate_iff]
  constructor
  · rw [List.length_map, ← List.countP_eq_length_filter, List.count, List.countP_map]
    rfl
  · intro key listed
    obtain ⟨d, found, rfl⟩ := List.mem_map.mp listed
    rw [eq_of_beq (List.mem_filter.mp found).2]

/-- A key of one column is made with each definition of the column. -/
theorem primaryKeys_of_single (single : t.keyColumns = [k]) :
    (Ddl.createTable (definitions t) (keyList t)).primaryKeys =
      List.replicate ((created t).count k) [k] := by
  have own : (definitions t).filter (·.primaryKey) = (definitions t).filter (·.name == k) := by
    refine List.filter_congr fun d defined => ?_
    rw [primaryKey_of_mem_definitions defined, single, List.contains_cons, List.contains_nil,
      Bool.or_false]
    exact Bool.and_true _
  have list : keyList t = [] := by
    rw [keyList, single]
    rfl
  rw [Ddl.primaryKeys, own, map_filter_name, list]
  exact List.append_nil _

theorem not_primaryKey_of_length (several : t.keyColumns.length ≠ 1) :
    (definitions t).filter (·.primaryKey) = [] := by
  refine List.filter_eq_nil_iff.mpr fun d defined => ?_
  simp [primaryKey_of_mem_definitions defined, several]

/-- A key of several columns is made as it is declared. -/
theorem primaryKeys_of_several (several : 1 < t.keyColumns.length) :
    (Ddl.createTable (definitions t) (keyList t)).primaryKeys = [t.keyColumns] := by
  have some : t.keyColumns.isEmpty = false := by
    cases cols : t.keyColumns with
    | nil =>
      rw [cols] at several
      exact absurd several (Nat.not_lt_zero _)
    | cons => rfl
  rw [Ddl.primaryKeys, not_primaryKey_of_length (Nat.ne_of_gt several), keyList, if_pos several,
    some]
  rfl

theorem primaryKeys_of_none (none : t.keyColumns = []) :
    (Ddl.createTable (definitions t) (keyList t)).primaryKeys = [] := by
  have list : keyList t = [] := by
    rw [keyList, none]
    rfl
  have several : t.keyColumns.length ≠ 1 := by
    rw [none]
    exact Nat.zero_ne_one
  rw [Ddl.primaryKeys, not_primaryKey_of_length several, list]
  rfl

/-- The key of a new table names only columns that are created, unless it has several columns. -/
theorem names_createTable_iff :
    (∀ name ∈ (Ddl.createTable (definitions t) (keyList t)).names t.name, name ∈ created t) ↔
      (1 < t.keyColumns.length → ∀ k ∈ t.keyColumns, k ∈ created t) := by
  rw [Ddl.names]
  obtain none | ⟨k, single⟩ | several := keyColumns_cases t
  · simp [primaryKeys_of_none none, none]
  · rw [primaryKeys_of_single single, single]
    refine iff_of_true (fun name named => ?_) fun more => absurd more (Nat.lt_irrefl 1)
    -- a key is made for the column only if the column is there
    obtain ⟨key, listed, named⟩ := List.mem_flatten.mp named
    obtain ⟨some, rfl⟩ := List.mem_replicate.mp listed
    obtain rfl := List.mem_singleton.mp named
    exact List.count_pos_iff.mp (Nat.pos_of_ne_zero some)
  · simp [primaryKeys_of_several several, several]

/-! ### Indexes and foreign keys -/

/-- An index is planned on columns that are created. -/
theorem created_of_mem_indexes (h : s ∈ (indexes t {}).steps)
    (named : name ∈ s.change.names t.name) : name ∈ created t := by
  have used {list : List String} (usable : unusable? t list = none) (listed : name ∈ list) :
      name ∈ created t := mem_created_iff.mpr (active_of_usable usable listed)
  obtain ⟨list, -, h⟩ | ⟨list, -, h⟩ | ⟨entry, -, h⟩ := mem_steps_indexes.mp h
  · rw [mem_steps_index h] at named
    exact used (usable_of_mem_createUnlessPresent (index_subset h)) named
  · rw [mem_steps_uniqueIndex h] at named
    exact used (usable_of_mem_createUnlessPresent (uniqueIndex_subset h)) named
  · exact absurd h List.not_mem_nil

theorem names_foreignKeys_iff :
    (∀ s ∈ (foreignKeys t {} []).steps, ∀ name ∈ s.change.names t.name, name ∈ created t) ↔
      ∀ k ∈ t.foreignKeys, k.target.table = t.name → k.target.column ∈ created t := by
  rw [steps_foreignKeys_empty, List.forall_mem_map]
  refine forall₂_congr fun k declared => ?_
  have own : k.column ∈ created t := mem_created_iff.mpr (active_of_mem_foreignKeys declared)
  by_cases self : k.target.table = t.name <;> simp [Ddl.names, self, own]

theorem primaryKeys_of_adds {change : Ddl} (adds : change.Adds) : change.primaryKeys = [] := by
  cases change with
  | createIndex | createUniqueIndex | addForeignKey => rfl
  | _ => simp [Ddl.Adds, Ddl.indexName?, Ddl.keyName?] at adds

/-! ### The whole plan -/

theorem steps_newTable : (newTable t).steps =
    ⟨.createTable (definitions t) (keyList t), t.name, false⟩ ::
      ((indexes t {}).steps ++ (foreignKeys t {} []).steps) := by
  rw [newTable, steps_append, steps_append, createTable_eq, List.append_assoc]
  rfl

/-- Only the statement that creates the table makes a key. -/
theorem primaryKeys_newTable : (newTable t).steps.flatMap (·.change.primaryKeys) =
    (Ddl.createTable (definitions t) (keyList t)).primaryKeys := by
  have rest : ((indexes t {}).steps ++ (foreignKeys t {} []).steps).flatMap
      (·.change.primaryKeys) = [] := by
    refine List.flatMap_eq_nil_iff.mpr fun s hs => primaryKeys_of_adds ?_
    obtain hs | hs := List.mem_append.mp hs
    · exact .inl (indexName?_indexes hs)
    · exact adds_foreignKeys hs
  rw [steps_newTable, List.flatMap_cons, rest, List.append_nil]

/-- **Names of a new table.**  Let a declaration be one that can be used.  Indexes and foreign keys
of a new table are on columns that are created.  The plan as a whole names only such columns exactly
when no column of a key of several columns is left out, and foreign keys to the table itself refer
to columns that are created.  The declared key is made, and no other, exactly when it has several
columns, or its only column is created, and once. -/
theorem newTable_names_iff (t : TableDecl) {warnings : List Issue}
    (valid : t.validate = .ok warnings) :
    (∀ s ∈ (indexes t {}).steps, ∀ name ∈ s.change.names t.name, name ∈ created t) ∧
      (∀ k ∈ t.foreignKeys, k.column ∈ created t) ∧
      ((∀ s ∈ (newTable t).steps, ∀ name ∈ s.change.names t.name, name ∈ created t) ↔
        (1 < t.keyColumns.length → ∀ k ∈ t.keyColumns, ¬ t.LeavesOut k) ∧
          ∀ k ∈ t.foreignKeys, k.target.table = t.name → k.target.column ∈ created t) ∧
      (t.keyColumns ≠ [] →
        ((newTable t).steps.flatMap (·.change.primaryKeys) = [t.keyColumns] ↔
          ∀ k, t.keyColumns = [k] → (created t).count k = 1)) := by
  refine ⟨fun s hs name => created_of_mem_indexes hs, fun k declared =>
    mem_created_iff.mpr (active_of_mem_foreignKeys declared), ?_, fun some => ?_⟩
  · have key : (1 < t.keyColumns.length → ∀ k ∈ t.keyColumns, k ∈ created t) ↔
        (1 < t.keyColumns.length → ∀ k ∈ t.keyColumns, ¬ t.LeavesOut k) := by
      refine imp_congr_right fun _ => forall₂_congr fun k inKey => mem_created_iff_of_declared ?_
      exact TableDecl.hasColumn_iff.mp (TableDecl.hasColumn_of_validate valid inKey)
    rw [steps_newTable, List.forall_mem_cons, List.forall_mem_append, names_createTable_iff, key,
      names_foreignKeys_iff]
    refine and_congr_right fun _ => and_iff_right fun s hs name => created_of_mem_indexes hs
  · rw [primaryKeys_newTable]
    obtain none | ⟨k, single⟩ | several := keyColumns_cases t
    · exact absurd none some
    · have once : List.replicate ((created t).count k) [k] = [[k]] ↔ (created t).count k = 1 := by
        constructor
        · intro same
          simpa using congrArg List.length same
        · intro once
          rw [once]
          rfl
      rw [primaryKeys_of_single single, single, once]
      simp
    · refine iff_of_true (primaryKeys_of_several several) fun k single => ?_
      rw [single] at several
      exact absurd several (Nat.lt_irrefl 1)

end New

/-! ### Members -/

/-- A table of the members of groups.  The second column of the key is ignored. -/
def members : TableDecl :=
  { name := "members"
    columns := [("org", { type := "int" }), ("person", { type := "int", ignore := true })]
    primaryKey := some (.columns ["org", "person"])
    indexes := ["org"] }

/-- Members can be used as they are declared.  The new table has the declared key, which is of a
column that it does not have. -/
theorem newTable_names_members : members.validate = .ok [] ∧ members.LeavesOut "person" ∧
    (newTable members).steps.flatMap (·.change.primaryKeys) = [["org", "person"]] ∧
    ¬ ∀ s ∈ (newTable members).steps, ∀ name ∈ s.change.names members.name,
      name ∈ created members := by
  have valid : members.validate = .ok [] := by rfl
  have key : members.keyColumns = ["org", "person"] := by rfl
  have out : members.LeavesOut "person" := by
    refine ⟨by decide, fun c declared => .inr ?_⟩
    simp only [members, List.mem_cons, Prod.mk.injEq, List.not_mem_nil, or_false] at declared
    obtain ⟨other, -⟩ | ⟨-, rfl⟩ := declared
    · exact absurd other (by decide)
    · rfl
  obtain ⟨-, -, named, made⟩ := newTable_names_iff members valid
  rw [key] at named made
  refine ⟨valid, out, (made (by decide)).mpr fun k single => ?_, fun all => ?_⟩
  · exact absurd (List.cons.inj single).2 (List.cons_ne_nil _ _)
  · exact (named.mp all).1 (by decide) "person" (by decide) out

end Plan

end TableMapper
