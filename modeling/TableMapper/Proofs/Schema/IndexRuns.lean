import TableMapper.Proofs.Schema.IndexLoss

/-!
# Indexes, run after run

Indexes are created by their columns and removed by their names.  An entry for an index to remove
means the index of its columns or, when that is not live, the index that it names itself, and so it
can mean an index that is wanted by another entry.

* `Plan.reindexed` is the catalog after the steps for indexes, and `Plan.hasIndex_reindexed_iff`
  says which indexes it has.
* `Plan.Contested` holds of a declaration that wants an index which it wants removed as well,
  `Plan.Shadowed` of an entry that means two live indexes, of which only one is removed.
* `Plan.indexes_settle_iff` says when the plans of later runs have no step.
-/

namespace TableMapper

/-- Steps that remove indexes leave those that none of them removes. -/
theorem Server.hasIndex_run_of_drops {sv : Server} {live : Catalog} {steps : List Step} {i : String}
    (drops : ∀ s ∈ steps, ∃ name, s.change = .dropIndex name) :
    (sv.run live steps).hasIndex i = true ↔
      live.hasIndex i = true ∧ ∀ s ∈ steps, s.change ≠ .dropIndex i := by
  induction steps generalizing live with
  | nil => simp
  | cons s steps ih =>
    obtain ⟨name, drop⟩ := drops s List.mem_cons_self
    have first : (sv.apply live s.change).hasIndex i = true ↔
        live.hasIndex i = true ∧ s.change ≠ .dropIndex i := by
      rw [drop]
      simp [apply, Catalog.hasIndex, eq_comm (a := i)]
    rw [run_cons, ih fun u hu => drops u (List.mem_cons_of_mem s hu), first,
      List.forall_mem_cons, and_assoc]

namespace Plan

/-- The catalog after the steps for indexes. -/
def reindexed (sv : Server) (t : TableDecl) (live : Catalog) : Catalog :=
  sv.run live (indexes t live).steps

/-- The entry for an index to remove means the name: it is the name of its columns, or the entry
itself. -/
def Means (t : TableDecl) (entry name : String) : Prop :=
  name = Naming.indexName t.name (Naming.entryColumns entry) ∨ name = Text.trim entry

/-- An entry for an index to remove means the name of an index that is wanted. -/
def Contested (t : TableDecl) : Prop :=
  ∃ columns, Wanted t columns ∧
    ∃ entry ∈ t.removedIndexes, Means t entry (Naming.indexName t.name columns)

/-- The entry means two live indexes, and the one that it names itself is not removed: the other one
goes before it, and no other entry is for it. -/
structure Shadowed (t : TableDecl) (live : Catalog) (entry : String) : Prop where
  first : live.hasIndex (Naming.indexName t.name (Naming.entryColumns entry)) = true
  second : live.hasIndex (Text.trim entry) = true
  kept : ∀ other ∈ t.removedIndexes, namedIndex? t live other ≠ some (Text.trim entry)

section Runs

variable {sv : Server} {t : TableDecl} {live : Catalog} {entry i : String} {columns : List String}

/-! ### What an entry means -/

theorem namedIndex?_of_first
    (first : live.hasIndex (Naming.indexName t.name (Naming.entryColumns entry)) = true) :
    namedIndex? t live entry = some (Naming.indexName t.name (Naming.entryColumns entry)) := by
  simp only [namedIndex?, first, if_true]

theorem namedIndex?_of_second
    (first : live.hasIndex (Naming.indexName t.name (Naming.entryColumns entry)) = false)
    (second : live.hasIndex (Text.trim entry) = true) :
    namedIndex? t live entry = some (Text.trim entry) := by
  simp only [namedIndex?, first, second, Bool.false_eq_true, if_false, if_true]

theorem means_of_namedIndex? (named : namedIndex? t live entry = some i) : Means t entry i := by
  simp only [namedIndex?] at named
  split at named
  next => exact .inl (Option.some.inj named).symm
  next =>
    split at named
    next => exact .inr (Option.some.inj named).symm
    next => cases named

/-- Nothing is removed for an entry when none of the indexes that it means is live. -/
theorem namedIndex?_eq_none_iff :
    namedIndex? t live entry = none ↔ ∀ i, Means t entry i → live.hasIndex i = false := by
  constructor
  · intro none i means
    by_contra there
    rw [Bool.not_eq_false] at there
    cases first : live.hasIndex (Naming.indexName t.name (Naming.entryColumns entry)) with
    | true =>
      rw [namedIndex?_of_first first] at none
      cases none
    | false =>
      obtain rfl | rfl := means
      · rw [first] at there
        cases there
      · rw [namedIndex?_of_second first there] at none
        cases none
  · intro absent
    have first := absent _ (.inl rfl)
    have second := absent _ (.inr rfl)
    simp only [namedIndex?, first, second, Bool.false_eq_true, if_false]

/-! ### One plan -/

theorem mem_steps_removedIndex_iff {s : Step} : s ∈ (removedIndex t live entry).steps ↔
    ∃ name, namedIndex? t live entry = some name ∧
      s = { change := .dropIndex name, object := name, bestEffort := true } := by
  unfold removedIndex
  cases namedIndex? t live entry <;> simp [tryStep]

/-- There is no step when every wanted index is live, and no index that is to be removed. -/
theorem steps_indexes_eq_nil_iff : (indexes t live).steps = [] ↔
    (∀ columns, Wanted t columns → live.hasIndex (Naming.indexName t.name columns) = true) ∧
      ∀ entry ∈ t.removedIndexes, namedIndex? t live entry = none := by
  constructor
  · intro none
    refine ⟨fun columns wanted => ?_, fun entry listed => ?_⟩
    · by_contra absent
      have planned := mem_newIndexes_iff.mpr ⟨wanted, Bool.eq_false_iff.mpr absent, rfl⟩
      rw [newIndexes, none] at planned
      exact absurd planned List.not_mem_nil
    · refine Option.eq_none_iff_forall_ne_some.mpr fun name named => ?_
      have planned := mem_steps_indexes.mpr
        (.inr (.inr ⟨entry, listed, mem_steps_removedIndex_iff.mpr ⟨name, named, rfl⟩⟩))
      rw [none] at planned
      exact absurd planned List.not_mem_nil
  · rintro ⟨there, free⟩
    refine List.eq_nil_iff_forall_not_mem.mpr fun s hs => ?_
    obtain ⟨columns, listed, h⟩ | ⟨columns, listed, h⟩ | ⟨entry, listed, h⟩ :=
      mem_steps_indexes.mp hs
    · have absent := (mem_steps_createUnlessPresent (index_subset h)).1
      rw [there columns (wanted_of_mem_index listed h)] at absent
      cases absent
    · have absent := (mem_steps_createUnlessPresent (uniqueIndex_subset h)).1
      rw [there columns (wanted_of_mem_uniqueIndex listed h)] at absent
      cases absent
    · obtain ⟨name, named, -⟩ := mem_steps_removedIndex_iff.mp h
      rw [free entry listed] at named
      cases named

/-- The steps that create indexes. -/
def creations (t : TableDecl) (live : Catalog) : List Step :=
  (columnLists t.indexes).flatMap (fun columns => (index t live columns).steps) ++
    (columnLists t.uniques).flatMap fun columns => (uniqueIndex t live columns).steps

/-- The steps that remove indexes. -/
def removals (t : TableDecl) (live : Catalog) : List Step :=
  t.removedIndexes.flatMap fun entry => (removedIndex t live entry).steps

/-- Indexes are created first. -/
theorem steps_indexes : (indexes t live).steps = creations t live ++ removals t live := by
  simp only [indexes, creations, removals, steps_append, steps_concat, List.flatMap_map]

theorem mem_creations {s : Step} : s ∈ creations t live ↔
    (∃ columns ∈ columnLists t.indexes, s ∈ (index t live columns).steps) ∨
      ∃ columns ∈ columnLists t.uniques, s ∈ (uniqueIndex t live columns).steps := by
  simp only [creations, List.mem_append, List.mem_flatMap]

theorem adds_of_mem_creations {s : Step} (h : s ∈ creations t live) : s.change.Adds := by
  obtain ⟨columns, -, h⟩ | ⟨columns, -, h⟩ := mem_creations.mp h
  · rw [mem_steps_index h]
    exact .inl rfl
  · rw [mem_steps_uniqueIndex h]
    exact .inl rfl

theorem mem_removals {s : Step} : s ∈ removals t live ↔
    ∃ entry ∈ t.removedIndexes, ∃ name, namedIndex? t live entry = some name ∧
      s = { change := .dropIndex name, object := name, bestEffort := true } := by
  simp only [removals, List.mem_flatMap, mem_steps_removedIndex_iff]

/-- The names of the indexes that are created. -/
theorem exists_creation_iff : (∃ s ∈ creations t live, s.change.indexName? = some i) ↔
    ∃ columns, Wanted t columns ∧ Naming.indexName t.name columns = i ∧
      live.hasIndex i = false := by
  constructor
  · rintro ⟨s, hs, named⟩
    have planned : s ∈ (indexes t live).steps := by
      rw [steps_indexes]
      exact List.mem_append_left _ hs
    have absent := absent_of_created planned named
    obtain ⟨columns, listed, h⟩ | ⟨columns, listed, h⟩ := mem_creations.mp hs
    · rw [mem_steps_index h] at named
      exact ⟨columns, wanted_of_mem_index listed h, Option.some.inj named, absent⟩
    · rw [mem_steps_uniqueIndex h] at named
      exact ⟨columns, wanted_of_mem_uniqueIndex listed h, Option.some.inj named, absent⟩
  · rintro ⟨columns, wanted, rfl, absent⟩
    obtain ⟨s, hs, named⟩ := (exists_create_iff wanted).mpr absent
    rw [steps_indexes, List.mem_append] at hs
    refine ⟨s, hs.resolve_right fun removal => ?_, named⟩
    obtain ⟨entry, -, name, -, rfl⟩ := mem_removals.mp removal
    cases named

/-- After a run there are the indexes that were there or are wanted, but for those removed. -/
theorem hasIndex_reindexed_iff : (reindexed sv t live).hasIndex i = true ↔
    (live.hasIndex i = true ∨ ∃ columns, Wanted t columns ∧ Naming.indexName t.name columns = i) ∧
      ∀ entry ∈ t.removedIndexes, namedIndex? t live entry ≠ some i := by
  have created : (sv.run live (creations t live)).hasIndex i = true ↔
      live.hasIndex i = true ∨ ∃ s ∈ creations t live, s.change.indexName? = some i := by
    rw [Server.run_of_adds sv live fun s => adds_of_mem_creations]
    simp [Catalog.hasIndex]
  have kept : (∀ s ∈ removals t live, s.change ≠ .dropIndex i) ↔
      ∀ entry ∈ t.removedIndexes, namedIndex? t live entry ≠ some i := by
    simp only [mem_removals]
    constructor
    · intro spared entry listed named
      exact spared _ ⟨entry, listed, i, named, rfl⟩ rfl
    · rintro spared s ⟨entry, listed, name, named, rfl⟩ drop
      exact spared entry listed (Ddl.dropIndex.inj drop ▸ named)
  have drops : ∀ s ∈ removals t live, ∃ name, s.change = .dropIndex name := by
    intro s hs
    obtain ⟨entry, -, name, -, rfl⟩ := mem_removals.mp hs
    exact ⟨name, rfl⟩
  rw [reindexed, steps_indexes, Server.run_append, Server.hasIndex_run_of_drops drops, created,
    kept, exists_creation_iff]
  refine and_congr_left' ?_
  cases live.hasIndex i <;> simp

theorem hasIndex_of_wanted (wanted : Wanted t columns)
    (kept : ∀ entry ∈ t.removedIndexes,
      namedIndex? t live entry ≠ some (Naming.indexName t.name columns)) :
    (reindexed sv t live).hasIndex (Naming.indexName t.name columns) = true :=
  hasIndex_reindexed_iff.mpr ⟨.inr ⟨columns, wanted, rfl⟩, kept⟩

/-! ### The next plan -/

/-- Where an index is both wanted and to be removed, every plan has a step: the index is live, and
one of the two is removed, or it is not, and is created. -/
theorem steps_ne_nil_of_contested (contested : Contested t) (live : Catalog) :
    (indexes t live).steps ≠ [] := by
  intro none
  obtain ⟨columns, wanted, entry, listed, means⟩ := contested
  obtain ⟨there, free⟩ := steps_indexes_eq_nil_iff.mp none
  have absent := namedIndex?_eq_none_iff.mp (free entry listed) _ means
  rw [there columns wanted] at absent
  cases absent

/-- An index that was live, or is wanted, and is to be removed, is gone after a run, unless there is
a conflict or the entry for it is shadowed. -/
theorem not_hasIndex_of_means (free : ¬ Contested t) (listed : entry ∈ t.removedIndexes)
    (unshadowed : ¬ Shadowed t live entry) (means : Means t entry i) :
    (reindexed sv t live).hasIndex i = false := by
  by_contra there
  obtain ⟨here | ⟨columns, wanted, rfl⟩, kept⟩ :=
    hasIndex_reindexed_iff.mp ((Bool.not_eq_false _).mp there)
  · cases first : live.hasIndex (Naming.indexName t.name (Naming.entryColumns entry)) with
    | true =>
      have gone := namedIndex?_of_first first
      obtain rfl | rfl := means
      · exact kept entry listed gone
      · exact unshadowed ⟨first, here, kept⟩
    | false =>
      obtain rfl | rfl := means
      · rw [first] at here
        cases here
      · exact kept entry listed (namedIndex?_of_second first here)
  · exact free ⟨columns, wanted, entry, listed, means⟩

/-- The plan after a run has no step, unless there is a conflict or an entry is shadowed. -/
theorem steps_reindexed_eq_nil_iff : (indexes t (reindexed sv t live)).steps = [] ↔
    ¬ Contested t ∧ ∀ entry ∈ t.removedIndexes, ¬ Shadowed t live entry := by
  constructor
  · intro none
    refine ⟨fun contested => steps_ne_nil_of_contested contested _ none,
      fun entry listed shadowed => ?_⟩
    have there : (reindexed sv t live).hasIndex (Text.trim entry) = true :=
      hasIndex_reindexed_iff.mpr ⟨.inl shadowed.second, shadowed.kept⟩
    have absent := namedIndex?_eq_none_iff.mp ((steps_indexes_eq_nil_iff.mp none).2 entry listed) _
      (.inr rfl)
    rw [there] at absent
    cases absent
  · rintro ⟨free, unshadowed⟩
    refine steps_indexes_eq_nil_iff.mpr ⟨fun columns wanted => ?_, fun entry listed => ?_⟩
    · exact hasIndex_of_wanted wanted fun entry listed named =>
        free ⟨columns, wanted, entry, listed, means_of_namedIndex? named⟩
    · exact namedIndex?_eq_none_iff.mpr fun i means =>
        not_hasIndex_of_means free listed (unshadowed entry listed) means

/-- A run leaves no entry shadowed: the index of its columns is gone. -/
theorem not_shadowed_reindexed (free : ¬ Contested t) (listed : entry ∈ t.removedIndexes) :
    ¬ Shadowed t (reindexed sv t live) entry := by
  rintro ⟨first, -, -⟩
  obtain ⟨here | ⟨columns, wanted, named⟩, kept⟩ := hasIndex_reindexed_iff.mp first
  · exact kept entry listed (namedIndex?_of_first here)
  · exact free ⟨columns, wanted, entry, listed, .inl named⟩

/-- After two runs a plan has a step only if there is a conflict, however many runs follow. -/
theorem steps_iterate_eq_nil_iff (n : Nat) :
    (indexes t ((reindexed sv t)^[n + 2] live)).steps = [] ↔ ¬ Contested t := by
  refine ⟨fun none contested => steps_ne_nil_of_contested contested _ none, fun free => ?_⟩
  induction n with
  | zero =>
    exact steps_reindexed_eq_nil_iff.mpr ⟨free, fun _ listed => not_shadowed_reindexed free listed⟩
  | succ n ih =>
    -- a run of no steps leaves the catalog as it is
    rw [Function.iterate_succ_apply', reindexed, ih]
    exact ih

end Runs

/-- **Indexes settle.**  The plan for indexes after a run has no step exactly when no index is both
wanted and to be removed, and no entry for an index to remove means two live ones of which one is
left.  After a second run the former alone matters, and if an index is both wanted and to be
removed, the plan has a step whatever the catalog is. -/
theorem indexes_settle_iff (sv : Server) (t : TableDecl) (live : Catalog) :
    ((indexes t (reindexed sv t live)).steps = [] ↔
        ¬ Contested t ∧ ∀ entry ∈ t.removedIndexes, ¬ Shadowed t live entry) ∧
      (∀ n, (indexes t ((reindexed sv t)^[n + 2] live)).steps = [] ↔ ¬ Contested t) ∧
      (Contested t ↔ ∀ other, (indexes t other).steps ≠ []) := by
  refine ⟨steps_reindexed_eq_nil_iff, steps_iterate_eq_nil_iff, steps_ne_nil_of_contested,
    fun never => ?_⟩
  by_contra free
  have settled : (indexes t ((reindexed sv t)^[2] live)).steps = [] :=
    (steps_iterate_eq_nil_iff 0).mpr free
  exact never _ settled

/-! ### Guests -/

/-- A table of guests with an index on their ages, which is to be removed by its name. -/
def guests : TableDecl :=
  { name := "guests"
    columns := [("id", { type := "int" }), ("age", { type := "int" })]
    indexes := ["age"]
    removedIndexes := ["guests_age_idx"] }

theorem contested_guests : Contested guests := by
  refine ⟨["age"], ⟨?_, ?_, ?_, ?_⟩, "guests_age_idx", List.mem_singleton_self _, ?_⟩
  · decide +kernel
  · decide +kernel
  · decide +kernel
  · intro name listed
    obtain rfl := List.mem_singleton.mp listed
    exact ⟨{ type := "int" }, rfl, rfl⟩
  · unfold Means
    decide +kernel

/-- The index on the ages of guests is created and removed in turn for ever. -/
theorem indexes_settle_guests (n : Nat) :
    (indexes guests ((reindexed Server.literal guests)^[n + 2] {})).steps ≠ [] := by
  intro none
  exact ((indexes_settle_iff Server.literal guests {}).2.1 n).mp none contested_guests

end Plan

end TableMapper
