import TableMapper.Proofs.Schema.Plan

/-!
# Nothing is destroyed unasked

The plan for a live table loses data only where the declaration or the caller says so.

* `Plan.StandsFor` is the live column behind a declared one.
* `Plan.Asked` lists the reasons for which a plan may remove a column.
* `Plan.Careful` is what is promised of a plan: columns are removed only when that was asked for,
  types are changed only where text stays text, and a column that is refused is left alone.
* `Plan.careful_liveTable` is the promise kept.
-/

namespace TableMapper

namespace Plan

/-! ### Steps and what follows them -/

/-- Every step is in a relation with the list of those that follow it. -/
def EachStep (P : Step → List Step → Prop) (steps : List Step) : Prop :=
  ∀ before s after, steps = before ++ s :: after → P s after

section EachStep

variable {P : Step → List Step → Prop} {l m : List Step}

theorem eachStep_of_forall (h : ∀ s ∈ l, ∀ after, P s after) : EachStep P l :=
  fun _ s after eq => h s (eq ▸ List.mem_append_cons_self) after

theorem EachStep.cons {s : Step} (head : P s l) (rest : EachStep P l) : EachStep P (s :: l) := by
  intro before u after eq
  cases before with
  | nil =>
    obtain ⟨rfl, rfl⟩ : s = u ∧ l = after := by simpa using eq
    exact head
  | cons first before => exact rest before u after (List.cons.inj eq).2

theorem EachStep.append (grow : ∀ s after more, P s after → P s (after ++ more))
    (hl : EachStep P l) (hm : EachStep P m) : EachStep P (l ++ m) := by
  intro before s after eq
  obtain ⟨extra, -, right⟩ | ⟨inner, left, right⟩ := List.append_eq_append_iff.mp eq
  · exact hm extra s after right
  · cases inner with
    | nil => exact hm [] s after right.symm
    | cons head rest =>
      obtain ⟨rfl, rfl⟩ : s = head ∧ after = rest ++ m := by simpa using right
      exact grow s rest m (hl before s rest left)

theorem EachStep.flatMap {α : Type} {items : List α} {f : α → List Step}
    (grow : ∀ s after more, P s after → P s (after ++ more))
    (h : ∀ a ∈ items, EachStep P (f a)) : EachStep P (items.flatMap f) := by
  induction items with
  | nil => exact eachStep_of_forall fun s hs => absurd hs List.not_mem_nil
  | cons a items ih =>
    rw [List.flatMap_cons]
    exact (h a List.mem_cons_self).append grow
      (ih fun b hb => h b (List.mem_cons_of_mem a hb))

end EachStep

/-! ### The promise -/

section Promise

variable (t : TableDecl) (live : Catalog) (o : SyncOptions) (p : Plan)

/-- The live column behind a declared one: the column of its name, or else the column of its old
name, which the plan renames. -/
def StandsFor (name : String) (c : ColumnDecl) (found : CatalogColumn) : Prop :=
  live.column? name = some found ∨
    live.column? name = none ∧ c.oldName.bind live.column? = some found ∧
      ∃ s ∈ p.steps, s.change = .renameColumn found.name name

/-- The reasons for which a step, before others, may remove a column. -/
inductive Asked (name : String) (s : Step) (after : List Step) : Prop
  /-- The declaration says that the column goes.  It may be gone already. -/
  | dropped (c : ColumnDecl) (declared : (name, c) ∈ t.columns) (skip : c.ignore = false)
      (drop : c.drop = true) (tolerant : s.bestEffort = true)
  /-- The live column holds text that the declared type does not take, force is given, and the
  column is added anew at once. -/
  | forced (c : ColumnDecl) (found : CatalogColumn) (declared : (name, c) ∈ t.columns)
      (active : c.isActive = true) (stands : StandsFor live p name c found)
      (managed : isManaged c = true) (needs : NeedsForce found c)
      (forced : c.force = true ∨ o.force = true)
      (readded : ∃ again, after.head? = some again ∧
        again.change = .addColumn (ColumnDef.ofDecl name c (t.keyColumns.contains name)))
  /-- The column is live, the declaration does not know it and renames nothing from it, and columns
  of that kind are to go. -/
  | undeclared (allowed : o.dropUndeclared = true) (present : (live.column? name).isSome = true)
      (unknown : t.hasColumn name = false)
      (kept : ∀ r ∈ p.steps, ∀ new, r.change ≠ .renameColumn name new)

/-- The plan destroys nothing that it was not asked to destroy. -/
structure Careful : Prop where
  /-- Columns are removed for one of the reasons listed. -/
  drops : ∀ before s after, p.steps = before ++ s :: after →
    ∀ name ifExists, s.change = .dropColumn name ifExists → Asked t live o p name s after
  /-- A type is changed only where there is no text, or where text stays text. -/
  retypes : ∀ s ∈ p.steps, ∀ name type, s.change = .alterType name type →
    ∃ c found, (name, c) ∈ t.columns ∧ c.type = type ∧ StandsFor live p name c found ∧
      (found.isTextual = false ∨ TypeName.isString (TypeName.base type) = true)
  /-- A column that lacks force is remarked on, and not touched but for its rename. -/
  refusals : ∀ name c found, (name, c) ∈ t.columns → (∀ d, (name, d) ∈ t.columns → d = c) →
    c.isActive = true → liveColumn? live name c = some found → isManaged c = true →
    NeedsForce found c → c.force = false → o.force = false →
    refusal t name c found ∈ p.issues ∧
      ∀ s ∈ p.steps, s.change.column? = some name →
        live.column? name = none ∧ s.change = .renameColumn found.name name

end Promise

/-! ### Keeping it -/

section Kept

variable {t : TableDecl} {live : Catalog} {o : SyncOptions} {p : Plan} {force : Bool}
  {name : String} {c : ColumnDecl} {found : CatalogColumn}

/-- A declared column stands for the live one that the planner finds. -/
theorem standsFor_liveTable (declared : (name, c) ∈ t.columns) (active : c.isActive = true)
    (stands : liveColumn? live name c = some found) :
    StandsFor live (liveTable t live o) name c found := by
  unfold liveColumn? at stands
  cases own : live.column? name with
  | some d => exact .inl (own.trans (by simpa [own] using stands))
  | none =>
    rw [own, Option.none_or] at stands
    obtain ⟨s, hs, renamed⟩ := exists_rename_of_source (t := t) active stands
    exact .inr ⟨own, (renameSource?_eq_some_iff.mp stands).2, s,
      column_subset_liveTable declared hs, renamed⟩

theorem Asked.grow {s : Step} {after more : List Step} (h : Asked t live o p name s after) :
    Asked t live o p name s (after ++ more) := by
  obtain ⟨c, declared, skip, drop, tolerant⟩ |
    ⟨c, found, declared, active, stands, managed, needs, forced, again, next, readded⟩ |
    ⟨allowed, present, unknown, kept⟩ := h
  · exact .dropped c declared skip drop tolerant
  · refine .forced c found declared active stands managed needs forced ⟨again, ?_, readded⟩
    rw [List.head?_append, next, Option.some_or]
  · exact .undeclared allowed present unknown kept

/-- A removal has been asked for. -/
private def Excused (t : TableDecl) (live : Catalog) (o : SyncOptions) (p : Plan) (s : Step)
    (after : List Step) : Prop :=
  ∀ name ifExists, s.change = .dropColumn name ifExists → Asked t live o p name s after

private theorem Excused.grow (s : Step) (after more : List Step)
    (h : Excused t live o p s after) : Excused t live o p s (after ++ more) :=
  fun name ifExists drop => (h name ifExists drop).grow

private theorem excused_of_ne {steps : List Step}
    (h : ∀ s ∈ steps, ∀ name ifExists, s.change ≠ .dropColumn name ifExists) :
    EachStep (Excused t live o p) steps :=
  eachStep_of_forall fun s hs _ name ifExists drop => absurd drop (h s hs name ifExists)

private theorem excused_rename : EachStep (Excused t live o p) (rename t live name c).steps :=
  excused_of_ne fun s hs _ _ drop => by
    obtain ⟨old, -, change⟩ := mem_steps_rename hs
    simp [change] at drop

private theorem excused_constraints {object : String} {inKey : Bool} :
    EachStep (Excused t live o p) (columnConstraints object name c found inKey).steps :=
  excused_of_ne fun s hs _ _ drop => by
    have adjusts := mem_steps_columnConstraints hs
    rw [drop] at adjusts
    exact adjusts

/-- The steps of one column remove it only for a reason. -/
private theorem excused_column (declared : (name, c) ∈ t.columns) :
    EachStep (Excused t live o (liveTable t live o)) (column t live o.force name c).steps := by
  have treated := treatment_column t live o.force name c
  generalize column t live o.force name c = q at treated
  cases treated with
  | ignored => exact eachStep_of_forall fun s hs => absurd hs List.not_mem_nil
  | dropped skip drop =>
    refine eachStep_of_forall fun s hs after n ifExists change => ?_
    obtain rfl := List.mem_singleton.mp hs
    obtain ⟨rfl, -⟩ : name = n ∧ true = ifExists := by simpa using change
    exact .dropped c declared skip drop rfl
  | missing =>
    refine excused_of_ne fun s hs n ifExists change => ?_
    rw [List.mem_singleton.mp hs] at change
    exact Ddl.noConfusion change
  | unmanaged => exact excused_rename
  | typed => exact excused_rename.append Excused.grow excused_constraints
  | refused => exact excused_rename.append Excused.grow (excused_of_ne fun s hs => by simp at hs)
  | forced active found stands managed needs forced =>
    have standing := standsFor_liveTable (o := o) declared active stands
    refine excused_rename.append Excused.grow (.cons ?_ (excused_of_ne ?_))
    · intro n ifExists change
      obtain ⟨rfl, -⟩ : name = n ∧ false = ifExists := by simpa using change
      exact .forced c found declared active standing managed needs (by simpa using forced)
        ⟨_, rfl, rfl⟩
    · intro s hs n ifExists change
      rw [List.mem_singleton.mp hs] at change
      exact Ddl.noConfusion change
  | retyped =>
    refine excused_rename.append Excused.grow (EachStep.append Excused.grow ?_ excused_constraints)
    refine excused_of_ne fun s hs n ifExists change => ?_
    rw [List.mem_singleton.mp hs] at change
    exact Ddl.noConfusion change

/-- What a plan renames a column from is listed among the sources of renames. -/
theorem mem_renamedFrom {s : Step} {old new : String} (h : s ∈ (liveTable t live o).steps)
    (change : s.change = .renameColumn old new) : old ∈ renamedFrom t live := by
  have within := mem_columns_of_column? h (by rw [change]; rfl)
  obtain ⟨name, c, declared, step⟩ | ⟨name, -, drop⟩ := columnStep_of_mem_columns within
  · rw [change] at step
    cases step with
    | rename active d source =>
      exact mem_renamedFrom_iff.mpr ⟨new, c, d, declared, active, source, rfl⟩
    | adjust _ adjusts => exact adjusts.elim
  · exact Ddl.noConfusion (change.symm.trans drop)

/-- A live column that is removed as undeclared is not declared and has not been renamed. -/
private theorem excused_undeclared (allowed : o.dropUndeclared = true) :
    EachStep (Excused t live o (liveTable t live o)) ((undeclared t live).map (removal t)) := by
  refine eachStep_of_forall fun s hs after n ifExists change => ?_
  obtain ⟨name, listed, rfl⟩ := List.mem_map.mp hs
  obtain ⟨rfl, -⟩ : name = n ∧ false = ifExists := by simpa [removal] using change
  obtain ⟨present, unknown, unrenamed⟩ := mem_undeclared_iff.mp listed
  exact .undeclared allowed present unknown fun r hr new change =>
    unrenamed (mem_renamedFrom hr change)

private theorem excused_liveTable :
    EachStep (Excused t live o (liveTable t live o)) (liveTable t live o).steps := by
  have whole : EachStep (Excused t live o (liveTable t live o))
      (t.columns.flatMap (fun entry => (column t live o.force entry.1 entry.2).steps) ++
        (if o.dropUndeclared then undeclared t live else []).map (removal t) ++
        tail t live (columns t live o.force o.dropUndeclared).changed) := by
    refine .append Excused.grow (.append Excused.grow ?_ ?_) ?_
    · exact .flatMap Excused.grow fun _ declared => excused_column declared
    · cases allowed : o.dropUndeclared with
      | true => exact excused_undeclared allowed
      | false => exact excused_of_ne fun s hs => absurd hs List.not_mem_nil
    · refine excused_of_ne fun s hs n ifExists change => ?_
      have other := (beside_tail hs).column?
      rw [change] at other
      exact nomatch other
  rwa [← steps_columns, ← steps_liveTable] at whole

/-- The plan for a live table is careful. -/
theorem careful_liveTable (t : TableDecl) (live : Catalog) (o : SyncOptions) :
    Careful t live o (liveTable t live o) where
  drops before s after split := excused_liveTable before s after split
  retypes s hs name type change := by
    have within := mem_columns_of_column? hs (by rw [change]; rfl)
    obtain ⟨n, c, declared, step⟩ | ⟨n, -, drop⟩ := columnStep_of_mem_columns within
    · rw [change] at step
      cases step with
      | retype active found stands convertible =>
        exact ⟨c, found, declared, rfl, standsFor_liveTable declared active stands, convertible⟩
      | adjust _ adjusts => exact adjusts.elim
    · exact Ddl.noConfusion (change.symm.trans drop)
  refusals name c found declared sole active stands managed needs unforced careful := by
    have unforced : (c.force || o.force) = false := by rw [unforced, careful]; rfl
    have plan := column_refused (t := t) active stands managed needs unforced
    constructor
    · have remarked : refusal t name c found ∈ (column t live o.force name c).issues := by
        rw [plan, issues_append]
        exact List.mem_append_right _ (List.mem_singleton_self _)
      exact column_issues_subset_liveTable declared remarked
    · intro s hs about
      obtain ⟨n, d, listed, step⟩ | ⟨-, n, listed, rfl⟩ :=
        mem_steps_columns.mp (mem_columns_of_column? hs about)
      · obtain rfl : n = name := by
          simpa using (columnStep_of_mem step).column?.symm.trans about
        obtain rfl := sole d listed
        rw [plan, steps_append, List.append_nil] at step
        obtain ⟨old, source, change⟩ := mem_steps_rename step
        obtain rfl : found = old := by
          simpa [liveColumn?, (renameSource?_eq_some_iff.mp source).1, source] using stands.symm
        exact ⟨(renameSource?_eq_some_iff.mp source).1, change⟩
      · obtain rfl : n = name := by simpa [removal, Ddl.column?] using about
        have known : t.hasColumn n = true :=
          TableDecl.hasColumn_iff.mpr (List.mem_map.mpr ⟨_, declared, rfl⟩)
        rw [(mem_undeclared_iff.mp listed).2.1] at known
        cases known

end Kept

end Plan

end TableMapper
