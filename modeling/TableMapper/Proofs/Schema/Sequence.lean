import TableMapper.Proofs.Schema.Converge

/-!
# Steps one after the other

The steps for the columns of a table are all planned against one catalog, but each of them meets the
catalog that those before it leave.

* `Ddl.needs?` is the column that a change has to find.
* `Server.Along` holds of steps each of which is in a relation with the catalog that it meets;
  `Server.Finds` is the relation in which a step finds the column that it needs, and `Server.Makes`
  the one in which the column that it makes is new.
* `Plan.Takes` holds of a declared column that removes or renames a live one, `Plan.Disturbs` of two
  declared columns of which the first takes what the second starts from.
* `Plan.columns_in_order` says that every column that is made is new, and that every column that is
  needed is found exactly when no declared column disturbs a later one.
-/

namespace TableMapper

/-! ### What a change needs -/

/-- There is a column of a name. -/
def Catalog.Has (live : Catalog) (name : String) : Prop := ∃ d ∈ live.columns, d.name = name

instance (live : Catalog) (name : String) : Decidable (live.Has name) :=
  inferInstanceAs (Decidable (∃ d ∈ live.columns, d.name = name))

/-- The column that is changed, removed or renamed, under the name that it has before. -/
def Ddl.needs? : Ddl → Option String
  | .dropColumn name _ | .renameColumn name _ | .alterType name _ | .setDefault name _
  | .dropDefault name | .setNotNull name | .dropNotNull name => some name
  | _ => none

/-- The change alters a column in place. -/
def Ddl.Alters (column : String) (change : Ddl) : Prop :=
  change.Adjusts column ∨ ∃ type, change = .alterType column type

section Has

variable {live : Catalog} {name other : String} {d : CatalogColumn}

theorem Catalog.column?_eq_none_iff : live.column? name = none ↔ ¬ live.Has name := by
  rw [← Option.not_isSome_iff_eq_none, isSome_column?_iff]
  rfl

theorem Catalog.has_of_column? (h : live.column? name = some d) : live.Has name :=
  isSome_column?_iff.mp (by rw [h]; rfl)

theorem Catalog.has_update {f : CatalogColumn → CatalogColumn}
    (keeps : ∀ d : CatalogColumn, d.name = name → (f d).name = name) :
    (live.update name f).Has other ↔ live.Has other := by
  have same (d : CatalogColumn) : (if d.name = name then f d else d).name = d.name := by
    split
    next own => rw [keeps d own, own]
    next => rfl
  simp only [Has, update, List.mem_map, exists_exists_and_eq_and, same]

theorem Ddl.Alters.needs? {change : Ddl} (h : change.Alters name) : change.needs? = some name := by
  obtain adjusts | ⟨type, rfl⟩ := h
  · cases change <;> first | exact congrArg some adjusts | exact adjusts.elim
  · rfl

end Has

namespace Server

variable {sv : Server} {live : Catalog} {name other : String}

/-! ### The names of columns after a change -/

theorem has_apply_add {d : ColumnDef} :
    (sv.apply live (.addColumn d)).Has other ↔ live.Has other ∨ d.name = other := by
  simp only [apply, Catalog.Has, List.mem_append, List.mem_singleton, or_and_right, exists_or,
    exists_eq_left, name_newColumn]

theorem has_apply_drop {ifExists : Bool} :
    (sv.apply live (.dropColumn name ifExists)).Has other ↔ live.Has other ∧ other ≠ name := by
  simp only [apply, Catalog.Has, List.mem_filter, decide_eq_true_eq]
  constructor
  · rintro ⟨d, ⟨there, ne⟩, rfl⟩
    exact ⟨⟨d, there, rfl⟩, ne⟩
  · rintro ⟨⟨d, there, rfl⟩, ne⟩
    exact ⟨d, ⟨there, ne⟩, rfl⟩

theorem has_apply_rename {old new : String} :
    (sv.apply live (.renameColumn old new)).Has other ↔
      (live.Has other ∧ other ≠ old) ∨ (live.Has old ∧ other = new) := by
  simp only [apply, Catalog.Has, Catalog.update, List.mem_map]
  constructor
  · rintro ⟨_, ⟨d, there, rfl⟩, rfl⟩
    split
    next own => exact .inr ⟨⟨d, there, own⟩, rfl⟩
    next foreign => exact .inl ⟨⟨d, there, rfl⟩, foreign⟩
  · rintro (⟨⟨d, there, rfl⟩, ne⟩ | ⟨⟨d, there, rfl⟩, rfl⟩)
    · exact ⟨d, ⟨d, there, if_neg ne⟩, rfl⟩
    · exact ⟨_, ⟨d, there, if_pos rfl⟩, rfl⟩

theorem has_apply_of_alters {change : Ddl} (h : change.Alters name) :
    (sv.apply live change).Has other ↔ live.Has other := by
  obtain adjusts | ⟨type, rfl⟩ := h
  · cases change <;> first
      | exact adjusts.elim
      | exact Catalog.has_update fun d own => own
  · exact Catalog.has_update fun d own => own

/-! ### Along a run -/

/-- Every step is in a relation with the catalog that it meets. -/
def Along (sv : Server) (P : Catalog → Step → Prop) : Catalog → List Step → Prop
  | _, [] => True
  | live, s :: steps => P live s ∧ sv.Along P (sv.apply live s.change) steps

/-- The step finds the column that it needs, or its failure does not matter. -/
def Finds (live : Catalog) (s : Step) : Prop :=
  s.bestEffort = false → ∀ name, s.change.needs? = some name → live.Has name

/-- The column that the step makes is not there yet. -/
def Makes (live : Catalog) (s : Step) : Prop :=
  ∀ name, s.change.Brings name → ¬ live.Has name

variable {P : Catalog → Step → Prop}

@[simp] theorem along_nil : sv.Along P live [] ↔ True := .rfl

@[simp] theorem along_cons {s : Step} {steps : List Step} :
    sv.Along P live (s :: steps) ↔ P live s ∧ sv.Along P (sv.apply live s.change) steps := .rfl

@[simp] theorem along_append {steps more : List Step} :
    sv.Along P live (steps ++ more) ↔
      sv.Along P live steps ∧ sv.Along P (sv.run live steps) more := by
  induction steps generalizing live with
  | nil => simp
  | cons s steps ih => simp only [List.cons_append, along_cons, ih, run_cons, and_assoc]

end Server

namespace Plan

/-! ### One column in place -/

/-- The steps leave a column in place: they alter it, or remove it and add it anew. -/
inductive InPlace (name : String) : List Step → Prop
  | alters (steps : List Step)
      (each : ∀ s ∈ steps, s.change.Alters name ∧ s.bestEffort = false) : InPlace name steps
  | recreates (object : String) (d : ColumnDef) (named : d.name = name) :
      InPlace name
        [{ change := .dropColumn name false, object }, { change := .addColumn d, object }]

section InPlace

variable {t : TableDecl} {live mid : Catalog} {force : Bool} {name other : String} {c : ColumnDecl}
  {found : CatalogColumn} {sv : Server} {steps : List Step}

theorem firm_columnConstraints {object : String} {inKey : Bool} {s : Step}
    (h : s ∈ (columnConstraints object name c found inKey).steps) : s.bestEffort = false := by
  unfold columnConstraints at h
  split at h
  next => exact absurd h List.not_mem_nil
  next =>
    rw [steps_append, List.mem_append] at h
    obtain h | h := h
    · unfold columnDefault at h
      split at h <;> split at h
      all_goals first | exact absurd h List.not_mem_nil | rw [List.mem_singleton.mp h]
    · unfold columnNullability at h
      split at h
      next => rw [List.mem_singleton.mp h]
      next => split at h <;> first | exact absurd h List.not_mem_nil | rw [List.mem_singleton.mp h]

theorem inPlace_columnConstraints {object : String} {inKey : Bool} :
    InPlace name (columnConstraints object name c found inKey).steps :=
  .alters _ fun _ hs => ⟨.inl (mem_steps_columnConstraints hs), firm_columnConstraints hs⟩

/-- A column that stands for a live one is renamed if need be, and is left in place then. -/
theorem inPlace_column (t : TableDecl) (force : Bool) (active : c.isActive = true)
    (stands : liveColumn? live name c = some found) :
    ∃ steps, (column t live force name c).steps = (rename t live name c).steps ++ steps ∧
      InPlace name steps := by
  have treated := treatment_column t live force name c
  generalize column t live force name c = q at treated
  cases treated with
  | ignored skip => simp [ColumnDecl.isActive, skip] at active
  | dropped skip drop => simp [ColumnDecl.isActive, drop] at active
  | missing _ absent => exact absurd (absent.symm.trans stands) (by simp)
  | unmanaged =>
    exact ⟨[], (List.append_nil _).symm, .alters [] fun s hs => absurd hs List.not_mem_nil⟩
  | typed => exact ⟨_, rfl, inPlace_columnConstraints⟩
  | refused => exact ⟨[], rfl, .alters [] fun s hs => absurd hs List.not_mem_nil⟩
  | forced => exact ⟨_, rfl, .recreates _ _ ColumnDef.name_ofDecl⟩
  | retyped =>
    refine ⟨_, rfl, .alters _ fun s hs => ?_⟩
    obtain h | h := List.mem_append.mp hs
    · rw [List.mem_singleton.mp h]
      exact ⟨.inr ⟨_, rfl⟩, rfl⟩
    · exact ⟨.inl (mem_steps_columnConstraints h), firm_columnConstraints h⟩

theorem InPlace.has_run (h : InPlace name steps) (here : mid.Has name) :
    (sv.run mid steps).Has other ↔ mid.Has other := by
  cases h with
  | alters _ each =>
    induction steps generalizing mid with
    | nil => rfl
    | cons s steps ih =>
      have alters := (each s List.mem_cons_self).1
      rw [Server.run_cons, ih (Server.has_apply_of_alters alters |>.mpr here) fun u hu =>
        each u (List.mem_cons_of_mem s hu), Server.has_apply_of_alters alters]
  | recreates object d named =>
    subst named
    simp only [Server.run_cons, Server.run_nil, Server.has_apply_add, Server.has_apply_drop]
    constructor
    · rintro (⟨there, -⟩ | rfl)
      · exact there
      · exact here
    · intro there
      by_cases own : other = d.name
      · exact .inr own.symm
      · exact .inl ⟨there, own⟩

theorem InPlace.finds_iff (h : InPlace name steps) :
    sv.Along Server.Finds mid steps ↔ (steps ≠ [] → mid.Has name) := by
  constructor
  · intro along some
    cases h with
    | alters _ each =>
      obtain ⟨s, rest, rfl⟩ := List.exists_cons_of_ne_nil some
      obtain ⟨alters, firm⟩ := each s List.mem_cons_self
      exact along.1 firm name alters.needs?
    | recreates => exact along.1 rfl name rfl
  · intro here
    cases h with
    | alters _ each =>
      induction steps generalizing mid with
      | nil => trivial
      | cons s steps ih =>
        obtain ⟨alters, firm⟩ := each s List.mem_cons_self
        have there := here (List.cons_ne_nil s steps)
        refine ⟨fun _ n needs => ?_, ih (fun _ => ?_) fun u hu =>
          each u (List.mem_cons_of_mem s hu)⟩
        · obtain rfl : name = n := Option.some.inj (alters.needs?.symm.trans needs)
          exact there
        · exact (Server.has_apply_of_alters alters).mpr there
    | recreates object d named =>
      refine ⟨fun _ n needs => ?_, ⟨fun _ _ => nofun, trivial⟩⟩
      obtain rfl : name = n := Option.some.inj needs
      exact here (List.cons_ne_nil _ _)

theorem InPlace.makes (h : InPlace name steps) : sv.Along Server.Makes mid steps := by
  cases h with
  | alters _ each =>
    induction steps generalizing mid with
    | nil => trivial
    | cons s steps ih =>
      refine ⟨fun n brings => ?_, ih fun u hu => each u (List.mem_cons_of_mem s hu)⟩
      obtain adjusts | ⟨type, eq⟩ := (each s List.mem_cons_self).1
      · generalize s.change = change at adjusts brings
        cases change <;> first | exact adjusts.elim | exact brings.elim
      · rw [eq] at brings
        exact brings.elim
  | recreates object d named =>
    refine ⟨fun n brings => brings.elim, fun n brings => ?_, trivial⟩
    obtain rfl : d.name = n := brings
    exact fun there => (Server.has_apply_drop.mp there).2 named

end InPlace

/-! ### One column after others -/

/-- A declared column is renamed from a live one. -/
def Renames (live : Catalog) (entry : String × ColumnDecl) (name : String) : Prop :=
  entry.2.isActive = true ∧ ∃ d, renameSource? live entry.1 entry.2 = some d ∧ d.name = name

/-- A declared column takes a live one away: it removes it, or it is renamed from it. -/
def Takes (live : Catalog) (entry : String × ColumnDecl) (name : String) : Prop :=
  entry.2.ignore = false ∧ entry.2.drop = true ∧ entry.1 = name ∨ Renames live entry name

/-- Something is planned for a declared column, and an earlier one takes the live column that this
one stands for. -/
def Disturbs (t : TableDecl) (live : Catalog) (force : Bool) (earlier later : String × ColumnDecl) :
    Prop :=
  later.2.isActive = true ∧ (column t live force later.1 later.2).steps ≠ [] ∧
    ∃ d, liveColumn? live later.1 later.2 = some d ∧ Takes live earlier d.name

section Column

variable {t : TableDecl} {live mid : Catalog} {force : Bool} {name other : String} {c : ColumnDecl}
  {found : CatalogColumn} {sv : Server}

/-- A column without a live one is added, and is otherwise not there. -/
theorem not_has_of_liveColumn?_eq_none (absent : liveColumn? live name c = none) :
    ¬ live.Has name :=
  Catalog.column?_eq_none_iff.mp (Option.or_eq_none_iff.mp absent).1

theorem not_has_of_renameSource? (source : renameSource? live name c = some found) :
    ¬ live.Has name :=
  Catalog.column?_eq_none_iff.mp (renameSource?_eq_some_iff.mp source).1

/-- The live column that a declared one is renamed from. -/
theorem has_of_renameSource? (source : renameSource? live name c = some found) :
    live.Has found.name := by
  obtain ⟨old, -, there⟩ := Option.bind_eq_some_iff.mp (renameSource?_eq_some_iff.mp source).2
  exact Catalog.name_of_column? there ▸ Catalog.has_of_column? there

theorem liveColumn?_of_renameSource? (source : renameSource? live name c = some found) :
    liveColumn? live name c = some found := by
  rw [liveColumn?, (renameSource?_eq_some_iff.mp source).1, Option.none_or, source]

theorem Renames.has {entry : String × ColumnDecl} (h : Renames live entry name) :
    live.Has name := by
  obtain ⟨-, d, source, rfl⟩ := h
  exact has_of_renameSource? source

theorem Renames.not_has {entry : String × ColumnDecl} (h : Renames live entry name) :
    ¬ live.Has entry.1 := by
  obtain ⟨-, d, source, -⟩ := h
  exact not_has_of_renameSource? source

/-- A column is renamed from the live one of its old name, unless there is one of its own name. -/
theorem renames_iff : Renames live (name, c) other ↔
    c.isActive = true ∧ c.oldName = some other ∧ live.Has other ∧ ¬ live.Has name := by
  refine and_congr_right fun _ => ⟨?_, ?_⟩
  · rintro ⟨d, source, rfl⟩
    obtain ⟨old, known, there⟩ :=
      Option.bind_eq_some_iff.mp (renameSource?_eq_some_iff.mp source).2
    obtain rfl := Catalog.name_of_column? there
    exact ⟨known, has_of_renameSource? source, not_has_of_renameSource? source⟩
  · rintro ⟨known, here, absent⟩
    obtain ⟨d, there⟩ := Option.isSome_iff_exists.mp (Catalog.isSome_column?_iff.mpr here)
    refine ⟨d, renameSource?_eq_some_iff.mpr ⟨Catalog.column?_eq_none_iff.mpr absent, ?_⟩,
      Catalog.name_of_column? there⟩
    rw [known]
    exact there

/-- The rename among the steps for a declared column. -/
theorem exists_rename_column_iff {old new : String} :
    (∃ s ∈ (column t live force name c).steps, s.change = .renameColumn old new) ↔
      new = name ∧ Renames live (name, c) old := by
  constructor
  · rintro ⟨s, hs, change⟩
    have step := columnStep_of_mem hs
    rw [change] at step
    cases step with
    | rename active d source => exact ⟨rfl, active, d, source, rfl⟩
    | adjust _ adjusts => exact adjusts.elim
  · rintro ⟨rfl, active, d, source, rfl⟩
    exact exists_rename_of_source active source

theorem steps_rename_of_source (source : renameSource? live name c = some found) :
    (rename t live name c).steps =
      [{ change := .renameColumn found.name name, object := t.member name }] := by
  simp only [rename, source]
  rfl

/-- A column stands for the live one of its name, or is renamed from another. -/
theorem own_or_source (stands : liveColumn? live name c = some found) :
    (live.Has name ∧ found.name = name ∧ renameSource? live name c = none) ∨
      renameSource? live name c = some found := by
  unfold liveColumn? at stands
  cases own : live.column? name with
  | some d =>
    rw [own, Option.some_or] at stands
    obtain rfl := Option.some.inj stands
    exact .inl ⟨Catalog.has_of_column? own, Catalog.name_of_column? own, by rw [renameSource?, own]⟩
  | none =>
    rw [own, Option.none_or] at stands
    exact .inr stands

theorem has_of_liveColumn? (stands : liveColumn? live name c = some found) :
    live.Has found.name := by
  obtain ⟨here, named, -⟩ | source := own_or_source stands
  · exact named ▸ here
  · exact has_of_renameSource? source

theorem steps_rename_of_none (own : renameSource? live name c = none) :
    (rename t live name c).steps = [] := by rw [rename, own]

theorem not_isActive_of_drop (drop : c.drop = true) : ¬ c.isActive = true := by
  rw [ColumnDecl.isActive, drop]
  exact Bool.false_ne_true

/-- A column that is not active is left out, or tried to be removed. -/
theorem steps_column_of_inactive (t : TableDecl) (live : Catalog) (force : Bool) (name : String)
    (h : c.isActive = false) :
    c.ignore = true ∧ (column t live force name c).steps = [] ∨
      c.ignore = false ∧ c.drop = true ∧ (column t live force name c).steps =
        [{ change := .dropColumn name true, object := t.member name, bestEffort := true }] := by
  cases skip : c.ignore with
  | true => exact .inl ⟨rfl, by simp only [column, skip, if_true]⟩
  | false =>
    have drop : c.drop = true := by simpa [ColumnDecl.isActive, skip] using h
    refine .inr ⟨rfl, drop, ?_⟩
    simp only [column, skip, drop, Bool.false_eq_true, if_false, if_true]
    rfl

/-- A column without a live one is added. -/
theorem steps_column_of_missing (active : c.isActive = true)
    (absent : liveColumn? live name c = none) :
    (column t live force name c).steps =
      [{ change := .addColumn (ColumnDef.ofDecl name c false), object := t.member name }] := by
  obtain ⟨drop, skip⟩ : c.drop = false ∧ c.ignore = false := by
    simpa [ColumnDecl.isActive] using active
  simp only [column, skip, drop, absent, Bool.false_eq_true, if_false]
  rfl

/-- The steps of a declared column find what they need when the live column that it stands for is
still there. -/
theorem finds_column_iff : sv.Along Server.Finds mid (column t live force name c).steps ↔
    (c.isActive = true → (column t live force name c).steps ≠ [] →
      ∀ found, liveColumn? live name c = some found → mid.Has found.name) := by
  cases active : c.isActive with
  | false =>
    refine ⟨fun _ => nofun, fun _ => ?_⟩
    obtain ⟨-, eq⟩ | ⟨-, -, eq⟩ := steps_column_of_inactive t live force name active
    · rw [eq]; trivial
    · rw [eq]; exact ⟨nofun, trivial⟩
  | true =>
  cases stands : liveColumn? live name c with
  | none =>
    rw [steps_column_of_missing active stands]
    exact ⟨fun _ _ _ _ => nofun, fun _ => ⟨fun _ _ => nofun, trivial⟩⟩
  | some found =>
    obtain ⟨steps, eq, place⟩ := inPlace_column t force active stands
    rw [eq]
    obtain ⟨-, named, own⟩ | source := own_or_source stands
    · rw [steps_rename_of_none own, List.nil_append, place.finds_iff]
      simp [named]
    · rw [steps_rename_of_source source, List.singleton_append, Server.along_cons, place.finds_iff]
      constructor
      · rintro ⟨finds, -⟩ - - _ ⟨⟩
        exact finds rfl _ rfl
      · intro there
        have there := there rfl (List.cons_ne_nil _ _) found rfl
        exact ⟨fun _ n needs => Option.some.inj needs ▸ there,
          fun _ => Server.has_apply_rename.mpr (.inr ⟨there, rfl⟩)⟩

/-- The column that is made for a declared one is new. -/
theorem makes_column (new : ¬ live.Has name → ¬ mid.Has name) :
    sv.Along Server.Makes mid (column t live force name c).steps := by
  cases active : c.isActive with
  | false =>
    obtain ⟨-, eq⟩ | ⟨-, -, eq⟩ := steps_column_of_inactive t live force name active
    · rw [eq]; trivial
    · rw [eq]; exact ⟨fun _ => False.elim, trivial⟩
  | true =>
  cases stands : liveColumn? live name c with
  | none =>
    rw [steps_column_of_missing active stands]
    refine ⟨fun n brings => ?_, trivial⟩
    obtain rfl : name = n := ColumnDef.name_ofDecl.symm.trans brings
    exact new (not_has_of_liveColumn?_eq_none stands)
  | some found =>
    obtain ⟨steps, eq, place⟩ := inPlace_column t force active stands
    rw [eq]
    obtain ⟨-, -, own⟩ | source := own_or_source stands
    · rw [steps_rename_of_none own, List.nil_append]
      exact place.makes
    · rw [steps_rename_of_source source, List.singleton_append, Server.along_cons]
      refine ⟨fun n brings => ?_, place.makes⟩
      obtain rfl : name = n := brings
      exact new (not_has_of_renameSource? source)

/-- Of the live columns, the steps of a declared one take away those that it takes. -/
theorem has_run_column (finds : sv.Along Server.Finds mid (column t live force name c).steps)
    (here : live.Has other) : (sv.run mid (column t live force name c).steps).Has other ↔
      mid.Has other ∧ ¬ Takes live (name, c) other := by
  cases active : c.isActive with
  | false =>
    obtain ⟨skip, eq⟩ | ⟨skip, drop, eq⟩ := steps_column_of_inactive t live force name active
    · simp [eq, Takes, Renames, skip, active]
    · simp only [eq, Server.run_cons, Server.run_nil, Server.has_apply_drop, Takes, Renames, skip,
        drop, active, true_and, false_and, or_false, Bool.false_eq_true, ne_eq, eq_comm (a := name)]
  | true =>
  obtain ⟨drop, -⟩ : c.drop = false ∧ c.ignore = false := by
    simpa [ColumnDecl.isActive] using active
  cases stands : liveColumn? live name c with
  | none =>
    have apart : name ≠ other := by
      rintro rfl
      exact not_has_of_liveColumn?_eq_none stands here
    have unsourced : renameSource? live name c = none := (Option.or_eq_none_iff.mp stands).2
    rw [steps_column_of_missing active stands]
    simp [Server.has_apply_add, Takes, Renames, drop, unsourced, apart]
  | some found =>
    obtain ⟨steps, eq, place⟩ := inPlace_column t force active stands
    rw [eq] at finds ⊢
    obtain ⟨-, named, own⟩ | source := own_or_source stands
    · rw [steps_rename_of_none own, List.nil_append] at finds ⊢
      have keeps : (sv.run mid steps).Has other ↔ mid.Has other := by
        by_cases some : steps = []
        · rw [some, Server.run_nil]
        · exact place.has_run (place.finds_iff.mp finds some)
      simp [keeps, Takes, Renames, drop, own]
    · have apart : other ≠ name := by
        rintro rfl
        exact not_has_of_renameSource? source here
      rw [steps_rename_of_source source, List.singleton_append, Server.along_cons] at finds
      have there : mid.Has found.name := finds.1 rfl _ rfl
      rw [steps_rename_of_source source, List.singleton_append, Server.run_cons,
        place.has_run (Server.has_apply_rename.mpr (.inr ⟨there, rfl⟩)), Server.has_apply_rename]
      simp [Takes, Renames, drop, active, source, apart, eq_comm (a := found.name)]

end Column

/-! ### All columns -/

/-- The steps for some declared columns. -/
def columnSteps (t : TableDecl) (live : Catalog) (force : Bool)
    (entries : List (String × ColumnDecl)) : List Step :=
  entries.flatMap fun entry => (column t live force entry.1 entry.2).steps

section All

variable {t : TableDecl} {live : Catalog} {force dropUndeclared : Bool} {name : String}
  {c : ColumnDecl} {sv : Server} {entries : List (String × ColumnDecl)}
  {entry : String × ColumnDecl}

@[simp] theorem columnSteps_nil : columnSteps t live force [] = [] := rfl

theorem columnSteps_cons : columnSteps t live force (entry :: entries) =
    (column t live force entry.1 entry.2).steps ++ columnSteps t live force entries :=
  List.flatMap_cons

@[simp] theorem columnSteps_append {more : List (String × ColumnDecl)} :
    columnSteps t live force (entries ++ more) =
      columnSteps t live force entries ++ columnSteps t live force more :=
  List.flatMap_append

@[simp] theorem columnSteps_singleton :
    columnSteps t live force [entry] = (column t live force entry.1 entry.2).steps :=
  List.append_nil _

/-- A column that is not live comes from a declaration only. -/
theorem not_has_run_columnSteps (absent : ¬ live.Has name)
    (undeclared : name ∉ entries.map Prod.fst) :
    ¬ (sv.run live (columnSteps t live force entries)).Has name := by
  refine Catalog.column?_eq_none_iff.mp (Server.column?_run_eq_none (fun s hs => ?_)
    (.inl (Catalog.column?_eq_none_iff.mpr absent)))
  obtain ⟨entry, listed, hs⟩ := List.mem_flatMap.mp hs
  refine (columnStep_of_mem hs).brings ?_
  rintro rfl
  exact undeclared (List.mem_map_of_mem listed)

/-- What an entry makes is new after the entries before it. -/
theorem new_of_distinct (distinct : ((entries ++ [entry]).map Prod.fst).Nodup) :
    ¬ live.Has entry.1 → ¬ (sv.run live (columnSteps t live force entries)).Has entry.1 := by
  intro absent
  refine not_has_run_columnSteps absent ?_
  rw [List.map_append, List.map_singleton, List.nodup_append] at distinct
  exact fun listed => distinct.2.2 _ listed _ (List.mem_singleton_self _) rfl

theorem makes_columnSteps (distinct : (entries.map Prod.fst).Nodup) :
    sv.Along Server.Makes live (columnSteps t live force entries) := by
  induction entries using List.reverseRecOn with
  | nil => trivial
  | append_singleton entries entry ih =>
    have before : (entries.map Prod.fst).Nodup := by
      rw [List.map_append] at distinct
      exact distinct.of_append_left
    rw [columnSteps_append, columnSteps_singleton, Server.along_append]
    exact ⟨ih before, makes_column (new_of_distinct distinct)⟩

/-- Of the live columns those are left that no entry takes. -/
theorem has_run_columnSteps (finds : sv.Along Server.Finds live (columnSteps t live force entries))
    (here : live.Has name) : (sv.run live (columnSteps t live force entries)).Has name ↔
      ∀ entry ∈ entries, ¬ Takes live entry name := by
  -- the last entry meets the catalog that the others leave
  induction entries using List.reverseRecOn with
  | nil => simpa using here
  | append_singleton entries entry ih =>
    rw [columnSteps_append, columnSteps_singleton, Server.along_append] at finds
    rw [columnSteps_append, columnSteps_singleton, Server.run_append,
      has_run_column finds.2 here, ih finds.1]
    simp only [List.mem_append, List.mem_singleton, or_imp, forall_and, forall_eq]

/-- The steps for declared columns find what they need exactly when no entry disturbs a later
one. -/
theorem finds_columnSteps_iff :
    sv.Along Server.Finds live (columnSteps t live force entries) ↔
      entries.Pairwise fun earlier later => ¬ Disturbs t live force earlier later := by
  -- for the entries before the last, the hypothesis says what they find, and with
  -- `has_run_columnSteps` what they leave to the last
  induction entries using List.reverseRecOn with
  | nil => simp
  | append_singleton entries entry ih =>
    rw [columnSteps_append, columnSteps_singleton, Server.along_append, List.pairwise_append, ih]
    refine and_congr_right fun still => ?_
    have finds := ih.mpr still
    simp only [List.pairwise_singleton, List.mem_singleton, forall_eq, true_and]
    rw [finds_column_iff]
    constructor
    · intro there earlier listed ⟨active, planned, d, stands, takes⟩
      have here := has_of_liveColumn? stands
      exact (has_run_columnSteps finds here).mp (there active planned d stands) earlier listed takes
    · intro undisturbed active planned d stands
      have here := has_of_liveColumn? stands
      exact (has_run_columnSteps finds here).mpr fun earlier listed takes =>
        undisturbed earlier listed ⟨active, planned, d, stands, takes⟩

/-! ### Columns that are not declared -/

theorem mem_renamedFrom_iff_renames :
    name ∈ renamedFrom t live ↔ ∃ entry ∈ t.columns, Renames live entry name := by
  rw [mem_renamedFrom_iff]
  constructor
  · rintro ⟨n, c, d, declared, renames⟩
    exact ⟨(n, c), declared, renames.1, d, renames.2⟩
  · rintro ⟨entry, declared, active, d, source⟩
    exact ⟨entry.1, entry.2, d, declared, active, source⟩

theorem not_declared_of_mem_undeclared (listed : name ∈ undeclared t live) :
    name ∉ t.columnNames := by
  intro known
  rw [← TableDecl.hasColumn_iff, (mem_undeclared_iff.mp listed).2.1] at known
  exact Bool.false_ne_true known

theorem not_takes_of_mem_undeclared (listed : name ∈ undeclared t live)
    (declared : entry ∈ t.columns) : ¬ Takes live entry name := by
  rintro (⟨-, -, rfl⟩ | renames)
  · exact not_declared_of_mem_undeclared listed (List.mem_map_of_mem declared)
  · exact (mem_undeclared_iff.mp listed).2.2
      (mem_renamedFrom_iff_renames.mpr ⟨entry, declared, renames⟩)

theorem finds_removals {names : List String} (distinct : names.Nodup) {mid : Catalog}
    (here : ∀ name ∈ names, mid.Has name) :
    sv.Along Server.Finds mid (names.map (removal t)) := by
  induction names generalizing mid with
  | nil => trivial
  | cons name names ih =>
    obtain ⟨once, distinct⟩ := List.nodup_cons.mp distinct
    rw [List.map_cons, Server.along_cons]
    refine ⟨fun _ n needs => ?_, ih distinct fun n listed => ?_⟩
    · exact Option.some.inj needs ▸ here name List.mem_cons_self
    · refine Server.has_apply_drop.mpr ⟨here n (List.mem_cons_of_mem name listed), ?_⟩
      rintro rfl
      exact once listed

theorem makes_removals {names : List String} {mid : Catalog} :
    sv.Along Server.Makes mid (names.map (removal t)) := by
  induction names generalizing mid with
  | nil => trivial
  | cons name names ih => exact ⟨fun _ => False.elim, ih⟩

theorem nodup_undeclared (once : (live.columns.map (·.name)).Nodup) :
    (undeclared t live).Nodup := by
  rw [undeclared, (List.mergeSort_perm _ _).nodup_iff]
  exact once.filter _

theorem steps_columns_eq : (columns t live force dropUndeclared).steps =
    columnSteps t live force t.columns ++
      (if dropUndeclared then undeclared t live else []).map (removal t) :=
  steps_columns

/-- The renames of a plan. -/
theorem exists_rename_iff {old new : String} :
    (∃ s ∈ (columns t live force dropUndeclared).steps, s.change = .renameColumn old new) ↔
      ∃ c, (new, c) ∈ t.columns ∧ Renames live (new, c) old := by
  constructor
  · rintro ⟨s, hs, change⟩
    obtain ⟨name, c, declared, hs⟩ | ⟨-, name, -, rfl⟩ := mem_steps_columns.mp hs
    · obtain ⟨rfl, renames⟩ := exists_rename_column_iff.mp ⟨s, hs, change⟩
      exact ⟨c, declared, renames⟩
    · exact Ddl.noConfusion change
  · rintro ⟨c, declared, renames⟩
    have planned : ∃ s ∈ (column t live force new c).steps, s.change = .renameColumn old new :=
      exists_rename_column_iff.mpr ⟨rfl, renames⟩
    obtain ⟨s, hs, change⟩ := planned
    exact ⟨s, mem_steps_columns.mpr (.inl ⟨new, c, declared, hs⟩), change⟩

/-- The steps for columns find what they need exactly when no declared column disturbs a later
one; those that are not declared are still there in the end. -/
theorem finds_columns_iff (once : (live.columns.map (·.name)).Nodup) :
    sv.Along Server.Finds live (columns t live force dropUndeclared).steps ↔
      t.columns.Pairwise fun earlier later => ¬ Disturbs t live force earlier later := by
  rw [steps_columns_eq, Server.along_append, finds_columnSteps_iff]
  refine and_iff_left_of_imp fun undisturbed => ?_
  cases dropUndeclared with
  | false => trivial
  | true =>
    refine finds_removals (nodup_undeclared once) fun name listed => ?_
    have here : live.Has name := Catalog.isSome_column?_iff.mp (mem_undeclared_iff.mp listed).1
    exact (has_run_columnSteps (finds_columnSteps_iff.mpr undisturbed) here).mpr
      fun entry declared => not_takes_of_mem_undeclared listed declared

/-- **The steps for columns in order.**  Every column that is added or renamed to is new when its
step comes.  Every column that a step changes, renames or removes is there when its step comes,
exactly when no declared column takes the live column that a later one stands for.  A live column
is renamed to each declared one that is not there and has it as its old name, whether or not it is
declared itself. -/
theorem columns_in_order (sv : Server) (t : TableDecl) (live : Catalog)
    (force dropUndeclared : Bool) (distinct : t.columnNames.Nodup)
    (once : (live.columns.map (·.name)).Nodup) :
    let steps := (columns t live force dropUndeclared).steps
    sv.Along Server.Makes live steps ∧
      (sv.Along Server.Finds live steps ↔
        t.columns.Pairwise fun earlier later => ¬ Disturbs t live force earlier later) ∧
      ∀ old new, (∃ s ∈ steps, s.change = .renameColumn old new) ↔
        ∃ c, (new, c) ∈ t.columns ∧ c.isActive = true ∧ c.oldName = some old ∧ live.Has old ∧
          ¬ live.Has new := by
  refine ⟨?_, finds_columns_iff once, fun old new => ?_⟩
  · rw [steps_columns_eq, Server.along_append]
    exact ⟨makes_columnSteps distinct, makes_removals⟩
  · simp only [exists_rename_iff, renames_iff]

end All

/-! ### Books -/

/-- A table of books, in which the title has the old name of another column. -/
def books : TableDecl :=
  { name := "books"
    columns :=
      [("id", { type := "int" }), ("title", { type := "varchar(60)", oldName := some "name" }),
        ("name", { type := "varchar(60)" })]
    primaryKey := some (.single "id") }

/-- The table as it was before, with shorter names. -/
def formerBooks : Catalog :=
  { present := true
    columns :=
      [{ name := "id", dataType := "integer" },
        { name := "name", dataType := "character varying", charLength := some 30
          default? := some "''::character varying" }] }

/-- The title takes the name away before the name is made longer. -/
theorem disturbs_books : Disturbs books formerBooks false
    ("title", { type := "varchar(60)", oldName := some "name" })
    ("name", { type := "varchar(60)" }) := by
  refine ⟨rfl, ?_, _, rfl, .inr ⟨rfl, _, rfl, rfl⟩⟩
  have planned : (column books formerBooks false "name" { type := "varchar(60)" }).steps.isEmpty =
      false := by decide +kernel
  exact fun none => by simp [none] at planned

theorem columns_in_order_books :
    books.columnNames.Nodup ∧ (formerBooks.columns.map (·.name)).Nodup ∧
      ¬ Server.literal.Along Server.Finds formerBooks
        (columns books formerBooks false false).steps := by
  have distinct : books.columnNames.Nodup := by decide
  have once : (formerBooks.columns.map (·.name)).Nodup := by decide
  refine ⟨distinct, once, fun finds => ?_⟩
  have undisturbed :=
    (columns_in_order Server.literal books formerBooks false false distinct once).2.1.mp finds
  rw [books, List.pairwise_cons, List.pairwise_cons] at undisturbed
  exact undisturbed.2.1 _ (List.mem_singleton_self _) disturbs_books

end Plan

end TableMapper
