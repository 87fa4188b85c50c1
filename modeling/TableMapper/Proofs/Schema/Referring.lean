import TableMapper.Proofs.Table.Lookup
import TableMapper.Schema.References

/-!
# The types of referring columns

A column that refers to another is synchronized with the storage type of that one.  What counts is
the type with which the other column is declared, whatever it is synchronized with itself.

* `Site` is a column of a table, and `Site.Refers` says that one refers to another.
* `Site.effectiveType?_of_refers` is the type with which a referring column is synchronized.
* `Site.agrees_iff` says when that is the storage type of the column that it refers to, as that one
  is synchronized, and `Site.agrees_along_iff` says so for chains of references.
-/

namespace TableMapper

namespace TypeName

theorem storage_eq (type : String) :
    storage type = type ∨ storage type ∈ ["integer", "bigint", "smallint"] := by
  unfold storage
  split <;> simp

/-- A storage type stands for itself. -/
theorem storage_storage (type : String) : storage (storage type) = storage type := by
  rcases storage_eq type with same | integer
  · rw [same, same]
  · generalize storage type = name at integer
    simp only [List.mem_cons, List.not_mem_nil, or_false] at integer
    rcases integer with rfl | rfl | rfl <;> decide

end TypeName

/-- A column of a table. -/
structure Site where
  table : TableDecl
  column : String

namespace Site

/-- The declaration of the column, if there is one. -/
def decl? (a : Site) : Option ColumnDecl := a.table.column? a.column

/-- The type with which the column is declared. -/
def declaredType? (a : Site) : Option String := a.decl?.map (·.type)

variable (tables : Tables)

/-- The table is one of the known ones. -/
def Known (a : Site) : Prop := tables.get? a.table.name = some a.table

/-- The type with which the column is synchronized. -/
def effectiveType? (a : Site) : Option String :=
  ((tables.effective a.table).column? a.column).map (·.type)

/-- The first column is active and refers to the second one, which is a declared column of a known
table. -/
structure Refers (a b : Site) : Prop where
  reference : ∃ c text, a.decl? = some c ∧ c.isActive = true ∧ c.references = some text ∧
    Reference.parse text a.column = ⟨b.table.name, b.column⟩
  known : b.Known tables
  declared : b.decl?.isSome = true

/-- The first column is synchronized with the storage type of the second one, as that one is
synchronized. -/
def Agrees (a b : Site) : Prop :=
  a.effectiveType? tables = (b.effectiveType? tables).map TypeName.storage

/-- Both columns are declared with types that are stored alike. -/
def StoredAlike (a b : Site) : Prop :=
  a.declaredType?.map TypeName.storage = b.declaredType?.map TypeName.storage

variable {tables} {a b c : Site}

/-- A column refers to one column at most. -/
theorem Refers.unique (h : a.Refers tables b) (h' : a.Refers tables c) : b = c := by
  obtain ⟨d, text, declared, -, refers, target⟩ := h.reference
  obtain ⟨d', text', declared', -, refers', target'⟩ := h'.reference
  obtain rfl : d = d' := Option.some.inj (declared.symm.trans declared')
  obtain rfl : text = text' := Option.some.inj (refers.symm.trans refers')
  obtain ⟨names, columns⟩ := Reference.mk.inj (target.symm.trans target')
  have tables := h.known.symm.trans ((congrArg _ names).trans h'.known)
  cases b
  cases c
  cases columns
  cases Option.some.inj tables
  rfl

end Site

namespace Tables

variable {tables : Tables}

theorem name_of_get? {name : String} {t : TableDecl} (h : tables.get? name = some t) :
    t.name = name := by
  have found := List.find?_some h
  simpa using found

/-- The column with the type that it is synchronized with. -/
def retyped (tables : Tables) (t : TableDecl) (name : String) (c : ColumnDecl) : ColumnDecl :=
  { c with type := ((c.foreignKey? t.name name).bind (tables.targetType? t)).getD c.type }

theorem columns_effective (t : TableDecl) :
    (tables.effective t).columns = t.columns.map fun e => (e.1, tables.retyped t e.1 e.2) := by
  refine List.map_congr_left fun (name, c) _ => ?_
  dsimp only [retyped]
  cases (c.foreignKey? t.name name).bind (tables.targetType? t) <;> rfl

theorem column?_effective (t : TableDecl) (name : String) :
    (tables.effective t).column? name = (t.column? name).map (tables.retyped t name) := by
  rw [TableDecl.column?, columns_effective]
  exact lookup_map_value (tables.retyped t) name t.columns

/-- In a known table, a key takes its type from the table of that name. -/
theorem targetType?_of_known {t : TableDecl} (known : tables.get? t.name = some t)
    (k : ForeignKey) :
    tables.targetType? t k =
      (((tables.get? k.target.table).bind (·.column? k.target.column)).map (·.type)).map
        TypeName.storage := by
  unfold targetType?
  split
  · next same => rw [same, known]
  · rfl

end Tables

namespace Site

variable {tables : Tables} {a b c : Site}

theorem effectiveType?_eq (a : Site) :
    a.effectiveType? tables =
      a.decl?.map fun c => (tables.retyped a.table a.column c).type := by
  rw [effectiveType?, Tables.column?_effective, Option.map_map]
  rfl

/-- **A referring column** is synchronized with the storage type of the declared type of the column
that it refers to. -/
theorem effectiveType?_of_refers (known : a.Known tables) (h : a.Refers tables b) :
    a.effectiveType? tables = b.declaredType?.map TypeName.storage := by
  obtain ⟨d, text, declared, active, refers, target⟩ := h.reference
  obtain ⟨e, there⟩ := Option.isSome_iff_exists.mp h.declared
  have found : (tables.get? b.table.name).bind (·.column? b.column) = some e := by
    rw [h.known]
    exact there
  rw [effectiveType?_eq, declared, declaredType?, there, Option.map_some, Tables.retyped,
    ColumnDecl.foreignKey?, if_pos active, refers, Option.map_some, Option.bind_some,
    Tables.targetType?_of_known known]
  simp only [target, found, Option.map_some, Option.getD_some]

/-- A column that refers to no known column keeps its type. -/
theorem effectiveType?_of_not_refers (known : a.Known tables) (h : ∀ b, ¬ a.Refers tables b) :
    a.effectiveType? tables = a.declaredType? := by
  rw [effectiveType?_eq, declaredType?]
  cases declared : a.decl? with
  | none => rfl
  | some d =>
    have kept : (d.foreignKey? a.table.name a.column).bind (tables.targetType? a.table) = none := by
      refine Option.eq_none_iff_forall_ne_some.mpr fun type typed => ?_
      -- the column would refer to the one that its key leads to
      obtain ⟨k, key, typed⟩ := Option.bind_eq_some_iff.mp typed
      rw [Tables.targetType?_of_known known] at typed
      obtain ⟨_, typed, -⟩ := Option.map_eq_some_iff.mp typed
      obtain ⟨e, found, -⟩ := Option.map_eq_some_iff.mp typed
      obtain ⟨u, get, column⟩ := Option.bind_eq_some_iff.mp found
      obtain ⟨active, text, refers, rfl⟩ : d.isActive = true ∧ ∃ text, d.references = some text ∧ _ :=
        by simpa only [ColumnDecl.foreignKey?, Option.ite_none_right_eq_some,
          Option.map_eq_some_iff] using key
      have name := Tables.name_of_get? get
      refine h ⟨u, (Reference.parse text a.column).column⟩
        ⟨⟨d, text, declared, active, refers, ?_⟩, ?_, Option.isSome_of_eq_some column⟩
      · rw [name]
      · rw [Known, name]
        exact get
    rw [Option.map_some, Option.map_some, Tables.retyped, kept, Option.getD_none]

/-- **A column and the one that it refers to** are synchronized with one storage type exactly when
the second one refers to nothing, or is declared with the storage type of the column that it refers
to itself. -/
theorem agrees_iff (known : a.Known tables) (h : a.Refers tables b) :
    a.Agrees tables b ↔ ∀ c, b.Refers tables c → b.StoredAlike c := by
  rw [Agrees, effectiveType?_of_refers known h]
  by_cases further : ∃ c, b.Refers tables c
  · obtain ⟨c, hc⟩ := further
    rw [effectiveType?_of_refers h.known hc]
    simp only [Option.map_map, Function.comp_def, TypeName.storage_storage]
    constructor
    · intro alike d hd
      obtain rfl := hc.unique hd
      exact alike
    · intro all
      exact all c hc
  · have ends : ∀ c, ¬ b.Refers tables c := not_exists.mp further
    rw [effectiveType?_of_not_refers h.known ends]
    exact ⟨fun _ c hc => absurd hc (ends c), fun _ => rfl⟩

/-- Along a chain of references to its end, all columns agree exactly when those from the second one
on are declared with types that are stored alike. -/
theorem agrees_along_iff : ∀ {chain : List Site}, (∀ a ∈ chain, a.Known tables) →
    chain.IsChain (Refers tables) → (∀ a, chain.getLast? = some a → ∀ b, ¬ a.Refers tables b) →
    (chain.IsChain (Agrees tables) ↔ chain.tail.IsChain StoredAlike)
  | [], _, _, _ => by simp
  | [a], _, _, _ => by simp
  | [a, b], known, refers, ends => by
    have first : a.Refers tables b := by simpa using refers
    have agrees : a.Agrees tables b :=
      (agrees_iff (known a (by simp)) first).mpr fun c hc => absurd hc (ends b rfl c)
    simpa using agrees
  | a :: b :: c :: rest, known, refers, ends => by
    obtain ⟨first, refers⟩ := List.isChain_cons_cons.mp refers
    obtain ⟨second, -⟩ := List.isChain_cons_cons.mp refers
    have later := agrees_along_iff (fun d hd => known d (List.mem_cons_of_mem a hd)) refers
      (fun d hd => ends d (by simpa using hd))
    have one : a.Agrees tables b ↔ b.StoredAlike c := by
      rw [agrees_iff (known a List.mem_cons_self) first]
      constructor
      · intro all
        exact all c second
      · intro alike d hd
        obtain rfl := second.unique hd
        exact alike
    rw [List.isChain_cons_cons, one, later, List.tail_cons, List.tail_cons,
      List.isChain_cons_cons]

/-- **The type of a referring column** is the storage type with which the column that it refers to
is declared.  It is the storage type with which that column is synchronized exactly when that column
refers to nothing, or is declared with a type that is stored like that of the column that it refers
to itself. -/
theorem referring_type_agrees_iff (known : a.Known tables) (refers : a.Refers tables b) :
    a.effectiveType? tables = b.declaredType?.map TypeName.storage ∧
      (a.Agrees tables b ↔ ∀ c, b.Refers tables c → b.StoredAlike c) :=
  ⟨effectiveType?_of_refers known refers, agrees_iff known refers⟩

/-! ### Badges -/

/-- Organizations, with a counted key. -/
def orgs : TableDecl :=
  { name := "orgs", columns := [("id", { type := "bigserial" })], primaryKey := some (.single "id") }

/-- Members of organizations. -/
def members : TableDecl :=
  { name := "members"
    columns := [("org", { type := "int", references := some "orgs:id" })]
    primaryKey := some (.single "org") }

/-- Badges of members. -/
def badges : TableDecl :=
  { name := "badges"
    columns := [("org", { type := "int", references := some "members:org" })] }

theorem badges_refers : Refers [orgs, members, badges] ⟨badges, "org"⟩ ⟨members, "org"⟩ where
  reference := ⟨_, _, rfl, rfl, rfl, by decide⟩
  known := rfl
  declared := rfl

theorem members_refers : Refers [orgs, members, badges] ⟨members, "org"⟩ ⟨orgs, "id"⟩ where
  reference := ⟨_, _, rfl, rfl, rfl, by decide⟩
  known := rfl
  declared := rfl

/-- Badges keep `int`, while the members that they refer to are synchronized with `bigint`. -/
theorem referring_type_agrees_iff_badges :
    Known [orgs, members, badges] ⟨badges, "org"⟩ ∧
      Refers [orgs, members, badges] ⟨badges, "org"⟩ ⟨members, "org"⟩ ∧
      effectiveType? [orgs, members, badges] ⟨badges, "org"⟩ = some "int" ∧
      effectiveType? [orgs, members, badges] ⟨members, "org"⟩ = some "bigint" ∧
      ¬ Agrees [orgs, members, badges] ⟨badges, "org"⟩ ⟨members, "org"⟩ := by
  have known : Known [orgs, members, badges] ⟨badges, "org"⟩ := rfl
  obtain ⟨type, agrees⟩ := referring_type_agrees_iff known badges_refers
  refine ⟨known, badges_refers, type.trans (by decide), by decide, fun same => ?_⟩
  exact absurd (agrees.mp same _ members_refers) (by unfold StoredAlike; decide)

end Site

end TableMapper
