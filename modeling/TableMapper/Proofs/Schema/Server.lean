import Mathlib.Data.List.Find
import TableMapper.Proofs.Schema.Default
import TableMapper.Proofs.Schema.Plan

/-!
# The server behind the catalog

What the catalog says after a plan has run depends on the server that runs it.

* `Server` is how a server describes types in its catalog, `Server.apply` is what a change does to
  the catalog, and `Server.run` is what the steps of a plan do.
* `Ddl.Spares` holds of the changes that leave a column alone, and `Server.column?_run_of_spares`
  says that they do.
* `Server.hasType_retype` says that a column that is given a type has it.
* `Server.literal` is a server that reads types as they are written.
-/

namespace TableMapper

/-! ### Servers -/

/-- What the catalog says about the type of a column. -/
structure TypeReport where
  dataType : String
  underlying : String := ""
  charLength : Option Int := none
  numericPrecision : Option Int := none
  numericScale : Option Int := none

/-- How a server describes the types of columns.  Nothing is known of types without a name in the
catalog and of arrays. -/
structure Server where
  report : String → TypeReport
  /-- The indexes that come with the primary key of a new table. -/
  keyIndexes : List ColumnDef → List String → List String
  report_name : ∀ {type name}, TypeName.isArray type = false →
    TypeName.catalogName? (TypeName.base type) = some name → (report type).dataType = name
  report_length : ∀ {type name} {n : Int}, TypeName.isArray type = false →
    TypeName.catalogName? (TypeName.base type) = some name →
    Text.startsWith "character" name = true → TypeName.arguments? type = some (toString n) →
    (report type).charLength = some n
  report_numeric : ∀ {type} {p : Int} {s? : Option Int}, TypeName.isArray type = false →
    TypeName.catalogName? (TypeName.base type) = some "numeric" →
    TypeName.arguments? type = some (TypeName.numericArguments p s?) →
    (report type).numericPrecision = some p ∧ (report type).numericScale = some (s?.getD 0)

/-! ### Changes of the catalog -/

namespace Catalog

/-- The catalog with the columns of a name changed. -/
def update (name : String) (f : CatalogColumn → CatalogColumn) (live : Catalog) : Catalog :=
  { live with columns := live.columns.map fun d => if d.name = name then f d else d }

end Catalog

namespace Server

variable (sv : Server)

/-- A column that is given a type. -/
def retype (type : String) (d : CatalogColumn) : CatalogColumn :=
  let r := sv.report type
  { d with
    dataType := r.dataType
    underlying := r.underlying
    charLength := r.charLength
    numericPrecision := r.numericPrecision
    numericScale := r.numericScale }

/-- A column that is created, in a table with this primary key. -/
def newColumn (key : List String) (d : ColumnDef) : CatalogColumn :=
  sv.retype d.type
    { name := d.name
      nullable := !(d.notNull || d.primaryKey || key.contains d.name)
      default? := d.default?.map (Default.reported (sv.report d.type).dataType) }

/-- The catalog after a change.  Indexes and keys go by their names alone: those on a column that is
removed are not followed. -/
def apply (live : Catalog) : Ddl → Catalog
  | .createTable columns key =>
    if live.present then live
    else
      { live with
        present := true
        columns := columns.map (sv.newColumn key)
        indexes := live.indexes ++ sv.keyIndexes columns key }
  | .addColumn d => { live with columns := live.columns ++ [sv.newColumn [] d] }
  | .dropColumn name _ => { live with columns := live.columns.filter (·.name ≠ name) }
  | .renameColumn old new => live.update old ({ · with name := new })
  | .alterType name type => live.update name (sv.retype type)
  | .setDefault name v =>
    live.update name fun d => { d with default? := some (Default.reported d.dataType v) }
  | .dropDefault name => live.update name ({ · with default? := none })
  | .setNotNull name => live.update name ({ · with nullable := false })
  | .dropNotNull name => live.update name ({ · with nullable := true })
  | .createIndex name _ _ | .createUniqueIndex name _ =>
    { live with indexes := live.indexes ++ [name] }
  | .dropIndex name => { live with indexes := live.indexes.filter (· ≠ name) }
  | .addForeignKey k => { live with foreignKeys := live.foreignKeys ++ [k.name] }
  | .dropConstraint name _ => { live with foreignKeys := live.foreignKeys.filter (· ≠ name) }

/-- The catalog after the steps of a plan. -/
def run (live : Catalog) (steps : List Step) : Catalog :=
  steps.foldl (fun live s => sv.apply live s.change) live

@[simp] theorem run_nil {live : Catalog} : sv.run live [] = live := rfl

@[simp] theorem run_cons {live : Catalog} {s : Step} {steps : List Step} :
    sv.run live (s :: steps) = sv.run (sv.apply live s.change) steps := rfl

@[simp] theorem run_append {live : Catalog} {steps more : List Step} :
    sv.run live (steps ++ more) = sv.run (sv.run live steps) more := List.foldl_append

end Server

/-! ### Looking columns up -/

namespace Catalog

variable {live : Catalog} {name other : String} {d : CatalogColumn}
  {f : CatalogColumn → CatalogColumn}

theorem name_of_column? (h : live.column? name = some d) : d.name = name := by
  simpa using List.find?_some h

theorem column?_update (live : Catalog) (name other : String)
    (f : CatalogColumn → CatalogColumn) : (live.update name f).column? other =
      (live.columns.find? fun d => (if d.name = name then f d else d).name == other).map
        fun d => if d.name = name then f d else d := by
  rw [column?, update, List.find?_map]
  rfl

/-- A change of other columns is not seen. -/
theorem column?_update_of_ne (ne : other ≠ name)
    (apart : ∀ d : CatalogColumn, d.name = name → (f d).name ≠ other) :
    (live.update name f).column? other = live.column? other := by
  have same : (live.columns.find? fun d => (if d.name = name then f d else d).name == other) =
      live.column? other := by
    refine List.find?_congr fun d _ => ?_
    split
    next own => rw [beq_eq_false_iff_ne.mpr (apart d own), own, beq_eq_false_iff_ne.mpr ne.symm]
    next => rfl
  rw [column?_update, same]
  cases found : live.column? other with
  | none => rfl
  | some d =>
    rw [Option.map_some, if_neg]
    rw [name_of_column? found]
    exact ne

/-- A change of a column that keeps its name. -/
theorem column?_update_self (keeps : ∀ d : CatalogColumn, d.name = name → (f d).name = name) :
    (live.update name f).column? name = (live.column? name).map f := by
  have same : (live.columns.find? fun d => (if d.name = name then f d else d).name == name) =
      live.column? name := by
    refine List.find?_congr fun d _ => ?_
    split
    next own => rw [keeps d own, own]
    next => rfl
  rw [column?_update, same]
  cases found : live.column? name with
  | none => rfl
  | some d => simp only [Option.map_some, name_of_column? found, if_true]

/-- A column that is renamed to a free name. -/
theorem column?_update_rename (free : live.column? other = none) :
    (live.update name ({ · with name := other })).column? other =
      (live.column? name).map ({ · with name := other }) := by
  have same : (live.columns.find? fun d =>
      (if d.name = name then { d with name := other } else d).name == other) =
      live.column? name := by
    refine List.find?_congr fun d mem => ?_
    split
    next own => simp [own]
    next foreign =>
      have unlike : ¬ (d.name == other) = true := List.find?_eq_none.mp free d mem
      rw [Bool.not_eq_true] at unlike
      rw [unlike, beq_eq_false_iff_ne.mpr foreign]
  rw [column?_update, same]
  cases found : live.column? name with
  | none => rfl
  | some d => simp only [Option.map_some, name_of_column? found, if_true]

/-- The name that a column is renamed from is free. -/
theorem column?_update_renamed (ne : other ≠ name) :
    (live.update name ({ · with name := other })).column? name = none := by
  have none : (live.columns.find? fun d =>
      (if d.name = name then { d with name := other } else d).name == name) = none := by
    refine List.find?_eq_none.mpr fun d _ => ?_
    split
    next => simpa using ne
    next foreign => simpa using foreign
  rw [column?_update, none, Option.map_none]

end Catalog

/-! ### What a change is about -/

/-- The change does not concern a column. -/
def Ddl.Spares (name : String) : Ddl → Prop
  | .createTable .. => False
  | .renameColumn old new => name ≠ old ∧ name ≠ new
  | change => change.column? ≠ some name

/-- The change gives a column a name, which it may not have had. -/
def Ddl.Brings (name : String) : Ddl → Prop
  | .createTable .. => True
  | .addColumn d => d.name = name
  | .renameColumn _ new => new = name
  | _ => False

/-- The change takes a name away from a column. -/
def Ddl.Removes (name : String) (change : Ddl) : Prop :=
  (∃ ifExists, change = .dropColumn name ifExists) ∨ ∃ new, change = .renameColumn name new

namespace Server

variable {sv : Server} {live : Catalog} {name : String}

@[simp] theorem name_newColumn {key : List String} {d : ColumnDef} :
    (sv.newColumn key d).name = d.name := rfl

theorem column?_apply_add (sv : Server) (d : ColumnDef) (free : live.column? d.name = none) :
    (sv.apply live (.addColumn d)).column? d.name = some (sv.newColumn [] d) := by
  rw [apply, Catalog.column?, List.find?_append]
  rw [Catalog.column?] at free
  simp [free]

theorem column?_apply_drop (sv : Server) (live : Catalog) (name : String) (ifExists : Bool) :
    (sv.apply live (.dropColumn name ifExists)).column? name = none := by
  simp [apply, Catalog.column?]

theorem column?_apply_of_spares {change : Ddl} (h : change.Spares name) :
    (sv.apply live change).column? name = live.column? name := by
  cases change with
  | createTable => exact h.elim
  | createIndex | createUniqueIndex | dropIndex | addForeignKey | dropConstraint => rfl
  | renameColumn old new => exact Catalog.column?_update_of_ne h.1 fun _ _ => h.2.symm
  | addColumn d =>
    have other : (d.name == name) = false := by simpa [Ddl.Spares, Ddl.column?] using h
    rw [apply, Catalog.column?, List.find?_append]
    simp [other, Catalog.column?]
  | dropColumn column ifExists =>
    have other : column ≠ name := by simpa [Ddl.Spares, Ddl.column?] using h
    rw [apply, Catalog.column?, List.find?_filter, Catalog.column?]
    refine List.find?_congr fun d _ => ?_
    by_cases own : d.name = name
    · simp [own, other.symm]
    · simp [own]
  | alterType column | setDefault column | dropDefault column | setNotNull column
  | dropNotNull column =>
    have other : column ≠ name := by simpa [Ddl.Spares, Ddl.column?] using h
    refine Catalog.column?_update_of_ne other.symm fun d own => ?_
    exact fun eq => other (own.symm.trans eq)

/-- Steps that do not concern a column leave it alone. -/
theorem column?_run_of_spares {steps : List Step} (h : ∀ s ∈ steps, s.change.Spares name) :
    (sv.run live steps).column? name = live.column? name := by
  induction steps generalizing live with
  | nil => rfl
  | cons s steps ih =>
    rw [run_cons, ih fun u hu => h u (List.mem_cons_of_mem s hu),
      column?_apply_of_spares (h s List.mem_cons_self)]

theorem column?_apply_of_removes {change : Ddl} (removes : change.Removes name)
    (h : ¬ change.Brings name) : (sv.apply live change).column? name = none := by
  obtain ⟨ifExists, rfl⟩ | ⟨new, rfl⟩ := removes
  · exact column?_apply_drop ..
  · exact Catalog.column?_update_renamed h

theorem column?_apply_of_none {change : Ddl} (absent : live.column? name = none)
    (h : ¬ change.Brings name) : (sv.apply live change).column? name = none := by
  by_cases spares : change.Spares name
  · rw [column?_apply_of_spares spares, absent]
  · cases change with
    | createTable => exact absurd trivial h
    | createIndex | createUniqueIndex | dropIndex | addForeignKey | dropConstraint =>
      exact absurd (nofun) spares
    | addColumn d => exact absurd (fun same => h (Option.some.inj same)) spares
    | renameColumn old new =>
      obtain rfl : name = old := by
        by_contra other
        exact spares ⟨other, fun same => h same.symm⟩
      exact Catalog.column?_update_renamed h
    | dropColumn column =>
      obtain rfl : column = name := by simpa [Ddl.Spares, Ddl.column?] using spares
      exact column?_apply_drop ..
    | alterType column | setDefault column | dropDefault column | setNotNull column
    | dropNotNull column =>
      obtain rfl : column = name := by simpa [Ddl.Spares, Ddl.column?] using spares
      refine (Catalog.column?_update_self ?_).trans (by rw [absent, Option.map_none])
      exact fun d own => own

/-- A name that no step gives to a column is free in the end if it was free or a step takes it
away. -/
theorem column?_run_eq_none {steps : List Step} (h : ∀ s ∈ steps, ¬ s.change.Brings name)
    (gone : live.column? name = none ∨ ∃ s ∈ steps, s.change.Removes name) :
    (sv.run live steps).column? name = none := by
  induction steps generalizing live with
  | nil => exact gone.resolve_right fun ⟨s, hs, _⟩ => absurd hs List.not_mem_nil
  | cons s steps ih =>
    rw [run_cons]
    refine ih (fun u hu => h u (List.mem_cons_of_mem s hu)) ?_
    have now := h s List.mem_cons_self
    obtain absent | ⟨u, hu, removes⟩ := gone
    · exact .inl (column?_apply_of_none absent now)
    · obtain rfl | later := List.mem_cons.mp hu
      · exact .inl (column?_apply_of_removes removes now)
      · exact .inr ⟨u, later, removes⟩

/-! ### Types -/

/-- A column that is given a type has it. -/
theorem hasType_retype {type name : String} {d : CatalogColumn}
    (canonical : TypeName.Canonical type) (scalar : TypeName.isArray type = false)
    (known : TypeName.catalogName? (TypeName.base type) = some name) :
    (sv.retype type d).hasType type = true := by
  have named : ((sv.retype type d).dataType == name) = true :=
    beq_iff_eq.mpr (sv.report_name scalar known)
  unfold CatalogColumn.hasType
  split
  next => rfl
  next =>
    simp only [known, named, Bool.true_and]
    split
    next => rfl
    next args given =>
      split
      next => rfl
      next compared =>
        split
        next text =>
          obtain ⟨n, rfl⟩ := canonical.length name args known text given
          simp [CatalogColumn.lengthText, retype, sv.report_length scalar known text given]
        next number =>
          obtain rfl := TypeName.eq_numeric_of_withArguments known (by simpa using compared)
            (by simpa using number)
          obtain ⟨precision, scale?, rfl⟩ := canonical.numeric args known given
          obtain ⟨p, s⟩ := sv.report_numeric scalar known given
          rw [TypeName.numericArguments_full]
          simp [CatalogColumn.precisionText, retype, p, s]

/-! ### A server -/

/-- A server that reads the arguments of a type as they are written, and for which every column is
an index that is the primary key by itself. -/
def literal : Server where
  report type :=
    let arguments := (TypeName.arguments? type).getD ""
    let parts := (Text.cutAt? "," arguments).getD (arguments, "0")
    { dataType :=
        if TypeName.isArray type then "ARRAY"
        else (TypeName.catalogName? (TypeName.base type)).getD "USER-DEFINED"
      underlying := TypeName.base type
      charLength := Text.integer? arguments
      numericPrecision := Text.integer? parts.1
      numericScale := Text.integer? parts.2 }
  keyIndexes columns _ := (columns.filter (·.primaryKey)).map (·.name ++ "_pkey")
  report_name scalar known := by simp [scalar, known]
  report_length _ _ _ given := by
    simp only [given, Option.getD_some, Text.integer?_toString]
  report_numeric {_ p s?} _ _ given := by
    simp only [given, Option.getD_some, TypeName.cutAt?_numericArguments]
    cases s? with
    | none => exact ⟨Text.integer?_toString p, Text.integer?_toString 0⟩
    | some s => exact ⟨Text.integer?_toString p, Text.integer?_toString s⟩

end Server

end TableMapper
