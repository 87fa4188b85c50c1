import Mathlib.Logic.Relation
import TableMapper.Proofs.Schema.Referring

/-!
# The order of synchronization

Tables are synchronized after those that they refer to.  The order is that in which a depth-first
walk over the references leaves the tables; a table that is met again is not entered again, so that
cycles are cut.

* `Tables.Walks` is the walk, and `Tables.walks_iff` says that it ends, with the order of
  `Tables.order` and no other.
* `Tables.Leaves` is what a walk leaves behind: tables that were not met before, each of them
  reached from those that the walk was started at, and each after the tables that it depends on,
  unless they were met before or lead back to it.
* `Tables.referred_first` is what follows for a walk from the start.
-/

namespace TableMapper

open Relation (ReflTransGen TransGen)

namespace Tables

/-- The known tables that a table refers to, itself apart, in the order of its columns. -/
def dependencies (tables : Tables) (t : TableDecl) : List TableDecl :=
  t.foreignKeys.filterMap fun k =>
    if k.target.table = t.name then none else tables.get? k.target.table

namespace Visit

/-- A table is entered. -/
def enter (v : Visit) (t : TableDecl) : Visit := { v with met := t.name :: v.met }

/-- A table is left. -/
def leave (v : Visit) (t : TableDecl) : Visit := { v with order := v.order ++ [t] }

end Visit

/-- A depth-first walk from tables, one after the other, with the visit before and after it. -/
inductive Walks (tables : Tables) : List TableDecl → Visit → Visit → Prop
  | done (v : Visit) : Walks tables [] v v
  | again {t : TableDecl} {ts : List TableDecl} {v w : Visit} (met : t.name ∈ v.met)
      (rest : Walks tables ts v w) : Walks tables (t :: ts) v w
  | first {t : TableDecl} {ts : List TableDecl} {v u w : Visit} (new : t.name ∉ v.met)
      (below : Walks tables (tables.dependencies t) (v.enter t) u)
      (rest : Walks tables ts (u.leave t) w) : Walks tables (t :: ts) v w

variable {tables : Tables} {t d : TableDecl} {ts roots : List TableDecl} {u v w : Visit}

/-! ### Dependencies -/

theorem mem_dependencies_iff : d ∈ tables.dependencies t ↔
    ∃ k ∈ t.foreignKeys, k.target.table ≠ t.name ∧ tables.get? k.target.table = some d := by
  simp only [dependencies, List.mem_filterMap, Option.ite_none_left_eq_some, ne_eq]

/-- A table that is depended on is the known one of its name. -/
theorem get?_of_mem_dependencies (h : d ∈ tables.dependencies t) :
    tables.get? d.name = some d := by
  obtain ⟨k, -, -, found⟩ := mem_dependencies_iff.mp h
  rwa [name_of_get? found]

/-- No table depends on itself. -/
theorem name_ne_of_mem_dependencies (h : d ∈ tables.dependencies t) : d.name ≠ t.name := by
  obtain ⟨k, -, other, found⟩ := mem_dependencies_iff.mp h
  rwa [name_of_get? found]

theorem mem_of_get? {name : String} (h : tables.get? name = some t) : t ∈ tables :=
  List.mem_of_find?_eq_some h

/-! ### The walk ends -/

theorem Walks.met_subset (h : tables.Walks ts v w) : v.met ⊆ w.met := by
  induction h with
  | done v => exact List.Subset.refl _
  | again met rest ih => exact ih
  | first new below rest ihBelow ihRest =>
    exact List.Subset.trans (List.subset_cons_self _ _) (List.Subset.trans ihBelow ihRest)

/-- A walk comes out in one way only. -/
theorem Walks.unique (h : tables.Walks ts v u) (h' : tables.Walks ts v w) : u = w := by
  induction h generalizing w with
  | done v =>
    cases h'
    rfl
  | again met rest ih =>
    cases h' with
    | again _ rest' => exact ih rest'
    | first new => exact absurd met new
  | first new below rest ihBelow ihRest =>
    cases h' with
    | again met => exact absurd met new
    | first _ below' rest' =>
      obtain rfl := ihBelow below'
      exact ihRest rest'

/-- The known tables that were not met. -/
def unmet (tables : Tables) (v : Visit) : Tables := tables.filter fun t => !v.met.contains t.name

theorem mem_unmet_iff : t ∈ tables.unmet v ↔ t ∈ tables ∧ t.name ∉ v.met := by
  simp [unmet]

theorem length_unmet_le (h : v.met ⊆ w.met) :
    (tables.unmet w).length ≤ (tables.unmet v).length := by
  refine (List.monotone_filter_right tables fun t unmet => ?_).length_le
  simp only [Bool.not_eq_true', List.contains_eq_mem, decide_eq_false_iff_not] at unmet ⊢
  exact fun met => unmet (h met)

theorem length_unmet_enter_le : (tables.unmet (v.enter t)).length ≤ (tables.unmet v).length :=
  length_unmet_le (List.subset_cons_self _ _)

/-- There are fewer when a known table is entered. -/
theorem length_unmet_enter_lt (known : t ∈ tables) (new : t.name ∉ v.met) :
    (tables.unmet (v.enter t)).length < (tables.unmet v).length := by
  have fewer : tables.unmet (v.enter t) = (tables.unmet v).filter (·.name ≠ t.name) := by
    rw [unmet, unmet, List.filter_filter]
    refine List.filter_congr fun s _ => ?_
    simp [Visit.enter]
  rw [fewer]
  exact List.length_filter_lt_length_iff_exists.mpr
    ⟨t, mem_unmet_iff.mpr ⟨known, new⟩, by simp⟩

theorem visit_of_met (fuel : Nat) (met : t.name ∈ v.met) : visit tables fuel t v = v := by
  cases fuel with
  | zero => rfl
  | succ fuel => rw [visit, if_pos (List.contains_iff_mem.mpr met)]

theorem visit_of_new {fuel : Nat} (new : t.name ∉ v.met) : visit tables (fuel + 1) t v =
    ((tables.dependencies t).foldl (fun v d => visit tables fuel d v) (v.enter t)).leave t := by
  rw [visit, if_neg (by rwa [List.contains_iff_mem]), dependencies, List.foldl_filterMap]
  refine congrArg (Visit.leave · t) (congrArg (List.foldl · (v.enter t) t.foreignKeys) ?_)
  funext v k
  split
  · rfl
  · cases tables.get? k.target.table <;> rfl

/-- Fuel for the known tables that were not met is enough, and one more for a table that is not
known. -/
theorem walks_foldl_visit {fuel : Nat} (enough : (tables.unmet v).length ≤ fuel)
    (room : ∀ t ∈ ts, t ∈ tables ∨ (tables.unmet v).length < fuel) :
    tables.Walks ts v (ts.foldl (fun v t => visit tables fuel t v) v) := by
  induction fuel generalizing ts v with
  | zero =>
    -- all tables are met
    induction ts with
    | nil => exact .done v
    | cons t ts ih =>
      have known : t ∈ tables := (room t List.mem_cons_self).resolve_right (Nat.not_lt_zero _)
      have met : t.name ∈ v.met := by
        by_contra new
        exact absurd (length_unmet_enter_lt known new) (by omega)
      exact .again met (ih fun t h => room t (List.mem_cons_of_mem _ h))
  | succ fuel ih =>
    induction ts generalizing v with
    | nil => exact .done v
    | cons t ts ihRest =>
      have later := fun t h => room t (List.mem_cons_of_mem _ h)
      rw [List.foldl_cons]
      by_cases met : t.name ∈ v.met
      · rw [visit_of_met _ met]
        exact .again met (ihRest enough later)
      · have fewer : (tables.unmet (v.enter t)).length ≤ fuel := by
          obtain known | left := room t List.mem_cons_self
          · have := length_unmet_enter_lt known met
            omega
          · exact Nat.le_trans length_unmet_enter_le (Nat.le_of_lt_succ left)
        have below : tables.Walks (tables.dependencies t) (v.enter t) _ :=
          ih fewer fun d h => .inl (mem_of_get? (get?_of_mem_dependencies h))
        have shrunk : (tables.unmet (visit tables (fuel + 1) t v)).length ≤
            (tables.unmet v).length := by
          rw [visit_of_new met]
          exact length_unmet_le (List.Subset.trans (List.subset_cons_self _ _) below.met_subset)
        refine .first met below ?_
        rw [← visit_of_new met]
        exact ihRest (Nat.le_trans shrunk enough) fun s h =>
          (later s h).imp_right fun left => Nat.lt_of_le_of_lt shrunk left

/-- **The walk ends**, and leaves the tables in their order. -/
theorem walks_iff (tables : Tables) (roots listed : List TableDecl) :
    (∃ met, tables.Walks roots {} ⟨met, listed⟩) ↔ listed = tables.order roots := by
  have few : (tables.unmet {}).length ≤ tables.length := List.length_filter_le _ _
  have ends : tables.Walks roots {}
      (roots.foldl (fun v t => visit tables (tables.length + 2) t v) {}) :=
    walks_foldl_visit (by omega) fun _ _ => .inr (by omega)
  constructor
  · rintro ⟨met, walk⟩
    exact congrArg Visit.order (walk.unique ends)
  · rintro rfl
    exact ⟨_, ends⟩

/-! ### What a walk leaves -/

/-- A listed table refers to a table. -/
def Refers (listed : List TableDecl) (u v : String) : Prop :=
  ∃ t ∈ listed, t.name = u ∧ ∃ k ∈ t.foreignKeys, k.target.table = v

/-- A listed table depends on a known one. -/
def Leads (tables : Tables) (listed : List TableDecl) (u v : String) : Prop :=
  ∃ t ∈ listed, t.name = u ∧ ∃ d ∈ tables.dependencies t, d.name = v

theorem Leads.mono {l m : List TableDecl} (h : l ⊆ m) (x y : String) (leads : tables.Leads l x y) :
    tables.Leads m x y := by
  obtain ⟨t, listed, rest⟩ := leads
  exact ⟨t, h listed, rest⟩

theorem Leads.refers {listed : List TableDecl} (x y : String) (leads : tables.Leads listed x y) :
    Refers listed x y := by
  obtain ⟨t, mem, named, d, depends, rfl⟩ := leads
  obtain ⟨k, key, -, found⟩ := mem_dependencies_iff.mp depends
  exact ⟨t, mem, named, k, key, (name_of_get? found).symm⟩

/-- What a walk from `ts` leaves in the order: the tables `left`. -/
structure Leaves (tables : Tables) (ts : List TableDecl) (v w : Visit) (left : List TableDecl) :
    Prop where
  order : w.order = v.order ++ left
  met : ∀ name, name ∈ w.met ↔ name ∈ v.met ∨ name ∈ left.map (·.name)
  /-- No name is left twice. -/
  distinct : (left.map (·.name)).Nodup
  /-- What is left was not met before. -/
  new : ∀ t ∈ left, t.name ∉ v.met
  /-- The tables that the walk is started at are met. -/
  starts : ∀ t ∈ ts, t.name ∈ w.met
  /-- What is left is one of them or a known table. -/
  known : ∀ t ∈ left, t ∈ ts ∨ tables.get? t.name = some t
  /-- It is reached from them. -/
  reached : ∀ t ∈ left, ∃ s ∈ ts, ReflTransGen (tables.Leads left) s.name t.name
  closed : ∀ t ∈ left, ∀ d ∈ tables.dependencies t, d.name ∈ w.met
  /-- What a table depends on was met before the walk, is left earlier, or leads back to it. -/
  earlier : ∀ t ∈ left, ∀ d ∈ tables.dependencies t,
    d.name ∈ v.met ∨ [d.name, t.name].Sublist (left.map (·.name)) ∨
      TransGen (tables.Leads left) d.name t.name

variable {left more : List TableDecl}

theorem leaves_done (v : Visit) : tables.Leaves [] v v [] where
  order := (List.append_nil _).symm
  met name := by simp
  distinct := List.nodup_nil
  new _ h := absurd h List.not_mem_nil
  starts _ h := absurd h List.not_mem_nil
  known _ h := absurd h List.not_mem_nil
  reached _ h := absurd h List.not_mem_nil
  closed _ h := absurd h List.not_mem_nil
  earlier _ h := absurd h List.not_mem_nil

theorem Leaves.again (h : tables.Leaves ts v w left) (met : t.name ∈ v.met) :
    tables.Leaves (t :: ts) v w left where
  order := h.order
  met := h.met
  distinct := h.distinct
  new := h.new
  starts s mem := by
    obtain rfl | mem := List.mem_cons.mp mem
    · exact (h.met s.name).mpr (.inl met)
    · exact h.starts s mem
  known s mem := (h.known s mem).imp_left (List.mem_cons_of_mem t)
  reached s mem := by
    obtain ⟨r, start, path⟩ := h.reached s mem
    exact ⟨r, List.mem_cons_of_mem t start, path⟩
  closed := h.closed
  earlier := h.earlier

/-! A table is entered, its dependencies are walked, it is left, and the walk goes on. -/

/-- After its dependencies there are met the table, what was met before and what they leave. -/
theorem Leaves.mem_met_enter (below : tables.Leaves ts (v.enter t) u left) (name : String) :
    name ∈ u.met ↔ name = t.name ∨ name ∈ v.met ∨ name ∈ left.map (·.name) := by
  rw [below.met, Visit.enter, List.mem_cons, or_assoc]

/-- What the dependencies of a table leave is reached from the table. -/
theorem Leaves.under (below : tables.Leaves (tables.dependencies t) (v.enter t) u left)
    (mem : d ∈ left) : TransGen (tables.Leads (left ++ t :: more)) t.name d.name := by
  obtain ⟨s, depends, path⟩ := below.reached d mem
  have first : tables.Leads (left ++ t :: more) t.name s.name :=
    ⟨t, List.mem_append_cons_self, rfl, s, depends, rfl⟩
  exact .head' first
    (ReflTransGen.mono (Leads.mono (List.subset_append_left _ _)) _ _ path)

theorem Leaves.distinct_first (below : tables.Leaves (tables.dependencies t) (v.enter t) u left)
    (rest : tables.Leaves ts (u.leave t) w more) :
    ((left ++ t :: more).map (·.name)).Nodup := by
  have apart : ∀ s ∈ left, s.name ≠ t.name := fun s mem same =>
    below.new s mem (same ▸ List.mem_cons_self)
  have unmet : ∀ s ∈ more, s.name ∉ u.met := rest.new
  rw [List.map_append, List.map_cons, List.nodup_append, List.nodup_cons]
  refine ⟨below.distinct, ⟨fun mem => ?_, rest.distinct⟩, fun x hx y hy => ?_⟩
  · obtain ⟨s, listed, same⟩ := List.mem_map.mp mem
    exact unmet s listed ((below.mem_met_enter _).mpr (.inl same))
  · obtain ⟨s, listed, rfl⟩ := List.mem_map.mp hx
    obtain rfl | hy := List.mem_cons.mp hy
    · exact apart s listed
    · obtain ⟨r, later, rfl⟩ := List.mem_map.mp hy
      intro same
      exact unmet r later ((below.mem_met_enter _).mpr (.inr (.inr (same ▸ hx))))

theorem pair_sublist_append {x y : String} {l m : List String} (first : x ∈ l) (second : y ∈ m) :
    [x, y].Sublist (l ++ m) :=
  (List.singleton_sublist.mpr first).append (List.singleton_sublist.mpr second)

theorem Leaves.earlier_first (below : tables.Leaves (tables.dependencies t) (v.enter t) u left)
    (rest : tables.Leaves ts (u.leave t) w more) {s : TableDecl} (mem : s ∈ left ++ t :: more)
    (depends : d ∈ tables.dependencies s) :
    d.name ∈ v.met ∨ [d.name, s.name].Sublist ((left ++ t :: more).map (·.name)) ∨
      TransGen (tables.Leads (left ++ t :: more)) d.name s.name := by
  rw [List.map_append, List.map_cons]
  obtain mem | mem := List.mem_append.mp mem
  · obtain met | before | back := below.earlier s mem d depends
    · obtain same | met := List.mem_cons.mp met
      · -- it refers back to the table that was entered
        exact .inr (.inr (same ▸ below.under mem))
      · exact .inl met
    · exact .inr (.inl (before.trans (List.sublist_append_left _ _)))
    · exact .inr (.inr
        (TransGen.mono (Leads.mono (List.subset_append_left _ _)) _ _ back))
  obtain rfl | mem := List.mem_cons.mp mem
  · -- its dependencies were walked
    obtain same | met | listed := (below.mem_met_enter _).mp (below.starts d depends)
    · exact absurd same (name_ne_of_mem_dependencies depends)
    · exact .inl met
    · exact .inr (.inl (pair_sublist_append listed List.mem_cons_self))
  · have last : s.name ∈ more.map (·.name) := List.mem_map_of_mem mem
    obtain met | before | back := rest.earlier s mem d depends
    · obtain same | met | listed := (below.mem_met_enter _).mp met
      · have next : [t.name, s.name].Sublist (t.name :: more.map (·.name)) :=
          (List.singleton_sublist.mpr last).cons_cons t.name
        exact .inr (.inl (same ▸ next.trans (List.sublist_append_right _ _)))
      · exact .inl met
      · exact .inr (.inl (pair_sublist_append listed (List.mem_cons_of_mem _ last)))
    · exact .inr (.inl ((before.cons t.name).trans (List.sublist_append_right _ _)))
    · exact .inr (.inr (TransGen.mono (Leads.mono (List.subset_append_of_subset_right _
        (List.subset_cons_self _ _))) _ _ back))

theorem Leaves.first (new : t.name ∉ v.met)
    (below : tables.Leaves (tables.dependencies t) (v.enter t) u left)
    (rest : tables.Leaves ts (u.leave t) w more) :
    tables.Leaves (t :: ts) v w (left ++ t :: more) where
  order := by
    rw [rest.order, Visit.leave, below.order, Visit.enter]
    simp
  met name := by
    rw [rest.met, Visit.leave, below.mem_met_enter]
    simp only [List.map_append, List.map_cons, List.mem_append, List.mem_cons]
    grind
  distinct := below.distinct_first rest
  new s mem met := by
    obtain mem | mem := List.mem_append.mp mem
    · exact below.new s mem (List.mem_cons_of_mem _ met)
    · obtain rfl | mem := List.mem_cons.mp mem
      · exact new met
      · exact rest.new s mem ((below.mem_met_enter _).mpr (.inr (.inl met)))
  starts s mem := by
    obtain rfl | mem := List.mem_cons.mp mem
    · exact (rest.met _).mpr (.inl ((below.mem_met_enter _).mpr (.inl rfl)))
    · exact rest.starts s mem
  known s mem := by
    obtain mem | mem := List.mem_append.mp mem
    · exact .inr ((below.known s mem).elim get?_of_mem_dependencies id)
    · obtain rfl | mem := List.mem_cons.mp mem
      · exact .inl List.mem_cons_self
      · exact (rest.known s mem).imp_left (List.mem_cons_of_mem t)
  reached s mem := by
    obtain mem | mem := List.mem_append.mp mem
    · exact ⟨t, List.mem_cons_self, (below.under mem).to_reflTransGen⟩
    · obtain rfl | mem := List.mem_cons.mp mem
      · exact ⟨s, List.mem_cons_self, .refl⟩
      · obtain ⟨r, start, path⟩ := rest.reached s mem
        have late : more ⊆ left ++ t :: more :=
          List.subset_append_of_subset_right _ (List.subset_cons_self _ _)
        exact ⟨r, List.mem_cons_of_mem t start, ReflTransGen.mono (Leads.mono late) _ _ path⟩
  closed s mem d depends := by
    have onward {name : String} (met : name ∈ u.met) : name ∈ w.met :=
      (rest.met name).mpr (.inl met)
    obtain mem | mem := List.mem_append.mp mem
    · exact onward (below.closed s mem d depends)
    · obtain rfl | mem := List.mem_cons.mp mem
      · exact onward (below.starts d depends)
      · exact rest.closed s mem d depends
  earlier _ mem _ depends := below.earlier_first rest mem depends

theorem Walks.exists_leaves (h : tables.Walks ts v w) : ∃ left, tables.Leaves ts v w left := by
  induction h with
  | done v => exact ⟨[], leaves_done v⟩
  | again met rest ih =>
    obtain ⟨left, leaves⟩ := ih
    exact ⟨left, leaves.again met⟩
  | first new below rest ihBelow ihRest =>
    obtain ⟨left, leaves⟩ := ihBelow
    obtain ⟨more, rest⟩ := ihRest
    exact ⟨_, leaves.first new rest⟩

/-- **Tables come after those that they refer to.**  The walk over the references ends, with one
order.  In it no name stands twice, and every table is one of those that the walk was started at or
the known one of its name.  There stand the names that the walk was started at and those known
tables to which references lead from them, and no others.  A known table that another one refers to
stands before it, unless references lead from it back to that one. -/
theorem referred_first (tables : Tables) (roots : List TableDecl) :
    (∀ listed, (∃ met, tables.Walks roots {} ⟨met, listed⟩) ↔ listed = tables.order roots) ∧
      ((tables.order roots).map (·.name)).Nodup ∧
      (∀ t ∈ tables.order roots, t ∈ roots ∨ tables.get? t.name = some t) ∧
      (∀ name, name ∈ (tables.order roots).map (·.name) ↔ name ∈ roots.map (·.name) ∨
        (tables.get? name).isSome = true ∧
          ∃ root ∈ roots, ReflTransGen (Refers (tables.order roots)) root.name name) ∧
      ∀ t ∈ tables.order roots, ∀ k ∈ t.foreignKeys, k.target.table ≠ t.name →
        (tables.get? k.target.table).isSome = true →
          [k.target.table, t.name].Sublist ((tables.order roots).map (·.name)) ∨
            TransGen (Refers (tables.order roots)) k.target.table t.name := by
  obtain ⟨met, walk⟩ := (walks_iff tables roots _).mpr rfl
  obtain ⟨left, leaves⟩ := walk.exists_leaves
  obtain rfl : tables.order roots = left := leaves.order
  have metIff (name : String) : name ∈ met ↔ name ∈ (tables.order roots).map (·.name) := by
    rw [leaves.met]
    simp
  -- a known table that is referred to is depended on, or the table itself
  have depends {t : TableDecl} {k : ForeignKey} (key : k ∈ t.foreignKeys)
      (other : k.target.table ≠ t.name) (known : (tables.get? k.target.table).isSome = true) :
      ∃ d ∈ tables.dependencies t, d.name = k.target.table := by
    obtain ⟨d, found⟩ := Option.isSome_iff_exists.mp known
    exact ⟨d, mem_dependencies_iff.mpr ⟨k, key, other, found⟩, name_of_get? found⟩
  have before {t d : TableDecl} (listed : t ∈ tables.order roots) (h : d ∈ tables.dependencies t) :
      [d.name, t.name].Sublist ((tables.order roots).map (·.name)) ∨
        TransGen (Refers (tables.order roots)) d.name t.name := by
    obtain met | before | back := leaves.earlier t listed d h
    · exact absurd met List.not_mem_nil
    · exact .inl before
    · exact .inr (TransGen.mono Leads.refers _ _ back)
  refine ⟨walks_iff tables roots, leaves.distinct, leaves.known, fun name => ⟨?_, ?_⟩, ?_⟩
  · intro listed
    obtain ⟨t, mem, rfl⟩ := List.mem_map.mp listed
    obtain start | known := leaves.known t mem
    · exact .inl (List.mem_map_of_mem start)
    · obtain ⟨root, start, path⟩ := leaves.reached t mem
      exact .inr ⟨Option.isSome_of_eq_some known, root, start,
        ReflTransGen.mono Leads.refers _ _ path⟩
  · rintro (start | ⟨known, root, start, path⟩)
    · obtain ⟨root, mem, rfl⟩ := List.mem_map.mp start
      exact (metIff _).mp (leaves.starts root mem)
    · obtain rfl | ⟨_, -, t, listed, rfl, k, key, rfl⟩ := ReflTransGen.cases_tail path
      · exact (metIff _).mp (leaves.starts root start)
      · by_cases other : k.target.table = t.name
        · exact other ▸ List.mem_map_of_mem listed
        · obtain ⟨d, h, named⟩ := depends key other known
          exact named ▸ (metIff _).mp (leaves.closed t listed d h)
  · intro t listed k key other known
    obtain ⟨d, h, named⟩ := depends key other known
    exact named ▸ before listed h

/-! ### Teams -/

/-- Cities, each in the district of another. -/
def cities : TableDecl :=
  { name := "cities", columns := [("district", { type := "int", references := some "cities:id" })] }

/-- Players, each of a team and from a city. -/
def players : TableDecl :=
  { name := "players"
    columns := [("team", { type := "int", references := some "teams:id" }),
      ("home", { type := "int", references := some "cities:id" })] }

/-- Teams, each with a captain. -/
def teams : TableDecl :=
  { name := "teams", columns := [("captain", { type := "int", references := some "players:id" })] }

/-- Players come after cities, but not after teams, as teams have captains. -/
theorem referred_first_teams :
    order [teams, players, cities] [teams] = [cities, players, teams] ∧
      [cities.name, players.name].Sublist [cities.name, players.name, teams.name] ∧
      TransGen (Refers [cities, players, teams]) teams.name players.name := by
  have listed : order [teams, players, cities] [teams] = [cities, players, teams] := rfl
  have before := (referred_first [teams, players, cities] [teams]).2.2.2.2
  rw [listed] at before
  have back := before players (by simp)
    { column := "team", target := ⟨"teams", "id"⟩, onDelete := .cascade, onUpdate := .cascade
      name := "players_team_fkey" } List.mem_cons_self (by decide) rfl
  exact ⟨listed, by decide, back.resolve_left (by decide)⟩

end Tables

end TableMapper
