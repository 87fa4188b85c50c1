import Mathlib.Data.List.Nodup
import TableMapper.Proofs.Table.Traversal
import TableMapper.Schema.Catalog
import TableMapper.Table.Reader

/-!
# Columns of a declaration

No two columns of a declaration have one name: a column that is set takes the place of the one of
its name (`TableDecl.nodup_setColumn`), and so does one that is read (`TableDecl.nodup_read?`).
Neither do two columns of a catalog (`Catalog.nodup_columnsOfRows`).

Declaring a column puts it in the place of the one of its name (`putColumn_of_found`), or else at
the end (`putColumn_of_absent`).  The columns of an object are declared in their order
(`columnsOfDocument?_object`), so with different names they are the columns of the table
(`foldl_putColumn`).
-/

namespace TableMapper

namespace TableDecl

/-- The columns have different names. -/
abbrev Distinct (columns : List (String × ColumnDecl)) : Prop := (columns.map Prod.fst).Nodup

theorem map_fst_putColumn (name : String) (c : ColumnDecl) (columns : List (String × ColumnDecl)) :
    (putColumn name c columns).map Prod.fst =
      if name ∈ columns.map Prod.fst then columns.map Prod.fst
      else columns.map Prod.fst ++ [name] := by
  induction columns with
  | nil => rfl
  | cons entry columns ih =>
    obtain ⟨n, d⟩ := entry
    rw [putColumn]
    split
    next same => simp [same]
    next other =>
      rw [List.map_cons, ih]
      simp only [List.map_cons, List.mem_cons, show name ≠ n from fun same => other same.symm,
        false_or]
      split <;> rfl

theorem distinct_putColumn {name : String} {c : ColumnDecl} {columns : List (String × ColumnDecl)}
    (h : Distinct columns) : Distinct (putColumn name c columns) := by
  rw [Distinct, map_fst_putColumn]
  split
  next => exact h
  next absent =>
    refine List.Nodup.append h (List.nodup_singleton name) ?_
    simpa using absent

/-- A column that is set leaves the names different. -/
theorem nodup_setColumn {t : TableDecl} {name : String} {c : ColumnDecl}
    (h : t.columnNames.Nodup) : (t.setColumn name c).columnNames.Nodup :=
  distinct_putColumn h

theorem distinct_columnsOfDocument? {room : Nat} {d : Document}
    {columns : List (String × ColumnDecl)} (h : columnsOfDocument? room d = some columns) :
    Distinct columns := by
  cases d with
  | object members =>
    rw [columnsOfDocument?] at h
    have start : Distinct ([] : List (String × ColumnDecl)) := List.nodup_nil
    generalize ([] : List (String × ColumnDecl)) = sofar at h start
    induction members generalizing sofar with
    | nil =>
      obtain rfl := Option.some.inj h
      exact start
    | cons member members ih =>
      rw [List.foldlM_cons] at h
      obtain ⟨next, read, h⟩ := Option.bind_eq_some_iff.mp h
      obtain ⟨c, -, put⟩ := Option.bind_eq_some_iff.mp read
      obtain rfl := Option.some.inj put
      exact ih _ h (distinct_putColumn start)
  | _ => exact nomatch h

/-- The columns of a declaration that is read have different names. -/
theorem nodup_read? {text : String} {t : TableDecl} (h : read? text = some t) :
    t.columnNames.Nodup := by
  obtain ⟨d, -, h⟩ := Option.bind_eq_some_iff.mp h
  rw [ofDocument?] at h
  obtain ⟨fields, -, h⟩ := Option.bind_eq_some_iff.mp h
  split at h
  next =>
    obtain ⟨name, -, h⟩ := Option.bind_eq_some_iff.mp h
    obtain ⟨columns, read, h⟩ := Option.bind_eq_some_iff.mp h
    -- the nine fields after the columns
    iterate 9 obtain ⟨_, -, h⟩ := Option.bind_eq_some_iff.mp h
    obtain rfl := Option.some.inj h
    exact distinct_columnsOfDocument? read
  next => exact nomatch h

end TableDecl

namespace Catalog

theorem map_name_putColumn (c : CatalogColumn) (columns : List CatalogColumn) :
    (putColumn c columns).map (·.name) =
      if c.name ∈ columns.map (·.name) then columns.map (·.name)
      else columns.map (·.name) ++ [c.name] := by
  induction columns with
  | nil => rfl
  | cons d columns ih =>
    rw [putColumn]
    split
    next same => simp [same]
    next other =>
      rw [List.map_cons, ih]
      simp only [List.map_cons, List.mem_cons, show c.name ≠ d.name from fun same => other same.symm,
        false_or]
      split <;> rfl

/-- The columns that the catalog reports have different names. -/
theorem nodup_columnsOfRows (rows : List Row) : ((columnsOfRows rows).map (·.name)).Nodup := by
  rw [columnsOfRows]
  have start : (([] : List CatalogColumn).map (·.name)).Nodup := List.nodup_nil
  generalize ([] : List CatalogColumn) = sofar at start
  induction rows.filterMap CatalogColumn.ofRow? generalizing sofar with
  | nil => exact start
  | cons c columns ih =>
    rw [List.foldl_cons]
    refine ih _ ?_
    rw [map_name_putColumn]
    split
    next => exact start
    next absent =>
      refine List.Nodup.append start (List.nodup_singleton c.name) ?_
      simpa using absent

end Catalog

/-! ### Columns that are declared one after the other -/

namespace TableDecl

variable {name : String} {c : ColumnDecl}

/-- A column that is declared again takes the place of the one of its name. -/
theorem putColumn_of_found {before after : List (String × ColumnDecl)} {d : ColumnDecl}
    (first : name ∉ before.map Prod.fst) :
    putColumn name c (before ++ (name, d) :: after) = before ++ (name, c) :: after := by
  induction before with
  | nil => rw [List.nil_append, putColumn, if_pos rfl, List.nil_append]
  | cons entry before ih =>
    rw [List.map_cons, List.mem_cons, not_or] at first
    rw [List.cons_append, putColumn, if_neg (Ne.symm first.1), ih first.2, List.cons_append]

/-- A column of a new name is added at the end. -/
theorem putColumn_of_absent {columns : List (String × ColumnDecl)}
    (new : name ∉ columns.map Prod.fst) : putColumn name c columns = columns ++ [(name, c)] := by
  induction columns with
  | nil => rfl
  | cons entry columns ih =>
    rw [List.map_cons, List.mem_cons, not_or] at new
    rw [putColumn, if_neg (Ne.symm new.1), ih new.2, List.cons_append]

/-- Columns of different names, declared one after the other. -/
theorem foldl_putColumn {sofar columns : List (String × ColumnDecl)}
    (h : Distinct (sofar ++ columns)) :
    columns.foldl (fun columns column => putColumn column.1 column.2 columns) sofar =
      sofar ++ columns := by
  induction columns generalizing sofar with
  | nil => simp
  | cons column columns ih =>
    have new : column.1 ∉ sofar.map Prod.fst := by
      intro there
      rw [Distinct, List.map_append, List.nodup_append] at h
      exact h.2.2 _ there _ (by simp) rfl
    rw [List.foldl_cons, putColumn_of_absent new, ih (by simpa using h)]
    simp

/-- Declaring columns changes nothing but the columns. -/
theorem foldl_setColumn (t : TableDecl) (news : List (String × ColumnDecl)) :
    news.foldl (fun t column => t.setColumn column.1 column.2) t =
      { t with
        columns := news.foldl (fun columns new => putColumn new.1 new.2 columns) t.columns } := by
  induction news generalizing t with
  | nil => rfl
  | cons new news ih => rw [List.foldl_cons, ih, List.foldl_cons, setColumn]

/-- A column under its name as it is read; `room` is the nesting that is left. -/
def readColumn? (room : Nat) (m : String × Document) : Option (String × ColumnDecl) :=
  (ColumnDecl.ofDocument? room m.2).map fun c => (m.1, c)

/-- The columns of an object are read, and then declared in their order. -/
theorem columnsOfDocument?_object (room : Nat) (ms : List (String × Document)) :
    columnsOfDocument? room (.object ms) =
      (ms.mapM (readColumn? (room - 1))).map
        (·.foldl (fun columns column => putColumn column.1 column.2 columns) []) := by
  rw [columnsOfDocument?]
  generalize ([] : List (String × ColumnDecl)) = sofar
  induction ms generalizing sofar with
  | nil => rfl
  | cons m ms ih =>
    obtain ⟨name, d⟩ := m
    rw [List.foldlM_cons, List.mapM_cons, readColumn?]
    cases read : ColumnDecl.ofDocument? (room - 1) d with
    | none => simp [read]
    | some c =>
      simp only [read, Option.bind_eq_bind, Option.bind_some, Option.map_some, Option.pure_def]
      refine (ih (putColumn name c sofar)).trans ?_
      cases ms.mapM (readColumn? (room - 1)) <;> rfl

end TableDecl

end TableMapper
