import TableMapper.Proofs.Sql.Fragment
import TableMapper.Sql.Draft

/-!
# Statements with placeholders and with literals

The clauses of a draft are SQL text but for its values and filters, so a statement carries these
pieces and no other (`Draft.bound_of_assemble`), and is assembled in the same way whatever they hold
(`Draft.fragment_map`).

`Draft.render_bindings_agree` concludes that the two ways of rendering a draft fail alike or give
statements that differ only where the text with placeholders has a placeholder.
-/

namespace TableMapper

namespace Fragment

/-! ### Pieces that are text, and joined fragments -/

/-- There is nothing but SQL text. -/
def IsText (f : Fragment) : Prop := ∀ p ∈ f, ∃ s, p = Piece.sql s

theorem isText_nil : IsText [] := by simp [IsText]

theorem isText_ofText (s : String) : IsText (ofText s) := by simp [IsText, ofText]

theorem IsText.append {f e : Fragment} (hf : IsText f) (he : IsText e) : IsText (f ++ e) := by
  intro p hp
  exact (List.mem_append.1 hp).elim (hf p) (he p)

theorem IsText.map_eq {f : Fragment} (hf : IsText f) {g : Piece → Piece}
    (hg : ∀ s, g (.sql s) = .sql s) : List.map g f = f := by
  have h : List.map g f = List.map id f := List.map_congr_left fun p hp => by
    obtain ⟨s, rfl⟩ := hf p hp
    exact hg s
  rw [h, List.map_id]

theorem IsText.bound_eq {f : Fragment} (hf : IsText f) : f.filterMap Piece.bound? = [] := by
  rw [List.filterMap_eq_nil_iff]
  intro p hp
  obtain ⟨s, rfl⟩ := hf p hp
  rfl

theorem join_map {g : Piece → Piece} (hg : ∀ s, g (.sql s) = .sql s) (separator : String)
    (fs : List Fragment) :
    (join separator fs).map g = join separator (fs.map (List.map g)) := by
  induction fs with
  | nil => rfl
  | cons f fs ih =>
    cases fs with
    | nil => rfl
    | cons e fs =>
      rw [join, List.map_append, List.map_cons, hg, ih]
      rfl

/-- Separators are no values. -/
theorem bound_join (separator : String) (fs : List Fragment) :
    (join separator fs).filterMap Piece.bound? = fs.flatten.filterMap Piece.bound? := by
  induction fs with
  | nil => rfl
  | cons f fs ih =>
    cases fs with
    | nil => simp [join]
    | cons e fs =>
      rw [join, List.filterMap_append, List.filterMap_cons_none rfl, ih]
      simp only [List.flatten_cons, List.filterMap_append]

end Fragment

namespace Draft

open Fragment (IsText isText_nil isText_ofText)

/-- The draft with its pieces changed. -/
def map (g : Piece → Piece) (d : Draft) : Draft :=
  { d with values := List.map g d.values, filters := d.filters.map (List.map g) }

/-- The draft with nothing left of the texts and documents for columns of known type. -/
def blank (d : Draft) : Draft := d.map Piece.blank

/-- The parts of a draft that go into a statement of some kind and may hold values, in order. -/
def carried (d : Draft) : Command → Fragment
  | .select => d.filters.flatten
  | .get => d.filters.flatten
  | .insert => d.values
  | .insertAll => d.values
  | .update => d.values ++ d.filters.flatten
  | .delete => d.filters.flatten

/-! ### Clauses of text -/

theorem isText_listClause (lead : String) (items : List String) :
    IsText (listClause lead items) := by
  unfold listClause
  split_ifs
  · exact isText_nil
  · exact isText_ofText _

theorem isText_limitClause (d : Draft) : IsText d.limitClause := by
  unfold limitClause
  split
  · exact isText_nil
  · split_ifs <;> exact isText_ofText _

theorem isText_oneRowClause (d : Draft) : IsText d.oneRowClause := by
  unfold oneRowClause
  split
  · split_ifs <;> exact isText_ofText _
  · exact isText_ofText _

theorem isText_lockClause (d : Draft) : IsText d.lockClause := by
  unfold lockClause
  split
  · exact isText_ofText _
  · exact isText_nil

/-- The text of a query before its filters. -/
def queryHead (d : Draft) (target : String) : Fragment :=
  let fields := if d.fields.isEmpty then "*" else ",".intercalate (d.fields.map Sql.ident)
  Fragment.ofText ("SELECT " ++ fields ++ " FROM " ++ target) ++
    (match d.shortName with
      | some a => Fragment.ofText (" AS " ++ Sql.ident a)
      | none => []) ++
    d.joins.map fun j => .sql (" " ++ j)

/-- The text of a query after its filters, up to the cap on rows. -/
def queryTail (d : Draft) : Fragment :=
  listClause " GROUP BY " d.group ++ listClause " ORDER BY " d.order

theorem queryBody_eq (d : Draft) (target : String) :
    d.queryBody target = d.queryHead target ++ d.whereClause ++ d.queryTail :=
  List.append_assoc _ _ _

theorem isText_queryHead (d : Draft) (target : String) : IsText (d.queryHead target) := by
  refine ((isText_ofText _).append ?_).append ?_
  · split
    · exact isText_ofText _
    · exact isText_nil
  · intro p hp
    obtain ⟨j, -, rfl⟩ := List.mem_map.1 hp
    exact ⟨_, rfl⟩

theorem isText_queryTail (d : Draft) : IsText d.queryTail :=
  (isText_listClause _ _).append (isText_listClause _ _)

/-! ### Clauses around values -/

section

variable {g : Piece → Piece} (hg : ∀ s, g (.sql s) = .sql s)
include hg

theorem whereClause_map (d : Draft) : d.whereClause.map g = (d.map g).whereClause := by
  have hparen : ∀ f : Fragment,
      List.map g (.sql "(" :: (f ++ [.sql ")"])) = .sql "(" :: (f.map g ++ [.sql ")"]) := by
    intro f
    rw [List.map_cons, List.map_append, List.map_singleton, hg, hg]
  unfold whereClause map
  rw [List.isEmpty_map]
  split_ifs
  · rfl
  · rw [List.map_cons, hg, Fragment.join_map hg, List.map_map, List.map_map]
    simp only [Function.comp_def, hparen]

theorem queryBody_map (d : Draft) (target : String) :
    (d.queryBody target).map g = (d.map g).queryBody target := by
  rw [queryBody_eq, queryBody_eq, List.map_append, List.map_append,
    (d.isText_queryHead target).map_eq hg, d.isText_queryTail.map_eq hg, whereClause_map hg]
  rfl

/-- Changing the pieces before or after a statement is assembled is the same. -/
theorem assemble_map (d : Draft) (target : String) (c : Command) :
    (d.assemble target c).map (List.map g) = (d.map g).assemble target c := by
  have hempty : (d.map g).values.isEmpty = d.values.isEmpty := List.isEmpty_map
  have hvalues : d.values.map g = (d.map g).values := rfl
  have hlimit := d.isText_limitClause.map_eq hg
  have hrow := d.isText_oneRowClause.map_eq hg
  have hlock := d.isText_lockClause.map_eq hg
  have hreturning : d.returningClause.map g = (d.map g).returningClause :=
    (isText_listClause _ _).map_eq hg
  cases c with
  | select =>
    simp only [assemble, Except.map, List.map_append, queryBody_map hg, hlimit, hlock]
    rfl
  | get =>
    simp only [assemble, Except.map, List.map_append, queryBody_map hg, hrow, hlock]
    rfl
  | insert =>
    simp only [assemble, hempty]
    split_ifs
    · rfl
    · simp only [Except.map, List.map_cons, List.map_append, hg, hvalues, hreturning]
  | insertAll =>
    simp only [assemble, hempty]
    split_ifs
    · rfl
    · simp only [Except.map, List.map_cons, List.map_append, hg, hvalues, hreturning]
  | update =>
    simp only [assemble, hempty]
    split_ifs
    · rfl
    · simp only [Except.map, List.map_cons, List.map_append, hg, hvalues, whereClause_map hg,
        hreturning]
  | delete =>
    simp only [assemble, Except.map, List.map_cons, List.map_append, hg, whereClause_map hg,
      hreturning]

theorem fragment_map (d : Draft) (schema table : String) :
    (d.fragment schema table).map (List.map g) = (d.map g).fragment schema table := by
  unfold fragment
  cases hm : d.mistake with
  | some message => simp [map, hm, Except.map]
  | none =>
    cases hc : d.command with
    | none => simp [map, hm, hc, Except.map]
    | some c =>
      have ha := assemble_map hg d (Sql.qualified (d.schema.getD schema) table) c
      simpa [map, hm, hc] using ha

end

/-! ### The values of a statement -/

theorem bound_whereClause (d : Draft) :
    d.whereClause.filterMap Piece.bound? = d.filters.flatten.filterMap Piece.bound? := by
  have hparen : ∀ fs : List Fragment,
      (fs.map fun f => Piece.sql "(" :: (f ++ [.sql ")"])).flatten.filterMap Piece.bound? =
        fs.flatten.filterMap Piece.bound? := by
    intro fs
    induction fs with
    | nil => rfl
    | cons f fs ih =>
      rw [List.map_cons, List.flatten_cons, List.filterMap_append, ih,
        List.filterMap_cons_none rfl, List.flatten_cons, List.filterMap_append,
        List.filterMap_append]
      exact congrArg (· ++ _) (List.append_nil _)
  unfold whereClause
  split_ifs with h
  · rw [List.isEmpty_iff.1 h]
    rfl
  · rw [List.filterMap_cons_none rfl, Fragment.bound_join, hparen]

theorem bound_queryBody (d : Draft) (target : String) :
    (d.queryBody target).filterMap Piece.bound? = d.filters.flatten.filterMap Piece.bound? := by
  rw [queryBody_eq, List.filterMap_append, List.filterMap_append,
    (d.isText_queryHead target).bound_eq, d.isText_queryTail.bound_eq, bound_whereClause,
    List.nil_append, List.append_nil]

/-- A statement carries the values of its values and filters, in order, and no other. -/
theorem bound_of_assemble {d : Draft} {target : String} {c : Command} {f : Fragment}
    (h : d.assemble target c = .ok f) :
    f.filterMap Piece.bound? = (d.carried c).filterMap Piece.bound? := by
  have hreturning : d.returningClause.filterMap Piece.bound? = [] :=
    (isText_listClause _ _).bound_eq
  have hlock := d.isText_lockClause.bound_eq
  cases c with
  | select =>
    cases h
    rw [List.filterMap_append, List.filterMap_append, bound_queryBody,
      d.isText_limitClause.bound_eq, hlock, List.append_nil, List.append_nil]
    rfl
  | get =>
    cases h
    rw [List.filterMap_append, List.filterMap_append, bound_queryBody,
      d.isText_oneRowClause.bound_eq, hlock, List.append_nil, List.append_nil]
    rfl
  | insert =>
    simp only [assemble] at h
    split_ifs at h
    cases h
    rw [List.filterMap_cons_none rfl, List.filterMap_append, hreturning, List.append_nil]
    rfl
  | insertAll =>
    simp only [assemble] at h
    split_ifs at h
    cases h
    rw [List.filterMap_cons_none rfl, List.filterMap_append, hreturning, List.append_nil]
    rfl
  | update =>
    -- the only statement with both: its values stand before its filters
    simp only [assemble] at h
    split_ifs at h
    cases h
    rw [List.filterMap_cons_none rfl, List.filterMap_append, List.filterMap_append, hreturning,
      List.append_nil, bound_whereClause, carried, List.filterMap_append]
  | delete =>
    cases h
    rw [List.filterMap_cons_none rfl, List.filterMap_append, hreturning, List.append_nil,
      bound_whereClause]
    rfl

theorem bound_of_fragment {d : Draft} {schema table : String} {f : Fragment}
    (h : d.fragment schema table = .ok f) :
    ∃ c, d.command = some c ∧ f.filterMap Piece.bound? = (d.carried c).filterMap Piece.bound? := by
  unfold fragment at h
  split at h
  case h_1 => cases h
  case h_2 => cases h
  case h_3 c _ hc => exact ⟨c, hc, bound_of_assemble h⟩

/-! ### Both ways -/

theorem sql_render_blank (d : Draft) (schema table : String) (t : DollarTag) :
    (d.blank.render schema table .parameterized t).map (·.sql) =
      (d.render schema table .parameterized t).map (·.sql) := by
  rw [render, render, blank, ← fragment_map fun _ => rfl]
  cases d.fragment schema table with
  | error e => rfl
  | ok f => exact congrArg Except.ok (Fragment.sql_blank t f)

/-- **The two ways of rendering a draft agree.**  Both fail with the same error, or both give a
statement.  With literals there are no arguments; with placeholders these are the texts and
documents for columns of known type, in order.  The text with placeholders consists of stretches,
one for each piece of the statement; its placeholders are numbered from one, only those of texts
have a cast, and with each of them replaced by the literal of its argument it is the text with
literals.  It does not depend on what the texts and documents hold. -/
theorem render_bindings_agree (d : Draft) (schema table : String) (t : DollarTag) :
    ((∃ e, d.render schema table .parameterized t = .error e ∧
        d.render schema table .inline t = .error e) ∨
      ∃ c f p i ss, d.command = some c ∧ d.fragment schema table = .ok f ∧
        d.render schema table .parameterized t = .ok p ∧
        d.render schema table .inline t = .ok i ∧
        i.args = [] ∧ p.args = (d.carried c).filterMap Piece.bound? ∧
        List.Forall₂ (Stretch.Shows t) f ss ∧
        ss.filterMap Stretch.number? = List.range' 1 p.args.length ∧
        p.sql = String.join (ss.map Stretch.text) ∧
        i.sql = String.join (ss.map (Stretch.filled t p.args))) ∧
    (d.blank.render schema table .parameterized t).map (·.sql) =
      (d.render schema table .parameterized t).map (·.sql) := by
  refine ⟨?_, sql_render_blank d schema table t⟩
  cases h : d.fragment schema table with
  | error e =>
    left
    exact ⟨e, by rw [render, h]; rfl, by rw [render, h]; rfl⟩
  | ok f =>
    right
    obtain ⟨c, hc, hbound⟩ := bound_of_fragment h
    refine ⟨c, f, Fragment.render .parameterized t f, Fragment.render .inline t f,
      Fragment.stretches t 0 f, hc, rfl, by rw [render, h]; rfl, by rw [render, h]; rfl,
      Fragment.arguments_inline f, ?_, Fragment.shows_stretches t 0 f,
      Fragment.numbers_stretches t 0 f, Fragment.sql_parameterized t f, Fragment.sql_inline t f⟩
    exact (Fragment.arguments_parameterized f).trans hbound

end Draft

end TableMapper
