import Mathlib.Data.List.Induction
import TableMapper.Rows.Import

/-!
# Sorted entries

* `Sorted.entries` are the entries that were sorted, list by list.
* `Sorted.Sorts` says that entries are sorted: each went to exactly one list, in which it may be.
* `Sorted.sorts_ofEntries`: the entries of an import are.
-/

namespace TableMapper

namespace Sorted

/-- The sorted entries, one list after the other. -/
def entries (s : Sorted) : List Json :=
  s.notRows ++ s.unknown.map .object ++ s.invalid.map (.object ·.1) ++ s.fresh.map .object ++
    s.keyed.map .object

section

variable (t : TableDecl) (key : String)

/-- All names of the row are those of columns that the table keeps. -/
def Known (row : Row) : Prop := ∀ name ∈ row.names, t.keeps name = true

/-- The row may be imported. -/
structure Accepted (row : Row) : Prop where
  known : Known t row
  valid : t.validateRow row = .ok ()

/-- The entries are sorted.  No entry fits in two of the lists. -/
structure Sorts (es : List Json) (s : Sorted) : Prop where
  /-- Each entry is in one list, and as often as it was given. -/
  perm : s.entries.Perm es
  notRows : ∀ e ∈ s.notRows, ∀ row, e ≠ .object row
  unknown : ∀ row ∈ s.unknown, ¬ Known t row
  invalid : ∀ r ∈ s.invalid, Known t r.1 ∧ t.validateRow r.1 = .error r.2
  fresh : ∀ row ∈ s.fresh, Accepted t row ∧ (row.get? key = none ∨ row.get? key = some .null)
  keyed : ∀ row ∈ s.keyed, Accepted t row ∧ ∃ v, row.get? key = some v ∧ v.isNull = false
  /-- Rows to be written are in the order in which they were given. -/
  fresh_sublist : (s.fresh.map Json.object).Sublist es
  keyed_sublist : (s.keyed.map Json.object).Sublist es

end

variable {t : TableDecl} {key : String} {es : List Json} {s : Sorted}

theorem hasKey_iff {row : Row} :
    hasKey key row = true ↔ ∃ v, row.get? key = some v ∧ v.isNull = false := by
  simp [hasKey, Option.any_eq_true]

theorem not_hasKey_iff {row : Row} :
    hasKey key row = false ↔ row.get? key = none ∨ row.get? key = some .null := by
  rw [hasKey]
  cases row.get? key with
  | none => simp
  | some v => cases v <;> simp [Json.isNull]

theorem known_iff {row : Row} :
    Known t row ↔ (Row.names row).any (!t.keeps ·) = false := by
  simp [Known]

/-- One list has an entry more, which stands in the middle of the others. -/
theorem perm_of_middle {s' : Sorted} (h : s.entries.Perm es) {e : Json} (before after : List Json)
    (old : s.entries = before ++ after) (new : s'.entries = before ++ e :: after) :
    s'.entries.Perm (es ++ [e]) := by
  rw [old] at h
  rw [new]
  exact List.perm_middle.trans ((h.cons e).trans (List.perm_append_singleton e es).symm)

/-- What holds of the members of a list and of one more. -/
theorem forall_mem_snoc {α : Type} {p : α → Prop} {xs : List α} {x : α} (h : ∀ a ∈ xs, p a)
    (hx : p x) : ∀ a ∈ xs ++ [x], p a :=
  List.forall_mem_append.mpr ⟨h, List.forall_mem_singleton.mpr hx⟩

namespace Sorts

variable (h : Sorts t key es s)

include h

theorem fresh_grow (e : Json) : (s.fresh.map Json.object).Sublist (es ++ [e]) :=
  h.fresh_sublist.trans (List.sublist_append_left _ _)

theorem keyed_grow (e : Json) : (s.keyed.map Json.object).Sublist (es ++ [e]) :=
  h.keyed_sublist.trans (List.sublist_append_left _ _)

theorem addNotRow {e : Json} (other : ∀ row, e ≠ .object row) :
    Sorts t key (es ++ [e]) { s with notRows := s.notRows ++ [e] } :=
  { h with
    perm := perm_of_middle h.perm s.notRows (s.unknown.map .object ++
      s.invalid.map (.object ·.1) ++ s.fresh.map .object ++ s.keyed.map .object)
      (by simp [entries]) (by simp [entries])
    notRows := forall_mem_snoc h.notRows other
    fresh_sublist := h.fresh_grow e
    keyed_sublist := h.keyed_grow e }

variable {row : Row}

theorem addUnknown (strange : ¬ Known t row) :
    Sorts t key (es ++ [.object row]) { s with unknown := s.unknown ++ [row] } :=
  { h with
    perm := perm_of_middle h.perm (s.notRows ++ s.unknown.map .object)
      (s.invalid.map (.object ·.1) ++ s.fresh.map .object ++ s.keyed.map .object)
      (by simp [entries]) (by simp [entries])
    unknown := forall_mem_snoc h.unknown strange
    fresh_sublist := h.fresh_grow _
    keyed_sublist := h.keyed_grow _ }

theorem addInvalid {e : Error} (known : Known t row) (refused : t.validateRow row = .error e) :
    Sorts t key (es ++ [.object row]) { s with invalid := s.invalid ++ [(row, e)] } :=
  { h with
    perm := perm_of_middle h.perm
      (s.notRows ++ s.unknown.map .object ++ s.invalid.map (.object ·.1))
      (s.fresh.map .object ++ s.keyed.map .object) (by simp [entries]) (by simp [entries])
    invalid := forall_mem_snoc h.invalid ⟨known, refused⟩
    fresh_sublist := h.fresh_grow _
    keyed_sublist := h.keyed_grow _ }

theorem addFresh (accepted : Accepted t row) (keyless : hasKey key row = false) :
    Sorts t key (es ++ [.object row]) { s with fresh := s.fresh ++ [row] } :=
  { h with
    perm := perm_of_middle h.perm (s.notRows ++ s.unknown.map .object ++
      s.invalid.map (.object ·.1) ++ s.fresh.map .object) (s.keyed.map .object)
      (by simp [entries]) (by simp [entries])
    fresh := forall_mem_snoc h.fresh ⟨accepted, not_hasKey_iff.mp keyless⟩
    fresh_sublist := by simpa using h.fresh_sublist.append_right [.object row]
    keyed_sublist := h.keyed_grow _ }

theorem addKeyed (accepted : Accepted t row) (carries : hasKey key row = true) :
    Sorts t key (es ++ [.object row]) { s with keyed := s.keyed ++ [row] } :=
  { h with
    perm := perm_of_middle h.perm s.entries [] (List.append_nil _).symm (by simp [entries])
    keyed := forall_mem_snoc h.keyed ⟨accepted, hasKey_iff.mp carries⟩
    fresh_sublist := h.fresh_grow _
    keyed_sublist := by simpa using h.keyed_sublist.append_right [.object row] }

/-- An entry goes to the end of one list, and the other lists stay as they are. -/
theorem add (e : Json) : Sorts t key (es ++ [e]) (s.add t key e) := by
  cases e with
  | object row =>
    dsimp only [Sorted.add]
    by_cases strange : (Row.names row).any (!t.keeps ·) = true
    · rw [if_pos strange]
      refine h.addUnknown fun known => ?_
      rw [known_iff.mp known] at strange
      cases strange
    · rw [if_neg strange]
      have known : Known t row := known_iff.mpr (Bool.eq_false_iff.mpr strange)
      cases valid : t.validateRow row with
      | error m => exact h.addInvalid known valid
      | ok =>
        cases carries : hasKey key row with
        | true => exact h.addKeyed ⟨known, valid⟩ carries
        | false => exact h.addFresh ⟨known, valid⟩ carries
  | _ => exact h.addNotRow fun row => Json.noConfusion

end Sorts

/-- **The entries of an import are sorted.** -/
theorem sorts_ofEntries (t : TableDecl) (key : String) (es : List Json) :
    Sorts t key es (ofEntries t key es) := by
  induction es using List.reverseRecOn with
  | nil =>
    refine ⟨.nil, ?_, ?_, ?_, ?_, ?_, .slnil, .slnil⟩ <;>
      exact fun _ hx => absurd hx List.not_mem_nil
  | append_singleton es e ih =>
    rw [ofEntries, List.foldl_append]
    exact ih.add e

end Sorted

end TableMapper
