import TableMapper.Builder.Filter
import TableMapper.Proofs.Table.Traversal

/-!
# Compiled conditions

* `Filter.operand` is the one piece of a value that is compared with a column or written to it.
* `Filter.Compiles` relates the entries of a condition to the fragments that they give, and
  `Filter.fragment?_of_compiles` is the fragment of the whole condition.
-/

namespace TableMapper

namespace Filter

/-- The piece of a value for a column.  It is adapted to the declared type of the column, to which
its placeholder may be cast. -/
def operand (decl : Option TableDecl) (column : String) (castable : Bool) (v : Value) : Piece :=
  match decl.bind (·.column? (bareName column)) with
  | none => .untyped v
  | some c =>
    let type := Text.lowerAscii (Text.trim c.type)
    .value (adapt type v) (if castable then placeholderCast? type else none)

variable {decl : Option TableDecl}

theorem columnValue_eq (column : String) (v : Value) (castable : Bool) :
    columnValue decl column v castable = [operand decl column castable v] := by
  unfold columnValue operand
  cases decl.bind (·.column? (bareName column)) <;> rfl

/-! ### Entries -/

theorem entry?_ops (key : String) {relations : List (String × Value)} (given : relations ≠ []) :
    entry? decl key (.ops relations) =
      (relations.mapM fun r => relation decl key r.1 r.2).map fun parts =>
        some (Fragment.join " AND " parts) := by
  rw [ entry?]
  · rfl
  · exact given

/-- The entries of a condition give these fragments; none stands for an entry that requires
nothing. -/
def Compiles (decl : Option TableDecl) (entries : List (String × Comparison))
    (parts : List (Option Fragment)) : Prop :=
  List.Forall₂ (fun e part => entry? decl e.1 e.2 = .ok part) entries parts

variable {entries : List (String × Comparison)}

theorem isEmpty_entries (filled : entries ≠ []) : (Condition.entries entries).isEmpty = false := by
  simpa [Condition.isEmpty] using filled

theorem fragment?_entries (filled : entries ≠ []) :
    fragment? decl (.entries entries) =
      (entries.mapM fun e => entry? decl e.1 e.2).map fun parts =>
        if (parts.filterMap id).isEmpty then none
        else some (Fragment.join " AND " (parts.filterMap id)) := by
  unfold fragment?
  rw [isEmpty_entries filled, if_neg Bool.false_ne_true]
  rfl

/-- Entries can be written if each of them can. -/
theorem exists_fragment?_iff :
    (∃ part, fragment? decl (.entries entries) = .ok part) ↔
      ∀ e ∈ entries, ∃ part, entry? decl e.1 e.2 = .ok part := by
  by_cases filled : entries = []
  · subst filled
    exact ⟨fun _ e he => absurd he List.not_mem_nil, fun _ => ⟨none, rfl⟩⟩
  rw [fragment?_entries filled, ← exists_mapM_iff]
  cases entries.mapM fun e => entry? decl e.1 e.2 with
  | error m => simp [Except.map]
  | ok parts => simp [Except.map]

/-- A condition whose entries can be written is the conjunction of what they give; it requires
nothing if none of them gives anything. -/
theorem fragment?_of_compiles (filled : entries ≠ []) {parts : List (Option Fragment)}
    (h : Compiles decl entries parts) :
    fragment? decl (.entries entries) =
      .ok (if (parts.filterMap id).isEmpty then none
        else some (Fragment.join " AND " (parts.filterMap id))) := by
  rw [fragment?_entries filled, mapM_eq_ok_iff.mpr h]
  rfl

/-- The fragments of entries, and what they come to. -/
theorem exists_compiles {first : Option Fragment}
    (h : fragment? decl (.entries entries) = .ok first) :
    ∃ parts, Compiles decl entries parts ∧
      first = if (parts.filterMap id).isEmpty then none
        else some (Fragment.join " AND " (parts.filterMap id)) := by
  by_cases filled : entries = []
  · subst filled
    cases h
    exact ⟨[], .nil, rfl⟩
  obtain ⟨parts, compiled⟩ : ∃ parts, Compiles decl entries parts :=
    exists_forall₂ (exists_fragment?_iff.mp ⟨first, h⟩)
  rw [fragment?_of_compiles filled compiled] at h
  exact ⟨parts, compiled, (Except.ok.inj h).symm⟩

/-- What a condition that requires something is made of. -/
theorem compiles_of_fragment? (filled : entries ≠ []) {f : Fragment}
    (h : fragment? decl (.entries entries) = .ok (some f)) :
    ∃ parts, Compiles decl entries parts ∧ parts.filterMap id ≠ [] ∧
      f = Fragment.join " AND " (parts.filterMap id) := by
  rw [fragment?_entries filled] at h
  cases all : entries.mapM fun e => entry? decl e.1 e.2 with
  | error m =>
    rw [all] at h
    cases h
  | ok parts =>
    rw [all] at h
    have joined := Except.ok.inj h
    dsimp only at joined
    split_ifs at joined with vanished
    exact ⟨parts, mapM_eq_ok_iff.mp all, by simpa using vanished, (Option.some.inj joined).symm⟩

/-- A condition fails with the error of its first entry that cannot be written. -/
theorem fragment?_of_failed {before after : List (String × Comparison)} {e : String × Comparison}
    {message : String} (passed : ∀ x ∈ before, ∃ part, entry? decl x.1 x.2 = .ok part)
    (failed : entry? decl e.1 e.2 = .error message) :
    fragment? decl (.entries (before ++ e :: after)) = .error message := by
  rw [fragment?_entries (by simp), mapM_eq_error passed failed]
  rfl

end Filter

end TableMapper
