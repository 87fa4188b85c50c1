import TableMapper.Proofs.Builder.Filter
import TableMapper.Proofs.Builder.Filtered
import TableMapper.Proofs.Sql.Filling

/-!
# Marks and arguments

A template has one argument for each of its marks.

* `Template.Filled.untyped_eq` and `Template.Filled.marked_eq`: a filled template has the arguments
  in order, and with its marks back it is the template.
* `Condition.Uses` are the templates that a condition is written from.
* `Builder.Reports` says that a builder has a message instead of a statement.
* `Template.marks_paired`: a template with as many arguments as marks is filled, and any other one
  is reported.
-/

namespace TableMapper

/-- The value of a piece without a type. -/
def Piece.untyped? : Piece → Option Value
  | .untyped v => some v
  | _ => none

/-- The text of a piece in a template, where a mark stands for a value. -/
def Piece.marked : Piece → List Char
  | .sql s => s.toList
  | .value _ _ | .untyped _ => ['?']

/-! ### Filled templates -/

namespace Template

namespace Filled

variable {cs : List Char} {args : List Value} {f : Fragment}

theorem untyped_eq (h : Filled cs args f) : f.filterMap Piece.untyped? = args := by
  induction h with
  | nothing => rfl
  | text part own => rfl
  | mark v rest ih => exact congrArg (v :: ·) ih
  | part part v own some rest ih => exact congrArg (v :: ·) ih

theorem marked_eq (h : Filled cs args f) : f.flatMap Piece.marked = cs := by
  induction h with
  | nothing => rfl
  | text part own => simp [Piece.marked]
  | mark v rest ih => rw [List.flatMap_cons, ih]; rfl
  | part part v own some rest ih =>
    rw [List.flatMap_cons, List.flatMap_cons, ih, Piece.marked, String.toList_ofList]
    rfl

theorem count_eq (h : Filled cs args f) : cs.count '?' = args.length := by
  induction h with
  | nothing => rfl
  | text part own => exact List.count_eq_zero.mpr own
  | mark v rest ih => rw [List.count_cons_self, ih, List.length_cons]
  | part part v own some rest ih =>
    rw [List.count_append, List.count_eq_zero.mpr own, Nat.zero_add, List.count_cons_self, ih,
      List.length_cons]

end Filled

/-- A template can be filled if it has as many marks as there are arguments. -/
theorem exists_expand_iff (sql : String) (args : List Value) :
    (∃ f, expand sql args = .ok f) ↔ sql.toList.count '?' = args.length := by
  refine ⟨fun ⟨f, filled⟩ => (filled_of_expand filled).count_eq, fun counted => ?_⟩
  unfold expand
  dsimp only
  rw [if_neg (not_not.mpr counted)]
  split_ifs
  · exact ⟨_, rfl⟩
  · exact ⟨_, rfl⟩

end Template

/-! ### Conditions with templates -/

namespace Condition

/-- The condition is written from a template with arguments.  It is that of the condition itself,
unless it is blank, or an expression among the entries. -/
inductive Uses (sql : String) (args : List Value) : Condition → Prop where
  | whole (written : Text.isBlankText sql = false) : Uses sql args (.template sql args)
  | expression {es : List (String × Comparison)} (entry : (sql, .raw args) ∈ es) :
    Uses sql args (.entries es)

variable {sql : String} {args : List Value} {c : Condition}

/-- A bracketed key of a map is an expression. -/
theorem uses_ofJson {ms : List (String × Json)} {key : String} {value : Json}
    (member : (key, value) ∈ ms) (bracketed : bracketed? key = some sql) :
    (ofJson (.object ms)).Uses sql (argumentsOf value) := by
  refine .expression (List.mem_map.mpr ⟨(key, value), member, ?_⟩)
  simp only [entryOf, bracketed]

/-- A condition whose template has another number of arguments than marks cannot be written. -/
theorem Uses.exists_error (h : c.Uses sql args) (mismatch : sql.toList.count '?' ≠ args.length)
    (decl : Option TableDecl) : ∃ m, Filter.fragment? decl c = .error m := by
  obtain ⟨m, unfilled⟩ : ∃ m, Template.expand sql args = .error m := by
    cases filled : Template.expand sql args with
    | error m => exact ⟨m, rfl⟩
    | ok f => exact absurd ((Template.exists_expand_iff sql args).mp ⟨f, filled⟩) mismatch
  cases h with
  | whole written =>
    refine ⟨m, ?_⟩
    simp only [Filter.fragment?, isEmpty, written, unfilled]
    rfl
  | @expression es entry =>
    have failed : Filter.entry? decl sql (.raw args) = .error m := by
      simp only [Filter.entry?, unfilled]
      rfl
    cases compiled : Filter.fragment? decl (.entries es) with
    | error m => exact ⟨m, rfl⟩
    | ok part =>
      obtain ⟨f, passed⟩ := Filter.exists_fragment?_iff.mp ⟨part, compiled⟩ _ entry
      cases failed.symm.trans passed

end Condition

/-! ### Reports -/

namespace Builder

/-- Instead of a statement there is this message: every terminal fails with it, and nothing is
sent. -/
structure Reports (b : Builder) (message : String) : Prop where
  unwritten (t : Terminal) (supply : IdSupply) : b.outcome t supply = .error (.usage message)
  refused {σ : Type} [Backend σ] (s : Session σ) {f : Finish} {t : Terminal}
    (terminal : f.terminal? = some t) : (f.run (b, s)).1 = .error (.usage message)
  unsent {σ : Type} [Backend σ] (s : Session σ) {f : Finish} {t : Terminal}
    (terminal : f.terminal? = some t) :
    (f.run (b, s)).2.2.journal = s.journal ∧ (f.run (b, s)).2.2.database = s.database

variable {b : Builder} {m : String}

theorem reports_of_mistake (bound : b.table.isSome = true) (h : b.draft.mistake = some m) :
    b.Reports m where
  unwritten := outcome_of_mistake bound h
  refused {_ _} s {_ t} terminal := by
    rw [Finish.run_unrendered terminal (outcome_of_mistake bound h t s.supply)]
  unsent {_ _} s {_ t} terminal := by
    rw [Finish.run_unrendered terminal (outcome_of_mistake bound h t s.supply)]
    exact ⟨rfl, rfl⟩

/-- A condition that cannot be written is reported, unless there was a mistake before it. -/
theorem reports_filter (bound : b.table.isSome = true) {c : Condition}
    (failed : Filter.fragment? b.decl c = .error m) (later : List Clause) :
    ((b.add (.filter c)).addAll later).Reports (b.draft.mistake.getD m) := by
  refine reports_of_mistake ?_ ?_
  · rwa [table_addAll, table_add]
  · rw [mistake_addAll, mistake_add]
    simp only [Clause.mistake?, failed]
    cases b.draft.mistake <;> rfl

end Builder

namespace Template

/-- **Marks and arguments are paired.**  A template can be filled with arguments if it has as many
marks as there are arguments.  The values of what it becomes are the arguments, in order and without
a type, and with a mark in place of each it is the template again.  With another number of arguments
any condition that is written from the template, be it a filter or the bracketed key of a map, is a
mistake: whatever is added later, a builder for a table reports the mistake, or one from before it,
and sends nothing.  A blank template is no mistake with any arguments, but requires nothing. -/
theorem marks_paired (sql : String) (args : List Value) :
    ((∃ f, expand sql args = .ok f) ↔ sql.toList.count '?' = args.length) ∧
      (∀ f, expand sql args = .ok f →
        f.filterMap Piece.untyped? = args ∧
          (∀ p ∈ f, (∃ s, p = .sql s) ∨ ∃ v, p = .untyped v) ∧
          f.flatMap Piece.marked = sql.toList) ∧
      (sql.toList.count '?' ≠ args.length →
        ∀ c : Condition, c.Uses sql args → ∀ b : Builder, b.table.isSome = true →
          ∃ m, Filter.fragment? b.decl c = .error m ∧
            ∀ later, ((b.add (.filter c)).addAll later).Reports (b.draft.mistake.getD m)) ∧
      (∀ ms key value, (key, value) ∈ ms → Condition.bracketed? key = some sql →
        Condition.argumentsOf value = args → (Condition.ofJson (.object ms)).Uses sql args) ∧
      (Text.isBlankText sql = true → ∀ b : Builder, b.add (.filter (.template sql args)) = b) := by
  refine ⟨exists_expand_iff sql args, fun f filled => ?_, ?_, ?_, ?_⟩
  · have filled := filled_of_expand filled
    exact ⟨filled.untyped_eq, fun p hp => filled.sql_or_untyped hp, filled.marked_eq⟩
  · intro mismatch c used b bound
    obtain ⟨m, failed⟩ := used.exists_error mismatch b.decl
    exact ⟨m, failed, Builder.reports_filter bound failed⟩
  · rintro ms key value member bracketed rfl
    exact Condition.uses_ofJson member bracketed
  · intro blank b
    simp [Builder.add, Filter.fragment?, Condition.isEmpty, blank]

example : expand "?? = lower(?)" [.int 1, .text "a", .null] =
    .ok [.untyped (.int 1), .untyped (.text "a"), .sql " = lower(", .untyped .null, .sql ")"] := rfl

/-- A deletion of users by a blank template: it has one argument and no mark, but no mistake is
reported and there is no WHERE clause. -/
theorem blank_template_unchecked :
    let b := Builder.users.add (.filter (.template " " [.int 1]))
    " ".toList.count '?' ≠ [Value.int 1].length ∧ Builder.users.table.isSome = true ∧
      b.outcome .delete Builder.still = .ok { sql := "DELETE FROM public.users", args := [] } :=
  ⟨by decide, rfl, rfl⟩

end Template

end TableMapper
