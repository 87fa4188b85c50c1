import TableMapper.Proofs.Session.Events

/-!
# Statements of one builder

A builder that is used for several statements writes each of them as if it were new.

* `Builder.blank` is a new builder for the same table, and `Builder.outcome` the statement that a
  builder writes for a terminal, or the error instead of it.
* `BuilderCall` is a call of a builder, and `BuilderCall.pending` are the clauses since the last
  statement.
* `Finish.builder_run` is the builder after the end of a use.
* `BuilderCall.statements_isolated` says that a builder writes after any calls what a new one writes
  with the pending clauses alone.
-/

namespace TableMapper

variable {σ : Type}

namespace Builder

/-- A new builder with the same tag and binding, for the same table. -/
def blank (b : Builder) : Builder :=
  { tag := b.tag
    binding := b.binding
    target := .pool
    schema := b.schema
    table := b.table
    decl := b.decl }

/-- The builder as far as its statements go. -/
def core (b : Builder) : Builder :=
  { b with target := .pool, queue := none, state := .free, notify := .off }

/-- The statement for a terminal, or the error instead of it. -/
def outcome (b : Builder) (t : Terminal) (supply : IdSupply) : Except Error Statement :=
  (b.prepare t supply).1.statement

/-! ### What statements depend on -/

theorem core_add (b : Builder) (c : Clause) : (b.add c).core = (b.core.add c).core := by
  cases c with
  | filter c =>
    simp only [add, show b.core.decl = b.decl from rfl]
    split <;> rfl
  | _ => rfl

theorem blank_addAll (b : Builder) (clauses : List Clause) :
    (b.addAll clauses).blank = b.blank := by
  have same := congrArg blank (b.spent_addAll clauses)
  exact same

theorem prepareInsert_core (b : Builder) (rows : List Row) (command : Command)
    (supply : IdSupply) :
    b.core.prepareInsert rows command supply =
      ((b.prepareInsert rows command supply).1.core,
        (b.prepareInsert rows command supply).2) := by
  unfold prepareInsert
  split <;> rfl

theorem prepare_core (b : Builder) (t : Terminal) (supply : IdSupply) :
    b.core.prepare t supply = ((b.prepare t supply).1.core, (b.prepare t supply).2) := by
  cases t with
  | insert row => exact b.prepareInsert_core [row] .insert supply
  | insertAll rows => exact b.prepareInsert_core rows .insertAll supply
  | _ => rfl

/-- Builders of one core write the same statements, and make as many keys for them. -/
theorem outcome_congr {b b' : Builder} (h : b.core = b'.core) (t : Terminal) (supply : IdSupply) :
    b.outcome t supply = b'.outcome t supply ∧
      (b.prepare t supply).2 = (b'.prepare t supply).2 := by
  have same : ((b.prepare t supply).1.core, (b.prepare t supply).2) =
      ((b'.prepare t supply).1.core, (b'.prepare t supply).2) := by
    rw [← prepare_core, ← prepare_core, h]
  obtain ⟨cores, rest⟩ := Prod.mk.inj same
  have statements := congrArg statement cores
  exact ⟨statements, rest⟩

/-! ### What a statement leaves -/

theorem spent_prepare (b : Builder) (t : Terminal) (supply : IdSupply) :
    BuilderM.spent (b.prepare t supply).1 = BuilderM.spent b :=
  congrArg (fun b : Builder => { b with notify := .off }) (b.cleared_prepare t supply)

/-! ### Mistakes -/

end Builder

/-- The mistake of a clause, if it is one that cannot be written. -/
def Clause.mistake? (decl : Option TableDecl) : Clause → Option String
  | .filter c =>
    match Filter.fragment? decl c with
    | .ok _ => none
    | .error message => some message
  | _ => none

/-- The first mistake among clauses. -/
def Clause.firstMistake? (decl : Option TableDecl) (clauses : List Clause) : Option String :=
  clauses.findSome? (mistake? decl)

namespace Builder

theorem mistake_add (b : Builder) (c : Clause) :
    (b.add c).draft.mistake = b.draft.mistake.or (c.mistake? b.decl) := by
  cases c with
  | filter c =>
    simp only [add, Clause.mistake?]
    split
    next written => simp [modifyDraft, written]
    next empty => simp [empty]
    next message wrong =>
      rw [wrong]
      cases before : b.draft.mistake <;> simp [modifyDraft, Draft.fail, before]
  | _ => simp [add, Clause.mistake?, modifyDraft]

/-- The first mistake is the one that is kept. -/
theorem mistake_addAll (b : Builder) (clauses : List Clause) :
    (b.addAll clauses).draft.mistake =
      b.draft.mistake.or (Clause.firstMistake? b.decl clauses) := by
  unfold addAll Clause.firstMistake?
  induction clauses generalizing b with
  | nil => simp
  | cons c clauses ih =>
    -- a mistake of the first clause hides those of the rest
    rw [List.foldl_cons, ih, mistake_add, decl_add, List.findSome?_cons, Option.or_assoc]
    cases c.mistake? b.decl <;> rfl

-- the operator is unknown, and the template has a mark too many
example : Clause.firstMistake? none
    [.limit 1 0, .filter (.entries [("age", .ops [("=>", .int 18)])]),
      .filter (.template "name = ?" [])] = some "unsupported operator '=>' on age" := by
  decide

theorem mistake_prepareInsert {b : Builder} {m : String} (h : b.draft.mistake = some m)
    (rows : List Row) (command : Command) (supply : IdSupply) :
    (b.prepareInsert rows command supply).1.draft.mistake = some m := by
  unfold prepareInsert
  split
  · simp [modifyDraft, Draft.fail, h]
  · dsimp only [insertion]
    split
    · split
      · exact h
      · simp [Draft.fail, h]
    · exact h

/-- Preparing a statement keeps a mistake that was made before. -/
theorem mistake_prepare {b : Builder} {m : String} (h : b.draft.mistake = some m) (t : Terminal)
    (supply : IdSupply) : (b.prepare t supply).1.draft.mistake = some m := by
  cases t with
  | insert row => exact mistake_prepareInsert h [row] .insert supply
  | insertAll rows => exact mistake_prepareInsert h rows .insertAll supply
  | select => exact h
  | get => exact h
  | delete => exact h
  | update data =>
    simp only [prepare, prepareUpdate, modifyDraft]
    split
    · simp [Draft.fail, h]
    · exact h
  | aggregate function field =>
    simp only [prepare, prepareAggregate, modifyDraft]
    split
    · exact h
    · simp [Draft.fail, h]

/-- A builder of a table reports its mistake instead of a statement. -/
theorem outcome_of_mistake {b : Builder} {m : String} (bound : b.table.isSome = true)
    (h : b.draft.mistake = some m) (t : Terminal) (supply : IdSupply) :
    b.outcome t supply = .error (.usage m) := by
  have kept : (b.prepare t supply).1.table = b.table := by
    have same := congrArg Builder.table (b.cleared_prepare t supply)
    exact same
  obtain ⟨table, there⟩ := Option.isSome_iff_exists.mp bound
  simp only [outcome, statement, kept, there, Draft.render, Draft.fragment,
    mistake_prepare h t supply]
  rfl

end Builder

/-! ### The end of a use -/

namespace BuilderM

variable [Backend σ]

theorem read_unrendered {t : Terminal} {b : Builder} {s : Session σ} {e : Error}
    (h : b.outcome t s.supply = .error e) :
    read t (b, s) = (.error e, (b.cleared, supplied t b s)) := by
  have seen := preview_apply t b s
  rw [show (b.prepare t s.supply).1.statement = .error e from h] at seen
  rw [read, bind_error seen]
  exact Prod.ext rfl (Prod.ext (b.cleared_prepare t s.supply) rfl)

theorem builder_read (t : Terminal) (b : Builder) (s : Session σ) :
    (read t (b, s)).2.1 = b.cleared := by
  have seen := preview_apply t b s
  rw [read, bind_apply, seen]
  cases (b.prepare t s.supply).1.statement with
  | error e => exact b.cleared_prepare t s.supply
  | ok st => exact b.cleared_prepare t s.supply

theorem builder_write (t : Terminal) (kind : EventKind) (b : Builder) (s : Session σ) :
    (write t kind (b, s)).2.1 = spent b := by
  cases rendered : (b.prepare t s.supply).1.statement with
  | error e =>
    rw [write_unrendered rendered]
    exact b.spent_prepare t s.supply
  | ok st =>
    cases answered : (Backend.answer b.target st.sql st.args s.database).1 with
    | error e =>
      rw [write_failed rendered answered]
      exact b.spent_prepare t s.supply
    | ok out =>
      obtain ⟨e, made⟩ := Option.isSome_iff_exists.mp
        (isSome_event? rendered kind (report t b s.supply out))
      obtain ⟨s', told, -⟩ := does_tell made (spent (b.prepare t s.supply).1)
        ((supplied t b s).afterSending b.target st.sql st.args)
      rw [write_ok rendered answered, told]
      exact b.spent_prepare t s.supply

end BuilderM

namespace Finish

/-- What the end of a use leaves of the builder: a statement uses up what was collected, and a write
what was asked for as well. -/
def leaves (b : Builder) : Finish → Builder
  | .nothing | .info => b
  | .insert _ | .insertAll _ | .update _ | .delete => BuilderM.spent b
  | .select | .get | .count | .aggregate _ _ _ | .query _ _ | .preview _ => b.cleared

variable [Backend σ]

/-- **The builder after the end of a use**, whatever that comes to. -/
theorem builder_run (f : Finish) (b : Builder) (s : Session σ) :
    (f.run (b, s)).2.1 = f.leaves b := by
  have mapped {α : Type} {m : BuilderM σ α} {g : α → Reply} (h : (m (b, s)).2.1 = f.leaves b) :
      ((g <$> m) (b, s)).2.1 = f.leaves b := by
    rw [map_apply]
    exact h
  cases f with
  | nothing => rfl
  | info => rfl
  | insert row => exact mapped (BuilderM.builder_write _ _ b s)
  | insertAll rows => exact mapped (BuilderM.builder_write _ _ b s)
  | update data => exact mapped (BuilderM.builder_write _ _ b s)
  | delete => exact mapped (BuilderM.builder_write _ _ b s)
  | select =>
    refine mapped ((congrArg Prod.fst (BuilderM.bind_state (fun _ _ => rfl) (b, s))).trans ?_)
    exact BuilderM.builder_read _ b s
  | get =>
    refine mapped ((congrArg Prod.fst (BuilderM.bind_state (fun _ _ => rfl) (b, s))).trans ?_)
    exact BuilderM.builder_read _ b s
  | count =>
    refine mapped ((congrArg Prod.fst (BuilderM.bind_state (fun _ _ => rfl) (b, s))).trans ?_)
    exact BuilderM.builder_read _ b s
  | aggregate function field form =>
    refine mapped ((congrArg Prod.fst (BuilderM.bind_state (fun _ _ => rfl) (b, s))).trans ?_)
    exact BuilderM.builder_read _ b s
  | query sql args => exact mapped rfl
  | preview t => exact mapped (b.cleared_prepare t s.supply)

/-- A terminal whose statement cannot be written fails, and sends nothing. -/
theorem run_unrendered {f : Finish} {t : Terminal} {b : Builder} {s : Session σ} {e : Error}
    (terminal : f.terminal? = some t) (h : b.outcome t s.supply = .error e) :
    f.run (b, s) = (.error e, (f.leaves b, BuilderM.supplied t b s)) := by
  have reads {α : Type} {k : QueryOutput → BuilderM σ α} {g : α → Reply} :
      (g <$> (BuilderM.read t >>= k)) (b, s) =
        (.error e, (b.cleared, BuilderM.supplied t b s)) := by
    rw [map_apply, bind_error (BuilderM.read_unrendered h)]
    rfl
  have writes {kind : EventKind} {g : WriteResult → Reply} :
      (g <$> BuilderM.write t kind) (b, s) =
        (.error e, (BuilderM.spent b, BuilderM.supplied t b s)) := by
    rw [map_apply, BuilderM.write_unrendered h kind, b.spent_prepare]
    rfl
  cases f <;> cases terminal
  case select => exact reads
  case get => exact reads
  case count => exact reads
  case aggregate => exact reads
  case insert => exact writes
  case insertAll => exact writes
  case update => exact writes
  case delete => exact writes

end Finish

/-! ### Statements as a new builder writes them -/

/-- The builder writes its next statement as another one does: a preview gives it and does nothing
else, a terminal sends it and nothing else, and neither sends anything if it cannot be written. -/
structure Builder.WritesLike [Backend σ] (b fresh : Builder) (s : Session σ) : Prop where
  previewed (t : Terminal) :
    (Finish.preview t).run (b, s) =
      ((fresh.outcome t s.supply).map Reply.statement,
        (b.cleared, BuilderM.supplied t fresh s))
  sends {f : Finish} {t : Terminal} (terminal : f.terminal? = some t) :
    s.Sends b.target (fresh.outcome t s.supply).toOption (f.run (b, s)).2.2
  refused {f : Finish} {t : Terminal} {e : Error} (terminal : f.terminal? = some t)
    (unwritten : fresh.outcome t s.supply = .error e) :
    f.run (b, s) = (.error e, (f.leaves b, BuilderM.supplied t fresh s))

theorem Builder.writesLike_of_core [Backend σ] {b fresh : Builder} (h : b.core = fresh.core)
    (s : Session σ) : b.WritesLike fresh s := by
  have same (t : Terminal) : b.outcome t s.supply = fresh.outcome t s.supply :=
    (outcome_congr h t s.supply).1
  have supplied (t : Terminal) : BuilderM.supplied t b s = BuilderM.supplied t fresh s := by
    rw [BuilderM.supplied, BuilderM.supplied, (outcome_congr h t s.supply).2]
  refine ⟨fun t => ?_, fun {f t} terminal => ?_, fun {f t e} terminal unwritten => ?_⟩
  · rw [← same, ← supplied, Finish.run, map_apply, BuilderM.preview_apply,
      ← b.cleared_prepare t s.supply]
    rfl
  · rw [← same]
    have sent := f.sends_run b s
    have statement : f.statement? b s.supply = b.rendered? t s.supply := by
      cases f <;> cases terminal <;> rfl
    rwa [statement] at sent
  · rw [← supplied]
    exact Finish.run_unrendered terminal ((same t).trans unwritten)

/-! ### Calls of one builder -/

/-- A call of a builder, or something that happens to the session in between. -/
inductive BuilderCall (σ : Type) where
  | add (c : Clause)
  | finish (f : Finish)
  | meanwhile (change : Session σ → Session σ)

namespace BuilderCall

/-- The clauses that are pending after a call: those since the last statement, be it sent, shown or
given. -/
def pend (clauses : List Clause) : BuilderCall σ → List Clause
  | .add c => clauses ++ [c]
  | .finish .nothing | .finish .info | .meanwhile _ => clauses
  | .finish _ => []

/-- The clauses that are pending after calls of a new builder. -/
def pending (calls : List (BuilderCall σ)) : List Clause := calls.foldl pend []

variable [Backend σ]

/-- The builder and the session after a call. -/
def run (x : Builder × Session σ) : BuilderCall σ → Builder × Session σ
  | .add c => (BuilderM.add c x).2
  | .finish f => (f.run x).2
  | .meanwhile change => (x.1, change x.2)

/-- The builder and the session after calls. -/
def runAll (calls : List (BuilderCall σ)) (x : Builder × Session σ) : Builder × Session σ :=
  calls.foldl run x

omit [Backend σ] in
theorem core_leaves {b fresh : Builder} {clauses : List Clause}
    (h : b.core = (fresh.blank.addAll clauses).core) (f : Finish) :
    (f.leaves b).core = (fresh.blank.addAll (pend clauses (.finish f : BuilderCall σ))).core := by
  -- a statement leaves nothing but what a new builder has, and that is told by the core
  have blank : b.blank = fresh.blank :=
    calc b.blank = b.core.blank := rfl
      _ = (fresh.blank.addAll clauses).blank := by rw [h]; rfl
      _ = fresh.blank := Builder.blank_addAll _ _
  cases f with
  | nothing => exact h
  | info => exact h
  | _ => exact blank

/-- A call keeps what the builder has to write: the pending clauses, on a new builder. -/
theorem core_run {fresh : Builder} {clauses : List Clause} {x : Builder × Session σ}
    (h : x.1.core = (fresh.blank.addAll clauses).core) (call : BuilderCall σ) :
    (run x call).1.core = (fresh.blank.addAll (pend clauses call)).core := by
  obtain ⟨b, s⟩ := x
  cases call with
  | add c =>
    have appended : fresh.blank.addAll (clauses ++ [c]) = (fresh.blank.addAll clauses).add c :=
      List.foldl_concat _ _ _ _
    show (b.add c).core = (fresh.blank.addAll (clauses ++ [c])).core
    rw [appended, Builder.core_add, Builder.core_add (fresh.blank.addAll clauses)]
    exact congrArg (fun b => (Builder.add b c).core) h
  | meanwhile change => exact h
  | finish f =>
    rw [run, Finish.builder_run]
    exact core_leaves h f

theorem core_runAll (calls : List (BuilderCall σ)) {fresh : Builder} {clauses : List Clause}
    {x : Builder × Session σ} (h : x.1.core = (fresh.blank.addAll clauses).core) :
    (runAll calls x).1.core = (fresh.blank.addAll (calls.foldl pend clauses)).core := by
  induction calls generalizing x clauses with
  | nil => exact h
  | cons call calls ih => exact ih (core_run h call)

/-- **Statements of one builder are isolated.**  After any calls of a builder, whatever they come to
and whatever happens in between, it writes the next statement as a new builder writes it with the
pending clauses alone.  The first of these that cannot be written is reported by every terminal of a
builder with a table, and nothing is sent. -/
theorem statements_isolated (b : Builder) (s : Session σ) (calls : List (BuilderCall σ)) :
    let x := runAll calls (b.cleared, s)
    x.1.WritesLike (b.blank.addAll (pending calls)) x.2 ∧
      ∀ m, b.table.isSome → Clause.firstMistake? b.decl (pending calls) = some m →
        ∀ f t, Finish.terminal? f = some t →
          f.run x = (.error (.usage m),
            (f.leaves x.1, BuilderM.supplied t (b.blank.addAll (pending calls)) x.2)) := by
  have core : (runAll calls (b.cleared, s)).1.core = (b.blank.addAll (pending calls)).core :=
    core_runAll calls rfl
  have like := Builder.writesLike_of_core core (runAll calls (b.cleared, s)).2
  refine ⟨like, fun m bound mistaken f t terminal => like.refused terminal ?_⟩
  refine Builder.outcome_of_mistake ?_ ?_ t _
  · have table := congrArg Builder.table (b.blank.blank_addAll (pending calls))
    rw [show (b.blank.addAll (pending calls)).table = b.table from table]
    exact bound
  · rw [Builder.mistake_addAll]
    exact mistaken

end BuilderCall

end TableMapper
