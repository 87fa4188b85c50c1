import TableMapper.Proofs.Rows.ImportStep
import TableMapper.Proofs.Session.Statements

/-!
# Runs of an import

* `Import.Turn` is a step that was carried out, and `Import.Follows` says that turns carry out steps
  until one fails.
* `Import.Took` says that turns were taken between two sessions.
* `Import.plan` are the steps of an import, given the keys that are in the table.
* `Import.Performs` and `Import.Fulfils` say that a computation carries out steps.
* `Import.fulfils_body`: the rows of an import are written by the steps of its plan.
-/

namespace TableMapper

variable {σ α β γ : Type}

/-! ### Counts -/

namespace ImportCounts

instance : Zero ImportCounts := ⟨{}⟩

theorem add_eq (a b : ImportCounts) :
    a + b = ⟨a.inserted + b.inserted, a.updated + b.updated, a.deleted + b.deleted⟩ := rfl

theorem add_assoc (a b c : ImportCounts) : a + b + c = a + (b + c) := by
  simp only [add_eq, Nat.add_assoc]

theorem zero_add (a : ImportCounts) : 0 + a = a := by
  show (⟨0 + a.inserted, 0 + a.updated, 0 + a.deleted⟩ : ImportCounts) = a
  simp only [Nat.zero_add]

/-- The counts of several steps. -/
def sum (cs : List ImportCounts) : ImportCounts := cs.foldl (· + ·) {}

theorem sum_cons (c : ImportCounts) (cs : List ImportCounts) : sum (c :: cs) = c + sum cs := by
  have shift (a : ImportCounts) : cs.foldl (· + ·) a = a + sum cs := by
    unfold sum
    induction cs generalizing a with
    | nil => rfl
    | cons c cs ih =>
      rw [List.foldl_cons, ih, List.foldl_cons, ih ({} + c), add_assoc]
      exact congrArg (a + ·) (congrArg (· + _) (zero_add c).symm)
  exact (shift ({} + c)).trans (congrArg (· + _) (zero_add c))

end ImportCounts

namespace Import

/-! ### Turns -/

/-- A step that was carried out, or that the database refused. -/
structure Turn where
  step : Step
  statement : Statement
  answer : Except Error QueryOutput

namespace Turn

/-- The statement was sent. -/
def deed (home : Target) (turn : Turn) : Deed :=
  .sent home turn.statement.sql turn.statement.args

/-- The texts of the keys that the database reported, if the turn asked for keys. -/
def reported? (key : String) : Turn → Option (List String)
  | ⟨.lookup _, _, .ok out⟩ => some (out.rows.filterMap fun row => (row.get? key).map keyText)
  | _ => none

/-- How many rows a turn has written. -/
def counts : Turn → ImportCounts
  | ⟨.insert _, _, .ok out⟩ => { inserted := out.rowCount }
  | ⟨.delete _, _, .ok out⟩ => { deleted := out.rowCount }
  | ⟨.update _, _, .ok out⟩ => { updated := out.rowCount }
  | _ => {}

/-- How many rows turns have written. -/
def countsOf (turns : List Turn) : ImportCounts := ImportCounts.sum (turns.map counts)

theorem countsOf_singleton (turn : Turn) : countsOf [turn] = turn.counts :=
  ImportCounts.zero_add _

theorem countsOf_append (turns turns' : List Turn) :
    countsOf (turns ++ turns') = countsOf turns + countsOf turns' := by
  induction turns with
  | nil => exact (ImportCounts.zero_add _).symm
  | cons turn turns ih =>
    unfold countsOf at ih ⊢
    rw [List.cons_append, List.map_cons, List.map_cons, ImportCounts.sum_cons,
      ImportCounts.sum_cons, ih, ImportCounts.add_assoc]

end Turn

/-- Turns carry out steps one after the other: all of them, or those before the first one that
fails. -/
inductive Follows (i : Import) (decl : Option TableDecl) (binding : Binding) :
    List Step → List Turn → Option Error → Prop
  | done : Follows i decl binding [] [] none
  | next {step : Step} {st : Statement} (out : QueryOutput) {steps : List Step}
      {turns : List Turn} {e : Option Error} (tells : i.Tells decl binding step st)
      (rest : Follows i decl binding steps turns e) :
      Follows i decl binding (step :: steps) (⟨step, st, .ok out⟩ :: turns) e
  /-- The database refuses the statement. -/
  | refused {step : Step} {st : Statement} {e : Error} (steps : List Step)
      (tells : i.Tells decl binding step st) :
      Follows i decl binding (step :: steps) [⟨step, st, .error e⟩] (some e)
  /-- The statement cannot be written, so there is none. -/
  | unwritten {step : Step} (e : Error) (steps : List Step) (unwritable : step.Unwritable i) :
      Follows i decl binding (step :: steps) [] (some e)

namespace Follows

variable {i : Import} {decl : Option TableDecl} {binding : Binding} {steps steps' : List Step}
  {turns turns' : List Turn} {e : Option Error}

theorem append (h : i.Follows decl binding steps turns none)
    (h' : i.Follows decl binding steps' turns' e) :
    i.Follows decl binding (steps ++ steps') (turns ++ turns') e := by
  generalize ends : (none : Option Error) = ended at h
  induction h with
  | done => exact h'
  | next out tells rest ih => exact .next out tells (ih ends)
  | refused => cases ends
  | unwritten => cases ends

/-- After a failure nothing is carried out. -/
theorem append_failed {m : Error} (h : i.Follows decl binding steps turns (some m))
    (steps' : List Step) : i.Follows decl binding (steps ++ steps') turns (some m) := by
  generalize ends : some m = ended at h
  induction h with
  | done => cases ends
  | next out tells rest ih => exact .next out tells (ih ends)
  | refused steps tells => exact .refused _ tells
  | unwritten m steps unwritable => exact .unwritten m _ unwritable

theorem steps_eq (h : i.Follows decl binding steps turns none) : turns.map (·.step) = steps := by
  generalize ends : (none : Option Error) = ended at h
  induction h with
  | done => rfl
  | next out tells rest ih => rw [List.map_cons, ih ends]
  | refused => cases ends
  | unwritten => cases ends

theorem step_mem (h : i.Follows decl binding steps turns e) :
    ∀ turn ∈ turns, turn.step ∈ steps := by
  induction h with
  | done => exact fun _ ht => absurd ht List.not_mem_nil
  | next out tells rest ih =>
    refine List.forall_mem_cons.mpr ⟨List.mem_cons_self, fun turn ht => ?_⟩
    exact List.mem_cons_of_mem _ (ih turn ht)
  | refused steps tells => exact List.forall_mem_singleton.mpr List.mem_cons_self
  | unwritten => exact fun _ ht => absurd ht List.not_mem_nil

end Follows

/-! ### Sessions -/

/-- The database gives the answers of turns, one after the other. -/
inductive Answered [Backend σ] (home : Target) : List Turn → σ → σ → Prop
  | done (d : σ) : Answered home [] d d
  | next {turn : Turn} {turns : List Turn} {d d' d'' : σ}
      (answer : Backend.answer home turn.statement.sql turn.statement.args d = (turn.answer, d'))
      (rest : Answered home turns d' d'') : Answered home (turn :: turns) d d''

theorem Answered.append [Backend σ] {home : Target} {turns turns' : List Turn} {d d' d'' : σ}
    (h : Answered home turns d d') (h' : Answered home turns' d' d'') :
    Answered home (turns ++ turns') d d'' := by
  induction h with
  | done => exact h'
  | next answer rest ih => exact .next answer (ih h')

section

variable (i : Import) (decl : Option TableDecl) (binding : Binding)

/-- The session is as the steps of an import need it. -/
structure Ready (s : Session σ) : Prop where
  tidy : s.Tidy binding
  serves : s.Serves i.transaction.target
  decl : s.tables.get? i.decl.name = decl

variable [Backend σ]

/-- Between the sessions turns were taken, and nothing else was done. -/
structure Took (turns : List Turn) (s s' : Session σ) : Prop where
  does : s.Does (turns.map (Turn.deed i.transaction.target)) [] s'
  answered : Answered i.transaction.target turns s.database s'.database
  ready : i.Ready decl binding s'

/-- The computation carries out the steps, until one fails.  What it returns is about the rows that
were written. -/
def Performs (steps : List Step) (f : α → ImportCounts) (m : SessionM σ α) : Prop :=
  ∀ s, i.Ready decl binding s → ∃ turns e s', i.Follows decl binding steps turns e ∧
    i.Took decl binding turns s s' ∧
    match e with
    | none => ∃ a, m s = (.ok a, s') ∧ f a = Turn.countsOf turns
    | some e => m s = (.error e, s')

end

variable [Backend σ] {i : Import} {decl : Option TableDecl} {binding : Binding}
  {steps steps' : List Step}

theorem Took.trans {turns turns' : List Turn} {s s' s'' : Session σ}
    (h : i.Took decl binding turns s s') (h' : i.Took decl binding turns' s' s'') :
    i.Took decl binding (turns ++ turns') s s'' :=
  ⟨by simpa using h.does.trans h'.does, h.answered.append h'.answered, h'.ready⟩

/-- A call with the statement of a step is a turn. -/
theorem step_spec (step : Step) (keyed : step.Keyed i.key) {g : List Json → QueryOutput → α}
    {m : BuilderM σ α} (runs : BuilderM.Runs (step.terminal i) g m) {s : Session σ}
    (ready : i.Ready decl binding s) :
    ∃ turns e s', i.Follows decl binding [step] turns e ∧ i.Took decl binding turns s s' ∧
      match e with
      | none => ∃ st ids out, turns = [⟨step, st, .ok out⟩] ∧
        i.withBuilder (BuilderM.addAll (step.clauses i) >>= fun _ => m) s = (.ok (g ids out), s')
      | some e =>
        i.withBuilder (BuilderM.addAll (step.clauses i) >>= fun _ => m) s = (.error e, s') := by
  have quiet : Notify.off.after (step.clauses i) = .off := by cases step <;> rfl
  obtain ⟨tag, supply, s', ran, asked⟩ := Session.withBuilder_runs i.transaction.target ready.tidy
    ready.serves runs (step.clauses i) quiet i.decl.name i.schema
  have after : i.Ready decl binding s' :=
    ⟨asked.tidy, asked.serves ready.serves, by rw [asked.tables]; exact ready.decl⟩
  rw [ready.decl] at ran asked
  rcases tells_step decl binding tag step keyed supply with
    ⟨st, written, tells⟩ | ⟨⟨e, failed⟩, unwritable⟩
  · rw [show i.transaction.target.bound binding tag i.decl.name i.schema decl (step.clauses i) =
      i.bound decl binding tag (step.clauses i) from rfl, written] at ran asked
    have does : s.Does [.sent i.transaction.target st.sql st.args] [] s' := asked.does
    cases answered : (Backend.answer i.transaction.target st.sql st.args s.database).1 with
    | error e =>
      refine ⟨[⟨step, st, .error e⟩], some e, s', .refused [] tells, ⟨does, ?_, after⟩, ?_⟩
      · exact .next (Prod.ext answered asked.database.symm) (.done _)
      · simp only [Except.bind, answered] at ran
        exact ran
    | ok out =>
      refine ⟨[⟨step, st, .ok out⟩], none, s', .next out tells .done, ⟨does, ?_, after⟩, ?_⟩
      · exact .next (Prod.ext answered asked.database.symm) (.done _)
      · simp only [Except.bind, answered] at ran
        exact ⟨st, _, out, rfl, ran⟩
  · rw [show i.transaction.target.bound binding tag i.decl.name i.schema decl (step.clauses i) =
      i.bound decl binding tag (step.clauses i) from rfl, failed] at ran asked
    refine ⟨[], some e, s', .unwritten e [] unwritable, ⟨asked.does, ?_, after⟩, ran⟩
    rw [asked.database]
    exact .done _

/-- A write that is a step. -/
theorem performs_step (step : Step) (keyed : step.Keyed i.key) (kind : EventKind)
    (count : Nat → ImportCounts)
    (counts : ∀ st out, count out.rowCount = (⟨step, st, .ok out⟩ : Turn).counts) :
    i.Performs decl binding [step] id
      (i.withBuilder (BuilderM.addAll (step.clauses i) >>= fun _ =>
          BuilderM.write (step.terminal i) kind) >>= fun r => pure (count r.count) :
        SessionM σ ImportCounts) := by
  intro s ready
  obtain ⟨turns, e, s', follows, took, ran⟩ := step_spec step keyed
    (BuilderM.runs_write (step.terminal i) kind) ready
  refine ⟨turns, e, s', follows, took, ?_⟩
  cases e with
  | some e => exact bind_error ran _
  | none =>
    obtain ⟨st, ids, out, rfl, ran⟩ := ran
    exact ⟨_, bind_ok ran _, (counts st out).trans (Turn.countsOf_singleton _).symm⟩

theorem performs_insert (rows : List Row) :
    i.Performs decl binding [.insert rows] id
      (i.insert (rows.map (i.stamp true)) : SessionM σ ImportCounts) := by
  have plain : (BuilderM.addAll [] >>= fun _ =>
      BuilderM.insertAll (rows.map (i.stamp true)) : BuilderM σ WriteResult) =
        BuilderM.insertAll (rows.map (i.stamp true)) := by
    funext x
    exact bind_ok (BuilderM.addAll_apply [] x.1 x.2) _
  rw [insert, ← plain]
  exact performs_step (.insert rows) trivial .insert (fun n => { inserted := n }) fun _ _ => rfl

theorem performs_delete {rows : List Row} (keyed : (Step.delete rows).Keyed i.key) :
    i.Performs decl binding [.delete rows] id (i.delete rows : SessionM σ ImportCounts) :=
  performs_step (.delete rows) keyed .delete (fun n => { deleted := n }) fun _ _ => rfl

theorem performs_update {row : Row} (keyed : (Step.update row).Keyed i.key) :
    i.Performs decl binding [.update row] id (i.update row : SessionM σ ImportCounts) :=
  performs_step (.update row) keyed .update (fun n => { updated := n }) fun _ _ => rfl

/-- The keys in the table are those that the database reports. -/
theorem existing_spec {rows : List Row} (keyed : (Step.lookup rows).Keyed i.key) {s : Session σ}
    (ready : i.Ready decl binding s) :
    ∃ turns e s', i.Follows decl binding [.lookup rows] turns e ∧ i.Took decl binding turns s s' ∧
      match e with
      | none => ∃ keys turn, turns = [turn] ∧ turn.reported? i.key = some keys ∧
        turn.counts = {} ∧ i.existing rows s = (.ok keys, s')
      | some e => i.existing rows s = (.error e, s') := by
  obtain ⟨turns, e, s', follows, took, ran⟩ := step_spec (.lookup rows) keyed
    BuilderM.runs_select ready
  refine ⟨turns, e, s', follows, took, ?_⟩
  cases e with
  | some e => exact bind_error ran _
  | none =>
    obtain ⟨st, ids, out, rfl, ran⟩ := ran
    exact ⟨_, _, rfl, rfl, rfl, bind_ok ran _⟩

/-! ### Steps one after the other -/

theorem performs_pure {f : α → ImportCounts} {a : α} (nothing : f a = {}) :
    i.Performs decl binding [] f (pure a : SessionM σ α) :=
  fun s ready => ⟨[], none, s, .done, ⟨.refl s, .done _, ready⟩, a, rfl, nothing⟩

/-- Steps are carried out after others, unless one of those fails. -/
theorem Performs.and {f : α → ImportCounts} {g : β → ImportCounts} {h : γ → ImportCounts}
    {m : SessionM σ α} {m' : SessionM σ β} (one : i.Performs decl binding steps f m)
    (other : i.Performs decl binding steps' g m') (both : α → β → γ)
    (sums : ∀ a b, h (both a b) = f a + g b) :
    i.Performs decl binding (steps ++ steps') h
      (m >>= fun a => m' >>= fun b => pure (both a b)) := by
  intro s ready
  obtain ⟨turns, e, s₁, follows, took, ran⟩ := one s ready
  cases e with
  | some e =>
    exact ⟨turns, some e, s₁, follows.append_failed steps', took, bind_error ran _⟩
  | none =>
    obtain ⟨a, ran, counted⟩ := ran
    obtain ⟨turns', e, s₂, follows', took', ran'⟩ := other s₁ took.ready
    refine ⟨turns ++ turns', e, s₂, follows.append follows', took.trans took', ?_⟩
    cases e with
    | some e => exact (bind_ok ran _).trans (bind_error ran' _)
    | none =>
      obtain ⟨b, ran', counted'⟩ := ran'
      refine ⟨both a b, (bind_ok ran _).trans (bind_ok ran' _), ?_⟩
      rw [Turn.countsOf_append, sums, counted, counted']

/-- The steps that insert rows, if there are any. -/
def inserts (rows : List Row) : List Step := if rows.isEmpty then [] else [.insert rows]

theorem performs_insertAny (rows : List Row) :
    i.Performs decl binding (inserts rows) id (i.insertAny rows : SessionM σ ImportCounts) := by
  unfold inserts insertAny
  split
  · exact performs_pure rfl
  · exact performs_insert rows

theorem performs_updates {rows : List Row}
    (keyed : ∀ row ∈ rows, Sorted.hasKey i.key row = true) :
    i.Performs decl binding (rows.map .update) ImportCounts.sum
      (rows.mapM i.update : SessionM σ (List ImportCounts)) := by
  induction rows with
  | nil => exact performs_pure rfl
  | cons row rows ih =>
    have one : i.Performs decl binding [.update row] id
        (i.update row : SessionM σ ImportCounts) := performs_update (keyed row List.mem_cons_self)
    have others := ih fun r hr => keyed r (List.mem_cons_of_mem _ hr)
    rw [List.mapM_cons]
    exact one.and others List.cons ImportCounts.sum_cons

/-! ### The plan -/

/-- The key of the row is among the keys that were reported. -/
def isReported (i : Import) (reported : List String) (row : Row) : Bool :=
  reported.contains (i.keyTextOf row)

/-- The steps for rows that carry their keys, of which some are reported to be in the table. -/
def keyedSteps (i : Import) (policy : ImportUpdate) (rows : List Row) (reported : List String) :
    List Step :=
  let present := rows.filter (i.isReported reported)
  let missing := rows.filter (!i.isReported reported ·)
  match policy with
  | .deleteInsert => .delete rows :: inserts rows
  | .update => .lookup rows :: (present.map .update ++ inserts missing)
  | .keep => .lookup rows :: inserts missing

/-- The steps of an import of sorted entries, some of whose keys are reported to be in the table. -/
def plan (i : Import) (policy : ImportUpdate) (s : Sorted) (reported : List String) : List Step :=
  inserts s.fresh ++ if s.keyed.isEmpty then [] else i.keyedSteps policy s.keyed reported

variable (decl binding) in
/-- The computation carries out the steps, which depend on the keys that the database reports, until
one fails.  It returns how many rows were written. -/
def Fulfils (i : Import) (steps : List String → List Step) (m : SessionM σ ImportCounts) : Prop :=
  ∀ s, i.Ready decl binding s → ∃ reported turns e s',
    i.Follows decl binding (steps reported) turns e ∧
    (∀ turn ∈ turns, ∀ keys, turn.reported? i.key = some keys → keys = reported) ∧
    i.Took decl binding turns s s' ∧
    m s = (e.elim (.ok (Turn.countsOf turns)) .error, s')

/-- The step asks which keys are in the table. -/
def Step.Asks : Step → Prop
  | .lookup _ => True
  | _ => False

theorem asks_of_reported? {key : String} {turn : Turn} {keys : List String}
    (h : turn.reported? key = some keys) : turn.step.Asks := by
  unfold Turn.reported? at h
  split at h
  · trivial
  · cases h

/-- Only a question is answered with keys. -/
theorem Follows.reported?_eq_none {turns : List Turn} {e : Option Error}
    (h : i.Follows decl binding steps turns e) (silent : ∀ step ∈ steps, ¬ step.Asks)
    (key : String) : ∀ turn ∈ turns, turn.reported? key = none := by
  intro turn ht
  rw [Option.eq_none_iff_forall_ne_some]
  exact fun keys reported => silent _ (h.step_mem turn ht) (asks_of_reported? reported)

/-- A question that fails is not answered with keys. -/
theorem Follows.reported?_of_failed {step : Step} {turns : List Turn} {e : Error}
    (h : i.Follows decl binding [step] turns (some e)) (key : String) :
    ∀ turn ∈ turns, turn.reported? key = none := by
  cases h with
  | next out tells rest => cases rest
  | refused _ tells =>
    refine List.forall_mem_singleton.mpr ?_
    unfold Turn.reported?
    split <;> simp_all
  | unwritten => exact fun _ ht => absurd ht List.not_mem_nil

/-- Steps that ask for nothing are a plan, whatever is reported. -/
theorem Performs.fulfils {m : SessionM σ ImportCounts} (h : i.Performs decl binding steps id m)
    (silent : ∀ step ∈ steps, ¬ step.Asks) : i.Fulfils decl binding (fun _ => steps) m := by
  intro s ready
  obtain ⟨turns, e, s', follows, took, ran⟩ := h s ready
  refine ⟨[], turns, e, s', follows, fun turn ht keys reported => ?_, took, ?_⟩
  · rw [follows.reported?_eq_none silent i.key turn ht] at reported
    cases reported
  · cases e with
    | some e => exact ran
    | none =>
      obtain ⟨c, ran, rfl⟩ := ran
      exact ran

/-- Steps that depend on the keys in the table are carried out after the question for them. -/
theorem fulfils_lookup {rows : List Row} (keyed : (Step.lookup rows).Keyed i.key)
    {plan : List String → List Step} {m : List String → SessionM σ ImportCounts}
    (h : ∀ keys, i.Performs decl binding (plan keys) id (m keys))
    (silent : ∀ keys, ∀ step ∈ plan keys, ¬ step.Asks) :
    i.Fulfils decl binding (fun keys => .lookup rows :: plan keys) (i.existing rows >>= m) := by
  intro s ready
  obtain ⟨turns, e, s₁, follows, took, ran⟩ := existing_spec keyed ready
  cases e with
  | some e =>
    refine ⟨[], turns, some e, s₁, follows.append_failed (plan []), fun turn ht keys reported => ?_,
      took, bind_error ran _⟩
    rw [follows.reported?_of_failed i.key turn ht] at reported
    cases reported
  | none =>
    obtain ⟨keys, turn, rfl, reported, nothing, ran⟩ := ran
    obtain ⟨turns, e, s₂, follows', took', ran'⟩ := h keys s₁ took.ready
    refine ⟨keys, turn :: turns, e, s₂, follows.append follows',
      List.forall_mem_cons.mpr ⟨fun keys' same => ?_, fun turn ht keys' reported => ?_⟩,
      took.trans took', (bind_ok ran _).trans ?_⟩
    · exact Option.some.inj (same.symm.trans reported)
    · rw [follows'.reported?_eq_none (silent keys) i.key turn ht] at reported
      cases reported
    · cases e with
      | some e => exact ran'
      | none =>
        obtain ⟨c, ran', counted⟩ := ran'
        have all : Turn.countsOf (turn :: turns) = c := by
          rw [← List.singleton_append, Turn.countsOf_append, Turn.countsOf_singleton, nothing,
            ← counted]
          exact ImportCounts.zero_add c
        exact ran'.trans (by rw [all]; rfl)

/-- Steps that depend on the keys in the table are carried out after others. -/
theorem Performs.and_fulfils {m m' : SessionM σ ImportCounts} {plan : List String → List Step}
    (one : i.Performs decl binding steps id m) (silent : ∀ step ∈ steps, ¬ step.Asks)
    (other : i.Fulfils decl binding plan m') :
    i.Fulfils decl binding (fun keys => steps ++ plan keys)
      (m >>= fun a => m' >>= fun b => pure (a + b)) := by
  intro s ready
  obtain ⟨turns, e, s₁, follows, took, ran⟩ := one s ready
  have quiet := follows.reported?_eq_none silent i.key
  cases e with
  | some e =>
    refine ⟨[], turns, some e, s₁, follows.append_failed (plan []), fun turn ht keys reported => ?_,
      took, bind_error ran _⟩
    rw [quiet turn ht] at reported
    cases reported
  | none =>
    obtain ⟨a, ran, counted⟩ := ran
    obtain ⟨keys, turns', e, s₂, follows', reports, took', ran'⟩ := other s₁ took.ready
    refine ⟨keys, turns ++ turns', e, s₂, follows.append follows',
      List.forall_mem_append.mpr ⟨fun turn ht keys reported => ?_, reports⟩,
      took.trans took', (bind_ok ran _).trans ?_⟩
    · rw [quiet turn ht] at reported
      cases reported
    · cases e with
      | some e => exact bind_error ran' _
      | none =>
        refine (bind_ok ran' _).trans ?_
        rw [Turn.countsOf_append, ← counted]
        rfl

/-! ### The body -/

theorem silent_inserts (rows : List Row) : ∀ step ∈ inserts rows, ¬ step.Asks := by
  unfold inserts
  split
  · exact fun _ hs => absurd hs List.not_mem_nil
  · exact List.forall_mem_singleton.mpr id

/-- Unless rows are deleted, those that are in the table are told from the others first. -/
theorem writeKeyed_of_ne {policy : ImportUpdate} (h : policy ≠ .deleteInsert) (rows : List Row) :
    (i.writeKeyed policy rows : SessionM σ ImportCounts) = (do
      let keys ← i.existing rows
      let counts ← if policy = .update then (rows.filter (i.isReported keys)).mapM i.update
        else pure []
      return ImportCounts.sum counts + (← i.insertAny (rows.filter (!i.isReported keys ·)))) := by
  rw [writeKeyed, if_neg h]
  congr 1
  funext keys
  rw [List.partition_eq_filter_filter]
  rfl

theorem fulfils_writeKeyed (policy : ImportUpdate) {rows : List Row} (some : rows ≠ [])
    (keyed : ∀ row ∈ rows, Sorted.hasKey i.key row = true) :
    i.Fulfils decl binding (i.keyedSteps policy rows)
      (i.writeKeyed policy rows : SessionM σ ImportCounts) := by
  -- what is inserted after the question for keys
  have missing (keys : List String) : i.Performs decl binding
      (inserts (rows.filter (!i.isReported keys ·))) id
      (i.insertAny (rows.filter (!i.isReported keys ·)) : SessionM σ ImportCounts) :=
    performs_insertAny _
  cases policy with
  | deleteInsert =>
    have both : i.Performs decl binding ([.delete rows] ++ inserts rows) id
        (i.writeKeyed .deleteInsert rows : SessionM σ ImportCounts) :=
      (performs_delete ⟨some, keyed⟩).and (performs_insertAny rows) (· + ·) fun _ _ => rfl
    exact both.fulfils (List.forall_mem_cons.mpr ⟨id, silent_inserts rows⟩)
  | update =>
    rw [writeKeyed_of_ne ImportUpdate.noConfusion]
    refine fulfils_lookup ⟨some, keyed⟩ (fun keys => ?_) fun keys => ?_
    · have updates : i.Performs decl binding ((rows.filter (i.isReported keys)).map .update)
          ImportCounts.sum
          ((rows.filter (i.isReported keys)).mapM i.update : SessionM σ (List ImportCounts)) :=
        performs_updates fun row hr => keyed row (List.mem_of_mem_filter hr)
      exact updates.and (missing keys) (ImportCounts.sum · + ·) fun _ _ => rfl
    · refine List.forall_mem_append.mpr ⟨fun step hs => ?_, silent_inserts _⟩
      obtain ⟨row, -, rfl⟩ := List.mem_map.mp hs
      exact id
  | keep =>
    rw [writeKeyed_of_ne ImportUpdate.noConfusion]
    refine fulfils_lookup ⟨some, keyed⟩ (fun keys => ?_) fun keys => silent_inserts _
    exact (performs_pure (f := ImportCounts.sum) (a := []) rfl).and (missing keys)
      (ImportCounts.sum · + ·) fun _ _ => rfl

/-- **The rows of an import** are written by the steps of its plan. -/
theorem fulfils_body (policy : ImportUpdate) {s : Sorted}
    (keyed : ∀ row ∈ s.keyed, Sorted.hasKey i.key row = true) :
    i.Fulfils decl binding (i.plan policy s) (i.body policy s : SessionM σ ImportCounts) := by
  have fresh : i.Performs decl binding (inserts s.fresh) id
      (i.insertAny s.fresh : SessionM σ ImportCounts) := performs_insertAny s.fresh
  unfold body plan
  cases none : s.keyed with
  | nil =>
    have all : i.Performs decl binding (inserts s.fresh ++ []) id
        (i.insertAny s.fresh >>= pure : SessionM σ ImportCounts) :=
      fresh.and (performs_pure (f := fun _ : Unit => {}) (a := ()) rfl) (fun a _ => a)
        fun _ _ => rfl
    refine all.fulfils fun step hs => ?_
    rw [List.append_nil] at hs
    exact silent_inserts _ step hs
  | cons row rows =>
    rw [none] at keyed
    exact fresh.and_fulfils (silent_inserts _)
      (fulfils_writeKeyed policy (List.cons_ne_nil row rows) keyed)

end Import

end TableMapper
