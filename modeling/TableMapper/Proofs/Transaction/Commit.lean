import TableMapper.Proofs.Transaction.Protocol

/-!
# What a transaction reports

A transaction reports success when its callback returned, marked nothing as failed, and COMMIT
answered without an error.  A database that has aborted the transaction answers so, too, and commits
nothing.  So the report is wrong when the callback goes on after the failure of a statement, and the
events that waited for the commit are delivered all the same.

* `Callback.aborted_run` says when the transaction is aborted at the end of the callback.
* `Callback.report_of_transaction` says exactly when the report is wrong.
* `Callback.goesOn` is a callback with a wrong report.
-/

namespace TableMapper

variable {σ α : Type}

/-- The statement of the call failed. -/
def Turn.hasFailed (turn : Turn α) : Bool := turn.exchange.any fun e => !e.answer.isOk

namespace Course

/-- A statement of the callback failed. -/
def hasFailure (turns : List (Turn α)) : Bool := turns.any (·.hasFailed)

/-- The statements of the callback begin and end no transactions. -/
def Plain [Backend σ] (P : Transactional σ) (turns : List (Turn α)) : Prop :=
  ∀ turn ∈ turns, ∀ e ∈ turn.exchange, ¬ P.controls e.statement.sql

end Course

namespace Frame

variable [Backend σ] {t : Transaction} {c : TxCall α} {x x' : Frame α σ}

/-- A call aborts the transaction if its statement fails. -/
theorem Next.aborted_iff (P : Transactional σ) (h : Next t c x x')
    (plain : ∀ e ∈ c.exchange? t x, ¬ P.controls e.statement.sql) :
    P.aborted t.number x'.session.database ↔
      P.aborted t.number x.session.database ∨
        Turn.hasFailed { call := c, exchange := c.exchange? t x } := by
  have database := h.sends.database
  rw [Turn.hasFailed]
  unfold TxCall.exchange? at plain ⊢
  cases hst : c.statement? x with
  | none =>
    rw [hst] at database
    rw [database]
    simp
  | some st =>
    rw [hst] at database plain
    have ordinary : ¬ P.controls st.sql := plain _ rfl
    rw [database]
    show P.aborted t.number (Backend.answer t.target st.sql st.args x.session.database).2 ↔
      _ ∨ (!(Backend.answer t.target st.sql st.args x.session.database).1.isOk) = true
    by_cases hok : (Backend.answer t.target st.sql st.args x.session.database).1.isOk
    · -- a statement that succeeds leaves the transaction as it was
      rw [hok]
      simp only [Bool.not_true, Bool.false_eq_true, or_false]
      refine ⟨fun after => Classical.byContradiction fun before => ?_,
        P.aborted_of_aborted _ _ _ _ ordinary⟩
      exact P.not_aborted_of_ok _ _ _ _ ordinary before hok after
    · have failed := P.aborted_of_error _ _ _ _ ordinary hok
      simp only [Bool.not_eq_true] at hok
      simp only [hok, Bool.not_false, or_true, iff_true]
      exact failed

end Frame

namespace Callback

variable [Backend σ]

/-- When a callback returns, its transaction is aborted if it was before, or if a statement of the
callback failed. -/
theorem aborted_run (P : Transactional σ) {t : Transaction} (c : Callback α) {x : Frame α σ}
    (h : x.Bound t) (plain : Course.Plain P (c.trace t x)) :
    P.aborted t.number (c.run t x).2.session.database ↔
      P.aborted t.number x.session.database ∨ Course.hasFailure (c.trace t x) := by
  -- as in `Callback.ran_run`, a bound frame is handed on from call to call
  induction c generalizing x with
  | done returned =>
    have quiet := x.keeps_dropAll (Session.quiet_giveBack t.target)
    have same : x.dropAll.database = x.session.database := quiet.database
    rw [run, trace]
    dsimp only
    rw [same]
    simp [Course.hasFailure]
  | call c next ih =>
    have one := c.next_run h
    have rest := ih (c.run t x).1 one.bound fun turn ht => plain turn (List.mem_cons_of_mem _ ht)
    rw [run, rest, one.aborted_iff P (plain _ List.mem_cons_self), or_assoc, ← Bool.or_eq_true]
    rfl

/-- The session in which a callback has returned, if it ran. -/
def ending (table : Option String) (c : Callback α) (s : Session σ) : Option (Session σ) :=
  let t := Transaction.next table s
  match Backend.connect s.database with
  | (.error _, _) => none
  | (.ok (), d) =>
    match (Backend.answer t.target "BEGIN" [] d).1 with
    | .error _ => none
    | .ok _ => some (c.run t (start d s)).2.session

/-- How far what a transaction reports is true. -/
structure Report (P : Transactional σ) (c : Callback α) (table : Option String) (s : Session σ)
    (o : Outcome α) (s' : Session σ) : Prop where
  /-- Success is reported although nothing was committed exactly when the callback returned and
  marked nothing as failed, but the transaction was aborted by then. -/
  uncommitted : o.ok ∧ ¬ P.durable (s.connections + 1) s'.database ↔
    ∃ turns returned answer x, c.course table s = .ran turns returned answer ∧
      c.ending table s = some x ∧ Course.commits turns returned ∧
      P.aborted (s.connections + 1) x.database
  /-- The transaction was aborted exactly when a statement of the callback failed. -/
  aborted : ∀ turns returned answer x, c.course table s = .ran turns returned answer →
    c.ending table s = some x → Course.Plain P turns →
      (P.aborted (s.connections + 1) x.database ↔ Course.hasFailure turns)
  /-- The events that waited for the commit are delivered exactly when success is reported. -/
  deferred : ∀ x, c.ending table s = some x → ∃ last,
    s'.journal = x.journal ++ .sent (.connection (s.connections + 1)) last [] ::
      (if o.ok then x.deliveries ((Transaction.next table s).waiting x) else []) ++
        [.released (s.connections + 1)]

section

variable {P : Transactional σ} {c : Callback α} {table : Option String} {s s' : Session σ}
  {o : Outcome α}

/-- A callback that did not run reports no success. -/
theorem Report.of_not_ran (ok : o.ok = false) (ending : c.ending table s = none) :
    c.Report P table s o s' := by
  refine ⟨⟨fun h => ?_, ?_⟩, ?_, ?_⟩
  · rw [ok] at h
    exact absurd h.1 (by decide)
  · rintro ⟨_, _, _, x, _, hx, _⟩
    rw [ending] at hx
    cases hx
  · intro _ _ _ x _ hx
    rw [ending] at hx
    cases hx
  · intro x hx
    rw [ending] at hx
    cases hx

theorem Report.of_ran {d : σ} {turns : List (Turn α)} {returned : Except Error α}
    {x : Frame α σ} {answer : Except Error QueryOutput} {s₁ : Session σ}
    (course : c.course table s = .ran turns returned answer)
    (ending : c.ending table s = some x.session)
    (aborted : Course.Plain P turns →
      (P.aborted (s.connections + 1) x.session.database ↔ Course.hasFailure turns))
    (ran : Frame.Ran (Transaction.next table s) turns (start d s) x)
    (concluded : (Transaction.next table s).Concluded returned x.verdict x.session o s₁)
    (journal : s'.journal = s₁.journal ++ [.released (s.connections + 1)])
    (database : s'.database = s₁.database) : c.Report P table s o s' := by
  have verdict : x.verdict = Turn.judgeAll turns {} := ran.verdict
  have ok := concluded.ok
  have after := concluded.database
  rw [verdict, commits_judgeAll, closing_judgeAll] at ok
  rw [verdict, closing_judgeAll, ← database] at after
  refine ⟨⟨fun h => ?_, ?_⟩, ?_, ?_⟩
  · -- COMMIT was answered without an error, so nothing but an abort can have lost the work
    obtain ⟨hok, lost⟩ := h
    rw [hok, eq_comm, Bool.and_eq_true] at ok
    obtain ⟨commits, answered⟩ := ok
    rw [Course.last, if_pos commits] at after answered
    rw [after] at lost
    refine ⟨turns, returned, answer, x.session, course, ending, commits, ?_⟩
    exact Classical.byContradiction fun clean => lost (P.durable_commit _ _ clean answered)
  · -- an aborted transaction answers COMMIT without an error, and that is all that is looked at
    rintro ⟨turns', returned', answer', x', hcourse, hx, commits, hab⟩
    rw [course] at hcourse
    rw [ending] at hx
    cases hcourse
    cases hx
    obtain ⟨answered, lost⟩ := P.commit_of_aborted _ _ hab
    rw [Course.last, if_pos commits] at ok after
    refine ⟨?_, ?_⟩
    · rw [ok, commits]
      exact answered
    · rw [after]
      exact lost
  · intro turns' returned' answer' x' hcourse hx
    rw [course] at hcourse
    rw [ending] at hx
    cases hcourse
    cases hx
    exact aborted
  · intro x' hx
    rw [ending] at hx
    cases hx
    exact ⟨_, by rw [journal, concluded.journal]; rfl⟩

end

/-- **The report of a transaction** is wrong exactly when its callback went on after the failure of
a statement.  Every session that is ever reached is sound (`Session.Reachable.sound`). -/
theorem report_of_transaction (P : Transactional σ) (c : Callback α) (table : Option String)
    {s : Session σ} (h : s.Sound) :
    ∃ o s', Session.transaction table c.body s = (.ok o, s') ∧ c.Report P table s o s' := by
  rcases hc : Backend.connect s.database with ⟨e | u, d⟩
  · refine ⟨_, _, Session.transaction_unconnected hc, .of_not_ran rfl ?_⟩
    rw [ending, hc]
  · cases hb : (Backend.answer (Transaction.next table s).target "BEGIN" [] d).1 with
    | error e =>
      refine ⟨_, _, Session.transaction_refused hc hb, .of_not_ran rfl ?_⟩
      simp only [ending, hc, hb]
    | ok out =>
      rcases hr : c.run (Transaction.next table s) (start d s) with ⟨returned, x⟩
      obtain ⟨o, s₁, s', done, ran, concluded, journal, database⟩ :=
        c.transaction_ran table h hc hb hr
      have begun : ¬ P.aborted (s.connections + 1) (start d s : Frame α σ).session.database :=
        P.not_aborted_begin (s.connections + 1) d (congrArg Except.isOk hb)
      have bound := bound_start (α := α) h table d
      refine ⟨o, s', done, .of_ran (c.course_of_ran hc hb hr) ?_ (fun plain => ?_) ran concluded
        journal database⟩
      · simp only [ending, hc, hb, hr]
      · have ends := c.aborted_run P bound plain
        rw [hr] at ends
        exact ends.trans (or_iff_right begun)

/-- A callback that goes on after the failure of a statement, and returns.  An event waits for its
commit. -/
def goesOn : Callback Nat :=
  .call (.lease "m" (.model "t")) fun _ =>
    .call (.use "m" [.triggerCommit] (.insert [("a", .int 1)])) fun _ =>
      .call (.query "UPDATE t" []) fun _ => .done (.ok 1)

/-- A session whose database refuses a statement, and in which a handler listens. -/
def refusing : Session Ledger :=
  Ledger.session ["UPDATE t"] [("t", { name := "h", hears := fun _ => true })]

/-- Success is reported and the event delivered, and nothing was committed. -/
theorem goesOn_reports_success :
    refusing.Sound ∧
    ∃ o s', Session.transaction none goesOn.body refusing = (.ok o, s') ∧
      o.ok = true ∧ ¬ Ledger.transactional.durable 1 s'.database ∧
      (s'.journal.filter (!·.isDealing)).length = 1 := by
  have sound : refusing.Sound := .of_new rfl rfl rfl
  obtain ⟨o, s', done, report⟩ :=
    goesOn.report_of_transaction Ledger.transactional none sound
  have wrong : o.ok ∧ ¬ Ledger.transactional.durable 1 s'.database := by
    refine report.uncommitted.mpr ⟨_, _, _, _, rfl, rfl, ?_, ?_⟩
    · decide +kernel
    · show 1 ∈ _
      decide +kernel
  have delivered : ((Session.transaction none goesOn.body refusing).2.journal.filter
      (!·.isDealing)).length = 1 := by decide +kernel
  rw [done] at delivered
  exact ⟨sound, o, s', done, wrong.1, wrong.2, delivered⟩

end Callback

end TableMapper
