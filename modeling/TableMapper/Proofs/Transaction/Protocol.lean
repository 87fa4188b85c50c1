import TableMapper.Proofs.Transaction.Callback
import TableMapper.Proofs.Transaction.Database
import TableMapper.Proofs.Transaction.Settle

/-!
# The protocol of transactions

How far a transaction comes depends on what fails: no connection is to be had, BEGIN fails, the
callback fails or marks the transaction as failed, or COMMIT fails.

* `Course` is how far a transaction came, and `Callback.course` how far it comes for a callback.
* `Course.deeds` is what is done with the database in a course, from the connection that is checked
  out to the same connection given back.
* `Callback.transaction_follows_course` says that the transaction does that, and that its outcome
  agrees with it, whatever the database answers and whatever the callback does.
-/

namespace TableMapper

variable {σ α : Type}

/-- How far a transaction came. -/
inductive Course (α : Type) where
  /-- No connection was to be had. -/
  | unconnected (e : Error)
  /-- BEGIN failed. -/
  | refused (e : Error)
  /-- The callback ran: the calls that it made, what it returned, and the answer to the last
  statement. -/
  | ran (turns : List (Turn α)) (returned : Except Error α) (answer : Except Error QueryOutput)

namespace Course

/-- A call marked the transaction as failed. -/
def isMarked (turns : List (Turn α)) : Bool := turns.any (·.call.fails)

/-- The callback returned without an error, and marked nothing as failed. -/
def commits (turns : List (Turn α)) (returned : Except Error α) : Bool :=
  returned.isOk && !isMarked turns

/-- The last statement. -/
def last (turns : List (Turn α)) (returned : Except Error α) : String :=
  if commits turns returned then "COMMIT" else "ROLLBACK"

/-- The statements of the callback, as they are sent on a connection. -/
def statements (n : Nat) (turns : List (Turn α)) : List Deed :=
  (turns.filterMap (·.exchange)).map (Exchange.deed (.connection n))

/-- What is done with the database, on the connection with a number. -/
def deeds (n : Nat) : Course α → List Deed
  | .unconnected _ => []
  | .refused _ => [.connected n, .sent (.connection n) "BEGIN" [], .released n]
  | .ran turns returned _ =>
    [.connected n, .sent (.connection n) "BEGIN" []] ++ statements n turns ++
      [.sent (.connection n) (last turns returned) [], .released n]

/-- BEGIN and COMMIT were sent, and both succeeded. -/
def committed : Course α → Bool
  | .unconnected _ => false
  | .refused _ => false
  | .ran turns returned answer => commits turns returned && answer.isOk

/-- The result that was set last, or else what the callback returned. -/
def value? : Course α → Option α
  | .unconnected _ => none
  | .refused _ => none
  | .ran turns returned _ => (turns.filterMap (·.call.result?)).getLast?.or returned.toOption

/-- The callback returned without an error, but had marked the transaction as failed. -/
def isMarkedOnly : Course α → Bool
  | .unconnected _ => false
  | .refused _ => false
  | .ran turns returned _ => returned.isOk && isMarked turns

/-- The outcome of a transaction, and what it has done with the database, agree with its course. -/
structure Agrees (r : Course α) (n : Nat) (j : Journal) (o : Outcome α) (j' : Journal) : Prop where
  dealings : j'.dealings = j.dealings ++ r.deeds n
  ok : o.ok = r.committed
  result : o.result = if o.ok then r.value? else none
  isSome_result : o.result.isSome = o.ok
  error : o.error = none ↔ o.ok ∨ r.isMarkedOnly

end Course

namespace Callback

variable [Backend σ]

/-- The frame in which a callback starts, when BEGIN has succeeded. -/
def start (d : σ) (s : Session σ) : Frame α σ :=
  { session := Transaction.opened (s.connections + 1) (s.begun d) }

/-- How far a transaction comes. -/
def course (table : Option String) (c : Callback α) (s : Session σ) : Course α :=
  let t := Transaction.next table s
  match Backend.connect s.database with
  | (.error e, _) => .unconnected e
  | (.ok (), d) =>
    match (Backend.answer t.target "BEGIN" [] d).1 with
    | .error e => .refused e
    | .ok _ =>
      let turns := c.trace t (start d s)
      let (returned, x) := c.run t (start d s)
      .ran turns returned
        (Backend.answer t.target (Course.last turns returned) [] x.session.database).1

theorem bound_start {s : Session σ} (h : s.Sound) (table : Option String) (d : σ) :
    Frame.Bound (Transaction.next table s) (start d s : Frame α σ) := by
  obtain ⟨b, hb, -⟩ := Session.branch?_opened h d
  refine ⟨Session.sound_opened h d, Option.isSome_iff_exists.mpr ⟨b, hb⟩, fun l hl => ?_⟩
  cases hl

theorem dealings_begun (s : Session σ) (d : σ) :
    (s.begun d).journal.dealings = s.journal.dealings ++
      [.connected (s.connections + 1), .sent (.connection (s.connections + 1)) "BEGIN" []] := by
  show Journal.dealings ((s.journal ++ [_]) ++ [_]) = _
  rw [Journal.dealings_append, Journal.dealings_append, List.append_assoc]
  rfl

theorem commits_judgeAll (turns : List (Turn α)) (returned : Except Error α) :
    Transaction.commits returned (Turn.judgeAll turns {}) = Course.commits turns returned := by
  rw [Transaction.commits, Turn.failed_judgeAll, Bool.false_or]
  rfl

theorem closing_judgeAll (turns : List (Turn α)) (returned : Except Error α) :
    Transaction.closing returned (Turn.judgeAll turns {}) = Course.last turns returned := by
  rw [Transaction.closing, commits_judgeAll]
  rfl

theorem course_of_ran (c : Callback α) {table : Option String} {s : Session σ} {d : σ}
    {out : QueryOutput} (hc : Backend.connect s.database = (.ok (), d))
    (hb : (Backend.answer (Transaction.next table s).target "BEGIN" [] d).1 = .ok out)
    {returned : Except Error α} {x : Frame α σ}
    (hr : c.run (Transaction.next table s) (start d s) = (returned, x)) :
    let turns := c.trace (Transaction.next table s) (start d s)
    c.course table s = .ran turns returned (Backend.answer (Transaction.next table s).target
      (Course.last turns returned) [] x.session.database).1 := by
  simp only [course, hc, hb, hr]

/-- When BEGIN succeeds, the callback runs, and the transaction ends as it has it. -/
theorem transaction_ran (c : Callback α) (table : Option String) {s : Session σ} (h : s.Sound)
    {d : σ} {out : QueryOutput} (hc : Backend.connect s.database = (.ok (), d))
    (hb : (Backend.answer (Transaction.next table s).target "BEGIN" [] d).1 = .ok out)
    {returned : Except Error α} {x : Frame α σ}
    (hr : c.run (Transaction.next table s) (start d s) = (returned, x)) :
    ∃ o s₁ s', Session.transaction table c.body s = (.ok o, s') ∧
      Frame.Ran (Transaction.next table s) (c.trace (Transaction.next table s) (start d s))
        (start d s) x ∧
      (Transaction.next table s).Concluded returned x.verdict x.session o s₁ ∧
      s'.journal = s₁.journal ++ [.released (s.connections + 1)] ∧
      s'.database = s₁.database := by
  have ran := c.ran_run (bound_start h table d)
  rw [hr] at ran
  have free := Transaction.isHeld_next h table ran.steady.leases
  obtain ⟨o, s₁, s', settled, concluded, journal, database⟩ :=
    Transaction.settle_of_free free returned x.verdict
  have body : c.body (Transaction.next table s)
      ({}, Transaction.opened (s.connections + 1) (s.begun d)) =
        (returned, (x.verdict, x.session)) := by
    show (let (r, x) := c.run (Transaction.next table s) (start d s)
      (r, (x.verdict, x.session))) = _
    rw [hr]
  exact ⟨o, s₁, s', (Session.transaction_ok hc hb body).trans settled, ran, concluded, journal,
    database⟩

/-- The outcome and the deeds of a transaction whose callback ran agree with its course. -/
theorem agrees_ran {s : Session σ} {d : σ} {turns : List (Turn α)} {returned : Except Error α}
    {t : Transaction} (ht : t.number = s.connections + 1) {x : Frame α σ}
    (ran : Frame.Ran t turns (start d s) x) {o : Outcome α} {s₁ : Session σ}
    (concluded : t.Concluded returned x.verdict x.session o s₁) {j : Journal}
    (hj : j = s₁.journal ++ [.released (s.connections + 1)]) :
    (Course.ran turns returned (Backend.answer t.target (Course.last turns returned) []
      x.session.database).1).Agrees (s.connections + 1) s.journal o j := by
  have target : t.target = .connection (s.connections + 1) := congrArg Target.connection ht
  have verdict : x.verdict = Turn.judgeAll turns {} := ran.verdict
  have closing := closing_judgeAll turns returned
  have commits := commits_judgeAll turns returned
  rw [← verdict] at closing commits
  have marked : x.verdict.failed = Course.isMarked turns := by
    rw [verdict, Turn.failed_judgeAll, Bool.false_or]
    rfl
  have ok := concluded.ok
  have result := concluded.result
  -- the verdict is what the calls have said, so the course can be read off the trace
  rw [closing, commits] at ok
  rw [verdict, Turn.result_judgeAll, Option.or_none] at result
  refine ⟨?_, ok, result, ?_, ?_⟩
  · -- deliveries to handlers are no dealings, so only the statements are left
    have rest : Journal.dealings (if o.ok then
        x.session.deliveries (t.waiting x.session) else []) = [] := by
      split
      · exact Session.dealings_deliveries _ _
      · rfl
    rw [hj, Journal.dealings_append, concluded.journal, Journal.dealings_append, ran.dealings,
      Journal.dealings_sent, rest, closing, target]
    show (s.begun d).journal.dealings ++ _ ++ _ ++ _ = _
    rw [dealings_begun, Course.deeds, Course.statements]
    simp [Journal.dealings, Deed.isDealing]
  · cases hok : o.ok with
    | false => rw [result, hok]; rfl
    | true =>
      -- success is reported only if the callback returned a value, so there is a result
      rw [hok] at ok
      have returns : returned.isOk = true := by
        simp only [Course.commits, Bool.and_eq_true, eq_comm (a := true)] at ok
        exact ok.1.1
      cases returned with
      | error e => cases returns
      | ok value =>
        rw [result, hok, if_pos rfl]
        cases (turns.filterMap (·.call.result?)).getLast? <;> rfl
  · rw [concluded.error, marked, Course.isMarkedOnly, Bool.and_eq_true]

/-- **Transactions follow their course.**  Whatever fails, what a transaction does with the database
is what its course has, and its outcome agrees with that.  Every session that is ever reached is
sound (`Session.Reachable.sound`). -/
theorem transaction_follows_course (c : Callback α) (table : Option String) {s : Session σ}
    (h : s.Sound) :
    ∃ o s', Session.transaction table c.body s = (.ok o, s') ∧
      (c.course table s).Agrees (s.connections + 1) s.journal o s'.journal := by
  rcases hc : Backend.connect s.database with ⟨e | u, d⟩
  · refine ⟨_, _, Session.transaction_unconnected hc, ?_⟩
    rw [show c.course table s = .unconnected e by rw [course, hc]]
    refine ⟨?_, rfl, rfl, rfl, ?_⟩
    · simp [Course.deeds]
    · simp [Outcome.failure, Course.isMarkedOnly]
  · cases hb : (Backend.answer (Transaction.next table s).target "BEGIN" [] d).1 with
    | error e =>
      refine ⟨_, _, Session.transaction_refused hc hb, ?_⟩
      rw [show c.course table s = .refused e by simp only [course, hc, hb]]
      refine ⟨?_, rfl, rfl, rfl, ?_⟩
      · show Journal.dealings ((s.begun d).journal ++ [_]) = _
        rw [Journal.dealings_append, dealings_begun, List.append_assoc]
        rfl
      · simp [Outcome.failure, Course.isMarkedOnly]
    | ok out =>
      rcases hr : c.run (Transaction.next table s) (start d s) with ⟨returned, x⟩
      obtain ⟨o, s₁, s', done, ran, concluded, journal, -⟩ := c.transaction_ran table h hc hb hr
      refine ⟨o, s', done, ?_⟩
      rw [c.course_of_ran hc hb hr]
      exact agrees_ran rfl ran concluded journal

/-- A callback that goes on after a failure, marks the transaction as failed and returns. -/
def giveUp : Callback Nat :=
  .call (.query "DELETE FROM t" []) fun _ =>
    .call (.query "INSERT INTO t VALUES (1)" []) fun r =>
      .call (.setResult 7) fun _ =>
        .call (if r.isOk then .isFailed else .fail "gave up") fun _ => .done (.ok 1)

/-- After a failure that marks the transaction, nothing but ROLLBACK is sent. -/
theorem giveUp_follows_course :
    Session.Sound (Ledger.session ["INSERT INTO t VALUES (1)"]) ∧
    ∃ o s', Session.transaction none giveUp.body (Ledger.session ["INSERT INTO t VALUES (1)"]) =
        (.ok o, s') ∧
      s'.journal.dealings = [.connected 1, .sent (.connection 1) "BEGIN" [],
        .sent (.connection 1) "DELETE FROM t" [],
        .sent (.connection 1) "INSERT INTO t VALUES (1)" [],
        .sent (.connection 1) "ROLLBACK" [], .released 1] ∧
      o.ok = false ∧ o.result = none ∧ o.error = none := by
  have sound : Session.Sound (Ledger.session ["INSERT INTO t VALUES (1)"]) :=
    .of_new rfl rfl rfl
  obtain ⟨o, s', done, agrees⟩ := giveUp.transaction_follows_course none sound
  have ok : o.ok = false := agrees.ok
  refine ⟨sound, o, s', done, agrees.dealings, ok, ?_, ?_⟩
  · rw [agrees.result, ok]
    rfl
  · rw [agrees.error]
    exact .inr rfl

end Callback

end TableMapper
