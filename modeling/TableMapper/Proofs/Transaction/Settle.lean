import TableMapper.Proofs.Session.Dealings

/-!
# The ends of a transaction

What happens before the body of a transaction and after it, whatever the body is.

* `Session.connected` and `Session.begun` are the sessions after the connection was checked out and
  after BEGIN was sent on it; `Transaction.begin_unconnected`, `Transaction.begin_refused` and
  `Transaction.begin_ok` are the three ways to begin.
* `Transaction.Concluded` is what the last statement comes to (`Transaction.concluded_conclude`),
  and `Transaction.settle_spec` gives the connection back after it.
-/

namespace TableMapper

variable {σ α : Type}

namespace Session

/-- The session after a connection was checked out, which left the database in a state. -/
def connected (d : σ) (s : Session σ) : Session σ :=
  { s.noted [.connected (s.connections + 1)] with
    database := d
    connections := s.connections + 1 }

/-- The session after BEGIN was sent on the connection that was checked out. -/
def begun [Backend σ] (d : σ) (s : Session σ) : Session σ :=
  (s.connected d).afterSending (.connection (s.connections + 1)) "BEGIN" []

theorem connect_ok [Backend σ] {s : Session σ} {d : σ}
    (h : Backend.connect s.database = (.ok (), d)) :
    connect s = (.ok (s.connections + 1), s.connected d) := by
  rw [connect, h]
  rfl

theorem connect_error [Backend σ] {s : Session σ} {e : Error} {d : σ}
    (h : Backend.connect s.database = (.error e, d)) :
    connect s = (.error e, { s with database := d }) := by
  rw [connect, h]

/-- The number of the next connection is that of no transaction. -/
theorem Sound.branch?_next {s : Session σ} (h : s.Sound) :
    s.branch? (s.connections + 1) = none := by
  refine List.lookup_eq_none_iff.mpr fun b hb => ?_
  have known := (h.branches b hb).1
  simp only [bne_iff_ne, ne_eq]
  omega

variable [Backend σ]

/-- The transaction that was opened is found by its number, and nothing waits for its commit. -/
theorem branch?_opened {s : Session σ} (h : s.Sound) (d : σ) :
    ∃ b, (Transaction.opened (s.connections + 1) (s.begun d)).branch? (s.connections + 1) = some b ∧
      b.queue = [] := by
  have absent : s.branches.lookup (s.connections + 1) = none := h.branch?_next
  simp [branch?, Transaction.opened, begun, connected, afterSending, noted, absent,
    List.lookup_append]

theorem sound_opened {s : Session σ} (h : s.Sound) (d : σ) :
    (Transaction.opened (s.connections + 1) (s.begun d)).Sound := by
  refine ⟨h.pool, fun b hb => ?_, fun l hl => (h.leases l hl).mono (Nat.le_succ _)⟩
  rcases List.mem_append.mp hb with hb | hb
  · obtain ⟨known, wired⟩ := h.branches b hb
    exact ⟨Nat.le_succ_of_le known, wired⟩
  · rw [List.mem_singleton.mp hb]
    exact ⟨Nat.le_refl _, rfl⟩

end Session

namespace Transaction

variable [Backend σ] {s : Session σ} {d : σ} {e : Error} (table : Option String)

/-- The transaction that a session begins next. -/
def next (table : Option String) (s : Session σ) : Transaction :=
  { number := s.connections + 1, schema := s.schema, table }

/-! ### Begin -/

theorem begin_unconnected (h : Backend.connect s.database = (.error e, d)) :
    (begin table : SessionM σ (Except (Outcome α) Transaction)) s =
      (.ok (.error (.failure "failed to acquire a connection" (some e))),
        { s with database := d }) := by
  rw [begin, bind_ok (get_apply s), bind_ok (SessionM.attempt_apply _ s), Session.connect_error h]
  rfl

theorem query_begin (r : Except Error QueryOutput)
    (hb : (Backend.answer (next table s).target "BEGIN" [] d).1 = r) :
    (next table s).query "BEGIN" [] (s.connected d) = (r, s.begun d) := Prod.ext hb rfl

theorem begin_refused (h : Backend.connect s.database = (.ok (), d))
    (hb : (Backend.answer (next table s).target "BEGIN" [] d).1 = .error e) :
    (begin table : SessionM σ (Except (Outcome α) Transaction)) s =
      (.ok (.error (.failure "failed to begin transaction" (some e))),
        (s.begun d).noted [.released (s.connections + 1)]) := by
  rw [begin, bind_ok (get_apply s), bind_ok (SessionM.attempt_apply _ s), Session.connect_ok h]
  dsimp only
  rw [← next, bind_ok (SessionM.attempt_apply _ _), query_begin table _ hb]
  rfl

theorem begin_ok {out : QueryOutput} (h : Backend.connect s.database = (.ok (), d))
    (hb : (Backend.answer (next table s).target "BEGIN" [] d).1 = .ok out) :
    (begin table : SessionM σ (Except (Outcome α) Transaction)) s =
      (.ok (.ok (next table s)), opened (s.connections + 1) (s.begun d)) := by
  rw [begin, bind_ok (get_apply s), bind_ok (SessionM.attempt_apply _ s), Session.connect_ok h]
  dsimp only
  rw [← next, bind_ok (SessionM.attempt_apply _ _), query_begin table _ hb]
  rfl

/-! ### The last statement -/

/-- The body returned, and did not mark the transaction as failed. -/
def commits (returned : Except Error α) (v : Verdict α) : Bool := returned.isOk && !v.failed

/-- The last statement of a transaction. -/
def closing (returned : Except Error α) (v : Verdict α) : String :=
  if commits returned v then "COMMIT" else "ROLLBACK"

/-- The events that wait for the commit of a transaction. -/
def waiting (t : Transaction) (s : Session σ) : List TableEvent :=
  ((s.branch? t.number).map (·.queue)).getD []

/-- What the last statement of a transaction comes to. -/
structure Concluded (t : Transaction) (returned : Except Error α) (v : Verdict α)
    (s : Session σ) (o : Outcome α) (s' : Session σ) : Prop where
  journal : s'.journal = s.journal ++ .sent t.target (closing returned v) [] ::
    if o.ok then s.deliveries (t.waiting s) else []
  database :
    s'.database = (Backend.answer t.target (closing returned v) [] s.database).2
  steady : s.Steady s'
  ok : o.ok = (commits returned v &&
    (Backend.answer t.target (closing returned v) [] s.database).1.isOk)
  result : o.result = if o.ok then v.result.or returned.toOption else none
  error : o.error = none ↔ o.ok ∨ returned.isOk ∧ v.failed

omit [Backend σ] in
theorem takeQueue_apply (t : Transaction) (s : Session σ) :
    t.takeQueue s =
      (.ok (t.waiting s), s.modifyBranch t.number fun b => { b with queue := [] }) := rfl

omit [Backend σ] in
theorem steady_takeQueue (t : Transaction) (s : Session σ) :
    s.Steady (s.modifyBranch t.number fun b => { b with queue := [] }) :=
  Session.steady_modifyBranch fun _ _ _ => rfl

theorem rollback_apply (t : Transaction) (s : Session σ) :
    t.rollback s = (.ok (), (s.modifyBranch t.number fun b => { b with queue := [] }).afterSending
      t.target "ROLLBACK" []) := rfl

theorem steady_rollback (t : Transaction) (s : Session σ) : s.Steady (t.rollback s).2 :=
  trans_of Session.Steady (steady_takeQueue t s) (Session.keeps_send t.target "ROLLBACK" [] _)

/-- The session after COMMIT was sent and the events that waited were taken. -/
def afterCommit (t : Transaction) (s : Session σ) : Session σ :=
  (s.afterSending t.target "COMMIT" []).modifyBranch t.number fun b => { b with queue := [] }

theorem steady_afterCommit (t : Transaction) (s : Session σ) : s.Steady (t.afterCommit s) :=
  trans_of Session.Steady (Session.keeps_send t.target "COMMIT" [] s) (steady_takeQueue t _)

theorem commit_ok {t : Transaction} {out : QueryOutput} (value : α) (message : Option String)
    (h : (Backend.answer t.target "COMMIT" [] s.database).1 = .ok out) :
    t.commit value message s =
      (.ok { ok := true, result := some value, message },
        (t.afterCommit s).noted (s.deliveries (t.waiting s))) := by
  have sent : t.query "COMMIT" [] s = (.ok out, s.afterSending t.target "COMMIT" []) :=
    Prod.ext h rfl
  rw [commit, bind_ok (SessionM.attempt_apply _ s), sent, bind_ok (takeQueue_apply t _)]
  exact bind_ok (Session.emitAll_apply _ _) _

theorem commit_error {t : Transaction} {e : Error} (value : α) (message : Option String)
    (h : (Backend.answer t.target "COMMIT" [] s.database).1 = .error e) :
    t.commit value message s = (.ok (.failure "commit failed" (some e)), t.afterCommit s) := by
  have sent : t.query "COMMIT" [] s = (.error e, s.afterSending t.target "COMMIT" []) :=
    Prod.ext h rfl
  rw [commit, bind_ok (SessionM.attempt_apply _ s), sent, bind_ok (takeQueue_apply t _)]
  rfl

/-- **The last statement** is COMMIT or ROLLBACK, as the body has it, and the outcome tells whether
the transaction has committed. -/
theorem concluded_conclude (t : Transaction) (returned : Except Error α) (v : Verdict α)
    (s : Session σ) :
    ∃ o s', t.conclude returned v s = (.ok o, s') ∧ Concluded t returned v s o s' := by
  cases returned with
  -- an error is reported even if the transaction was marked as failed as well
  | error e =>
    refine ⟨.failure (v.message.getD e.message) (some e), (t.rollback s).2,
      bind_ok (rollback_apply t s) _, rfl, rfl, steady_rollback t s, rfl, rfl, ?_⟩
    simp [Outcome.failure, Except.isOk, Except.toBool]
  | ok value =>
    cases hf : v.failed with
    | true =>
      have last : closing (.ok value) v = "ROLLBACK" := by simp [closing, commits, hf]
      have decided : commits (.ok value) v = false := by simp [commits, hf]
      refine ⟨.failure (v.message.getD "transaction marked failed") none, (t.rollback s).2, ?_, ?_⟩
      · rw [conclude, if_pos hf]
        exact bind_ok (rollback_apply t s) _
      · refine ⟨by rw [last]; rfl, by rw [last]; rfl, steady_rollback t s, ?_, rfl, ?_⟩
        · rw [decided]
          rfl
        · simp [Outcome.failure, Except.isOk, Except.toBool, hf]
    | false =>
      have last : closing (.ok value) v = "COMMIT" := by
        simp [closing, commits, hf, Except.isOk, Except.toBool]
      have decided : commits (.ok value) v = true := by
        simp [commits, hf, Except.isOk, Except.toBool]
      have ends : t.conclude (.ok value) v s = t.commit (v.result.getD value) v.message s := by
        rw [conclude, hf]
        rfl
      cases hc : (Backend.answer t.target "COMMIT" [] s.database).1 with
      | ok out =>
        refine ⟨_, _, ends.trans (commit_ok _ _ hc), ?_, ?_, ?_, ?_, ?_, ?_⟩
        · rw [last]
          simp [Session.noted, afterCommit, Session.afterSending, Session.modifyBranch]
        · rw [last]
          rfl
        · exact trans_of Session.Steady (steady_afterCommit t s) (Session.steady_noted _ _)
        · rw [last, decided, hc]
          rfl
        · cases v.result <;> rfl
        · simp
      | error e =>
        refine ⟨_, _, ends.trans (commit_error _ _ hc), ?_, ?_, steady_afterCommit t s, ?_, rfl, ?_⟩
        · rw [last]
          rfl
        · rw [last]
          rfl
        · rw [last, decided, hc]
          rfl
        · simp [Outcome.failure, hf]

/-- The end of the body keeps a relation that stands when queues are emptied, statements are sent and
handlers hear of events. -/
theorem keeps_conclude {R : Session σ → Session σ → Prop} [Std.Refl R] [IsTrans (Session σ) R]
    {t : Transaction} (dealt : ∀ s deeds d, R s { Session.noted deeds s with database := d })
    (taken : Keeps R (t.takeQueue : SessionM σ (List TableEvent))) (returned : Except Error α)
    (v : Verdict α) : Keeps R (t.conclude returned v : SessionM σ (Outcome α)) := by
  have sent (sql : String) : Keeps R (t.query sql [] : SessionM σ QueryOutput) :=
    fun s => dealt s _ _
  have rolled : Keeps R (t.rollback : SessionM σ Unit) :=
    taken.bind fun _ => (sent "ROLLBACK").attempt.bind fun _ => keeps_pure ()
  have committed (value : α) (message : Option String) :
      Keeps R (t.commit value message : SessionM σ (Outcome α)) := by
    refine (sent "COMMIT").attempt.bind fun r => taken.bind fun events => ?_
    cases r with
    | error e => exact keeps_pure _
    | ok out =>
      refine Keeps.bind (fun s => ?_) fun _ => keeps_pure _
      rw [Session.emitAll_apply]
      exact dealt s _ s.database
  unfold conclude
  split
  · exact rolled.bind fun _ => keeps_pure _
  · split
    · exact rolled.bind fun _ => keeps_pure _
    · exact committed _ _

/-! ### Giving the connection back -/

omit [Backend σ] in
theorem wires_foldl_put (idle : List Builder) (p : BuilderPool) :
    (idle.foldl (·.put ·) p).wires = p.wires := by
  induction idle generalizing p with
  | nil => rfl
  | cons b idle ih => exact (ih (p.put b)).trans (p.wires_put b)

omit [Backend σ] in
theorem steady_recycled (t : Transaction) (s : Session σ) : s.Steady (t.recycled s) := by
  unfold recycled
  cases hb : s.branch? t.number with
  | none => exact refl s
  | some b =>
    have drained :
        s.Steady (s.modifyBranch t.number fun c => { c with pool := b.pool.drain.2 }) := by
      refine Session.steady_modifyBranch fun hs c hc => ?_
      -- two transactions of one number have the same wires, so it does not matter which was found
      exact (hs.branches _ (Session.mem_of_branch? hb)).2.trans (hs.branches _ hc).2.symm
    refine trans_of Session.Steady drained ?_
    exact Session.steady_of_eq rfl (wires_foldl_put b.pool.drain.1 s.pool) rfl rfl

omit [Backend σ] in
theorem journal_recycled (t : Transaction) (s : Session σ) :
    (t.recycled s).journal = s.journal ∧ (t.recycled s).database = s.database := by
  unfold recycled
  cases s.branch? t.number <;> exact ⟨rfl, rfl⟩

omit [Backend σ] in
/-- No builder that was kept before runs on the connection of the next transaction. -/
theorem isHeld_next {s s' : Session σ} (h : s.Sound) (table : Option String)
    (leases : s'.leases = s.leases) : (next table s).isHeld s' = false := by
  rw [isHeld, leases, List.any_eq_false]
  intro l hl
  have known := h.leases l hl
  rw [decide_eq_true_eq]
  intro same
  -- the number would be one more than that of the last connection, and at most that
  rw [same] at known
  exact Nat.not_succ_le_self _ known

/-- The session after the connection of a transaction was given back. -/
def freed (t : Transaction) (s : Session σ) : Session σ :=
  Session.noted [.released t.number]
    { s with branches := s.branches.filter (·.1 != t.number) }

omit [Backend σ] in
theorem release_apply (t : Transaction) (s : Session σ) :
    t.release s = (.ok (), if t.isHeld s then s else t.freed s) := by
  rw [release, bind_ok (get_apply s)]
  split <;> rfl

/-- A transaction ends with its last statement, and gives its connection back after it unless a
builder still runs on that. -/
theorem settle_spec (t : Transaction) (returned : Except Error α) (v : Verdict α)
    (s : Session σ) :
    ∃ o s₁ s', t.settle returned v s = (.ok o, s') ∧ Concluded t returned v s o s₁ ∧
      s'.journal = s₁.journal ++ (if t.isHeld s then [] else [.released t.number]) ∧
      s'.database = s₁.database := by
  obtain ⟨o, s₁, ends, concluded⟩ := concluded_conclude t returned v s
  -- neither the last statement nor the recycling of builders keeps any of them
  have held : t.isHeld (t.recycled s₁) = t.isHeld s := by
    rw [isHeld, isHeld, (steady_recycled t s₁).leases, concluded.steady.leases]
  obtain ⟨journal, database⟩ := journal_recycled t s₁
  refine ⟨o, s₁, if t.isHeld s then t.recycled s₁ else t.freed (t.recycled s₁), ?_, concluded, ?_⟩
  · rw [settle, bind_ok ends, bind_ok (modify_apply _ _), bind_ok (release_apply _ _), held]
    rfl
  · cases t.isHeld s with
    | true => exact ⟨by simpa using journal, database⟩
    | false => exact ⟨congrArg (· ++ [Deed.released t.number]) journal, database⟩

/-- A transaction whose builders are all given back gives its connection back. -/
theorem settle_of_free {t : Transaction} {s : Session σ} (h : t.isHeld s = false)
    (returned : Except Error α) (v : Verdict α) :
    ∃ o s₁ s', t.settle returned v s = (.ok o, s') ∧ Concluded t returned v s o s₁ ∧
      s'.journal = s₁.journal ++ [.released t.number] ∧ s'.database = s₁.database := by
  simpa [h] using t.settle_spec returned v s

end Transaction

/-! ### The whole -/

namespace Session

variable [Backend σ] {s : Session σ} {d : σ} {table : Option String}
  {body : Transaction → TransactionM α σ α}

theorem transaction_unconnected {e : Error} (h : Backend.connect s.database = (.error e, d)) :
    transaction table body s =
      (.ok (.failure "failed to acquire a connection" (some e)), { s with database := d }) := by
  rw [transaction, bind_ok (Transaction.begin_unconnected table h)]
  rfl

theorem transaction_refused {e : Error} (h : Backend.connect s.database = (.ok (), d))
    (hb : (Backend.answer (Transaction.next table s).target "BEGIN" [] d).1 = .error e) :
    transaction table body s =
      (.ok (.failure "failed to begin transaction" (some e)),
        (s.begun d).noted [.released (s.connections + 1)]) := by
  rw [transaction, bind_ok (Transaction.begin_refused table h hb)]
  rfl

theorem transaction_ok {out : QueryOutput} (h : Backend.connect s.database = (.ok (), d))
    (hb : (Backend.answer (Transaction.next table s).target "BEGIN" [] d).1 = .ok out)
    {returned : Except Error α} {v : Verdict α} {s' : Session σ}
    (hr : body (Transaction.next table s)
      ({}, Transaction.opened (s.connections + 1) (s.begun d)) = (returned, (v, s'))) :
    transaction table body s = (Transaction.next table s).settle returned v s' := by
  rw [transaction, bind_ok (Transaction.begin_ok table h hb)]
  dsimp only
  rw [bind_ok (WithinM.runFrom_apply _ _ _), hr]

end Session

end TableMapper
