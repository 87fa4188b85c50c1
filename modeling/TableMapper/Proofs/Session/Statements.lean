import TableMapper.Proofs.Builder.Fresh

/-!
# Single statements

A call on a table takes a builder, runs one terminal and gives the builder back.

* `BuilderM.Runs` says that a use of a builder runs a terminal and does nothing else.
* `Session.Asked` relates two sessions between which one statement was sent at most.
* `Session.withBuilder_runs`: a call sends the statement that a new builder writes, and answers with
  what the database does.
-/

namespace TableMapper

variable {σ α β : Type}

namespace BuilderM

variable [Backend σ]

/-- The use runs the terminal, and makes its result of the keys that were filled in and the answer.
Nothing else is done as long as no handler is to hear of it. -/
def Runs (t : Terminal) (g : List Json → QueryOutput → α) (m : BuilderM σ α) : Prop :=
  ∀ (b : Builder) (s : Session σ), b.notify = .off →
    m (b, s) = match b.outcome t s.supply with
      | .error e => (.error e, (b.cleared, supplied t b s))
      | .ok st =>
        ((Backend.answer b.target st.sql st.args s.database).1.map (g (b.prepare t s.supply).2.1),
          (b.cleared, (supplied t b s).afterSending b.target st.sql st.args))

theorem runs_read (t : Terminal) : Runs t (fun _ out => out) (read t : BuilderM σ QueryOutput) := by
  intro b s _
  cases written : b.outcome t s.supply with
  | error e => exact read_unrendered written
  | ok st =>
    have seen := preview_apply t b s
    rw [show (b.prepare t s.supply).1.statement = .ok st from written] at seen
    have cleared := b.cleared_prepare t s.supply
    have same : (b.prepare t s.supply).1.target = b.target :=
      congrArg Prod.fst (b.alike_prepare t s.supply)
    dsimp only
    rw [read, bind_ok seen, execute_apply]
    refine Prod.ext ?_ (Prod.ext cleared ?_)
    · show (Backend.answer (b.prepare t s.supply).1.target st.sql st.args s.database).1 = _
      rw [same]
      cases (Backend.answer b.target st.sql st.args s.database).1 <;> rfl
    · show Session.afterSending (b.prepare t s.supply).1.target st.sql st.args _ = _
      rw [same]
      rfl

theorem Runs.then {t : Terminal} {g : List Json → QueryOutput → α} {m : BuilderM σ α}
    (h : Runs t g m) (f : α → β) : Runs t (fun ids out => f (g ids out)) (f <$> m) := by
  intro b s off
  rw [map_apply, h b s off]
  cases b.outcome t s.supply with
  | error e => rfl
  | ok st =>
    dsimp only
    cases (Backend.answer b.target st.sql st.args s.database).1 <;> rfl

theorem runs_select : Runs .select (fun _ out => out.rows) (select : BuilderM σ (List Row)) :=
  (runs_read .select).then (·.rows)

theorem runs_count :
    Runs (.aggregate "count" "*") (fun _ out => countOf (total? out)) (count : BuilderM σ Int) :=
  (runs_read _).then fun out => countOf (total? out)

theorem runs_write (t : Terminal) (kind : EventKind) :
    Runs t (fun ids out => { count := out.rowCount, rows := out.rows, ids })
      (write t kind : BuilderM σ WriteResult) := by
  intro b s off
  have spent_eq : spent (b.prepare t s.supply).1 = b.cleared := by
    rw [b.spent_prepare t s.supply, spent, Builder.cleared, ← off]
  have silent : (b.prepare t s.supply).1.notify = .off := (b.notify_prepare t s.supply).trans off
  cases written : b.outcome t s.supply with
  | error e =>
    rw [write_unrendered written kind, spent_eq]
  | ok st =>
    dsimp only
    cases answered : (Backend.answer b.target st.sql st.args s.database).1 with
    | error e =>
      rw [write_failed written answered kind, spent_eq]
      rfl
    | ok out =>
      rw [write_ok written answered kind, spent_eq, tell, silent]
      rfl

end BuilderM

namespace Session

/-- Between the sessions, a statement was sent, if there is one.  Builders were taken for it and
given back, and nothing else was changed. -/
structure Asked [Backend σ] (binding : Binding) (home : Target) (st : Option Statement)
    (s s' : Session σ) : Prop where
  does : s.Does (BuilderM.sent home st) [] s'
  database : s'.database =
    st.elim s.database fun st => (Backend.answer home st.sql st.args s.database).2
  tables : s'.tables = s.tables
  schema : s'.schema = s.schema
  tidy : s'.Tidy binding
  numbers : s'.pools.map (·.1) = s.pools.map (·.1)

namespace Asked

variable [Backend σ] {binding : Binding} {home : Target} {st : Option Statement}
  {s s' s'' : Session σ}

theorem refl (hs : s.Tidy binding) : s.Asked binding home none s :=
  ⟨.refl s, rfl, rfl, rfl, hs, rfl⟩

theorem serves (h : s.Asked binding home st s') {target : Target} (hs : s.Serves target) :
    s'.Serves target := by
  cases target with
  | pool => trivial
  | connection n =>
    show n ∈ s'.pools.map (·.1)
    rw [h.numbers]
    exact hs

/-- Nothing was sent before the statement. -/
theorem after_quiet (h : s.Asked binding home none s') (h' : s'.Asked binding home st s'') :
    s.Asked binding home st s'' := by
  have same : s'.database = s.database := h.database
  exact ⟨h.does.after_still h'.does, by rw [h'.database, same], h'.tables.trans h.tables,
    h'.schema.trans h.schema, h'.tidy, h'.numbers.trans h.numbers⟩

/-- Nothing was sent after the statement. -/
theorem then_quiet (h : s.Asked binding home st s') (h' : s'.Asked binding home none s'') :
    s.Asked binding home st s'' := by
  have same : s''.database = s'.database := h'.database
  exact ⟨h.does.then_still h'.does, same.trans h.database, h'.tables.trans h.tables,
    h'.schema.trans h.schema, h'.tidy, h'.numbers.trans h.numbers⟩

end Asked

@[simp] theorem schema_setPool (home : Target) (p : BuilderPool) (s : Session σ) :
    (s.setPool home p).schema = s.schema := by cases home <;> rfl

@[simp] theorem database_setPool (home : Target) (p : BuilderPool) (s : Session σ) :
    (s.setPool home p).database = s.database := by cases home <;> rfl

variable [Backend σ]

theorem asked_giveBack {binding : Binding} {b : Builder} {s : Session σ} (hs : s.Tidy binding)
    (hb : b.binding = binding) : s.Asked binding b.target none (giveBack b s).2 :=
  have deals := giveBack_spec (s := s) hb
  ⟨does_giveBack b s, database_setPool _ _ s, tables_setPool _ _ s, schema_setPool _ _ s,
    deals.tidy hs, deals.numbers⟩

theorem asked_acquire {binding : Binding} {home : Target} {s : Session σ} (hs : s.Tidy binding)
    (serves : s.Serves home) (table schema : String) :
    ∃ tag s', acquire home table schema .inUse s =
        (.ok ((home.newBuilder binding tag).bind table schema (s.tables.get? table) .inUse), s') ∧
      s.Asked binding home none s' := by
  obtain ⟨tag, s', took, deals, -⟩ := acquire_spec hs serves table schema .inUse
  have after : s' = (acquire home table schema .inUse s).2 := by rw [took]
  refine ⟨tag, s', took, (does_acquire took).1, ?_, ?_, ?_, deals.tidy hs, deals.numbers⟩ <;>
    rw [after]
  · exact database_setPool _ _ s
  · exact tables_setPool _ _ s
  · exact schema_setPool _ _ s

/-- The session after a statement of a builder, or without one if it cannot be written. -/
theorem asked_runs {binding : Binding} {t : Terminal} {b : Builder} {s s' : Session σ}
    (hs : s.Tidy binding)
    (h : s' = match b.outcome t s.supply with
      | .error _ => BuilderM.supplied t b s
      | .ok st => (BuilderM.supplied t b s).afterSending b.target st.sql st.args) :
    s.Asked binding b.target (b.outcome t s.supply).toOption s' := by
  have quiet := BuilderM.does_supplied t b s
  cases written : b.outcome t s.supply with
  | error e =>
    rw [written] at h
    subst h
    exact ⟨quiet, rfl, rfl, rfl, ⟨hs.pool, hs.pools⟩, rfl⟩
  | ok st =>
    rw [written] at h
    subst h
    exact ⟨quiet.after_still (does_send b.target st.sql st.args _), rfl, rfl, rfl,
      ⟨hs.pool, hs.pools⟩, rfl⟩

/-- **A call sends one statement**: the one that a new builder writes with the clauses.  It answers
with what the database does, or with the mistake if the statement cannot be written. -/
theorem withBuilder_runs {binding : Binding} (home : Target) {s : Session σ} (hs : s.Tidy binding)
    (serves : s.Serves home) {t : Terminal} {g : List Json → QueryOutput → α} {m : BuilderM σ α}
    (runs : BuilderM.Runs t g m) (clauses : List Clause)
    (quiet : Notify.off.after clauses = .off) (table schema : String) :
    ∃ tag supply s',
      let b := home.bound binding tag table schema (s.tables.get? table) clauses
      withBuilder home table schema .inUse
          (BuilderM.addAll clauses >>= fun _ => m) s =
        ((b.outcome t supply).bind fun st =>
          (Backend.answer home st.sql st.args s.database).1.map (g (b.prepare t supply).2.1), s') ∧
      s.Asked binding home (b.outcome t supply).toOption s' := by
  obtain ⟨tag, s₁, took, asked⟩ := asked_acquire hs serves table schema
  let b := home.bound binding tag table schema (s.tables.get? table) clauses
  -- the clauses ask for nothing, and leave the builder where it belongs
  have target : b.target = home := home.target_bound clauses
  have binds : b.binding = binding := Builder.binding_addAll _ clauses
  have off : b.notify = .off := (Builder.notify_addAll _ clauses).trans quiet
  have same : s₁.database = s.database := asked.database
  obtain ⟨r, s₂, ran, answer, sent⟩ : ∃ r s₂, m (b, s₁) = (r, (b.cleared, s₂)) ∧
      (r = (b.outcome t s₁.supply).bind fun st =>
        (Backend.answer home st.sql st.args s.database).1.map (g (b.prepare t s₁.supply).2.1)) ∧
      s₁.Asked binding home (b.outcome t s₁.supply).toOption s₂ := by
    have shape := runs b s₁ off
    have asks := asked_runs (t := t) (b := b) (s := s₁) asked.tidy rfl
    rw [target] at asks
    cases written : b.outcome t s₁.supply with
    | error e =>
      rw [written] at shape asks
      exact ⟨_, _, shape, rfl, asks⟩
    | ok st =>
      rw [written] at shape asks
      rw [target, same] at shape
      exact ⟨_, _, shape, rfl, asks⟩
  refine ⟨tag, s₁.supply, (giveBack b.cleared s₂).2, ?_, ?_⟩
  · rw [withBuilder, bind_ok took, bind_ok (WithinM.runFrom_apply _ _ _),
      bind_ok (BuilderM.addAll_apply clauses _ s₁)]
    show (giveBack (m (b, s₁)).2.1 >>= fun _ => liftExcept (m (b, s₁)).1) (m (b, s₁)).2.2 = _
    rw [ran, ← answer]
    exact liftExcept_apply r _
  · have back := asked_giveBack (b := b.cleared) sent.tidy binds
    rw [show b.cleared.target = home from target] at back
    exact asked.after_quiet (sent.then_quiet back)

/-- A call sends at most one statement, also if handlers hear of it: the one that a new builder
renders with the clauses. -/
theorem withBuilder_sends {binding : Binding} (home : Target) {s : Session σ}
    (hs : s.Tidy binding) (serves : s.Serves home) {t : Terminal} {m : BuilderM σ α}
    (sends : ∀ (b : Builder) (s : Session σ),
      s.Sends b.target (b.rendered? t s.supply) (m (b, s)).2.2)
    (clauses : List Clause) (table schema : String) :
    ∃ tag supply, s.Sends home
      ((home.bound binding tag table schema (s.tables.get? table) clauses).rendered? t supply)
      (withBuilder home table schema .inUse (BuilderM.addAll clauses >>= fun _ => m) s).2 := by
  obtain ⟨tag, s₁, took, -⟩ := asked_acquire hs serves table schema
  let b := home.bound binding tag table schema (s.tables.get? table) clauses
  have target : b.target = home := home.target_bound clauses
  have before : s.Sends home none s₁ := by
    have quiet := quiet_acquire home home table schema .inUse s
    rwa [took] at quiet
  have sent := sends b s₁
  rw [target] at sent
  refine ⟨tag, s₁.supply, ?_⟩
  rw [withBuilder, bind_ok took, bind_ok (WithinM.runFrom_apply _ _ _),
    bind_ok (BuilderM.addAll_apply clauses _ s₁)]
  show s.Sends home _ ((giveBack (m (b, s₁)).2.1 >>= fun _ => liftExcept (m (b, s₁)).1)
    (m (b, s₁)).2.2).2
  rw [bind_ok (Prod.ext rfl rfl : giveBack (m (b, s₁)).2.1 (m (b, s₁)).2.2 = (.ok (), _)),
    liftExcept_apply]
  exact before.after_quiet (sent.then_quiet (quiet_giveBack home _ _))

end Session

end TableMapper
