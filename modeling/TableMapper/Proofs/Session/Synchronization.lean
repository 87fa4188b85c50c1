import TableMapper.Proofs.Session.Run
import TableMapper.Session.Synchronizer

/-!
# Runs of a synchronization

A dry run of a synchronization tells what a real one does: both make the same plan, and a real run
sends the statements of the plan one after the other, whatever comes of each.

* `Session.replies` are the answers to statements that are sent one after the other, and
  `Session.afterAll` is the session after them.
* `Plan.succeeded` and `Plan.failures` are what a report has of the steps of a plan.
* `Synchronizer.Course` lists the courses that the synchronization of a table can take.
* `Synchronizer.sync_follows_course` says that it takes one of them, and that synchronizing several
  tables comes to every one of them.
-/

namespace TableMapper

variable {σ : Type} [Backend σ]

/-! ### Statements one after the other -/

namespace Session

/-- The answers to statements that are sent one after the other. -/
def replies (target : Target) : List Statement → Session σ → List (Except Error QueryOutput)
  | [], _ => []
  | st :: sts, s =>
    (Backend.answer target st.sql st.args s.database).1 ::
      replies target sts (s.afterSending target st.sql st.args)

/-- The session after statements were sent one after the other. -/
def afterAll (target : Target) (sts : List Statement) (s : Session σ) : Session σ :=
  sts.foldl (fun s st => s.afterSending target st.sql st.args) s

/-- Each statement is sent once, in order. -/
theorem journal_afterAll (target : Target) (sts : List Statement) (s : Session σ) :
    (s.afterAll target sts).journal =
      s.journal ++ sts.map fun st => .sent target st.sql st.args := by
  induction sts generalizing s with
  | nil => exact (List.append_nil _).symm
  | cons st sts ih =>
    rw [afterAll, List.foldl_cons, ← afterAll, ih]
    simp [afterSending, noted]

end Session

/-! ### Plans -/

namespace Plan

/-- The statements of the steps that succeeded. -/
def succeeded (schema table : String) (steps : List Step)
    (replies : List (Except Error QueryOutput)) : List String :=
  ((steps.zip replies).filter (·.2.isOk)).map (·.1.change.sql schema table)

/-- What is reported of a step, by its answer: a failure, unless that does not matter. -/
def failure? (step : Step) : Except Error QueryOutput → Option Issue
  | .ok _ => none
  | .error e => if step.bestEffort then none else some ⟨step.object, e.message⟩

/-- What is reported of the steps that failed. -/
def failures (steps : List Step) (replies : List (Except Error QueryOutput)) : List Issue :=
  (steps.zip replies).filterMap fun p => failure? p.1 p.2

/-- The statements of a plan, to be sent. -/
def toSend (schema table : String) (steps : List Step) : List Statement :=
  steps.map fun step => { sql := step.change.sql schema table, args := [] }

end Plan

/-! ### Reading the catalog -/

/-- The statement of a question about a table. -/
def CatalogQuery.about (schema table : String) (q : CatalogQuery) : Statement :=
  { sql := q.sql, args := [.text schema, .text table] }

namespace Catalog

/-- The computation puts some of the questions about a table, in order and from the first one on, and
nothing else.  It fails exactly when one of them does, which is then the last one. -/
def Inquires (schema table : String) (qs : List CatalogQuery) {α : Type} (m : SessionM σ α) : Prop :=
  ∀ s, ∃ asked, asked <+: qs ∧ (m s).2 = s.afterAll .pool (asked.map (·.about schema table)) ∧
    match (m s).1 with
    | .ok _ => ∀ r ∈ s.replies .pool (asked.map (·.about schema table)), r.isOk = true
    | .error e => (s.replies .pool (asked.map (·.about schema table))).getLast? = some (.error e)

section

variable {schema table : String} {α : Type}

theorem inquires_pure (qs : List CatalogQuery) (a : α) :
    Inquires schema table qs (pure a : SessionM σ α) :=
  fun _ => ⟨[], List.nil_prefix, rfl, fun _ h => absurd h List.not_mem_nil⟩

theorem inquires_ask {q : CatalogQuery} {qs : List CatalogQuery} {k : List Row → SessionM σ α}
    (h : ∀ rows, Inquires schema table qs (k rows)) :
    Inquires schema table (q :: qs) (ask q schema table >>= k) := by
  intro s
  cases answered : (Backend.answer .pool q.sql [.text schema, .text table] s.database).1 with
  | error e =>
    have asked : ask q schema table s = (.error e, s.afterAll .pool [q.about schema table]) := by
      rw [ask, bind_apply, Session.query, Session.send_apply, answered]
      rfl
    refine ⟨[q], List.prefix_append [q] qs, ?_⟩
    rw [bind_error asked]
    exact ⟨rfl, congrArg some answered⟩
  | ok out =>
    have asked : ask q schema table s = (.ok out.rows, s.afterAll .pool [q.about schema table]) := by
      rw [ask, bind_apply, Session.query, Session.send_apply, answered]
      rfl
    obtain ⟨more, known, after, replies⟩ := h out.rows (s.afterAll .pool [q.about schema table])
    refine ⟨q :: more, List.prefix_cons_inj q |>.mpr known, ?_⟩
    rw [bind_ok asked]
    refine ⟨after, ?_⟩
    -- the answer to the first question stands before those to the others
    have all : s.replies .pool ((q :: more).map (·.about schema table)) =
        .ok out :: (s.afterAll .pool [q.about schema table]).replies .pool
          (more.map (·.about schema table)) := congrArg (· :: _) answered
    rw [all]
    cases result : (k out.rows (s.afterAll .pool [q.about schema table])).1 with
    | ok a =>
      rw [result] at replies
      exact List.forall_mem_cons.mpr ⟨rfl, replies⟩
    | error e =>
      rw [result] at replies
      show List.getLast? (_ :: _) = _
      rw [List.getLast?_cons, replies]
      rfl

end

/-- Reading the catalog puts its four questions, or the first ones of them. -/
theorem inquires_load (schema table : String) :
    Inquires schema table CatalogQuery.all (load schema table : SessionM σ Catalog) := by
  refine inquires_ask fun found => ?_
  split
  · exact inquires_pure _ _
  · refine inquires_ask fun columns => inquires_ask fun indexes => ?_
    exact inquires_ask fun keys => inquires_pure _ _

end Catalog

/-! ### The synchronization of a table -/

namespace Synchronizer

variable (y : Synchronizer) (t : TableDecl) (s : Session σ)

/-- The synchronizer, for dry runs or for real ones. -/
def dryly (dry : Bool) : Synchronizer := { y with options := { y.options with dryRun := dry } }

/-- The plan for a table, by the warnings on it and by what the catalog knows of it. -/
def planOf (warnings : List Issue) (live : Catalog) : Plan :=
  { issues := warnings } ++ Plan.table (y.tables.effective t) live y.options

/-- The report before any step was run. -/
def opening (warnings : List Issue) (live : Catalog) : SyncReport :=
  { table := t.name, created := !live.present, issues := (y.planOf t warnings live).issues }

variable {y t s} in
theorem syncTable_unusable {e : Error} (h : t.validate = .error e) :
    y.syncTable t s = (.error e, s) := by
  have refused : y.plan t s = (.error e, s) := by
    rw [plan, h]
    rfl
  exact bind_error refused _

variable {y t s} in
theorem syncTable_unread {warnings : List Issue} {e : Error} {s' : Session σ}
    (h : t.validate = .ok warnings) (hl : Catalog.load y.schema t.name s = (.error e, s')) :
    y.syncTable t s = (.error e, s') := by
  have refused : y.plan t s = (.error e, s') := by
    rw [plan, h, bind_ok (liftExcept_apply _ s)]
    exact bind_error hl _
  exact bind_error refused _

variable {y t s} in
theorem syncTable_planned {warnings : List Issue} {live : Catalog} {s' : Session σ}
    (h : t.validate = .ok warnings) (hl : Catalog.load y.schema t.name s = (.ok live, s')) :
    y.syncTable t s =
      ((y.planOf t warnings live).steps.foldlM (y.runStep t.name) (y.opening t warnings live) :
        SessionM σ SyncReport) s' := by
  have planned : y.plan t s = (.ok (y.planOf t warnings live, !live.present), s') := by
    rw [plan, h, bind_ok (liftExcept_apply _ s)]
    exact bind_ok hl _
  exact bind_ok planned _

/-! ### Steps -/

/-- In a dry run, statements are reported. -/
theorem foldlM_runStep_dry (table : String) (steps : List Step) (r : SyncReport) :
    (steps.foldlM ((y.dryly true).runStep table) r : SessionM σ SyncReport) s =
      (.ok { r with statements :=
          r.statements ++ steps.map (·.change.sql y.schema table) }, s) := by
  induction steps generalizing r with
  | nil => simp [dryly]
  | cons step steps ih =>
    have first : (y.dryly true).runStep table r step s =
        (.ok (r.addStatement (step.change.sql y.schema table)), s) := rfl
    rw [List.foldlM_cons, bind_ok first, ih]
    simp [SyncReport.addStatement]

/-- What is reported of a step, by its answer. -/
def addReply (table : String) (r : SyncReport) (step : Step) :
    Except Error QueryOutput → SyncReport
  | .ok _ => r.addStatement (step.change.sql y.schema table)
  | .error e => if step.bestEffort then r else r.addError step.object e.message

theorem runStep_real (table : String) (r : SyncReport) (step : Step) :
    (y.dryly false).runStep table r step s =
      (.ok (y.addReply table r step
          (Backend.answer .pool (step.change.sql y.schema table) [] s.database).1),
        s.afterSending .pool (step.change.sql y.schema table) []) := by
  have sent : (Session.query (step.change.sql y.schema table) []).attempt s =
      (.ok (Backend.answer .pool (step.change.sql y.schema table) [] s.database).1,
        s.afterSending .pool (step.change.sql y.schema table) []) := rfl
  have real : ¬ (y.dryly false).options.dryRun = true := Bool.false_ne_true
  rw [runStep, if_neg real]
  refine (bind_ok sent _).trans ?_
  cases (Backend.answer .pool (step.change.sql y.schema table) [] s.database).1 <;> rfl

/-- In a real run, the statements are sent one after the other, whatever comes of each. -/
theorem foldlM_runStep_real (table : String) (steps : List Step) (r : SyncReport) :
    (steps.foldlM ((y.dryly false).runStep table) r : SessionM σ SyncReport) s =
      (.ok { r with
          statements := r.statements ++ Plan.succeeded y.schema table steps
            (s.replies .pool (Plan.toSend y.schema table steps))
          errors := r.errors ++ Plan.failures steps
            (s.replies .pool (Plan.toSend y.schema table steps)) },
        s.afterAll .pool (Plan.toSend y.schema table steps)) := by
  induction steps generalizing r s with
  | nil => simp [Plan.succeeded, Plan.failures, Session.afterAll, Plan.toSend]
  | cons step steps ih =>
    rw [List.foldlM_cons, bind_ok (runStep_real y s table r step), ih]
    rw [show Plan.toSend y.schema table (step :: steps) =
      { sql := step.change.sql y.schema table, args := [] } ::
        Plan.toSend y.schema table steps from rfl, Session.replies]
    refine Prod.ext (congrArg Except.ok ?_) rfl
    -- the answer to the first step decides what is added to the report
    cases (Backend.answer .pool (step.change.sql y.schema table) [] s.database).1 with
    | ok out => simp [addReply, SyncReport.addStatement, Plan.succeeded, Plan.failures,
        Plan.failure?, Except.isOk, Except.toBool]
    | error e =>
      cases effort : step.bestEffort <;>
        simp [addReply, SyncReport.addError, Plan.succeeded, Plan.failures,
          Plan.failure?, Except.isOk, Except.toBool, effort]

/-! ### Courses -/

/-- The courses that the synchronization of a table can take, in dry runs and in real ones. -/
inductive Course (y : Synchronizer) (t : TableDecl) (s : Session σ) : Prop
  /-- The declaration cannot be used: nothing is sent. -/
  | unusable (e : Error) (invalid : t.validate = .error e)
      (course : ∀ dry, (y.dryly dry).syncTable t s = (.error e, s))
  /-- A question to the catalog fails: nothing is sent after it. -/
  | unread (e : Error) (asked : List CatalogQuery) (s' : Session σ)
      (valid : t.validate.isOk = true) (known : asked <+: CatalogQuery.all)
      (failed : (s.replies .pool (asked.map (·.about y.schema t.name))).getLast? = some (.error e))
      (sent : s'.journal = s.journal ++
        asked.map fun q => .sent .pool q.sql [.text y.schema, .text t.name])
      (course : ∀ dry, (y.dryly dry).syncTable t s = (.error e, s'))
  /-- The plan is made, and a dry run has its statements in the report.  A real run sends them, each
  once and in order; the report has those that succeeded, and the failures of the others. -/
  | planned (warnings : List Issue) (live : Catalog) (asked : List CatalogQuery)
      (plan : Plan) (s' s'' : Session σ) (replies : List (Except Error QueryOutput))
      (valid : t.validate = .ok warnings) (known : asked <+: CatalogQuery.all)
      (answered : ∀ r ∈ s.replies .pool (asked.map (·.about y.schema t.name)), r.isOk = true)
      (read : Catalog.load y.schema t.name s = (.ok live, s'))
      (asking : s'.journal = s.journal ++
        asked.map fun q => .sent .pool q.sql [.text y.schema, .text t.name])
      (made : plan = y.planOf t warnings live)
      (foreseen : (y.dryly true).syncTable t s =
        (.ok { table := t.name
               created := !live.present
               issues := plan.issues
               statements := plan.statements y.schema t.name }, s'))
      (answers : replies = s'.replies .pool (Plan.toSend y.schema t.name plan.steps))
      (sent : s''.journal = s'.journal ++
        (plan.statements y.schema t.name).map fun sql => .sent .pool sql [])
      (course : (y.dryly false).syncTable t s =
        (.ok { table := t.name
               created := !live.present
               issues := plan.issues
               statements := Plan.succeeded y.schema t.name plan.steps replies
               errors := Plan.failures plan.steps replies }, s''))

theorem course (y : Synchronizer) (t : TableDecl) (s : Session σ) : y.Course t s := by
  cases valid : t.validate with
  | error e => exact .unusable e valid fun dry => syncTable_unusable valid
  | ok warnings =>
    obtain ⟨asked, known, reading, replies⟩ := Catalog.inquires_load y.schema t.name s
    have asking : (Catalog.load y.schema t.name s).2.journal = s.journal ++
        asked.map fun q => .sent .pool q.sql [.text y.schema, .text t.name] := by
      rw [reading, Session.journal_afterAll, List.map_map]
      rfl
    rcases loaded : Catalog.load y.schema t.name s with ⟨e | live, s'⟩ <;>
      rw [loaded] at asking replies
    · exact .unread e asked s' (by rw [valid]; rfl) known replies asking fun dry =>
        syncTable_unread valid (y := y.dryly dry) loaded
    · refine .planned warnings live asked _ s'
        (s'.afterAll .pool (Plan.toSend y.schema t.name (y.planOf t warnings live).steps)) _
        valid known replies loaded asking rfl ?_ rfl ?_ ?_
      · -- whether the run is dry has no part in the plan
        rw [syncTable_planned valid (y := y.dryly true) loaded]
        exact y.foldlM_runStep_dry s' t.name _ _
      · rw [Session.journal_afterAll, Plan.toSend, Plan.statements, List.map_map, List.map_map]
        rfl
      · rw [syncTable_planned valid (y := y.dryly false) loaded]
        exact y.foldlM_runStep_real s' t.name _ _

/-! ### Several tables -/

/-- The session after tables were synchronized one after the other. -/
def after (y : Synchronizer) (ts : List TableDecl) (s : Session σ) : Session σ :=
  ts.foldl (fun s t => (y.syncTable t s).2) s

theorem mapM_syncTable (y : Synchronizer) (ts : List TableDecl) (s : Session σ) :
    ∃ reports, (ts.mapM fun t => (y.syncTable t).attempt : SessionM σ _) s =
        (.ok reports, y.after ts s) ∧ reports.length = ts.length ∧
      ∀ k t, ts[k]? = some t →
        reports[k]? = some (y.syncTable t (y.after (ts.take k) s)).1 := by
  induction ts generalizing s with
  | nil => exact ⟨[], rfl, rfl, fun k t h => by simp at h⟩
  | cons t ts ih =>
    obtain ⟨reports, run, length, each⟩ := ih (y.syncTable t s).2
    refine ⟨(y.syncTable t s).1 :: reports, ?_, by simp [length], fun k u h => ?_⟩
    · rw [List.mapM_cons, bind_ok (SessionM.attempt_apply _ s), bind_ok run]
      rfl
    · cases k with
      | zero =>
        obtain rfl : t = u := by simpa using h
        rfl
      | succ k => exact each k u (by simpa using h)

/-- **Synchronization is foreseen by a dry run**, and no failure of a statement ends it.  Of several
tables every one is synchronized, whatever comes of those before it. -/
theorem sync_follows_course (y : Synchronizer) :
    (∀ (t : TableDecl) (s : Session σ), y.Course t s) ∧
    ∀ (ts : List TableDecl) (s : Session σ), ∃ reports,
      y.syncAll ts s = (.ok reports, y.after (y.tables.order ts) s) ∧
      reports.length = (y.tables.order ts).length ∧
      ∀ k t, (y.tables.order ts)[k]? = some t →
        reports[k]? = some (y.syncTable t (y.after ((y.tables.order ts).take k) s)).1 :=
  ⟨y.course, fun ts => y.mapM_syncTable (y.tables.order ts)⟩

end Synchronizer

end TableMapper
