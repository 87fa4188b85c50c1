import TableMapper.Proofs.Session.Safe
import TableMapper.Proofs.Transaction.Protocol
import TableMapper.Scenario.Run

/-!
# Sessions that are reached

A new session is sound, and requests and transactions leave a sound session sound, so all sessions
that are ever reached are.

* `Request.safely_run` says that requests are safe, and `Callback.safely_transaction` that the
  transactions of callbacks are, whatever the database answers.
* `Session.Reachable` are the sessions that requests and transactions lead to, and
  `Session.Reachable.sound` says that they are sound.
-/

namespace TableMapper

variable {σ τ α β : Type}

/-! ### Transactions -/

namespace Transaction

theorem safe_freed (t : Transaction) (s : Session σ) : s.Safe (t.freed s) := by
  intro h
  exact ⟨h.pool, fun b hb => h.branches b (List.mem_filter.mp hb).1, h.leases⟩

theorem safely_release (t : Transaction) : Safely (t.release : SessionM σ Unit) := by
  refine keeps_get.bind fun s => ?_
  split
  · exact keeps_pure ()
  · exact safe_freed t

variable [Backend σ]

theorem safely_conclude (t : Transaction) (returned : Except Error α) (v : Verdict α) :
    Safely (t.conclude returned v : SessionM σ (Outcome α)) := by
  intro s
  obtain ⟨o, s', done, concluded⟩ := concluded_conclude t returned v s
  rw [done]
  exact concluded.steady.sound

theorem safely_settle (t : Transaction) (returned : Except Error α) (v : Verdict α) :
    Safely (t.settle returned v : SessionM σ (Outcome α)) := by
  refine (safely_conclude t returned v).bind fun o => ?_
  refine Keeps.bind (keeps_modify fun s => (steady_recycled t s).sound) fun _ => ?_
  exact (safely_release t).bind fun _ => keeps_pure o

theorem safely_begin (table : Option String) :
    Safely (begin table : SessionM σ (Except (Outcome α) Transaction)) := by
  intro s hs
  rcases hc : Backend.connect s.database with ⟨e | u, d⟩
  · rw [begin_unconnected table hc]
    have safe : s.Safe { s with database := d } := Session.safe_of_eq rfl rfl rfl rfl
    exact safe hs
  · cases hb : (Backend.answer (next table s).target "BEGIN" [] d).1 with
    | error e =>
      rw [begin_refused table hc hb]
      exact ⟨hs.pool, fun b hb => ⟨Nat.le_succ_of_le (hs.branches b hb).1, (hs.branches b hb).2⟩,
        fun l hl => (hs.leases l hl).mono (Nat.le_succ _)⟩
    | ok out =>
      rw [begin_ok table hc hb]
      exact Session.sound_opened hs d

end Transaction

/-- A transaction is safe if its body is. -/
theorem Session.safely_transaction [Backend σ] (table : Option String)
    {body : Transaction → TransactionM α σ α} (h : ∀ t, SafelyWithin (body t)) :
    Safely (Session.transaction table body) := by
  refine (Transaction.safely_begin table).bind fun begun => ?_
  cases begun with
  | error o => exact keeps_pure o
  | ok t => exact ((h t).runFrom {}).bind fun (r, v) => t.safely_settle r v

/-- **The transaction of a callback** is safe.  Unlike the body of a request, the callback need not
be safe by itself: it runs in a transaction that is open. -/
theorem Callback.safely_transaction [Backend σ] (c : Callback α) (table : Option String) :
    Safely (Session.transaction table c.body : SessionM σ (Outcome α)) := by
  intro s hs
  have begins := Transaction.safely_begin (α := α) table s hs
  rcases hc : Backend.connect s.database with ⟨e | u, d⟩
  · rw [Transaction.begin_unconnected table hc] at begins
    rw [Session.transaction_unconnected hc]
    exact begins
  · cases hb : (Backend.answer (Transaction.next table s).target "BEGIN" [] d).1 with
    | error e =>
      rw [Transaction.begin_refused table hc hb] at begins
      rw [Session.transaction_refused hc hb]
      exact begins
    | ok out =>
      have ran := c.ran_run (Callback.bound_start hs table d)
      rw [Session.transaction_ok hc hb rfl]
      exact Transaction.safely_settle _ _ _ _ ran.bound.sound

/-! ### Imports -/

namespace Import

theorem safely_withBuilder {m : BuilderM σ α} (h : Steadfast m) (i : Import) :
    Safely (i.withBuilder m) := Session.safely_withBuilder h _ _ _ _

variable [Backend σ] (i : Import)

theorem safely_insertAny (rows : List Row) :
    Safely (i.insertAny rows : SessionM σ ImportCounts) := by
  unfold insertAny
  split
  · exact keeps_pure _
  · exact (safely_withBuilder (BuilderM.steadfast_write _ _) i).bind fun _ => keeps_pure _

theorem safely_delete (rows : List Row) : Safely (i.delete rows : SessionM σ ImportCounts) := by
  refine Keeps.bind (safely_withBuilder ?_ i) fun _ => keeps_pure _
  exact (BuilderM.steadfast_add _).bind fun _ => BuilderM.steadfast_write _ _

theorem safely_update (row : Row) : Safely (i.update row : SessionM σ ImportCounts) := by
  refine Keeps.bind (safely_withBuilder ?_ i) fun _ => keeps_pure _
  exact (BuilderM.steadfast_add _).bind fun _ => BuilderM.steadfast_write _ _

theorem safely_existing (rows : List Row) :
    Safely (i.existing rows : SessionM σ (List String)) := by
  refine Keeps.bind (safely_withBuilder ?_ i) fun _ => keeps_pure _
  exact (BuilderM.steadfast_addAll _).bind fun _ => BuilderM.steadfast_select

theorem safely_writeKeyed (policy : ImportUpdate) (rows : List Row) :
    Safely (i.writeKeyed policy rows : SessionM σ ImportCounts) := by
  unfold writeKeyed
  split
  · refine (safely_delete i rows).bind fun _ => ?_
    exact (safely_insertAny i rows).bind fun _ => keeps_pure _
  · refine (safely_existing i rows).bind fun _ => ?_
    dsimp only
    split
    · refine (keeps_mapM (safely_update i) _).bind fun _ => ?_
      exact (safely_insertAny i _).bind fun _ => keeps_pure _
    · refine (keeps_pure _).bind fun _ => ?_
      exact (safely_insertAny i _).bind fun _ => keeps_pure _

theorem safely_body (policy : ImportUpdate) (sorted : Sorted) :
    Safely (i.body policy sorted : SessionM σ ImportCounts) := by
  refine (safely_insertAny i _).bind fun _ => ?_
  split
  · exact keeps_pure _
  · exact (safely_writeKeyed i policy _).bind fun _ => keeps_pure _

end Import

theorem Rows.safely_importRows [Backend σ] (t : TableDecl) (entries : List Json)
    (o : ImportOptions) : Safely (importRows t entries o : SessionM σ ImportReport) := by
  unfold importRows
  split
  · exact keeps_throw _
  · dsimp only
    split
    · exact keeps_pure _
    · refine keeps_get.bind fun s => ?_
      refine Keeps.bind (Session.safely_transaction _ fun t => ?_) fun _ => keeps_pure _
      exact (Import.safely_body _ _ _).within

/-! ### Requests -/

theorem safely_withTable (name : String) {f : TableDecl → SessionM σ Reply}
    (h : ∀ t, Safely (f t)) : Safely (withTable name f) := by
  refine keeps_get.bind fun s => ?_
  split
  · exact h _
  · exact keeps_pure _

/-- A change of what does not concern builders is safe. -/
theorem safely_modify {f : Session σ → Session σ}
    (h : ∀ s, (f s).connections = s.connections ∧ (f s).pool.wires = s.pool.wires ∧
      (f s).branches = s.branches ∧ (f s).leases = s.leases) :
    Safely (modify f : SessionM σ Unit) :=
  keeps_modify fun s => Session.safe_of_eq (h s).1 (h s).2.1 (h s).2.2.1 (h s).2.2.2

/-- Hooks are safe if each of them is. -/
theorem Session.safely_runHooks {hooks : List (SessionM σ Unit)} (h : ∀ m ∈ hooks, Safely m) :
    Safely (runHooks hooks) := by
  refine Keeps.bind ?_ fun _ => keeps_pure _
  induction hooks with
  | nil => exact keeps_pure []
  | cons m hooks ih =>
    rw [List.mapM_cons]
    refine (h m List.mem_cons_self).attempt.bind fun _ => ?_
    exact (ih fun m' hm => h m' (List.mem_cons_of_mem m hm)).bind fun _ => keeps_pure _

section

variable [Backend σ]

theorem TableCall.safely_run (t : TableDecl) (call : TableCall) :
    Safely (call.run t : SessionM σ Reply) := by
  cases call with
  | name => exact keeps_pure _
  | insert row o => exact (Rows.safely_insert t row o).bind fun _ => keeps_pure _
  | insertAll rows o => exact (Rows.safely_insertAll t rows o).map _
  | update cond data o => exact (Rows.safely_update t cond data o).map _
  | delete cond o => exact (Rows.safely_delete t cond o).map _
  | get cond fields => exact (Rows.safely_get? t cond fields).map _
  | list cond o => exact (Rows.safely_list t cond o).map _
  | count cond => exact (Rows.safely_count t cond none).map _
  | aggregate function cond field form =>
    exact (Rows.safely_aggregate t function cond field form).map _
  | group groupBy o => exact (Rows.safely_group t groupBy o).map _
  | join kind other on o => exact (Rows.safely_join t kind other on o).map _
  | exportPages o => exact (Rows.safely_exportPages t o).bind fun _ => keeps_pure _
  | exportUntil o page =>
    refine Keeps.bind (Keeps.runFrom (Rows.safely_exportEach t (fun rows => ?_) o) _)
      fun _ => keeps_pure _
    refine Keeps.bind (keeps_modifyOwn fun _ => trivial) fun _ => keeps_own.bind fun _ => ?_
    split
    · exact keeps_throw _
    · exact keeps_pure _
  | importRows entries o => exact (Rows.safely_importRows t entries o).map _
  | check row quiet => exact (keeps_liftExcept _).bind fun _ => keeps_pure _
  | validate row => exact (keeps_liftExcept _).bind fun _ => keeps_pure _
  | sync o => exact Keeps.map (keeps_get.bind fun _ => Synchronizer.safely_sync _ t) _

theorem Call.safely_run (scope : Option Transaction) (c : Call σ) : Safely (c.run scope) := by
  cases c with
  | build source clauses finish =>
    refine Source.safely_use scope ?_ source
    exact Keeps.bind (BuilderM.steadfast_addAll clauses) fun _ => steadfast_finish finish
  | lease name source => exact (Source.safely_keepAs scope name source).bind fun _ => keeps_pure _
  | free name => exact (Session.safely_free name).map _
  | onTable table call => exact safely_withTable table fun t => call.safely_run t
  | raise e => exact keeps_throw e
  | query sql args =>
    cases scope with
    | some t => exact (Session.keeps_send t.target sql args).safely.map _
    | none => exact (Session.safely_query sql args).map _
  | schema => exact keeps_get.bind fun _ => keeps_pure _
  | setSchema name =>
    refine (safely_modify fun s => ?_).map _
    exact ⟨rfl, rfl, rfl, rfl⟩
  | applySearchPath =>
    refine Keeps.map (keeps_get.bind fun _ => ?_) _
    exact (Session.safely_query _ _).bind fun _ => keeps_pure _
  | createSchema name =>
    exact Keeps.map ((Session.safely_query _ _).bind fun _ => keeps_pure _) _
  | register t =>
    refine Keeps.bind (safely_modify fun s => ?_) fun _ => keeps_get.bind fun _ => keeps_pure _
    exact ⟨rfl, rfl, rfl, rfl⟩
  | tables => exact keeps_get.bind fun _ => keeps_pure _
  | hasTable name => exact keeps_get.bind fun _ => keeps_pure _
  | setMaxPool max =>
    refine (safely_modify fun s => ?_).map _
    exact ⟨rfl, rfl, rfl, rfl⟩
  | pool => exact keeps_get.bind fun _ => keeps_pure _
  | close =>
    refine Keeps.map (Keeps.bind (safely_modify fun s => ?_) fun _ => ?_) _
    · exact ⟨rfl, rfl, rfl, rfl⟩
    · exact (Session.keeps_note _).safely
  | listen table h =>
    refine (safely_modify fun s => ?_).map _
    exact ⟨rfl, rfl, rfl, rfl⟩
  | hasHandlers table => exact keeps_get.bind fun _ => keeps_pure _
  | removeHandlers table =>
    refine Keeps.map (keeps_get.bind fun _ => ?_) _
    refine Keeps.bind (safely_modify fun s => ?_) fun _ => keeps_pure _
    exact ⟨rfl, rfl, rfl, rfl⟩
  | runHooks statements =>
    refine Keeps.bind (Session.safely_runHooks fun m hm => ?_) fun _ => keeps_pure _
    obtain ⟨sql, -, rfl⟩ := List.mem_map.mp hm
    exact (Session.safely_query sql []).map _
  | sync table o =>
    refine Keeps.map (keeps_get.bind fun _ => ?_) _
    split
    · exact keeps_throw _
    · exact keeps_get.bind fun _ => Synchronizer.safely_sync _ _
  | syncAll o => exact Keeps.map (keeps_get.bind fun _ => Synchronizer.safely_syncAll _ _) _
  | plan table o =>
    refine safely_withTable table fun t => keeps_get.bind fun s => ?_
    exact (Synchronizer.safely_plan _ t).bind fun _ => keeps_pure _
  | database change =>
    refine Keeps.bind (safely_modify fun s => ?_) fun _ => keeps_pure _
    exact ⟨rfl, rfl, rfl, rfl⟩

omit [Backend σ] in
theorem Transaction.safely_dropLeases (t : Transaction) (keep : List String) :
    Safely (t.dropLeases keep : SessionM σ Unit) := by
  refine keeps_get.bind fun s => Keeps.bind (keeps_forIn (fun l _ => ?_) _ _) fun _ => keeps_pure _
  dsimp only
  split
  · exact (Session.safely_free _).bind fun _ => keeps_pure _
  · exact keeps_pure _

omit [Backend σ] in
theorem safely_takeJournal : Safely (Session.takeJournal : SessionM σ Journal) :=
  keeps_modifyGet fun _ => Session.safe_of_eq rfl rfl rfl rfl

mutual

/-- **Requests** leave a sound session sound. -/
theorem Request.safely_run (scope : Option Transaction) :
    ∀ r : Request σ, SafelyWithin (r.run scope)
  | .call c => (c.safely_run scope).within
  | .fail message => Keeps.map (keeps_modifyOwn fun _ => trivial) _
  | .throwFailed message => (keeps_modifyOwn fun _ => trivial).bind fun _ => keeps_throw _
  | .setResult value => Keeps.map (keeps_modifyOwn fun _ => trivial) _
  | .isFailed => Keeps.map (keeps_own.bind fun _ => keeps_pure _) _
  | .transaction table keep asResult body => by
    rw [Request.run]
    refine Keeps.within ?_
    dsimp only
    split
    case' h_1 =>
      refine keeps_get.bind fun _ => ?_
      split
      · exact keeps_pure _
    -- what is left is the transaction itself, with a table that is registered or without one
    all_goals
      refine (Transaction.safely_begin _).bind fun begun => ?_
      cases begun with
      | error o => exact keeps_pure _
      | ok t =>
        refine safely_takeJournal.bind fun began => ?_
        refine Keeps.bind (fun s => Body.safe_run t body {} s) fun r => ?_
        refine (t.safely_dropLeases keep).bind fun _ => ?_
        exact (t.safely_settle _ _).bind fun _ => keeps_pure _

theorem Body.safe_run (t : Transaction) :
    ∀ (b : Body σ) (v : Verdict Json) (s : Session σ), s.Safe (b.run t (v, s)).2.2
  | .done value, _, s => refl s
  | .step r caught rest, v, s => by
    have first := (Request.safely_run (some t) r (v, s)).2
    rw [Body.run]
    simp only [bind, StateT.bind, ExceptT.run]
    rcases hr : Request.run (some t) r (v, s) with ⟨result, v', s'⟩
    rw [hr] at first
    have emptied : s'.Safe { s' with journal := [] } := Session.safe_of_eq rfl rfl rfl rfl
    have taken : s.Safe { s' with journal := [] } := trans_of Session.Safe first emptied
    have after := trans_of Session.Safe taken (Body.safe_run t rest v' _)
    cases result with
    | error e =>
      cases caught with
      | false => exact taken
      | true => exact after
    | ok reply => exact after

end

end

namespace Session

/-- The sessions that requests and transactions lead to. -/
inductive Reachable [Backend σ] : Session σ → Prop where
  | new {s : Session σ} (target : s.pool.target = .pool) (queue : s.pool.queue = none)
      (branches : s.branches = []) (leases : s.leases = []) : Reachable s
  | perform {s : Session σ} (r : Request σ) (h : Reachable s) : Reachable (r.perform s).2
  | transact {α : Type} {s : Session σ} (table : Option String) (c : Callback α)
    (h : Reachable s) : Reachable (transaction table c.body s).2

/-- **Every session that is reached is sound.** -/
theorem Reachable.sound [Backend σ] {s : Session σ} (h : s.Reachable) : s.Sound := by
  induction h with
  | new target queue branches leases =>
    exact .of_new (Prod.ext target queue) branches leases
  | @perform s r _ ih =>
    have safe : s.Safe (r.run none ({}, s)).2.2 := (r.safely_run none ({}, s)).2
    have emptied : (r.run none ({}, s)).2.2.Safe (r.perform s).2 := safe_of_eq rfl rfl rfl rfl
    exact emptied (safe ih)
  | transact table c _ ih => exact c.safely_transaction table _ ih

end Session

/-- Scenarios start with a session that is reached. -/
theorem Scenario.reachable_session {room : Nat} {d : Document} {sc : Scenario}
    (h : Scenario.ofDocument? room d = some sc) : sc.session.Reachable := by
  obtain ⟨tables, -, made⟩ := Option.bind_eq_some_iff.mp h
  cases made
  exact .new rfl rfl rfl rfl

end TableMapper
