import TableMapper.Proofs.Session.Builders

/-!
# Safe computations

A computation is safe if it leaves a sound session sound.  What is done with builders is safe
whatever the database answers: builders that are kept by name run on connections that were checked
out, and reading, writing and synchronizing tables keeps no builders.

* `Session.Safe` relates two sessions of which the second is sound if the first one is.
* `Safely` and `SafelyWithin` are the computations that keep it.
-/

namespace TableMapper

variable {σ τ α β : Type}

namespace Session

/-- The second session is sound if the first one is. -/
def Safe (s s' : Session σ) : Prop := s.Sound → s'.Sound

instance : Std.Refl (Safe : Session σ → Session σ → Prop) := ⟨fun _ => id⟩

instance : IsTrans (Session σ) Safe := ⟨fun _ _ _ h h' => h' ∘ h⟩

/-- What changes neither pools nor transactions nor kept builders is safe. -/
theorem safe_of_eq {s s' : Session σ} (connections : s'.connections = s.connections)
    (pool : s'.pool.wires = s.pool.wires) (branches : s'.branches = s.branches)
    (leases : s'.leases = s.leases) : s.Safe s' :=
  (steady_of_eq connections pool branches leases).sound

end Session

/-- The computation leaves a sound session sound. -/
abbrev Safely (m : SessionM σ α) : Prop := Keeps Session.Safe m

/-- The same for a computation with a state of its own, whatever becomes of that. -/
abbrev SafelyWithin (m : WithinM τ σ α) : Prop := Keeps (Beside Freely Session.Safe) m

theorem Keeps.safely {m : SessionM σ α} (h : Keeps Session.Steady m) : Safely m :=
  h.mono fun _ _ steady => steady.sound

/-! ### Builders -/

namespace Session

theorem safely_withBuilder {m : BuilderM σ α} (h : Steadfast m) (target : Target)
    (table schema : String) (state : Lifecycle) :
    Safely (withBuilder target table schema state m) := by
  refine (keeps_acquire target table schema state).safely.bind fun b => ?_
  refine (h.runFrom b).safely.bind fun (r, b) => ?_
  exact (keeps_giveBack b).safely.bind fun _ => keeps_liftExcept r

theorem mem_of_lease? {s : Session σ} {name : String} {b : Builder}
    (h : s.lease? name = some b) : (name, b) ∈ s.leases := mem_of_lookup_eq_some h

/-- A builder of the session may be kept under a name. -/
theorem safe_setLease {s : Session σ} {b : Builder} (name : String) (hb : s.Has b.target) :
    s.Safe (s.setLease name b) := by
  intro h
  refine ⟨h.pool, h.branches, fun l hl => ?_⟩
  rcases List.mem_cons.mp hl with rfl | hl
  · exact hb
  · exact h.leases l (List.mem_filter.mp hl).1

theorem safely_free (name : String) : Safely (free name : SessionM σ Bool) := by
  refine keeps_get.bind fun s => ?_
  split
  · exact keeps_pure _
  · next b _ =>
    refine Keeps.bind (keeps_modify fun s h => ?_) fun _ => ?_
    · exact ⟨h.pool, h.branches, fun l hl => h.leases l (List.mem_filter.mp hl).1⟩
    · exact (keeps_giveBack b).safely.bind fun _ => keeps_pure _

theorem safe_keep {s : Session σ} {b : Builder} (name : String) (hb : s.Has b.target) :
    s.Safe (keep name b s).2 := by
  have safe := safe_setLease name hb
  rw [keep_apply, kept]
  split
  next old _ => exact trans_of Safe safe ((keeps_giveBack old).safely _)
  next => exact safe

theorem safely_withLease? {m : BuilderM σ α} (h : Steadfast m) (name : String) :
    Safely (withLease? name m) := by
  intro s hs
  rw [withLease?, bind_ok (get_apply s)]
  cases hb : s.lease? name with
  | none => exact hs
  | some b =>
    -- the builder is kept again after its use, and still runs on the connection it ran on
    obtain ⟨alike, steady⟩ := h (b, s)
    have known : s.Has b.target := hs.leases (name, b) (mem_of_lease? hb)
    dsimp only
    rw [bind_ok (WithinM.runFrom_apply b m s), bind_ok (modify_apply _ _), map_apply,
      liftExcept_apply]
    refine safe_setLease name ?_ (steady.sound hs)
    rw [show (m (b, s)).2.1.target = b.target from congrArg Prod.fst alike]
    exact known.mono (Nat.le_of_eq steady.connections.symm)

end Session

/-! ### Sources -/

/-- A builder that is taken runs on a connection that was checked out. -/
theorem Session.has_acquired {s s' : Session σ} (h : s.Sound) {target : Target}
    {table schema : String} {state : Lifecycle} {b : Builder}
    (hb : acquire target table schema state s = (.ok b, s')) : s'.Has b.target := by
  obtain ⟨b', hb', wires⟩ := wires_acquire target table schema state s
  have steady := keeps_acquire target table schema state s
  rw [hb] at hb' steady
  cases hb'
  rw [show b.target = (s.poolOf target).target from congrArg Prod.fst wires]
  exact (h.has_poolOf target).mono (Nat.le_of_eq steady.connections.symm)

namespace Source

variable (scope : Option Transaction)

/-- A source takes its builder from the pool of the transaction, or from that outside. -/
theorem acquire_eq (table : String) (schema : Option String) (held : Bool) (s : Session σ) :
    ∃ table' schema' state, acquire scope table schema held s =
      Session.acquire (scope.elim .pool Transaction.target) table' schema' state s := by
  cases scope with
  | some t =>
    simp only [acquire]
    split <;> exact ⟨_, _, _, rfl⟩
  | none =>
    simp only [acquire]
    rw [bind_ok (get_apply s)]
    split <;> exact ⟨_, _, _, rfl⟩

theorem safely_acquire (table : String) (schema : Option String) (held : Bool) :
    Safely (acquire scope table schema held : SessionM σ Builder) := by
  intro s
  obtain ⟨table', schema', state, same⟩ := acquire_eq scope table schema held s
  rw [same]
  exact (Session.keeps_acquire _ table' schema' state).safely s

theorem safely_use {m : BuilderM σ Reply} (h : Steadfast m) (source : Source) :
    Safely (source.use scope m) := by
  cases source with
  | kept name => exact (Session.safely_withLease? h name).bind fun _ => keeps_pure _
  | fresh table schema held =>
    refine (safely_acquire scope table schema held).bind fun b => ?_
    refine (h.runFrom b).safely.bind fun (r, b) => ?_
    exact (Session.keeps_giveBack b).safely.bind fun _ => keeps_liftExcept r

theorem safely_keepAs (name : String) (source : Source) :
    Safely (source.keepAs scope name : SessionM σ Unit) := by
  cases source with
  | kept _ => exact keeps_pure ()
  | fresh table schema held =>
    intro s hs
    obtain ⟨table', schema', state, same⟩ := acquire_eq scope table schema held s
    have safe := safely_acquire scope table schema held s hs
    rcases ha : acquire scope table schema held s with ⟨e | b, s'⟩ <;> rw [ha] at safe
    · rw [keepAs, bind_error ha]
      exact safe
    · rw [keepAs, bind_ok ha]
      exact Session.safe_keep name (Session.has_acquired hs (same.symm.trans ha)) safe

end Source

/-! ### Rows -/

namespace Rows

theorem safely_withBuilder {m : BuilderM σ α} (h : Steadfast m) (t : TableDecl)
    (schema : Option String) : Safely (withBuilder t schema m) :=
  keeps_get.bind fun s => Session.safely_withBuilder h .pool t.name (schema.getD s.schema) .inUse

theorem safely_prepare (t : TableDecl) (inserting : Bool) (row : Row) :
    Safely (prepare t inserting row : SessionM σ Row) :=
  keeps_get.bind fun _ => keeps_liftExcept _

theorem safely_prepareUpdate (t : TableDecl) (data : UpdateData) :
    Safely (prepareUpdate t data : SessionM σ UpdateData) := by
  cases data with
  | columns row => exact (safely_prepare t false row).map _
  | raw sql => exact keeps_pure _

variable [Backend σ] (t : TableDecl)

theorem safely_insert (row : Row) (o : WriteOptions) :
    Safely (insert t row o : SessionM σ Row) := by
  refine (safely_prepare t true row).bind fun row => ?_
  refine Keeps.bind (safely_withBuilder ?_ t o.schema) fun r => ?_
  · exact (BuilderM.steadfast_addAll _).bind fun _ => BuilderM.steadfast_write _ _
  · split
    · exact keeps_throw _
    · exact keeps_pure _

theorem safely_insertAll (rows : List Row) (o : WriteOptions) :
    Safely (insertAll t rows o : SessionM σ WriteResult) := by
  refine (keeps_mapM (safely_prepare t true) rows).bind fun rows => safely_withBuilder ?_ t o.schema
  exact (BuilderM.steadfast_addAll _).bind fun _ => BuilderM.steadfast_write _ _

theorem safely_update (cond : Condition) (data : UpdateData) (o : WriteOptions) :
    Safely (update t cond data o : SessionM σ WriteResult) := by
  refine (safely_prepareUpdate t data).bind fun data => safely_withBuilder ?_ t o.schema
  refine (BuilderM.steadfast_addAll _).bind fun _ => ?_
  exact (BuilderM.steadfast_add _).bind fun _ => BuilderM.steadfast_write _ _

theorem safely_delete (cond : Condition) (o : WriteOptions) :
    Safely (delete t cond o : SessionM σ WriteResult) := by
  refine safely_withBuilder ?_ t o.schema
  refine (BuilderM.steadfast_addAll _).bind fun _ => ?_
  exact (BuilderM.steadfast_add _).bind fun _ => BuilderM.steadfast_write _ _

theorem safely_get? (cond : Condition) (fields : List String) :
    Safely (get? t cond fields : SessionM σ (Option Row)) :=
  safely_withBuilder ((BuilderM.steadfast_addAll _).bind fun _ => BuilderM.steadfast_get?) t none

theorem safely_list (cond : Condition) (o : ListOptions) :
    Safely (list t cond o : SessionM σ (List Row)) :=
  keeps_get.bind fun _ => safely_withBuilder
    ((BuilderM.steadfast_addAll _).bind fun _ => BuilderM.steadfast_select) t o.schema

theorem safely_count (cond : Condition) (schema : Option String) :
    Safely (count t cond schema : SessionM σ Int) :=
  safely_withBuilder ((BuilderM.steadfast_add _).bind fun _ => BuilderM.steadfast_count) t schema

theorem safely_aggregate (function : String) (cond : Condition) (field : String)
    (form : Option Coercion) : Safely (aggregate t function cond field form : SessionM σ Json) := by
  unfold aggregate
  split
  · exact keeps_throw _
  · refine safely_withBuilder ((BuilderM.steadfast_add _).bind fun _ => ?_) t none
    split
    · exact BuilderM.steadfast_aggregate _ _ _
    · exact keeps_throw _

theorem safely_group (groupBy : String) (o : GroupOptions) :
    Safely (group t groupBy o : SessionM σ (List Row)) :=
  safely_withBuilder ((BuilderM.steadfast_addAll _).bind fun _ => BuilderM.steadfast_select) t
    o.schema

theorem safely_join (kind : JoinKind) (other on : String) (o : JoinOptions) :
    Safely (join t kind other on o : SessionM σ (List Row)) :=
  keeps_get.bind fun _ => safely_withBuilder
    ((BuilderM.steadfast_addAll _).bind fun _ => BuilderM.steadfast_select) t o.schema

end Rows

/-! ### Exports -/

namespace Export

variable [Backend σ]

theorem safely_start (t : TableDecl) (o : ExportOptions) :
    Safely (start t o : SessionM σ Export) := by
  unfold start
  dsimp only
  split
  · exact (keeps_throw _).bind fun _ => (Rows.safely_count t _ _).bind fun _ => keeps_pure _
  · exact (Rows.safely_count t _ _).bind fun _ => keeps_pure _

theorem safely_next? (e : Export) :
    Safely (next? e : SessionM σ (Option (List Row × Export))) := by
  unfold next?
  split
  · exact keeps_pure _
  · refine Keeps.bind (Rows.safely_withBuilder ?_ _ _) fun rows => ?_
    · exact (BuilderM.steadfast_addAll _).bind fun _ => BuilderM.steadfast_select
    · split
      · exact keeps_pure _
      · exact keeps_pure _

/-- An export is safe if what is done with each page is. -/
theorem safely_each {f : List Row → WithinM τ σ Unit} (h : ∀ rows, SafelyWithin (f rows)) :
    ∀ (fuel : Nat) (e : Export), SafelyWithin (each f fuel e)
  | 0, _ => keeps_pure 0
  | fuel + 1, e => by
    refine (safely_next? e).within.bind fun page => ?_
    cases page with
    | none => exact keeps_pure 0
    | some page =>
      exact (h page.1).bind fun _ => (safely_each h fuel page.2).bind fun _ => keeps_pure _

end Export

namespace Rows

variable [Backend σ] (t : TableDecl)

theorem safely_exportEach {f : List Row → WithinM τ σ Unit} (h : ∀ rows, SafelyWithin (f rows))
    (o : ExportOptions) : SafelyWithin (exportEach t o f) :=
  (Export.safely_start t o).within.bind fun _ => Export.safely_each h _ _

theorem safely_exportPages (o : ExportOptions) :
    Safely (exportPages t o : SessionM σ (List (List Row) × Option Error)) := by
  refine (Export.safely_start t o).bind fun e => ?_
  refine Keeps.bind (Keeps.runFrom (Export.safely_each (fun rows => ?_) _ _) _) fun r => ?_
  · exact keeps_modifyOwn fun _ => trivial
  · exact keeps_pure _

end Rows

/-! ### Synchronization -/

section

variable [Backend σ]

theorem Session.safely_query (sql : String) (args : List Value) :
    Safely (query sql args : SessionM σ QueryOutput) := (keeps_send .pool sql args).safely

theorem Catalog.safely_load (schema table : String) :
    Safely (load schema table : SessionM σ Catalog) := by
  have asked (q : CatalogQuery) : Safely (ask q schema table : SessionM σ (List Row)) :=
    (Session.safely_query _ _).bind fun _ => keeps_pure _
  refine (asked .tables).bind fun found => ?_
  split
  · exact keeps_pure _
  · refine (asked .columns).bind fun _ => (asked .indexes).bind fun _ => ?_
    exact (asked .foreignKeys).bind fun _ => keeps_pure _

namespace Synchronizer

variable (y : Synchronizer)

theorem safely_plan (t : TableDecl) : Safely (y.plan t : SessionM σ (Plan × Bool)) :=
  (keeps_liftExcept _).bind fun _ => (Catalog.safely_load _ _).bind fun _ => keeps_pure _

theorem safely_runStep (table : String) (r : SyncReport) (step : Step) :
    Safely (y.runStep table r step : SessionM σ SyncReport) := by
  unfold runStep
  dsimp only
  split
  · exact keeps_pure _
  · refine (Session.safely_query _ _).attempt.bind fun r => ?_
    cases r with
    | ok _ => exact keeps_pure _
    | error e => exact keeps_pure _

theorem safely_syncTable (t : TableDecl) : Safely (y.syncTable t : SessionM σ SyncReport) :=
  (safely_plan y t).bind fun _ => keeps_foldlM (safely_runStep y t.name) _ _

theorem safely_sync (t : TableDecl) : Safely (y.sync t : SessionM σ SyncReport) := by
  refine Keeps.bind (keeps_forIn (fun dep _ => ?_) _ _) fun _ => safely_syncTable y t
  split
  · exact (safely_syncTable y dep).attempt.bind fun _ => keeps_pure _
  · exact keeps_pure _

theorem safely_syncAll (ts : List TableDecl) :
    Safely (y.syncAll ts : SessionM σ (List (Except Error SyncReport))) :=
  keeps_mapM (fun t => (safely_syncTable y t).attempt) _

end Synchronizer

end

end TableMapper
