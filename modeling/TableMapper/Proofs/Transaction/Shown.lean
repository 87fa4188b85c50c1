import TableMapper.Proofs.Session.Reachable
import TableMapper.Proofs.Transaction.Board

/-!
# Boards and stages

A board shows a stage when it has of builders, transactions and waiting events what there is in the
session.  What is done in an act keeps it so, with the board changed as `Board.after` has it.

* `Stage.Shows` is the relation.
* `Stage.Shows.used` says what the use of a builder comes to by the board.
* `Session.Spares` says that the end of a transaction leaves the queues of the others as they are.
-/

namespace TableMapper

variable {σ α : Type}

namespace Board

/-- Handlers hear of an event at once by the board when they do by the queue of the builder. -/
theorem told_fate (d : Board) (mode : Notify) (queue : Option Nat) (e : Option TableEvent) :
    mode.now queue e = (d.fate (queue, mode)).told e := by
  cases mode with
  | off => rfl
  | immediate => rfl
  | onCommit =>
    cases queue with
    | none => rfl
    | some n =>
      simp only [fate]
      split <;> rfl

/-- An event waits by the board when it comes to the queue of an open transaction. -/
theorem queued_fate (d : Board) (mode : Notify) (queue : Option Nat) (e : Option TableEvent) :
    (mode.late queue e).filter (fun e => d.opened.contains e.1) =
      (d.fate (queue, mode)).queued e := by
  cases mode with
  | off => rfl
  | immediate => rfl
  | onCommit =>
    cases queue with
    | none => rfl
    | some n =>
      simp only [fate, Notify.late]
      by_cases isOpen : n ∈ d.opened <;> cases e <;> simp [isOpen, Fate.queued]

end Board

/-! ### The end of a transaction -/

/-- Between the sessions one transaction ended.  Handlers, kept builders and the queues of other
transactions are as they were. -/
structure Session.Spares (n : Nat) (s s' : Session σ) : Prop where
  handlers : s'.handlers = s.handlers
  leases : s'.leases = s.leases
  silent : s.Silent → s'.Silent
  queues : ∀ m, m ≠ n → s'.queue? m = s.queue? m

instance (n : Nat) : Std.Refl (Session.Spares n : Session σ → Session σ → Prop) :=
  ⟨fun _ => ⟨rfl, rfl, id, fun _ _ => rfl⟩⟩

instance (n : Nat) : IsTrans (Session σ) (Session.Spares n) :=
  ⟨fun _ _ _ h h' => ⟨h'.handlers.trans h.handlers, h'.leases.trans h.leases,
    h'.silent ∘ h.silent, fun m hm => (h'.queues m hm).trans (h.queues m hm)⟩⟩

theorem Session.Does.spares {s s' : Session σ} {deeds : Journal} (h : s.Does deeds [] s')
    (n : Nat) : s.Spares n s' :=
  ⟨h.handlers, h.steady.leases, h.silent, fun m _ => by simp [h.queues]⟩

theorem Session.spares_modifyBranch (n : Nat) {f : Branch → Branch} {s : Session σ}
    (h : s.Silent → ∀ b, (n, b) ∈ s.branches → (f b).pool.Silent) :
    s.Spares n (s.modifyBranch n f) := by
  refine ⟨rfl, rfl, fun silent => silent.modifyBranch n (h silent), fun m other => ?_⟩
  rw [queue?_modifyBranch, if_neg other]

namespace Transaction

theorem spares_takeQueue (t : Transaction) :
    Keeps (Session.Spares t.number) (t.takeQueue : SessionM σ (List TableEvent)) :=
  keeps_modifyGet fun _ => Session.spares_modifyBranch t.number
    (f := fun b => { b with queue := [] }) fun silent _ hb => silent.branches _ hb

theorem spares_recycled (t : Transaction) (s : Session σ) :
    s.Spares t.number (t.recycled s) := by
  unfold recycled
  cases found : s.branch? t.number with
  | none => exact refl s
  | some b =>
    have drained : s.Spares t.number
        (s.modifyBranch t.number fun c => { c with pool := b.pool.drain.2 }) :=
      Session.spares_modifyBranch _ fun _ _ _ _ hc => absurd hc List.not_mem_nil
    exact ⟨drained.handlers, drained.leases, fun silent =>
      ⟨silent.pool.foldl_put b.pool.drain.1, (drained.silent silent).branches⟩, drained.queues⟩

theorem spares_release (t : Transaction) :
    Keeps (Session.Spares t.number) (t.release : SessionM σ Unit) := by
  refine keeps_get.bind fun s => ?_
  split
  · exact keeps_pure ()
  · refine Keeps.bind (keeps_modify fun s => ?_) fun _ => ?_
    · refine ⟨rfl, rfl, fun silent => ⟨silent.pool, fun b hb => ?_⟩, fun m other => ?_⟩
      · exact silent.branches b (List.mem_filter.mp hb).1
      · exact congrArg (Option.map _) (lookup_filter_ne other s.branches)
    · exact fun s => (Session.does_noted _ s).spares _

variable [Backend σ]

theorem spares_conclude (t : Transaction) (returned : Except Error α) (v : Verdict α) :
    Keeps (Session.Spares t.number) (t.conclude returned v : SessionM σ (Outcome α)) := by
  refine keeps_conclude (fun s deeds d => ?_) t.spares_takeQueue returned v
  have does : s.Does deeds [] { s.noted deeds with database := d } := .of_eq rfl rfl rfl rfl rfl rfl
  exact does.spares t.number

theorem spares_settle (t : Transaction) (returned : Except Error α) (v : Verdict α) :
    Keeps (Session.Spares t.number) (t.settle returned v : SessionM σ (Outcome α)) :=
  (t.spares_conclude returned v).bind fun o =>
    (keeps_modify t.spares_recycled).bind fun _ => t.spares_release.bind fun _ => keeps_pure o

end Transaction

/-! ### Boards -/

namespace Stage

/-- What a board has of a kept builder. -/
def view (l : String × Builder) : String × Option Nat × Notify := (l.1, l.2.queue, l.2.notify)

/-- The board has what there is on the stage. -/
structure Shows (x : Stage σ) (d : Board) : Prop where
  sound : x.session.Sound
  silent : x.session.Silent
  handlers : x.session.handlers = d.handlers
  leases : x.session.leases.map view = d.leases
  opened : x.opened.map (·.number) = d.opened
  queues : ∀ n ∈ d.opened, x.session.queue? n = some (d.waiting.of n)
  waiting : ∀ e ∈ d.waiting, e.1 ∈ d.opened

/-- What the use of a builder comes to by a board. -/
structure Used [Backend σ] (x : Stage σ) (d : Board) (clauses : List Clause) (f : Finish)
    (b : Builder) (r : Except Error Reply) (b' : Builder) (s' : Session σ) : Prop where
  wires : b'.wires = b.wires
  notify : b'.notify = if f.write?.isSome then .off else b.notify.after clauses
  connections : s'.connections = x.session.connections
  event : (f.event? (b.addAll clauses) x.session).isSome = true ↔ ∃ w, r = .ok (.written w)
  journal : s'.journal = x.session.journal ++
    (BuilderM.sent b.target (f.statement? (b.addAll clauses) x.session.supply) ++
      ((d.fate (b.queue, b.notify.after clauses)).told
        (f.event? (b.addAll clauses) x.session)).flatMap d.announce)
  shows : Shows { x with session := s' }
    { d with
      waiting := d.waiting ++ (d.fate (b.queue, b.notify.after clauses)).queued
        (f.event? (b.addAll clauses) x.session) }

namespace Shows

variable {x : Stage σ} {d : Board}

/-! ### What the board tells -/

theorem lease? (h : x.Shows d) (name : String) :
    d.leases.lookup name = (x.session.lease? name).map fun b => (b.queue, b.notify) := by
  rw [← h.leases]
  exact lookup_map_value (fun _ b => (b.queue, b.notify)) name x.session.leases

theorem scope (h : x.Shows d) (home : Option Nat) :
    (x.scope home).map (·.number) = d.home home := by
  cases home with
  | none => rfl
  | some n =>
    rw [Board.home, Option.filter_some, ← h.opened]
    unfold Stage.scope
    rw [Option.bind_some]
    cases found : x.opened.find? (·.number == n) with
    | none =>
      have none := List.find?_eq_none.mp found
      have absent : n ∉ x.opened.map (·.number) := by simpa using none
      simp [absent]
    | some t =>
      have number : t.number = n := by simpa using List.find?_some found
      have listed : n ∈ x.opened.map (·.number) :=
        List.mem_map.mpr ⟨t, List.mem_of_find?_eq_some found, number⟩
      simp [number, listed]

theorem mem_opened (h : x.Shows d) {home : Option Nat} {t : Transaction}
    (found : x.scope home = some t) : home = some t.number ∧ t.number ∈ d.opened := by
  obtain ⟨n, rfl, found⟩ := Option.bind_eq_some_iff.mp found
  have number : t.number = n := by simpa using List.find?_some found
  rw [number, ← h.opened]
  exact ⟨rfl, List.mem_map.mpr ⟨t, List.mem_of_find?_eq_some found, number⟩⟩

/-- A number is that of no open transaction. -/
theorem not_mem_opened (h : x.Shows d) {n : Nat} (found : x.scope (some n) = none) :
    n ∉ d.opened := by
  have known := h.scope (some n)
  rw [found, Board.home, Option.filter_some] at known
  intro hn
  simp [hn] at known

/-- An open transaction has a queue. -/
theorem branch? (h : x.Shows d) {home : Option Nat} {t : Transaction}
    (found : x.scope home = some t) : ∃ b, x.session.branch? t.number = some b := by
  obtain ⟨b, hb, -⟩ := Option.map_eq_some_iff.mp (h.queues t.number (h.mem_opened found).2)
  exact ⟨b, hb⟩

theorem deliveries (h : x.Shows d) (events : List TableEvent) :
    x.session.deliveries events = events.flatMap d.announce := by
  unfold Session.deliveries
  congr 1
  funext e
  rw [Session.handlersOf, h.handlers, Handler.deliver, Board.announce, List.filter_map,
    List.map_map, List.filter_filter]
  congr 1
  refine List.filter_congr fun l _ => ?_
  simp [Bool.and_comm]

/-- Between the acts, an event may come to wait; it is lost if the transaction is over. -/
theorem does (h : x.Shows d) {s : Session σ} {deeds : Journal} {late : Notices}
    (hs : x.session.Does deeds late s) :
    Shows { x with session := s }
      { d with waiting := d.waiting ++ late.filter fun e => d.opened.contains e.1 } := by
  refine ⟨hs.steady.sound h.sound, hs.silent h.silent, hs.handlers.trans h.handlers, ?_, h.opened,
    fun n hn => ?_, fun e he => ?_⟩
  · show s.leases.map view = d.leases
    rw [hs.steady.leases, h.leases]
  · show s.queue? n = _
    rw [hs.queues, h.queues n hn, Option.map_some, Notices.of_append]
    congr 2
    -- events for other transactions make no difference to this one, lost or not
    rw [Notices.of, Notices.of, List.filter_filter]
    congr 1
    refine List.filter_congr fun e _ => ?_
    by_cases same : e.1 = n <;> simp [same, hn]
  · rcases List.mem_append.mp he with he | he
    · exact h.waiting e he
    · simpa using (List.mem_filter.mp he).2

theorem still (h : x.Shows d) {s : Session σ} {deeds : Journal} (hs : x.session.Does deeds [] s) :
    Shows { x with session := s } d := by
  simpa using h.does hs

/-- A builder of the session is kept under a name. -/
theorem setLease (h : x.Shows d) (name : String) {b : Builder} (hb : x.session.Has b.target) :
    Shows { x with session := x.session.setLease name b }
      (d.setLease name (b.queue, b.notify)) := by
  refine ⟨Session.safe_setLease name hb h.sound, ⟨h.silent.pool, h.silent.branches⟩, h.handlers, ?_,
    h.opened, h.queues, h.waiting⟩
  rw [Board.setLease, ← h.leases]
  simp only [Session.setLease, List.map_cons, List.filter_map]
  rfl

/-- A builder is no longer kept. -/
theorem removeLease (h : x.Shows d) (name : String) :
    Shows { x with session :=
        { x.session with leases := x.session.leases.filter (·.1 != name) } }
      { d with leases := d.leases.filter (·.1 != name) } := by
  refine ⟨⟨h.sound.pool, h.sound.branches, fun l hl => ?_⟩, ⟨h.silent.pool, h.silent.branches⟩,
    h.handlers, ?_, h.opened, h.queues, h.waiting⟩
  · exact h.sound.leases l (List.mem_filter.mp hl).1
  · rw [← h.leases]
    simp only [List.filter_map]
    rfl

theorem setHandlers (h : x.Shows d) (handlers : List (String × Handler)) :
    Shows { x with session := { x.session with handlers } } { d with handlers } :=
  ⟨⟨h.sound.pool, h.sound.branches, h.sound.leases⟩, ⟨h.silent.pool, h.silent.branches⟩, rfl,
    h.leases, h.opened, h.queues, h.waiting⟩

/-- A builder that is taken is asked for nothing, and announces to its transaction. -/
theorem acquire (h : x.Shows d) (home : Option Nat) (table : String) (schema : Option String)
    (held : Bool) :
    ∃ b s, Source.acquire (x.scope home) table schema held x.session = (.ok b, s) ∧
      x.session.Does [] [] s ∧ b.notify = .off ∧ b.queue = d.home home ∧ s.Has b.target := by
  obtain ⟨table', schema', state, same⟩ :=
    Source.acquire_eq (x.scope home) table schema held x.session
  obtain ⟨b, s, made⟩ : ∃ b s, Session.acquire ((x.scope home).elim .pool Transaction.target)
      table' schema' state x.session = (.ok b, s) := ⟨_, _, rfl⟩
  obtain ⟨does, silent, wires⟩ := Session.does_acquire made
  refine ⟨b, s, same.trans made, does, silent h.silent, ?_, Session.has_acquired h.sound made⟩
  have queue : b.queue = (x.session.poolOf ((x.scope home).elim .pool Transaction.target)).queue :=
    congrArg Prod.snd wires
  rw [queue, ← h.scope home]
  cases found : x.scope home with
  | none => exact congrArg Prod.snd h.sound.pool
  | some t =>
    obtain ⟨br, hbr⟩ := h.branch? found
    exact congrArg Prod.snd (h.sound.wires_poolOf hbr)

/-- The open transactions are there. -/
theorem le_connections (h : x.Shows d) {n : Nat} (hn : n ∈ d.opened) :
    n ≤ x.session.connections := by
  obtain ⟨b, hb, -⟩ := Option.map_eq_some_iff.mp (h.queues n hn)
  exact (h.sound.branches _ (Session.mem_of_branch? hb)).1

/-- What leaves pools, transactions, kept builders and handlers as they are, though connections may
have been checked out. -/
theorem of_eq (h : x.Shows d) {s : Session σ} (sound : s.Sound) (pool : s.pool = x.session.pool)
    (branches : s.branches = x.session.branches) (leases : s.leases = x.session.leases)
    (handlers : s.handlers = x.session.handlers) : Shows { x with session := s } d := by
  refine ⟨sound, ⟨?_, ?_⟩, handlers.trans h.handlers, ?_, h.opened, fun n hn => ?_, h.waiting⟩
  · rw [pool]
    exact h.silent.pool
  · rw [branches]
    exact h.silent.branches
  · exact (congrArg (List.map view) leases).trans h.leases
  · rw [← h.queues n hn, Session.queue?, Session.branch?, branches]
    rfl

/-- A transaction began. -/
theorem opening (h : x.Shows d) (t : Transaction) (next : t.number = x.session.connections + 1)
    {s : Session σ} (sound : (Transaction.opened t.number s).Sound)
    (pool : s.pool = x.session.pool) (branches : s.branches = x.session.branches)
    (leases : s.leases = x.session.leases) (handlers : s.handlers = x.session.handlers) :
    Shows ⟨Transaction.opened t.number s, t :: x.opened⟩
      { d with opened := t.number :: d.opened } := by
  have old {n : Nat} (hn : n ∈ d.opened) : n ≠ t.number := by
    have := h.le_connections hn
    omega
  have absent : s.branches.lookup t.number = none := by
    rw [branches, next]
    exact h.sound.branch?_next
  refine ⟨sound, ⟨?_, ?_⟩, handlers.trans h.handlers,
    (congrArg (List.map view) leases).trans h.leases, congrArg (t.number :: ·) h.opened,
    fun n hn => ?_, fun e he => ?_⟩
  · show s.pool.Silent
    rw [pool]
    exact h.silent.pool
  · intro b hb
    rcases List.mem_append.mp hb with hb | hb
    · rw [branches] at hb
      exact h.silent.branches b hb
    · -- the transaction has no builders yet
      rw [List.mem_singleton.mp hb]
      exact fun _ hb => absurd hb List.not_mem_nil
  · show ((s.branches ++ _).lookup n).map (·.queue) = _
    rw [List.lookup_append]
    rcases List.mem_cons.mp hn with rfl | hn
    · have none : d.waiting.of t.number = [] :=
        Notices.of_eq_nil fun e he same => old (h.waiting e he) same
      rw [absent, none]
      simp
    · have queued := h.queues n hn
      rw [Session.queue?, Session.branch?, ← branches] at queued
      obtain ⟨b, hb, same⟩ := Option.map_eq_some_iff.mp queued
      rw [hb]
      exact congrArg some same
  · exact List.mem_cons_of_mem _ (h.waiting e he)

/-- A transaction ended. -/
theorem closing (h : x.Shows d) (n : Nat) {s : Session σ} (sound : s.Sound)
    (hs : x.session.Spares n s) :
    Shows ⟨s, x.opened.filter (·.number != n)⟩
      { d with
        opened := d.opened.filter (· != n)
        waiting := d.waiting.filter (·.1 != n) } := by
  refine ⟨sound, hs.silent h.silent, hs.handlers.trans h.handlers,
    (congrArg (List.map view) hs.leases).trans h.leases, ?_, fun m hm => ?_, fun e he => ?_⟩
  · rw [← h.opened, List.filter_map]
    rfl
  · obtain ⟨hm, other⟩ := List.mem_filter.mp hm
    have other : m ≠ n := by simpa using other
    show s.queue? m = _
    rw [hs.queues m other, h.queues m hm, Notices.of_filter_ne other]
  · obtain ⟨he, other⟩ := List.mem_filter.mp he
    exact List.mem_filter.mpr ⟨h.waiting e he, other⟩

variable [Backend σ]

/-- The use of a builder does what the board has of the builder's transaction and of what was asked
for. -/
theorem used (h : x.Shows d) {clauses : List Clause} {f : Finish} {b b' : Builder}
    {r : Except Error Reply} {s' : Session σ}
    (run : f.runAfter clauses (b, x.session) = (r, (b', s'))) : Used x d clauses f b r b' s' := by
  have wires : b.Alike (b.addAll clauses) := b.alike_addAll clauses
  obtain ⟨alike, notify, event, does⟩ := f.used_run (b.addAll clauses) x.session
  rw [f.runAfter_apply] at run
  rw [run] at alike notify event does
  rw [b.notify_addAll] at notify does
  rw [show (b.addAll clauses).target = b.target from congrArg Prod.fst wires,
    show (b.addAll clauses).queue = b.queue from congrArg Prod.snd wires] at does
  have shows := h.does does
  rw [d.queued_fate] at shows
  refine ⟨alike.trans wires, notify, does.steady.connections, event, ?_, shows⟩
  rw [does.journal, d.told_fate, h.deliveries]

end Shows

end Stage

end TableMapper
