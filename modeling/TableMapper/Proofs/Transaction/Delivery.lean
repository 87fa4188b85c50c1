import TableMapper.Proofs.Transaction.Database
import TableMapper.Proofs.Transaction.Shown

/-!
# The delivery of events

Whatever is done with builders inside and outside of transactions, and whatever fails, handlers hear
of events as a board has it.  A board tells what is to be heard from what can be seen; so nothing
that pools do with builders, and nothing that handlers come to, makes a difference.

* `Stage.Follows` says this of one act, and `Stage.follows` proves it for all acts.
* `Stage.run_delivers` says it of a whole run.
* `Stage.outlives` is a run in which an event is lost.
-/

namespace TableMapper

variable {σ α : Type}

/-! ### Uses of sources -/

namespace Source

variable (scope : Option Transaction) (m : BuilderM σ Reply) {s : Session σ}

theorem use_kept {name : String} {b : Builder} (h : s.lease? name = some b) :
    (Source.kept name).use scope m s =
      ((m (b, s)).1, (m (b, s)).2.2.setLease name (m (b, s)).2.1) := by
  simp only [use, Session.withLease?]
  rw [bind_apply, bind_ok (get_apply s), h]
  dsimp only
  rw [bind_ok (WithinM.runFrom_apply b m s), bind_ok (modify_apply _ _), map_apply,
    liftExcept_apply]
  cases (m (b, s)).1 <;> rfl

theorem use_kept_none {name : String} (h : s.lease? name = none) :
    (Source.kept name).use scope m s = (.ok .nothing, s) := by
  simp only [use, Session.withLease?]
  rw [bind_apply, bind_ok (get_apply s), h]
  rfl

theorem use_fresh {table : String} {schema : Option String} {held : Bool} {b : Builder}
    {s' : Session σ} (h : acquire scope table schema held s = (.ok b, s')) :
    (Source.fresh table schema held).use scope m s =
      ((m (b, s')).1, (Session.giveBack (m (b, s')).2.1 (m (b, s')).2.2).2) := by
  simp only [use]
  rw [bind_ok h, bind_ok (WithinM.runFrom_apply b m s')]
  dsimp only
  rw [bind_ok (show Session.giveBack _ _ = (.ok (), _) from rfl), liftExcept_apply]
  rfl

end Source

/-- Nothing has been done in the session: there are no builders and no transactions. -/
structure Session.IsNew (s : Session σ) : Prop where
  wires : s.pool.wires = Target.pool.wires
  idle : s.pool.idle = []
  branches : s.branches = []
  leases : s.leases = []

/-! ### One act -/

namespace Stage

variable [Backend σ] {x : Stage σ} {d : Board}

/-- An act does what the board has of it, and the board after it shows the stage after it. -/
structure Follows (x : Stage σ) (d : Board) (act : Act α) : Prop where
  journal : (act.run x).2.session.journal = x.session.journal ++ d.deeds (act.passage x)
  shows : (act.run x).2.Shows (d.after (act.passage x))
  /-- There is an event exactly when a write succeeded. -/
  event : (act.passage x).event.isSome = true ↔ ∃ r, (act.passage x).reply = .ok (.written r)

/-- An act that sends nothing and makes no event. -/
theorem follows_of_still {act : Act α} {r : Except Error Reply} {x' : Stage σ}
    (run : act.run x = (r, x')) (passage : act.passage x = { act, reply := r })
    (due : d.due { act, reply := r } = []) (reply : ∀ w, r ≠ .ok (.written w))
    (journal : x'.session.journal = x.session.journal)
    (shows : x'.Shows (d.after { act, reply := r })) : x.Follows d act := by
  refine ⟨?_, ?_, ?_⟩
  · rw [run, passage, Board.deeds, due]
    simpa using journal
  · rw [run, passage]
    exact shows
  · rw [passage]
    simpa using reply

section

variable {home : Option Nat} {source : Source} {clauses : List Clause} {finish : Finish}
  {r : Except Error Reply} {x' : Stage σ}

theorem run_build {s' : Session σ}
    (used : source.use (x.scope home) (finish.runAfter clauses) x.session = (r, s')) :
    (Act.build home source clauses finish : Act α).run x = (r, { x with session := s' }) := by
  simp only [Act.run, call, Call.run]
  exact congrArg (fun r => (r.1, ({ x with session := r.2 } : Stage σ))) used

/-- The use of a builder that was there or that was taken. -/
theorem follows_of_used {b b' : Builder} {s s' : Session σ}
    (taken : source.taken? (x.scope home) x.session = some (b, s))
    (same : s.journal = x.session.journal)
    (asked : d.asked home clauses source = some (b.queue, b.notify.after clauses))
    (used : Used { x with session := s } d clauses finish b r b' s')
    (run : (Act.build home source clauses finish : Act α).run x = (r, x'))
    (journal : x'.session.journal = s'.journal)
    (shows : ∀ p : Passage α, p.act = .build home source clauses finish →
      p.event = finish.event? (b.addAll clauses) s → x'.Shows (d.after p)) :
    x.Follows d (.build home source clauses finish : Act α) := by
  have passage : (Act.build home source clauses finish : Act α).passage x =
      { act := .build home source clauses finish
        reply := r
        sent := BuilderM.sent b.target (finish.statement? (b.addAll clauses) s.supply)
        event := finish.event? (b.addAll clauses) s } := by
    simp only [Act.passage, run, taken]
  refine ⟨?_, ?_, ?_⟩
  · rw [run, passage]
    simp only [Board.deeds, Board.due, Board.fateOf, asked, Option.map_some, Option.getD_some,
      List.append_nil]
    rw [journal, used.journal, same]
  · rw [run, passage]
    exact shows _ rfl rfl
  · rw [passage]
    exact used.event

end

theorem follows_build_kept (h : x.Shows d) (home : Option Nat) (name : String)
    (clauses : List Clause) (finish : Finish) :
    x.Follows d (.build home (.kept name) clauses finish : Act α) := by
  have known := h.lease? name
  cases hb : x.session.lease? name with
  | none =>
    have unused := Source.use_kept_none (x.scope home) (finish.runAfter clauses) hb
    have run := run_build (α := α) unused
    rw [hb] at known
    refine follows_of_still run ?_ ?_ nofun rfl ?_
    · simp only [Act.passage, run, Source.taken?, hb, Option.map_none]
    · simp [Board.due, Fate.told, Board.fateOf, Board.asked, known]
    · simpa [Board.after, Board.fateOf, Board.asked, known, Fate.queued] using h
  | some b =>
    have had : x.session.Has b.target := h.sound.leases (name, b) (Session.mem_of_lease? hb)
    have asked : d.asked home clauses (.kept name) = some (b.queue, b.notify.after clauses) := by
      simp only [Board.asked, known, hb, Option.map_some]
    have run := run_build (α := α) (Source.use_kept (x.scope home) (finish.runAfter clauses) hb)
    rcases hr : finish.runAfter clauses (b, x.session) with ⟨r, b', s'⟩
    rw [hr] at run
    have used := h.used hr
    -- the builder is kept again, with the queue that it had and with what is still asked for
    have has : s'.Has b'.target := by
      rw [show b'.target = b.target from congrArg Prod.fst used.wires]
      exact had.mono (Nat.le_of_eq used.connections.symm)
    have kept := used.shows.setLease name has
    rw [used.notify, show b'.queue = b.queue from congrArg Prod.snd used.wires] at kept
    refine follows_of_used ?_ rfl asked used run rfl fun p act event => ?_
    · simp only [Source.taken?, hb, Option.map_some]
    · simp only [Board.after, Board.fateOf, act, event, asked, Option.map_some, Option.getD_some]
      exact kept

theorem follows_build_fresh (h : x.Shows d) (home : Option Nat) (table : String)
    (schema : Option String) (held : Bool) (clauses : List Clause) (finish : Finish) :
    x.Follows d (.build home (.fresh table schema held) clauses finish : Act α) := by
  obtain ⟨b, s, taken, acquired, off, queue, -⟩ := h.acquire home table schema held
  have asked : d.asked home clauses (.fresh table schema held) =
      some (b.queue, b.notify.after clauses) := by
    rw [queue, off]
    rfl
  have run := run_build (α := α) (Source.use_fresh (x.scope home) (finish.runAfter clauses) taken)
  rcases hr : finish.runAfter clauses (b, s) with ⟨r, b', s'⟩
  rw [hr] at run
  have used := (h.still acquired).used hr
  have back := Session.does_giveBack b' s'
  refine follows_of_used ?_ ?_ asked used run ?_ fun p act event => ?_
  · simp only [Source.taken?, taken]
  · exact acquired.journal.trans (List.append_nil _)
  · exact back.journal.trans (List.append_nil _)
  · simp only [Board.after, Board.fateOf, act, event, asked, Option.map_some, Option.getD_some]
    exact used.shows.still back

theorem follows_lease (h : x.Shows d) (home : Option Nat) (name : String) (source : Source) :
    x.Follows d (.lease home name source : Act α) := by
  cases source with
  | kept other =>
    have run : (Act.lease home name (.kept other) : Act α).run x = (.ok .nothing, x) := rfl
    exact follows_of_still run rfl rfl nofun rfl h
  | fresh table schema held =>
    obtain ⟨b, s, taken, acquired, off, queue, has⟩ := h.acquire home table schema held
    have kept := (h.still acquired).setLease name has
    rw [queue, off] at kept
    have run : (Act.lease home name (.fresh table schema held) : Act α).run x =
        (.ok .nothing, { x with session := Session.kept name b s }) := by
      simp only [Act.run, call, Call.run, Source.keepAs]
      rw [bind_ok (bind_ok taken _ |>.trans (Session.keep_apply name b s))]
      rfl
    have still : (s.setLease name b).Does [] [] (Session.kept name b s) := by
      unfold Session.kept
      split
      · exact Session.does_giveBack _ _
      · exact .refl _
    refine follows_of_still run ?_ rfl nofun ?_ (kept.still still)
    · simp only [Act.passage, run]
    · rw [still.journal, List.append_nil]
      exact acquired.journal.trans (List.append_nil _)

theorem follows_free (h : x.Shows d) (name : String) : x.Follows d (.free name : Act α) := by
  have removed := h.removeLease name
  cases hb : x.session.lease? name with
  | none =>
    have run : (Act.free name : Act α).run x = (.ok (.flag false), x) := by
      simp only [Act.run, call, Call.run, Session.free]
      rw [map_apply, bind_ok (get_apply _), hb]
      rfl
    have same : x.session.leases.filter (·.1 != name) = x.session.leases := by
      refine List.filter_eq_self.mpr fun l hl => ?_
      have other := List.lookup_eq_none_iff.mp hb l hl
      rwa [bne_comm] at other
    rw [same] at removed
    refine follows_of_still run ?_ rfl nofun rfl removed
    simp only [Act.passage, run]
  | some b =>
    have back := Session.does_giveBack b
      { x.session with leases := x.session.leases.filter (·.1 != name) }
    have run : (Act.free name : Act α).run x =
        (.ok (.flag true), { x with session := (Session.giveBack b
          { x.session with leases := x.session.leases.filter (·.1 != name) }).2 }) := by
      simp only [Act.run, call, Call.run, Session.free]
      rw [map_apply, bind_ok (get_apply _), hb]
      rfl
    refine follows_of_still run ?_ rfl nofun ?_ (removed.still back)
    · simp only [Act.passage, run]
    · rw [back.journal, List.append_nil]

theorem follows_query (h : x.Shows d) (home : Option Nat) (sql : String) (args : List Value) :
    x.Follows d (.query home sql args : Act α) := by
  have does := Session.does_send ((x.scope home).elim .pool Transaction.target) sql args x.session
  have run : (Act.query home sql args : Act α).run x =
      ((Backend.answer ((x.scope home).elim .pool Transaction.target) sql args
          x.session.database).1.map .output,
        ⟨x.session.afterSending ((x.scope home).elim .pool Transaction.target) sql args,
          x.opened⟩) := by
    simp only [Act.run, call, Call.run, map_apply]
    cases x.scope home <;> rfl
  generalize answered : (Backend.answer ((x.scope home).elim .pool Transaction.target) sql args
    x.session.database).1 = answer at run
  have passage : (Act.query home sql args : Act α).passage x =
      { act := .query home sql args
        reply := answer.map .output
        sent := [.sent ((x.scope home).elim .pool Transaction.target) sql args] } := by
    simp only [Act.passage, run]
  refine ⟨?_, ?_, ?_⟩
  · rw [run, passage]
    exact does.journal
  · rw [run, passage]
    exact h.still does
  · rw [passage]
    cases answer <;> simp [Except.map]

/-! ### Settings -/

theorem follows_listen (h : x.Shows d) (table : String) (l : Handler) :
    x.Follows d (.listen table l : Act α) := by
  have run : (Act.listen table l : Act α).run x = (.ok .nothing, { x with session :=
      { x.session with handlers := x.session.handlers ++ [(table, l)] } }) := rfl
  have shows := h.setHandlers (x.session.handlers ++ [(table, l)])
  rw [h.handlers] at shows
  refine follows_of_still run rfl rfl nofun rfl ?_
  rw [h.handlers]
  exact shows

theorem follows_removeHandlers (h : x.Shows d) (table : String) :
    x.Follows d (.removeHandlers table : Act α) := by
  have run : (Act.removeHandlers table : Act α).run x =
      (.ok (.flag (x.session.hasHandlers table)), { x with session :=
        { x.session with handlers := x.session.handlers.filter (·.1 != table) } }) := rfl
  have shows := h.setHandlers (x.session.handlers.filter (·.1 != table))
  refine follows_of_still run rfl rfl nofun rfl ?_
  rw [h.handlers] at shows ⊢
  exact shows

theorem follows_register (h : x.Shows d) (t : TableDecl) :
    x.Follows d (.register t : Act α) := by
  have does : x.session.Does [] [] { x.session with tables := Tables.put t x.session.tables } :=
    .of_eq rfl rfl rfl rfl rfl (List.append_nil _).symm
  have run : (Act.register t : Act α).run x = (.ok (.registered t x.session.schema),
      { x with session := { x.session with tables := Tables.put t x.session.tables } }) := rfl
  exact follows_of_still run rfl rfl nofun rfl (h.still does)

theorem follows_setMaxPool (h : x.Shows d) (max : Nat) :
    x.Follows d (.setMaxPool max : Act α) := by
  have does : x.session.Does [] [] { x.session with pool := x.session.pool.setMax max } :=
    Session.does_setPool .pool rfl fun silent => silent.pool.setMax max
  have run : (Act.setMaxPool max : Act α).run x = (.ok .nothing,
      { x with session := { x.session with pool := x.session.pool.setMax max } }) := rfl
  exact follows_of_still run rfl rfl nofun rfl (h.still does)

/-! ### Transactions -/

theorem follows_begin (h : x.Shows d) (table : Option String) :
    x.Follows d (.begin table : Act α) := by
  have sound := Transaction.safely_begin (α := α) table x.session h.sound
  rcases hc : Backend.connect x.session.database with ⟨e | u, db⟩
  · have begins := Transaction.begin_unconnected (α := α) table hc
    have run : (Act.begin table : Act α).run x =
        (.ok .nothing, { x with session := { x.session with database := db } }) := by
      simp only [Act.run, Stage.begin, begins]
    rw [begins] at sound
    refine follows_of_still run ?_ rfl nofun rfl (h.of_eq sound rfl rfl rfl rfl)
    simp only [Act.passage, run, Session.begins?, hc]
  · cases hb : (Backend.answer (Transaction.next table x.session).target "BEGIN" [] db).1 with
    | error e =>
      have begins := Transaction.begin_refused (α := α) table hc hb
      have run : (Act.begin table : Act α).run x = (.ok .nothing,
          ⟨(x.session.begun db).noted [.released (x.session.connections + 1)], x.opened⟩) := by
        simp only [Act.run, Stage.begin, begins]
      have passage : (Act.begin table : Act α).passage x =
          { act := .begin table
            reply := .ok .nothing
            sent := [.connected (x.session.connections + 1),
              .sent (.connection (x.session.connections + 1)) "BEGIN" []]
            released := [.released (x.session.connections + 1)] } := by
        have refused : x.session.begins? = some false := by
          simp only [Session.begins?, hc]
          exact congrArg (some ∘ Except.isOk) hb
        simp only [Act.passage, run, refused]
        rfl
      rw [begins] at sound
      refine ⟨?_, ?_, ?_⟩
      · rw [run, passage]
        simp [Board.deeds, Board.due, Session.begun, Session.connected, Session.afterSending,
          Session.noted]
      · rw [run, passage]
        exact h.of_eq sound rfl rfl rfl rfl
      · rw [passage]
        simp
    | ok out =>
      have begins := Transaction.begin_ok (α := α) table hc hb
      have run : (Act.begin table : Act α).run x = (.ok .nothing,
          ⟨Transaction.opened (x.session.connections + 1) (x.session.begun db),
            Transaction.next table x.session :: x.opened⟩) := by
        simp only [Act.run, Stage.begin, begins]
      have passage : (Act.begin table : Act α).passage x =
          { act := .begin table
            reply := .ok .nothing
            sent := [.connected (x.session.connections + 1),
              .sent (.connection (x.session.connections + 1)) "BEGIN" []]
            opened := some (x.session.connections + 1) } := by
        have granted : x.session.begins? = some true := by
          simp only [Session.begins?, hc]
          exact congrArg (some ∘ Except.isOk) hb
        simp only [Act.passage, run, granted]
        rfl
      rw [begins] at sound
      refine ⟨?_, ?_, ?_⟩
      · rw [run, passage]
        simp [Board.deeds, Board.due, Session.begun, Session.connected, Session.afterSending,
          Session.noted, Transaction.opened]
      · rw [run, passage]
        exact h.opening (Transaction.next table x.session) rfl sound rfl rfl rfl rfl
      · rw [passage]
        simp

theorem follows_settle (h : x.Shows d) (n : Nat) (returned : Except Error α) (v : Verdict α) :
    x.Follows d (.settle n returned v) := by
  cases found : x.scope (some n) with
  | none =>
    have run : (Act.settle n returned v).run x = (.ok .nothing, x) := by
      simp only [Act.run, found]
    have absent := h.not_mem_opened found
    have opened : d.opened.filter (· != n) = d.opened :=
      List.filter_eq_self.mpr fun m hm => by
        rw [bne_iff_ne]
        exact fun same => absent (same ▸ hm)
    have waiting : d.waiting.filter (·.1 != n) = d.waiting :=
      List.filter_eq_self.mpr fun e he => by
        rw [bne_iff_ne]
        exact fun same => absent (same ▸ h.waiting e he)
    refine follows_of_still run ?_ rfl nofun rfl ?_
    · simp only [Act.passage, run, found]
    · simpa only [Board.after, opened, waiting] using h
  | some t =>
    obtain ⟨number, isOpen⟩ := h.mem_opened found
    obtain rfl : n = t.number := Option.some.inj number
    obtain ⟨o, s₁, s', settled, concluded, journal, -⟩ := t.settle_spec returned v x.session
    have sound := t.safely_settle returned v x.session h.sound
    have spares := t.spares_settle returned v x.session
    rw [settled] at sound spares
    have run : (Act.settle t.number returned v).run x =
        (.ok .nothing, ⟨s', x.opened.filter (·.number != t.number)⟩) := by
      simp only [Act.run, found, Stage.settle, settled]
    have passage : (Act.settle t.number returned v).passage x =
        { act := .settle t.number returned v
          reply := .ok .nothing
          sent := [.sent t.target (Transaction.closing returned v) []]
          committed := t.commits? returned v x.session
          released := if t.isHeld x.session then [] else [.released t.number] } := by
      simp only [Act.passage, run, found]
    have ok : o.ok = t.commits? returned v x.session := concluded.ok
    have waiting : t.waiting x.session = d.waiting.of t.number := by
      have queued := h.queues t.number isOpen
      rw [Session.queue?] at queued
      rw [Transaction.waiting, queued, Option.getD_some]
    refine ⟨?_, ?_, ?_⟩
    · rw [run, passage]
      show s'.journal = _
      rw [journal, concluded.journal, ok, waiting, h.deliveries, Board.deeds, Board.due]
      cases t.commits? returned v x.session <;> simp
    · rw [run, passage]
      exact h.closing t.number sound spares
    · rw [passage]
      simp

/-- **One act** does what the board has of it. -/
theorem follows (h : x.Shows d) (act : Act α) : x.Follows d act := by
  cases act with
  | build home source clauses finish =>
    cases source with
    | kept name => exact follows_build_kept h home name clauses finish
    | fresh table schema held => exact follows_build_fresh h home table schema held clauses finish
  | lease home name source => exact follows_lease h home name source
  | free name => exact follows_free h name
  | query home sql args => exact follows_query h home sql args
  | listen table l => exact follows_listen h table l
  | removeHandlers table => exact follows_removeHandlers h table
  | register t => exact follows_register h t
  | setMaxPool max => exact follows_setMaxPool h max
  | begin table => exact follows_begin h table
  | settle n returned v => exact follows_settle h n returned v

/-! ### Runs -/

theorem follows_run (acts : List (Act α)) {x : Stage σ} {d : Board} (h : x.Shows d) :
    (run acts x).session.journal = x.session.journal ++ d.log (passages acts x) ∧
      ∀ p ∈ passages acts x, p.event.isSome = true ↔ ∃ r, p.reply = .ok (.written r) := by
  -- the board is carried along with the stage, and shows it before each act
  induction acts generalizing x d with
  | nil => simp [run, passages, Board.log]
  | cons act acts ih =>
    have one := follows h act
    obtain ⟨journal, events⟩ := ih one.shows
    refine ⟨?_, fun p hp => ?_⟩
    · rw [run, passages, Board.log, journal, one.journal, List.append_assoc]
    · rcases List.mem_cons.mp hp with rfl | hp
      · exact one.event
      · exact events p hp

omit [Backend σ] in
theorem shows_new {s : Session σ} (h : s.IsNew) :
    Shows { session := s } { handlers := s.handlers } := by
  refine ⟨.of_new h.wires h.branches h.leases, ⟨?_, ?_⟩, rfl, ?_, rfl, nofun, nofun⟩
  · intro b hb
    rw [h.idle] at hb
    exact absurd hb List.not_mem_nil
  · intro b hb
    rw [h.branches] at hb
    exact absurd hb List.not_mem_nil
  · exact congrArg (List.map view) h.leases

/-- **The delivery of events**, in any run of a new session: what is done in each act is what the
board has of it.  So handlers hear of the event of a write that succeeded if that was asked for
since the builder's last write, right after the statement, or after the COMMIT of its transaction,
in the order of the writes.  An event that is to wait for a transaction that is over is lost, and
there is none if builders do not outlive their transactions. -/
theorem run_delivers (acts : List (Act α)) {s : Session σ} (h : s.IsNew) :
    let board : Board := { handlers := s.handlers }
    let seen := passages acts { session := s }
    (run acts { session := s }).session.journal = s.journal ++ board.log seen ∧
      (∀ p ∈ seen, p.event.isSome = true ↔ ∃ r, p.reply = .ok (.written r)) ∧
      (board.isTidy seen = true → board.lost seen = []) := by
  intro board seen
  obtain ⟨journal, events⟩ := follows_run acts (shows_new h)
  exact ⟨journal, events, board.lost_eq_nil seen nofun⟩

/-- A new session in which a handler listens. -/
def listening : Session Ledger := Ledger.session [] [("t", { name := "h", hears := fun _ => true })]

/-- A builder is leased in a transaction, and used again when that has committed. -/
def outlives : List (Act Nat) :=
  [.begin none,
    .lease (some 1) "m" (.fresh "t" none false),
    .build none (.kept "m") [.triggerCommit] (.insert [("a", .int 1)]),
    .settle 1 (.ok 7) {},
    .build none (.kept "m") [.triggerCommit] (.insert [("a", .int 2)]),
    .free "m"]

/-- Two writes succeed and announce their events on commit.  The handler hears of the first one
only, and the second one is lost. -/
theorem run_delivers_outlives :
    let board : Board := { handlers := listening.handlers }
    let seen := passages outlives { session := listening }
    let after := run outlives { session := listening }
    listening.IsNew ∧ after.session.journal = board.log seen ∧
      (seen.filter (·.event.isSome)).length = 2 ∧
      (after.session.journal.filter (!·.isDealing)).length = 1 ∧
      (board.lost seen).length = 1 ∧ board.isTidy seen = false := by
  have new : listening.IsNew := ⟨rfl, rfl, rfl, rfl⟩
  refine ⟨new, (run_delivers outlives new).1, ?_, ?_, ?_, ?_⟩
  · decide +kernel
  · decide +kernel
  · decide +kernel
  · decide +kernel

end Stage

end TableMapper
