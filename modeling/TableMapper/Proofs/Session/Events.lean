import TableMapper.Proofs.Session.Dealings
import TableMapper.Proofs.Session.Notices

/-!
# Events of writes

A write that succeeds makes an event, which handlers hear of if that was asked for.

* `Notify.after` is what is asked for after some clauses.
* `Finish.event?` is the event of the write at the end of the use of a builder, if there is one and
  it succeeded.
* `Notify.now` and `Notify.late` say what becomes of the event: handlers hear of it right after the
  statement, or it waits in the queue of the builder.
* `Finish.used_run` says that this is all that happens.
-/

namespace TableMapper

variable {σ α β : Type}

/-! ### What is asked for -/

namespace Notify

/-- What is asked for after a clause: a later request replaces the one before. -/
def ask (mode : Notify) : Clause → Notify
  | .trigger => .immediate
  | .triggerCommit => .onCommit
  | _ => mode

/-- What is asked for after clauses. -/
def after (mode : Notify) (clauses : List Clause) : Notify := clauses.foldl ask mode

/-- The events that handlers hear of right after a statement, of a builder with the queue. -/
def now (mode : Notify) (queue : Option Nat) (e : Option TableEvent) : List TableEvent :=
  match mode, queue with
  | .off, _ => []
  | .onCommit, some _ => []
  | _, _ => e.toList

/-- The events that come to wait after a statement, of a builder with the queue. -/
def late (mode : Notify) (queue : Option Nat) (e : Option TableEvent) : Notices :=
  match mode, queue with
  | .onCommit, some n => e.toList.map (n, ·)
  | _, _ => []

@[simp] theorem now_none (mode : Notify) (queue : Option Nat) : now mode queue none = [] := by
  cases mode <;> cases queue <;> rfl

@[simp] theorem late_none (mode : Notify) (queue : Option Nat) : late mode queue none = [] := by
  cases mode <;> cases queue <;> rfl

end Notify

namespace Builder

theorem notify_add (b : Builder) (c : Clause) : (b.add c).notify = b.notify.ask c := by
  cases c with
  | filter c =>
    simp only [add]
    split <;> rfl
  | _ => rfl

theorem notify_addAll (b : Builder) (clauses : List Clause) :
    (b.addAll clauses).notify = b.notify.after clauses := by
  unfold addAll Notify.after
  induction clauses generalizing b with
  | nil => rfl
  | cons c clauses ih => rw [List.foldl_cons, ih, notify_add, List.foldl_cons]

/-- Preparing a statement asks for nothing. -/
theorem notify_prepare (b : Builder) (t : Terminal) (supply : IdSupply) :
    (b.prepare t supply).1.notify = b.notify := by
  have same := congrArg Builder.notify (b.cleared_prepare t supply)
  exact same

/-- A statement that can be rendered is one of a table. -/
theorem isSome_table_of_statement {b : Builder} {st : Statement} (h : b.statement = .ok st) :
    b.table.isSome = true := by
  unfold statement at h
  cases table : b.table with
  | none =>
    rw [table] at h
    cases h
  | some _ => rfl

end Builder

/-! ### Writes -/

namespace BuilderM

/-- The session in which the statement of a terminal is sent. -/
def supplied (t : Terminal) (b : Builder) (s : Session σ) : Session σ :=
  { s with supply := (b.prepare t s.supply).2.2 }

theorem does_supplied (t : Terminal) (b : Builder) (s : Session σ) :
    s.Does [] [] (supplied t b s) :=
  .of_eq rfl rfl rfl rfl rfl (List.append_nil _).symm

/-- An event is announced as its mode and the queue of the builder have it. -/
theorem does_announce {mode : Notify} (h : mode ≠ .off) (e : TableEvent) (b : Builder)
    (s : Session σ) :
    ∃ s', announce mode e (b, s) = (.ok (), (b, s')) ∧
      s.Does (s.deliveries (mode.now b.queue (some e))) (mode.late b.queue (some e)) s' := by
  have told : (s.Does (s.deliveries [e]) [] (s.noted (s.deliveries [e]))) :=
    Session.does_noted _ s
  have heard : ((Session.emit e).within : BuilderM σ Unit) (b, s) =
      (.ok (), (b, s.noted (s.deliveries [e]))) := by
    rw [SessionM.within_apply, Session.emit_apply]
  rw [announce, bind_ok (WithinM.own_apply b s)]
  cases queue : b.queue with
  | none =>
    cases mode with
    | off => exact absurd rfl h
    | immediate => exact ⟨_, heard, told⟩
    | onCommit => exact ⟨_, heard, told⟩
  | some n =>
    cases mode with
    | off => exact absurd rfl h
    | immediate => exact ⟨_, heard, told⟩
    | onCommit => exact ⟨_, rfl, Session.does_enqueue n e s⟩

/-- What a write does about its event. -/
def tell (b : Builder) (kind : EventKind) (sql : String) (r : WriteResult) :
    BuilderM σ WriteResult :=
  match b.notify, event? b kind sql r with
  | .off, _ => pure r
  | _, none => pure r
  | mode, some e => announce mode e >>= fun _ => pure r

theorem does_tell {b : Builder} {kind : EventKind} {sql : String} {r : WriteResult}
    {e : TableEvent} (h : event? b kind sql r = some e) (b' : Builder) (s : Session σ) :
    ∃ s', tell b kind sql r (b', s) = (.ok r, (b', s')) ∧
      s.Does (s.deliveries (b.notify.now b'.queue (some e)))
        (b.notify.late b'.queue (some e)) s' := by
  unfold tell
  rw [h]
  cases mode : b.notify with
  | off => exact ⟨s, rfl, .refl s⟩
  | immediate =>
    obtain ⟨s', told, does⟩ := does_announce (by decide : Notify.immediate ≠ .off) e b' s
    exact ⟨s', bind_ok told _, does⟩
  | onCommit =>
    obtain ⟨s', told, does⟩ := does_announce (by decide : Notify.onCommit ≠ .off) e b' s
    exact ⟨s', bind_ok told _, does⟩

variable [Backend σ]

/-- The report of a write that succeeded. -/
def report (t : Terminal) (b : Builder) (supply : IdSupply) (out : QueryOutput) : WriteResult :=
  { count := out.rowCount, rows := out.rows, ids := (b.prepare t supply).2.1 }

theorem write_eq (t : Terminal) (kind : EventKind) (b : Builder) (s : Session σ) :
    write t kind (b, s) =
      ((take >>= fun st => execute st >>= fun out =>
        tell (b.prepare t s.supply).1 kind st.sql (report t b s.supply out)) :
          BuilderM σ WriteResult)
        ({ (b.prepare t s.supply).1 with notify := .off }, supplied t b s) := by
  rw [write, bind_ok (prepare_apply t b s), bind_ok (WithinM.own_apply _ _),
    bind_ok (WithinM.modifyOwn_apply _ _ _)]
  rfl

omit [Backend σ] in
theorem isSome_event? {b : Builder} {st : Statement} (h : b.statement = .ok st) (kind : EventKind)
    (r : WriteResult) : (event? b kind st.sql r).isSome = true := by
  rw [event?, Option.isSome_map]
  exact Builder.isSome_table_of_statement h

section

variable {t : Terminal} {b : Builder} {s : Session σ}

omit [Backend σ] in
theorem take_silenced {r : Except Error Statement} (h : (b.prepare t s.supply).1.statement = r) :
    take ({ (b.prepare t s.supply).1 with notify := .off }, supplied t b s) =
      (r, (spent (b.prepare t s.supply).1, supplied t b s)) := by
  rw [← h]
  rfl

theorem execute_spent {st : Statement} {r : Except Error QueryOutput}
    (h : (Backend.answer b.target st.sql st.args s.database).1 = r) :
    execute st (spent (b.prepare t s.supply).1, supplied t b s) =
      (r, (spent (b.prepare t s.supply).1,
        (supplied t b s).afterSending b.target st.sql st.args)) := by
  have same : (spent (b.prepare t s.supply).1).target = b.target :=
    congrArg Prod.fst (b.alike_prepare t s.supply)
  rw [execute_apply, same, ← h]
  rfl

theorem write_unrendered {e : Error} (h : (b.prepare t s.supply).1.statement = .error e)
    (kind : EventKind) :
    write t kind (b, s) = (.error e, (spent (b.prepare t s.supply).1, supplied t b s)) := by
  rw [write_eq]
  exact bind_error (take_silenced h) _

theorem write_failed {st : Statement} {e : Error}
    (h : (b.prepare t s.supply).1.statement = .ok st)
    (hs : (Backend.answer b.target st.sql st.args s.database).1 = .error e) (kind : EventKind) :
    write t kind (b, s) =
      (.error e, (spent (b.prepare t s.supply).1,
        (supplied t b s).afterSending b.target st.sql st.args)) := by
  rw [write_eq, bind_ok (take_silenced h)]
  exact bind_error (execute_spent hs) _

theorem write_ok {st : Statement} {out : QueryOutput}
    (h : (b.prepare t s.supply).1.statement = .ok st)
    (hs : (Backend.answer b.target st.sql st.args s.database).1 = .ok out) (kind : EventKind) :
    write t kind (b, s) =
      tell (b.prepare t s.supply).1 kind st.sql (report t b s.supply out)
        (spent (b.prepare t s.supply).1,
          (supplied t b s).afterSending b.target st.sql st.args) := by
  rw [write_eq, bind_ok (take_silenced h)]
  exact bind_ok (execute_spent hs) _

end

/-! ### Uses -/

/-- The statement was sent, if there is one. -/
def sent (target : Target) (st : Option Statement) : Journal :=
  (st.map fun st => Deed.sent target st.sql st.args).toList

omit [Backend σ] in
theorem bind_state {m : BuilderM σ α} {k : α → BuilderM σ β} (h : ∀ a x, (k a x).2 = x)
    (x : Builder × Session σ) : ((m >>= k) x).2 = (m x).2 := by
  rw [bind_apply]
  rcases m x with ⟨_ | a, y⟩
  · rfl
  · exact h a y

/-- A use that announces nothing sends a statement at most, and leaves what was asked for. -/
structure Reads (st : Option Statement) (b : Builder) (s : Session σ) (x : Builder × Session σ) :
    Prop where
  alike : b.Alike x.1
  notify : x.1.notify = b.notify
  does : s.Does (sent b.target st) [] x.2

theorem reads_read (t : Terminal) (b : Builder) (s : Session σ) :
    Reads (b.rendered? t s.supply) b s (read t (b, s)).2 := by
  have seen := preview_apply t b s
  have alike : b.Alike (b.prepare t s.supply).1 := b.alike_prepare t s.supply
  have same : (b.prepare t s.supply).1.target = b.target := congrArg Prod.fst alike
  have asked := b.notify_prepare t s.supply
  have quiet := does_supplied t b s
  unfold Builder.rendered?
  cases rendered : (b.prepare t s.supply).1.statement with
  | error e =>
    rw [rendered] at seen
    rw [read, bind_error seen]
    exact ⟨alike, asked, quiet⟩
  | ok st =>
    rw [rendered] at seen
    rw [read, bind_ok seen, execute_apply]
    refine ⟨alike, asked, quiet.after_still ?_⟩
    rw [← same]
    exact Session.does_send _ st.sql st.args _

theorem reads_then {k : QueryOutput → BuilderM σ α} (h : ∀ out x, (k out x).2 = x) (t : Terminal)
    (b : Builder) (s : Session σ) :
    Reads (b.rendered? t s.supply) b s ((read t >>= k) (b, s)).2 := by
  rw [bind_state h]
  exact reads_read t b s

theorem reads_query (sql : String) (args : List Value) (b : Builder) (s : Session σ) :
    Reads (some { sql, args }) b s (query sql args (b, s)).2 := by
  rw [query, bind_ok (WithinM.modifyOwn_apply _ _ _), execute_apply]
  exact ⟨rfl, rfl, Session.does_send b.target sql args s⟩

end BuilderM

namespace Finish

/-- The write at the end of the use of a builder, if there is one. -/
def write? : Finish → Option (Terminal × EventKind)
  | .insert row => some (.insert row, .insert)
  | .insertAll rows => some (.insertAll rows, .insert)
  | .update data => some (.update data, .update)
  | .delete => some (.delete, .delete)
  | _ => none

variable [Backend σ]

/-- The event of the write at the end of the use of a builder, if there is one and it succeeds. -/
def event? (f : Finish) (b : Builder) (s : Session σ) : Option TableEvent :=
  match f.write?, (f.run (b, s)).1 with
  | some (t, kind), .ok (.written r) =>
    (b.rendered? t s.supply).bind fun st =>
      BuilderM.event? (b.prepare t s.supply).1 kind st.sql r
  | _, _ => none

/-- What the use of a builder comes to. -/
structure Used (f : Finish) (b : Builder) (s : Session σ) : Prop where
  alike : b.Alike (f.run (b, s)).2.1
  /-- A write uses up what was asked for, also when it fails. -/
  notify : (f.run (b, s)).2.1.notify = if f.write?.isSome then .off else b.notify
  /-- There is an event exactly when a write succeeded. -/
  event : (f.event? b s).isSome = true ↔ ∃ r, (f.run (b, s)).1 = .ok (.written r)
  /-- The statement is sent, and right after it handlers hear of the event or it comes to wait. -/
  does : s.Does
    (BuilderM.sent b.target (f.statement? b s.supply) ++
      s.deliveries (b.notify.now b.queue (f.event? b s)))
    (b.notify.late b.queue (f.event? b s)) (f.run (b, s)).2.2

variable {f : Finish} {b : Builder} {s : Session σ}

theorem used_of_reads (hw : f.write? = none)
    (reads : BuilderM.Reads (f.statement? b s.supply) b s (f.run (b, s)).2)
    (reply : ∀ r, (f.run (b, s)).1 ≠ .ok (.written r)) : f.Used b s := by
  have none : f.event? b s = none := by simp only [event?, hw]
  refine ⟨reads.alike, ?_, ?_, ?_⟩
  · rw [reads.notify, hw]
    rfl
  · rw [none]
    simpa using reply
  · rw [none, Notify.now_none, Notify.late_none, Session.deliveries_nil, List.append_nil]
    exact reads.does

omit [Backend σ] in
theorem map_ne_written {m : BuilderM σ α} {g : α → Reply} (h : ∀ a r, g a ≠ .written r)
    (x : Builder × Session σ) (r : WriteResult) : ((g <$> m) x).1 ≠ .ok (.written r) := by
  rw [map_apply]
  rcases m x with ⟨_ | a, y⟩
  · exact nofun
  · exact fun same => h a r (Except.ok.inj same)

theorem used_map {m : BuilderM σ α} {g : α → Reply} (run : f.run = g <$> m)
    (hw : f.write? = none) (reads : BuilderM.Reads (f.statement? b s.supply) b s (m (b, s)).2)
    (h : ∀ a r, g a ≠ .written r) : f.Used b s := by
  refine used_of_reads hw ?_ ?_ <;> rw [run]
  · rw [map_apply]
    exact reads
  · exact map_ne_written h (b, s)

/-- A write that fails makes no event. -/
theorem used_failed {t : Terminal} {kind : EventKind} (hw : f.write? = some (t, kind)) {e : Error}
    {s' : Session σ} {b' : Builder}
    (run : f.run (b, s) = (.error e, (BuilderM.spent b', s'))) (alike : b.Alike b')
    (does : s.Does (BuilderM.sent b.target (f.statement? b s.supply)) [] s') : f.Used b s := by
  have none : f.event? b s = none := by simp only [event?, hw, run]
  refine ⟨?_, ?_, ?_, ?_⟩
  · rw [run]
    exact alike
  · rw [run, hw]
    rfl
  · rw [none, run]
    exact ⟨nofun, nofun⟩
  · rw [none, run, Notify.now_none, Notify.late_none, Session.deliveries_nil, List.append_nil]
    exact does

theorem used_write {t : Terminal} {kind : EventKind} (hw : f.write? = some (t, kind)) :
    f.Used b s := by
  have run : f.run (b, s) = (Reply.written <$> BuilderM.write t kind) (b, s) := by
    cases f <;> cases hw <;> rfl
  have statement : f.statement? b s.supply = b.rendered? t s.supply := by
    cases f <;> cases hw <;> rfl
  rw [map_apply] at run
  cases rendered : (b.prepare t s.supply).1.statement with
  | error e =>
    rw [BuilderM.write_unrendered rendered kind] at run
    refine used_failed hw run (b.alike_prepare t s.supply) ?_
    rw [statement, Builder.rendered?, rendered]
    exact BuilderM.does_supplied t b s
  | ok st =>
    have sent : BuilderM.sent b.target (f.statement? b s.supply) =
        [.sent b.target st.sql st.args] := by
      rw [statement, Builder.rendered?, rendered]
      rfl
    have does : s.Does [.sent b.target st.sql st.args] []
        ((BuilderM.supplied t b s).afterSending b.target st.sql st.args) :=
      (BuilderM.does_supplied t b s).after_still (Session.does_send b.target st.sql st.args _)
    cases answered : (Backend.answer b.target st.sql st.args s.database).1 with
    | error e =>
      rw [BuilderM.write_failed rendered answered kind] at run
      refine used_failed hw run (b.alike_prepare t s.supply) ?_
      rw [sent]
      exact does
    | ok out =>
      obtain ⟨e, made⟩ := Option.isSome_iff_exists.mp
        (BuilderM.isSome_event? rendered kind (BuilderM.report t b s.supply out))
      obtain ⟨s', told, announced⟩ := BuilderM.does_tell made
        (BuilderM.spent (b.prepare t s.supply).1)
        ((BuilderM.supplied t b s).afterSending b.target st.sql st.args)
      have alike : b.Alike (BuilderM.spent (b.prepare t s.supply).1) := b.alike_prepare t s.supply
      have queue : (BuilderM.spent (b.prepare t s.supply).1).queue = b.queue :=
        congrArg Prod.snd alike
      rw [BuilderM.write_ok rendered answered kind, told] at run
      have event : f.event? b s = some e := by
        simp only [event?, hw, run, Except.map, Builder.rendered?, rendered, Except.toOption,
          Option.bind_some, made]
      refine ⟨?_, ?_, ?_, ?_⟩
      · rw [run]
        exact alike
      · rw [run, hw]
        rfl
      · rw [run, event]
        exact ⟨fun _ => ⟨_, rfl⟩, fun _ => rfl⟩
      · rw [b.notify_prepare, queue, does.deliveries] at announced
        rw [run, event, sent]
        exact does.trans announced

/-- **The end of the use of a builder** sends its statement, and announces the event of a write that
succeeds as was asked for. -/
theorem used_run (f : Finish) (b : Builder) (s : Session σ) : f.Used b s := by
  have kept : BuilderM.Reads none b s (b, s) := ⟨refl b, rfl, .refl s⟩
  cases f with
  | insert row => exact used_write rfl
  | insertAll rows => exact used_write rfl
  | update data => exact used_write rfl
  | delete => exact used_write rfl
  | nothing => exact used_of_reads rfl kept nofun
  | info => exact used_of_reads rfl kept nofun
  | select => exact used_map rfl rfl (BuilderM.reads_then (fun _ _ => rfl) .select b s) nofun
  | get => exact used_map rfl rfl (BuilderM.reads_then (fun _ _ => rfl) .get b s) nofun
  | count => exact used_map rfl rfl (BuilderM.reads_then (fun _ _ => rfl) _ b s) nofun
  | aggregate function field form =>
    exact used_map rfl rfl (BuilderM.reads_then (fun _ _ => rfl) _ b s) nofun
  | query sql args => exact used_map rfl rfl (BuilderM.reads_query sql args b s) nofun
  | preview t =>
    refine used_map rfl rfl ?_ nofun
    rw [BuilderM.preview_apply]
    exact ⟨b.alike_prepare t s.supply, b.notify_prepare t s.supply, BuilderM.does_supplied t b s⟩

/-- The use of a builder, with its clauses. -/
def runAfter (clauses : List Clause) (f : Finish) : BuilderM σ Reply := do
  BuilderM.addAll clauses
  f.run

theorem runAfter_apply (clauses : List Clause) (f : Finish) (b : Builder) (s : Session σ) :
    f.runAfter clauses (b, s) = f.run (b.addAll clauses, s) :=
  bind_ok (BuilderM.addAll_apply clauses b s) _

end Finish

end TableMapper
