import TableMapper.Proofs.Session.Dealings

/-!
# Callbacks of transactions

A callback works with an open transaction: it leases builders and uses them, sends statements of its
own, and marks the transaction as failed or sets its result.  It sees what each of its calls comes
to before it makes the next one, and it holds leases in variables, which are dropped when it
returns.

* `TxCall` is one call, `Callback` a callback and `Callback.body` what it is to
  `Session.transaction`.
* `Callback.trace` lists the calls of a run with what passed on the connection.

While a callback runs its transaction stays open, and all of its leases are wired to it.  So each of
its calls sends its statement on the connection of the transaction, and nothing else reaches the
database.

* `Frame.Bound` is the invariant.
* `Frame.Next` is what one call does (`TxCall.next_run`), `Frame.Ran` what a run does
  (`Callback.ran_run`).
* `Turn.judgeAll` is what the calls of a run say about the transaction.
-/

namespace TableMapper

variable {σ α β : Type}

/-! ### Calls -/

/-- What a builder is leased for. -/
inductive Leased where
  /-- A table in the schema of the transaction. -/
  | model (table : String)
  /-- A table in a schema. -/
  | modelIn (table schema : String)
  /-- The table of the transaction. -/
  | builder

/-- A call of a callback, in a transaction with results of type `α`. -/
inductive TxCall (α : Type) where
  /-- Leases a builder, and holds it in a variable.  A lease held there before is dropped. -/
  | lease (name : String) (of : Leased)
  /-- Uses the builder held in a variable. -/
  | use (name : String) (clauses : List Clause) (finish : Finish)
  /-- Drops the lease held in a variable. -/
  | drop (name : String)
  /-- Sends a statement. -/
  | query (sql : String) (args : List Value)
  | fail (message : String)
  | throwFailed (message : String)
  | setResult (value : α)
  | isFailed

/-- A callback: it returns, or makes a call and goes on with what that comes to. -/
inductive Callback (α : Type) where
  | done (returned : Except Error α)
  | call (c : TxCall α) (next : Except Error Reply → Callback α)

/-- The state that a callback runs in. -/
structure Frame (α σ : Type) where
  /-- The leases by the names of their variables, the latest first. -/
  leases : List (String × Builder) := []
  verdict : Verdict α := {}
  session : Session σ

namespace Frame

/-- Does something with the session. -/
def within (m : SessionM σ β) (x : Frame α σ) : Except Error β × Frame α σ :=
  let (r, s) := m x.session
  (r, { x with session := s })

/-- Says something about the transaction. -/
def judged (m : TransactionM α σ β) (x : Frame α σ) : Except Error β × Frame α σ :=
  let (r, (v, s)) := m (x.verdict, x.session)
  (r, { x with verdict := v, session := s })

/-- The frame with a builder held in a variable, in place of the one that was held there. -/
def put (name : String) (b : Builder) (x : Frame α σ) : Frame α σ :=
  { x with
    leases :=
      if (x.leases.lookup name).isSome then
        x.leases.map fun l => if l.1 = name then (name, b) else l
      else (name, b) :: x.leases }

/-- The frame after the lease in a variable was dropped. -/
def drop (name : String) (x : Frame α σ) : Frame α σ :=
  match x.leases.lookup name with
  | none => x
  | some b =>
    { x with
      leases := x.leases.filter (·.1 != name)
      session := (Session.giveBack b x.session).2 }

/-- The session after all leases were dropped. -/
def dropAll (x : Frame α σ) : Session σ :=
  x.leases.foldl (fun s l => (Session.giveBack l.2 s).2) x.session

end Frame

/-- Leases a builder of the transaction. -/
def Transaction.lease (t : Transaction) : Leased → SessionM σ Builder
  | .model table => t.acquire table t.schema
  | .modelIn table schema => t.acquire table schema
  | .builder => t.acquire (t.table.getD "") t.schema

namespace TxCall

variable [Backend σ]

/-- What a call comes to, and the frame after it. -/
def run (t : Transaction) : TxCall α → Frame α σ → Except Error Reply × Frame α σ
  | .lease name of, x =>
    match x.within (t.lease of) with
    | (.error e, x) => (.error e, x)
    | (.ok b, x) =>
      match x.leases.lookup name with
      | none => (.ok .nothing, x.put name b)
      | some old => (.ok .nothing, ((x.within (Session.giveBack old)).2).put name b)
  | .use name clauses finish, x =>
    match x.leases.lookup name with
    | none => (.ok .nothing, x)
    | some b =>
      let use : BuilderM σ Reply := do
        BuilderM.addAll clauses
        finish.run
      let (r, (b, s)) := use (b, x.session)
      (r, { x with session := s }.put name b)
  | .drop name, x => (.ok .nothing, x.drop name)
  | .query sql args, x => x.within (.output <$> t.query sql args)
  | .fail message, x => x.judged ((fun _ => .nothing) <$> TransactionM.fail message)
  | .throwFailed message, x => x.judged (TransactionM.throwFailed message)
  | .setResult value, x => x.judged ((fun _ => .nothing) <$> TransactionM.setResult value)
  | .isFailed, x => x.judged (.failed <$> TransactionM.isFailed)

end TxCall

namespace Callback

variable [Backend σ]

/-- What a callback returns, and the frame after it, without its leases. -/
def run (t : Transaction) : Callback α → Frame α σ → Except Error α × Frame α σ
  | .done returned, x => (returned, { x with leases := [], session := x.dropAll })
  | .call c next, x => (next (c.run t x).1).run t (c.run t x).2

/-- The callback as the body of a transaction. -/
def body (c : Callback α) (t : Transaction) : TransactionM α σ α :=
  fun (v, s) =>
    let (r, x) := c.run t { verdict := v, session := s }
    (r, (x.verdict, x.session))

end Callback

/-! ### What a call says -/

/-- A statement and the answer of the database. -/
structure Exchange where
  statement : Statement
  answer : Except Error QueryOutput

/-- A call, and what passed on the connection for it. -/
structure Turn (α : Type) where
  call : TxCall α
  exchange : Option Exchange

namespace TxCall

/-- The statement that a call sends, if it sends one. -/
def statement? (x : Frame α σ) : TxCall α → Option Statement
  | .use name clauses finish =>
    (x.leases.lookup name).bind fun b => finish.statement? (b.addAll clauses) x.session.supply
  | .query sql args => some { sql, args }
  | _ => none

/-- What passes on the connection for a call. -/
def exchange? [Backend σ] (t : Transaction) (c : TxCall α) (x : Frame α σ) : Option Exchange :=
  (c.statement? x).map fun st =>
    { statement := st
      answer := (Backend.answer t.target st.sql st.args x.session.database).1 }

/-- What a call says about the transaction. -/
def judge : TxCall α → Verdict α → Verdict α
  | .fail message, v => { v with failed := true, message := some message }
  | .throwFailed message, v => { v with failed := true, message := some message }
  | .setResult value, v => { v with result := some value }
  | _, v => v

/-- The call marks the transaction as failed. -/
def fails : TxCall α → Bool
  | .fail _ => true
  | .throwFailed _ => true
  | _ => false

/-- The result that the call sets. -/
def result? : TxCall α → Option α
  | .setResult value => some value
  | _ => none

end TxCall

/-- The calls of a callback with what passes on the connection, in order. -/
def Callback.trace [Backend σ] (t : Transaction) : Callback α → Frame α σ → List (Turn α)
  | .done _, _ => []
  | .call c next, x =>
    { call := c, exchange := c.exchange? t x } :: (next (c.run t x).1).trace t (c.run t x).2

/-! ### Runs of callbacks -/

/-! ### One call -/

namespace Frame

/-- The session is sound, the transaction is open, and all leases are wired to it. -/
structure Bound (t : Transaction) (x : Frame α σ) : Prop where
  sound : x.session.Sound
  isOpen : (x.session.branch? t.number).isSome
  leases : ∀ l ∈ x.leases, l.2.wires = t.target.wires

/-- The second frame comes from the first one by a call. -/
structure Next [Backend σ] (t : Transaction) (c : TxCall α) (x x' : Frame α σ) : Prop where
  bound : x'.Bound t
  steady : x.session.Steady x'.session
  sends : x.session.Sends t.target (c.statement? x) x'.session
  verdict : x'.verdict = c.judge x.verdict

variable {t : Transaction} {x : Frame α σ}

theorem wires_of_lookup (h : x.Bound t) {name : String} {b : Builder}
    (hb : x.leases.lookup name = some b) : b.wires = t.target.wires :=
  h.leases (name, b) (mem_of_lookup_eq_some hb)

/-- A steady change of the session leaves a frame bound. -/
theorem Bound.of_steady (h : x.Bound t) {s : Session σ} (hs : x.session.Steady s) :
    Bound t { x with session := s } := by
  refine ⟨hs.sound h.sound, ?_, h.leases⟩
  rw [Session.branch?_isSome_iff, hs.numbers, ← Session.branch?_isSome_iff]
  exact h.isOpen

theorem Bound.put (h : x.Bound t) (name : String) {b : Builder}
    (hb : b.wires = t.target.wires) : (x.put name b).Bound t := by
  refine ⟨h.sound, h.isOpen, fun l hl => ?_⟩
  unfold Frame.put at hl
  dsimp only at hl
  split at hl
  · obtain ⟨l', hl', rfl⟩ := List.mem_map.mp hl
    by_cases hn : l'.1 = name
    · simpa only [hn, if_true] using hb
    · simpa only [hn, if_false] using h.leases l' hl'
  · rcases List.mem_cons.mp hl with rfl | hl
    · exact hb
    · exact h.leases l hl

end Frame

namespace TxCall

variable [Backend σ] {t : Transaction} {x : Frame α σ}

theorem lease_spec (h : x.Bound t) (of : Leased) :
    ∃ b s, t.lease of x.session = (.ok b, s) ∧ b.wires = t.target.wires ∧
      x.session.Steady s ∧ x.session.Sends t.target none s := by
  obtain ⟨br, hbr⟩ := Option.isSome_iff_exists.mp h.isOpen
  have wired : (x.session.poolOf t.target).wires = t.target.wires := h.sound.wires_poolOf hbr
  have acquired (table schema : String) :
      ∃ b s, t.acquire table schema x.session = (.ok b, s) ∧ b.wires = t.target.wires ∧
        x.session.Steady s ∧ x.session.Sends t.target none s := by
    obtain ⟨b, hb, hw⟩ := Session.wires_acquire t.target table schema .inUse x.session
    refine ⟨b, (t.acquire table schema x.session).2, Prod.ext hb rfl, hw.trans wired, ?_, ?_⟩
    · exact Session.keeps_acquire t.target table schema .inUse x.session
    · exact Session.quiet_acquire t.target t.target table schema .inUse x.session
  cases of with
  | model table => exact acquired table t.schema
  | modelIn table schema => exact acquired table schema
  | builder => exact acquired (t.table.getD "") t.schema

theorem next_lease (h : x.Bound t) (name : String) (of : Leased) :
    x.Next t (.lease name of) ((TxCall.lease name of).run t x).2 := by
  obtain ⟨b, s, hb, hw, steady, quiet⟩ := lease_spec h of
  have leased : x.within (t.lease of) = (.ok b, { x with session := s }) := by
    rw [Frame.within, hb]
  have bound := h.of_steady steady
  simp only [run, leased]
  cases x.leases.lookup name with
  | none => exact ⟨bound.put name hw, steady, quiet, rfl⟩
  | some old =>
    -- the lease that was held in the variable goes back to its pool
    have back := Session.keeps_giveBack old s
    refine ⟨(bound.of_steady back).put name hw, trans_of Session.Steady steady back, ?_, rfl⟩
    exact quiet.then_quiet (Session.quiet_giveBack t.target old s)

theorem next_use (h : x.Bound t) (name : String) (clauses : List Clause) (finish : Finish) :
    x.Next t (.use name clauses finish) ((TxCall.use name clauses finish).run t x).2 := by
  simp only [run]
  cases hb : x.leases.lookup name with
  | none => exact ⟨h, refl _, by simpa only [statement?, hb] using .of_eq rfl rfl, rfl⟩
  | some b =>
    have wired := Frame.wires_of_lookup h hb
    have wired' : (b.addAll clauses).wires = t.target.wires :=
      (b.alike_addAll clauses).trans wired
    have target : (b.addAll clauses).target = t.target := congrArg Prod.fst wired'
    have sent := finish.sends_run (b.addAll clauses) x.session
    have steadfast : Steadfast (finish.run : BuilderM σ Reply) := steadfast_finish finish
    obtain ⟨alike, steady⟩ := steadfast (b.addAll clauses, x.session)
    dsimp only
    -- clauses change the draft and nothing else, so the statement is sent from this very session
    rw [bind_ok (BuilderM.addAll_apply clauses b x.session)]
    refine ⟨(h.of_steady steady).put name (alike.trans wired'), steady, ?_, rfl⟩
    rw [target] at sent
    rw [statement?, hb]
    exact sent

theorem next_drop (h : x.Bound t) (name : String) :
    x.Next t (.drop name) ((TxCall.drop name).run t x).2 := by
  simp only [run, Frame.drop]
  cases x.leases.lookup name with
  | none => exact ⟨h, refl _, .of_eq rfl rfl, rfl⟩
  | some b =>
    have back := Session.keeps_giveBack b x.session
    have bound := h.of_steady back
    refine ⟨⟨bound.sound, bound.isOpen, fun l hl => ?_⟩, back,
      Session.quiet_giveBack t.target b x.session, rfl⟩
    exact h.leases l (List.mem_filter.mp hl).1

theorem next_query (h : x.Bound t) (sql : String) (args : List Value) :
    x.Next t (.query sql args) ((TxCall.query sql args).run t x).2 := by
  have steady := Session.keeps_send t.target sql args x.session
  have sent : (x.within (Reply.output <$> t.query sql args)).2 =
      { x with session := x.session.afterSending t.target sql args } := by
    rw [Frame.within, map_apply, Transaction.query, Session.send_apply]
  rw [run, sent]
  exact ⟨h.of_steady steady, steady, .of_send t.target { sql, args } x.session, rfl⟩

/-- **One call** of a callback keeps the frame bound, sends its statement and nothing else, and
says about the transaction what it is to say. -/
theorem next_run (h : x.Bound t) (c : TxCall α) : x.Next t c (c.run t x).2 := by
  have said (v : Verdict α) : Frame.Bound t { x with verdict := v } :=
    ⟨h.sound, h.isOpen, h.leases⟩
  cases c with
  | lease name of => exact next_lease h name of
  | use name clauses finish => exact next_use h name clauses finish
  | drop name => exact next_drop h name
  | query sql args => exact next_query h sql args
  | fail message => exact ⟨said _, refl x.session, .of_eq rfl rfl, rfl⟩
  | throwFailed message => exact ⟨said _, refl x.session, .of_eq rfl rfl, rfl⟩
  | setResult value => exact ⟨said _, refl x.session, .of_eq rfl rfl, rfl⟩
  | isFailed => exact ⟨said _, refl x.session, .of_eq rfl rfl, rfl⟩

end TxCall

/-! ### A run -/

/-- The statement of an exchange was sent. -/
def Exchange.deed (target : Target) (e : Exchange) : Deed :=
  .sent target e.statement.sql e.statement.args

/-- What calls say about the transaction, one after the other. -/
def Turn.judgeAll (turns : List (Turn α)) (v : Verdict α) : Verdict α :=
  turns.foldl (fun v turn => turn.call.judge v) v

theorem Turn.failed_judgeAll (turns : List (Turn α)) (v : Verdict α) :
    (judgeAll turns v).failed = (v.failed || turns.any (·.call.fails)) := by
  induction turns generalizing v with
  | nil => simp [judgeAll]
  | cons turn turns ih =>
    have first : (turn.call.judge v).failed = (v.failed || turn.call.fails) := by
      cases turn.call <;> simp [TxCall.judge, TxCall.fails]
    rw [judgeAll, List.foldl_cons, ← judgeAll, ih, first, List.any_cons, Bool.or_assoc]

theorem Turn.result_judgeAll (turns : List (Turn α)) (v : Verdict α) :
    (judgeAll turns v).result = (turns.filterMap (·.call.result?)).getLast?.or v.result := by
  induction turns generalizing v with
  | nil => simp [judgeAll]
  | cons turn turns ih =>
    have first : (turn.call.judge v).result = turn.call.result?.or v.result := by
      cases turn.call <;> simp [TxCall.judge, TxCall.result?]
    rw [judgeAll, List.foldl_cons, ← judgeAll, ih, first]
    -- a result that is set replaces the one before, unless a later call replaces it in turn
    cases hr : turn.call.result? with
    | none => simp only [List.filterMap_cons, hr, Option.none_or]
    | some value =>
      simp only [List.filterMap_cons, hr, List.getLast?_cons]
      cases (turns.filterMap (·.call.result?)).getLast? <;> rfl

namespace Frame

/-- The second frame comes from the first one by calls. -/
structure Ran [Backend σ] (t : Transaction) (turns : List (Turn α)) (x x' : Frame α σ) :
    Prop where
  bound : x'.Bound t
  steady : x.session.Steady x'.session
  dealings : x'.session.journal.dealings =
    x.session.journal.dealings ++ (turns.filterMap (·.exchange)).map (Exchange.deed t.target)
  verdict : x'.verdict = Turn.judgeAll turns x.verdict

/-- What is kept when a builder is given back is kept when all leases are dropped. -/
theorem keeps_dropAll {R : Session σ → Session σ → Prop} [Std.Refl R] [IsTrans (Session σ) R]
    (h : ∀ b s, R s (Session.giveBack b s).2) (x : Frame α σ) : R x.session x.dropAll := by
  unfold dropAll
  generalize x.leases = leases, x.session = s
  induction leases generalizing s with
  | nil => exact refl s
  | cons l leases ih => exact trans_of R (h l.2 s) (ih (Session.giveBack l.2 s).2)

end Frame

/-- **A run** of a callback sends the statements of its calls and nothing else. -/
theorem Callback.ran_run [Backend σ] {t : Transaction} (c : Callback α) {x : Frame α σ}
    (h : x.Bound t) : Frame.Ran t (c.trace t x) x (c.run t x).2 := by
  -- the frame changes from call to call, and `Frame.Bound` is what each call hands on to the next
  induction c generalizing x with
  | done returned =>
    have steady := x.keeps_dropAll Session.keeps_giveBack
    have quiet := x.keeps_dropAll (Session.quiet_giveBack t.target)
    have bound := h.of_steady steady
    refine ⟨⟨bound.sound, bound.isOpen, ?_⟩, steady, ?_, rfl⟩
    · intro l hl
      cases hl
    · simpa [trace, run] using quiet.dealings
  | call c next ih =>
    have one := c.next_run h
    have rest := ih (c.run t x).1 one.bound
    refine ⟨rest.bound, trans_of Session.Steady one.steady rest.steady, ?_, ?_⟩
    · rw [run, rest.dealings, one.sends.dealings, trace]
      cases hst : c.statement? x with
      | none => simp [TxCall.exchange?, hst]
      | some st => simp [TxCall.exchange?, hst, Exchange.deed]
    · rw [run, rest.verdict, one.verdict]
      rfl

end TableMapper
