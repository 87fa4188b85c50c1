import TableMapper.Proofs.Session.Builders

/-!
# What reaches the database

A use of a builder sends one statement at most: the one that its terminal renders, or one that it is
given.  It is sent to the target of the builder, and handlers may hear of it after that.

* `Journal.dealings` is what was done with the database.
* `Session.Sends` says that a statement was sent between two sessions, or none.
* `Finish.statement?` is the statement that the end of a use sends, if it sends one, and
  `Finish.sends_run` says that nothing else reaches the database.
-/

namespace TableMapper

variable {σ α β : Type}

/-! ### Dealings -/

/-- The deed concerns the database, not a handler. -/
def Deed.isDealing : Deed → Bool
  | .delivered .. => false
  | _ => true

/-- What was done with the database, in order. -/
def Journal.dealings (j : Journal) : Journal := j.filter Deed.isDealing

theorem Journal.dealings_append (j j' : Journal) :
    Journal.dealings (j ++ j') = j.dealings ++ j'.dealings := List.filter_append j j'

theorem Journal.dealings_sent (target : Target) (sql : String) (args : List Value) (j : Journal) :
    Journal.dealings (.sent target sql args :: j) = .sent target sql args :: j.dealings := rfl

theorem Session.dealings_deliveries (s : Session σ) (events : List TableEvent) :
    Journal.dealings (s.deliveries events) = [] := by
  refine List.filter_eq_nil_iff.mpr fun d hd => ?_
  simp only [deliveries, Handler.deliver, List.mem_flatMap, List.mem_map] at hd
  obtain ⟨_, _, _, _, rfl⟩ := hd
  simp [Deed.isDealing]

/-! ### Statements -/

/-- Between the sessions, a statement was sent to the target, if there is one, and nothing else has
reached the database. -/
structure Session.Sends [Backend σ] (target : Target) (st : Option Statement)
    (s s' : Session σ) : Prop where
  database : s'.database =
    st.elim s.database fun st => (Backend.answer target st.sql st.args s.database).2
  dealings : s'.journal.dealings =
    s.journal.dealings ++ (st.map fun st => Deed.sent target st.sql st.args).toList

namespace Session.Sends

variable [Backend σ] {target : Target} {st : Option Statement} {s s' s'' : Session σ}

theorem of_eq (database : s'.database = s.database) (journal : s'.journal = s.journal) :
    s.Sends target none s' :=
  ⟨database, by rw [journal]; simp⟩

theorem of_send (target : Target) (st : Statement) (s : Session σ) :
    s.Sends target (some st) (s.afterSending target st.sql st.args) :=
  ⟨rfl, Journal.dealings_append _ _⟩

theorem after_quiet (h : s.Sends target none s') (h' : s'.Sends target st s'') :
    s.Sends target st s'' := by
  have same : s'.database = s.database := h.database
  have quiet : s'.journal.dealings = s.journal.dealings := by simpa using h.dealings
  exact ⟨by rw [h'.database, same], by rw [h'.dealings, quiet]⟩

theorem then_quiet (h : s.Sends target st s') (h' : s'.Sends target none s'') :
    s.Sends target st s'' := by
  have same : s''.database = s'.database := h'.database
  have quiet : s''.journal.dealings = s'.journal.dealings := by simpa using h'.dealings
  exact ⟨same.trans h.database, quiet.trans h.dealings⟩

instance : Std.Refl (Session.Sends target none : Session σ → Session σ → Prop) :=
  ⟨fun _ => .of_eq rfl rfl⟩

instance : IsTrans (Session σ) (Session.Sends target none) := ⟨fun _ _ _ => after_quiet⟩

end Session.Sends

theorem Session.quiet_setPool [Backend σ] (target target' : Target) (p : BuilderPool)
    (s : Session σ) : s.Sends target none (s.setPool target' p) := by
  cases target' <;> exact .of_eq rfl rfl

theorem Session.quiet_acquire [Backend σ] (target target' : Target) (table schema : String)
    (state : Lifecycle) (s : Session σ) :
    s.Sends target none (acquire target' table schema state s).2 :=
  (quiet_setPool target target' _ s).then_quiet (.of_eq rfl rfl)

theorem Session.quiet_giveBack [Backend σ] (target : Target) (b : Builder) (s : Session σ) :
    s.Sends target none (giveBack b s).2 := quiet_setPool target b.target _ s

/-- A use of a builder sends no statement. -/
abbrev Quiet [Backend σ] (target : Target) (m : BuilderM σ α) : Prop :=
  Keeps (Beside Builder.Alike (Session.Sends target none)) m

/-- What a builder announces has no part in its statement. -/
theorem Builder.statement_notify (b : Builder) (mode : Notify) :
    ({ b with notify := mode } : Builder).statement = b.statement := rfl

/-- The statement of a terminal, unless it cannot be rendered. -/
def Builder.rendered? (b : Builder) (t : Terminal) (supply : IdSupply) : Option Statement :=
  (b.prepare t supply).1.statement.toOption

namespace BuilderM

theorem prepare_apply (t : Terminal) (b : Builder) (s : Session σ) :
    prepare t (b, s) =
      (.ok (b.prepare t s.supply).2.1,
        ((b.prepare t s.supply).1, { s with supply := (b.prepare t s.supply).2.2 })) := rfl

theorem take_apply (b : Builder) (s : Session σ) :
    take (b, s) = (b.statement, ({ b with draft := {} }, s)) := rfl

theorem preview_apply (t : Terminal) (b : Builder) (s : Session σ) :
    preview t (b, s) =
      ((b.prepare t s.supply).1.statement,
        ({ (b.prepare t s.supply).1 with draft := {} },
          { s with supply := (b.prepare t s.supply).2.2 })) := rfl

variable [Backend σ]

theorem execute_apply (st : Statement) (b : Builder) (s : Session σ) :
    execute st (b, s) =
      ((Backend.answer b.target st.sql st.args s.database).1,
        (b, s.afterSending b.target st.sql st.args)) := rfl

theorem sends_execute {b : Builder} {target : Target} (h : b.target = target) (st : Statement)
    (s : Session σ) : s.Sends target (some st) (execute st (b, s)).2.2 := by
  rw [execute_apply, h]
  exact .of_send target st s

theorem sends_bind {m : BuilderM σ α} {k : α → BuilderM σ β} {target : Target}
    {st : Option Statement} {b : Builder} {s : Session σ}
    (h : s.Sends target st (m (b, s)).2.2) (h' : ∀ a, Quiet target (k a)) :
    s.Sends target st ((m >>= k) (b, s)).2.2 := by
  rw [bind_apply]
  rcases hm : m (b, s) with ⟨e | a, b', s'⟩ <;> rw [hm] at h
  · exact h
  · exact h.then_quiet (h' a (b', s')).2

theorem sends_read (t : Terminal) (b : Builder) (s : Session σ) :
    s.Sends b.target (b.rendered? t s.supply) (read t (b, s)).2.2 := by
  have seen := preview_apply t b s
  have same : (b.prepare t s.supply).1.target = b.target :=
    congrArg Prod.fst (b.alike_prepare t s.supply)
  unfold Builder.rendered?
  cases hst : (b.prepare t s.supply).1.statement with
  | error e =>
    rw [hst] at seen
    rw [read, bind_error seen]
    exact .of_eq rfl rfl
  | ok st =>
    rw [hst] at seen
    have quiet : s.Sends b.target none { s with supply := (b.prepare t s.supply).2.2 } :=
      .of_eq rfl rfl
    rw [read, bind_ok seen]
    exact quiet.after_quiet (sends_execute same st _)

theorem quiet_announce (target : Target) (mode : Notify) (e : TableEvent) :
    Quiet target (announce mode e : BuilderM σ Unit) := by
  refine keeps_own.bind fun b => ?_
  split
  · exact keeps_modify fun (b, _) => ⟨refl b, .of_eq rfl rfl⟩
  · -- handlers hear of the event, and what they do is no dealing with the database
    refine Keeps.within fun s => ?_
    rw [Session.emit_apply]
    refine ⟨rfl, ?_⟩
    show Journal.dealings (s.journal ++ s.deliveries [e]) = _
    rw [Journal.dealings_append, Session.dealings_deliveries]
    rfl

theorem sends_write (t : Terminal) (kind : EventKind) (b : Builder) (s : Session σ) :
    s.Sends b.target (b.rendered? t s.supply) (write t kind (b, s)).2.2 := by
  have same : (b.prepare t s.supply).1.target = b.target :=
    congrArg Prod.fst (b.alike_prepare t s.supply)
  have prepared := prepare_apply t b s
  have quiet : s.Sends b.target none { s with supply := (b.prepare t s.supply).2.2 } :=
    .of_eq rfl rfl
  unfold Builder.rendered?
  generalize { s with supply := (b.prepare t s.supply).2.2 } = s' at prepared quiet
  generalize (b.prepare t s.supply).1 = b', (b.prepare t s.supply).2.1 = ids at *
  refine quiet.after_quiet ?_
  -- the event is announced by `write` itself, so the builder is silenced for the statement
  rw [write, bind_ok prepared, bind_ok (WithinM.own_apply _ _),
    bind_ok (WithinM.modifyOwn_apply _ _ _)]
  have taken := take_apply { b' with notify := .off } s'
  rw [Builder.statement_notify] at taken
  cases hst : b'.statement with
  | error e =>
    rw [hst] at taken
    rw [bind_error taken]
    exact .of_eq rfl rfl
  | ok st =>
    rw [hst] at taken
    rw [bind_ok taken]
    refine sends_bind (sends_execute same st _) fun out => ?_
    dsimp only
    split
    · exact keeps_pure _
    · exact keeps_pure _
    · exact (quiet_announce _ _ _).bind fun _ => keeps_pure _

theorem sends_query (sql : String) (args : List Value) (b : Builder) (s : Session σ) :
    s.Sends b.target (some { sql, args }) (query sql args (b, s)).2.2 := by
  rw [query, bind_ok (WithinM.modifyOwn_apply _ _ _)]
  exact sends_execute rfl _ s

theorem sends_map {m : BuilderM σ α} {f : α → β} {target : Target} {st : Option Statement}
    {b : Builder} {s : Session σ} (h : s.Sends target st (m (b, s)).2.2) :
    s.Sends target st ((f <$> m) (b, s)).2.2 := by
  rw [map_apply]
  exact h

theorem sends_read_map (t : Terminal) (f : QueryOutput → α) (b : Builder) (s : Session σ) :
    s.Sends b.target (b.rendered? t s.supply)
      (((read t >>= fun out => pure (f out)) : BuilderM σ α) (b, s)).2.2 :=
  sends_bind (sends_read t b s) fun _ => keeps_pure _

end BuilderM

namespace Finish

/-- The terminal that runs at the end of the use of a builder, if one does. -/
def terminal? : Finish → Option Terminal
  | .select => some .select
  | .get => some .get
  | .insert row => some (.insert row)
  | .insertAll rows => some (.insertAll rows)
  | .update data => some (.update data)
  | .delete => some .delete
  | .count => some (.aggregate "count" "*")
  | .aggregate function field _ => some (.aggregate function field)
  | .nothing | .query _ _ | .preview _ | .info => none

/-- The statement that is sent at the end of the use of a builder: the given one, or that of the
terminal, if it can be rendered. -/
def statement? (b : Builder) (supply : IdSupply) : Finish → Option Statement
  | .query sql args => some { sql, args }
  | f => f.terminal?.bind fun t => b.rendered? t supply

/-- **The end of the use of a builder** sends its statement to the target of the builder, and
nothing else. -/
theorem sends_run [Backend σ] (f : Finish) (b : Builder) (s : Session σ) :
    s.Sends b.target (f.statement? b s.supply) (f.run (b, s)).2.2 := by
  cases f with
  | nothing => exact .of_eq rfl rfl
  | select => exact BuilderM.sends_map (BuilderM.sends_read_map _ _ b s)
  | get => exact BuilderM.sends_map (BuilderM.sends_read_map _ _ b s)
  | insert row => exact BuilderM.sends_map (BuilderM.sends_write _ _ b s)
  | insertAll rows => exact BuilderM.sends_map (BuilderM.sends_write _ _ b s)
  | update data => exact BuilderM.sends_map (BuilderM.sends_write _ _ b s)
  | delete => exact BuilderM.sends_map (BuilderM.sends_write _ _ b s)
  | count => exact BuilderM.sends_map (BuilderM.sends_read_map _ _ b s)
  | aggregate function field form =>
    exact BuilderM.sends_map (BuilderM.sends_bind (BuilderM.sends_read _ b s) fun _ => keeps_pure _)
  | query sql args => exact BuilderM.sends_map (BuilderM.sends_query sql args b s)
  | preview t =>
    refine BuilderM.sends_map ?_
    rw [BuilderM.preview_apply]
    exact .of_eq rfl rfl
  | info => exact .of_eq rfl rfl

end Finish

end TableMapper
