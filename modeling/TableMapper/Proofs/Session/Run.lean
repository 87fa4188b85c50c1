import Mathlib.Order.Defs.Unbundled
import TableMapper.Session.Basic

/-!
# Running computations in a session

A computation in a session is a function from the session to a result and the session after it.
The lemmas of this module give that function for each way of putting computations together, so that
laws of the session are proved without the monads.

A computation keeps a relation between states when the state that it leaves stands in the relation
to the one that it found, whether it fails or not.  A relation that is reflexive and transitive is
kept by a computation when it is kept by its parts.

* `Keeps R m` says that `m` keeps `R`, and the lemmas after it are one for each way of putting
  computations together.
* `Beside P R` is the relation for computations with a state of their own: `P` between the states
  of their own and `R` between the sessions.
-/

namespace TableMapper

variable {ε τ σ α β : Type}

/-! ### Sequences -/

theorem bind_apply (m : ExceptT ε (StateM τ) α) (f : α → ExceptT ε (StateM τ) β) (s : τ) :
    (m >>= f) s = match m s with
      | (.ok a, s) => f a s
      | (.error e, s) => (.error e, s) := by
  simp only [bind, ExceptT.bind, ExceptT.mk, StateT.bind]
  rcases m s with ⟨_ | _, _⟩ <;> rfl

theorem bind_ok {m : ExceptT ε (StateM τ) α} {s s' : τ} {a : α} (h : m s = (.ok a, s'))
    (f : α → ExceptT ε (StateM τ) β) : (m >>= f) s = f a s' := by
  rw [bind_apply, h]

theorem bind_error {m : ExceptT ε (StateM τ) α} {s s' : τ} {e : ε} (h : m s = (.error e, s'))
    (f : α → ExceptT ε (StateM τ) β) : (m >>= f) s = (.error e, s') := by
  rw [bind_apply, h]

@[simp] theorem map_apply (f : α → β) (m : ExceptT ε (StateM τ) α) (s : τ) :
    (f <$> m) s = ((m s).1.map f, (m s).2) := by
  simp only [Functor.map, ExceptT.map, ExceptT.mk, StateT.bind, bind]
  rcases m s with ⟨_ | _, _⟩ <;> rfl

@[simp] theorem pure_apply (a : α) (s : τ) : (pure a : ExceptT ε (StateM τ) α) s = (.ok a, s) :=
  rfl

@[simp] theorem throw_apply (e : ε) (s : τ) :
    (throw e : ExceptT ε (StateM τ) α) s = (.error e, s) := rfl

@[simp] theorem get_apply (s : τ) : (get : ExceptT ε (StateM τ) τ) s = (.ok s, s) := rfl

@[simp] theorem modify_apply (f : τ → τ) (s : τ) :
    (modify f : ExceptT ε (StateM τ) Unit) s = (.ok (), f s) := rfl

@[simp] theorem modifyGet_apply (f : τ → α × τ) (s : τ) :
    (modifyGet f : ExceptT ε (StateM τ) α) s = (.ok (f s).1, (f s).2) := rfl

@[simp] theorem liftExcept_apply (r : Except ε α) (s : τ) :
    (liftExcept r : ExceptT ε (StateM τ) α) s = (r, s) := by cases r <;> rfl

@[simp] theorem SessionM.attempt_apply (m : SessionM σ α) (s : Session σ) :
    m.attempt s = (.ok (m s).1, (m s).2) := rfl

@[simp] theorem SessionM.within_apply (m : SessionM σ α) (t : τ) (s : Session σ) :
    (m.within : WithinM τ σ α) (t, s) = ((m s).1, (t, (m s).2)) := rfl

namespace WithinM

@[simp] theorem own_apply (t : τ) (s : Session σ) :
    (own : WithinM τ σ τ) (t, s) = (.ok t, (t, s)) := rfl

@[simp] theorem modifyOwn_apply (f : τ → τ) (t : τ) (s : Session σ) :
    (modifyOwn f : WithinM τ σ Unit) (t, s) = (.ok (), (f t, s)) := rfl

@[simp] theorem runFrom_apply (t : τ) (m : WithinM τ σ α) (s : Session σ) :
    m.runFrom t s = (.ok ((m (t, s)).1, (m (t, s)).2.1), (m (t, s)).2.2) := rfl

end WithinM

namespace Session

/-! ### The database and the journal -/

/-- The session with more deeds in its journal. -/
def noted (deeds : Journal) (s : Session σ) : Session σ := { s with journal := s.journal ++ deeds }

@[simp] theorem note_apply (deeds : Journal) (s : Session σ) :
    note deeds s = (.ok (), s.noted deeds) := rfl

@[simp] theorem noted_nil (s : Session σ) : s.noted [] = s := by simp [noted]

theorem noted_noted (deeds deeds' : Journal) (s : Session σ) :
    (s.noted deeds).noted deeds' = s.noted (deeds ++ deeds') := by simp [noted]

/-- The session after a statement was sent. -/
def afterSending [Backend σ] (target : Target) (sql : String) (args : List Value) (s : Session σ) :
    Session σ :=
  { s.noted [.sent target sql args] with
    database := (Backend.answer target sql args s.database).2 }

theorem send_apply [Backend σ] (target : Target) (sql : String) (args : List Value)
    (s : Session σ) :
    send target sql args s =
      ((Backend.answer target sql args s.database).1, s.afterSending target sql args) := rfl

/-! ### Events -/

/-- What the handlers of a session do about events, one event after the other. -/
def deliveries (s : Session σ) (events : List TableEvent) : Journal :=
  events.flatMap fun e => Handler.deliver (s.handlersOf e.table) e

@[simp] theorem deliveries_nil (s : Session σ) : s.deliveries [] = [] := rfl

@[simp] theorem deliveries_noted (deeds : Journal) (s : Session σ) (events : List TableEvent) :
    (s.noted deeds).deliveries events = s.deliveries events := rfl

theorem deliveries_cons (s : Session σ) (e : TableEvent) (events : List TableEvent) :
    s.deliveries (e :: events) = s.deliveries [e] ++ s.deliveries events := by simp [deliveries]

theorem emit_apply (e : TableEvent) (s : Session σ) :
    emit e s = (.ok (), s.noted (s.deliveries [e])) := by
  simp only [deliveries, List.flatMap_cons, List.flatMap_nil, List.append_nil]
  rfl

theorem emitAll_cons (e : TableEvent) (events : List TableEvent) :
    (emitAll (e :: events) : SessionM σ Unit) = emit e >>= fun _ => emitAll events := rfl

/-- Events are delivered one after the other, and nothing else changes. -/
theorem emitAll_apply (events : List TableEvent) (s : Session σ) :
    emitAll events s = (.ok (), s.noted (s.deliveries events)) := by
  induction events generalizing s with
  | nil => rw [deliveries_nil, noted_nil]; rfl
  | cons e events ih =>
    rw [emitAll_cons, bind_ok (emit_apply e s), ih, deliveries_noted, noted_noted,
      deliveries_cons s e events]

/-! ### Builders kept by name -/

/-- The session with a builder kept under a name, in place of one that is given back. -/
def kept (name : String) (b : Builder) (s : Session σ) : Session σ :=
  match s.lease? name with
  | some old => (giveBack old (s.setLease name b)).2
  | none => s.setLease name b

theorem keep_apply (name : String) (b : Builder) (s : Session σ) :
    keep name b s = (.ok (), s.kept name b) := by
  rw [keep, bind_ok (get_apply s), bind_ok (modify_apply _ s), kept]
  cases s.lease? name <;> rfl

end Session

/-! ### What computations keep -/

/-- The state after the computation stands in the relation to the state before. -/
def Keeps (R : τ → τ → Prop) (m : ExceptT ε (StateM τ) α) : Prop := ∀ s, R s (m s).2

/-- Two states of a computation beside a session, in a relation each. -/
def Beside (P : τ → τ → Prop) (R : Session σ → Session σ → Prop) (x y : τ × Session σ) : Prop :=
  P x.1 y.1 ∧ R x.2 y.2

instance (P : τ → τ → Prop) (R : Session σ → Session σ → Prop) [Std.Refl P] [Std.Refl R] :
    Std.Refl (Beside P R) :=
  ⟨fun x => ⟨refl x.1, refl x.2⟩⟩

instance (P : τ → τ → Prop) (R : Session σ → Session σ → Prop) [IsTrans τ P]
    [IsTrans (Session σ) R] : IsTrans (τ × Session σ) (Beside P R) :=
  ⟨fun _ _ _ h h' => ⟨trans_of P h.1 h'.1, trans_of R h.2 h'.2⟩⟩

/-- Any two states, for what does not matter. -/
def Freely (_ _ : τ) : Prop := True

instance : Std.Refl (Freely : τ → τ → Prop) := ⟨fun _ => trivial⟩

instance : IsTrans τ Freely := ⟨fun _ _ _ _ _ => trivial⟩

variable {R : τ → τ → Prop}

theorem Keeps.mono {R' : τ → τ → Prop} {m : ExceptT ε (StateM τ) α} (h : Keeps R m)
    (hR : ∀ s s', R s s' → R' s s') : Keeps R' m := fun s => hR _ _ (h s)

/-! ### Steps -/

theorem keeps_modify {f : τ → τ} (h : ∀ s, R s (f s)) :
    Keeps R (modify f : ExceptT ε (StateM τ) Unit) := h

theorem keeps_modifyGet {f : τ → α × τ} (h : ∀ s, R s (f s).2) :
    Keeps R (modifyGet f : ExceptT ε (StateM τ) α) := h

theorem Keeps.map {m : ExceptT ε (StateM τ) α} (h : Keeps R m) (f : α → β) :
    Keeps R (f <$> m) := by
  intro s
  rw [map_apply]
  exact h s

section

variable [Std.Refl R]

theorem keeps_pure (a : α) : Keeps R (pure a : ExceptT ε (StateM τ) α) := fun s => refl s

theorem keeps_throw (e : ε) : Keeps R (throw e : ExceptT ε (StateM τ) α) := fun s => refl s

theorem keeps_get : Keeps R (get : ExceptT ε (StateM τ) τ) := fun s => refl s

theorem keeps_liftExcept (r : Except ε α) :
    Keeps R (liftExcept r : ExceptT ε (StateM τ) α) := by
  intro s
  rw [liftExcept_apply]
  exact refl s

end

/-! ### Sequences -/

section

variable [IsTrans τ R]

theorem Keeps.bind {m : ExceptT ε (StateM τ) α} {f : α → ExceptT ε (StateM τ) β}
    (h : Keeps R m) (h' : ∀ a, Keeps R (f a)) : Keeps R (m >>= f) := by
  intro s
  have first := h s
  rw [bind_apply]
  rcases hr : m s with ⟨e | a, s'⟩ <;> rw [hr] at first
  · exact first
  · exact trans_of R first (h' a s')

variable [Std.Refl R]

theorem keeps_mapM {f : α → ExceptT ε (StateM τ) β} (h : ∀ a, Keeps R (f a)) :
    ∀ as : List α, Keeps R (as.mapM f)
  | [] => by
    rw [List.mapM_nil]
    exact keeps_pure []
  | a :: as => by
    rw [List.mapM_cons]
    exact (h a).bind fun b => (keeps_mapM h as).bind fun bs => keeps_pure (b :: bs)

theorem keeps_foldlM {f : β → α → ExceptT ε (StateM τ) β} (h : ∀ b a, Keeps R (f b a)) :
    ∀ (as : List α) (b : β), Keeps R (as.foldlM f b)
  | [], b => by
    rw [List.foldlM_nil]
    exact keeps_pure b
  | a :: as, b => by
    rw [List.foldlM_cons]
    exact (h b a).bind fun b' => keeps_foldlM h as b'

theorem keeps_forIn {f : α → β → ExceptT ε (StateM τ) (ForInStep β)}
    (h : ∀ a b, Keeps R (f a b)) : ∀ (as : List α) (b : β), Keeps R (forIn as b f)
  | [], b => by
    rw [List.forIn_nil]
    exact keeps_pure b
  | a :: as, b => by
    rw [List.forIn_cons]
    refine (h a b).bind fun r => ?_
    cases r with
    | done b' => exact keeps_pure b'
    | yield b' => exact keeps_forIn h as b'

end

/-! ### A state beside the session -/

section

variable {P : τ → τ → Prop} {Q : Session σ → Session σ → Prop}

theorem Keeps.attempt {m : SessionM σ α} (h : Keeps Q m) : Keeps Q m.attempt := h

theorem Keeps.within [Std.Refl P] {m : SessionM σ α} (h : Keeps Q m) :
    Keeps (Beside P Q) (m.within : WithinM τ σ α) := fun (t, s) => ⟨refl t, h s⟩

theorem keeps_own [Std.Refl P] [Std.Refl Q] :
    Keeps (Beside P Q) (WithinM.own : WithinM τ σ τ) := fun x => refl x

theorem keeps_modifyOwn [Std.Refl Q] {f : τ → τ} (h : ∀ t, P t (f t)) :
    Keeps (Beside P Q) (WithinM.modifyOwn f : WithinM τ σ Unit) := fun (t, s) => ⟨h t, refl s⟩

theorem Keeps.runFrom {m : WithinM τ σ α} (h : Keeps (Beside P Q) m) (t : τ) :
    Keeps Q (m.runFrom t) := fun s => (h (t, s)).2

end

end TableMapper
