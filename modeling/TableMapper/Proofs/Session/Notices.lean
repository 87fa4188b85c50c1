import TableMapper.Proofs.Session.Sound

/-!
# Notices

An event that waits for the commit of a transaction stands in the queue of that transaction.  What
is done with builders and pools has no part in this: events are announced by writes, and nothing
else touches queues or handlers.

* `Notices` are events with the transactions whose commits they wait for.
* `Session.Silent` says that idle builders are not asked to announce anything.
* `Session.Does` relates two sessions between which some deeds were done and some events came to
  wait.
-/

namespace TableMapper

variable {σ : Type}

/-- Events with the numbers of the transactions whose commits they wait for, in order. -/
abbrev Notices := List (Nat × TableEvent)

/-- The events that wait for the commit of a transaction, in order. -/
def Notices.of (n : Nat) (l : Notices) : List TableEvent := (l.filter (·.1 == n)).map (·.2)

namespace Notices

@[simp] theorem of_nil (n : Nat) : of n [] = [] := rfl

theorem of_append (n : Nat) (l l' : Notices) : of n (l ++ l') = of n l ++ of n l' := by
  simp [of]

theorem of_map (n m : Nat) (events : List TableEvent) :
    of m (events.map (n, ·)) = if n = m then events else [] := by
  by_cases same : n = m <;> simp [of, same, List.filter_map, Function.comp_def]

theorem of_eq_nil {n : Nat} {l : Notices} (h : ∀ e ∈ l, e.1 ≠ n) : of n l = [] := by
  rw [of, List.filter_eq_nil_iff.mpr fun e he => by simpa using h e he, List.map_nil]

/-- Forgetting what waits for one transaction leaves what waits for others. -/
theorem of_filter_ne {n m : Nat} (h : m ≠ n) (l : Notices) :
    of m (l.filter (·.1 != n)) = of m l := by
  rw [of, of, List.filter_filter]
  congr 1
  refine List.filter_congr fun e _ => ?_
  by_cases same : e.1 = m <;> simp [same, h]

end Notices

namespace Session

/-! ### Queues -/

/-- The queue of a transaction. -/
def queue? (s : Session σ) (n : Nat) : Option (List TableEvent) := (s.branch? n).map (·.queue)

theorem branch?_modifyBranch (n m : Nat) (f : Branch → Branch) (s : Session σ) :
    (s.modifyBranch n f).branch? m = if m = n then (s.branch? m).map f else s.branch? m := by
  have changed : (fun b : Nat × Branch => if b.1 = n then (b.1, f b.2) else b) =
      fun b => (b.1, if b.1 = n then f b.2 else b.2) := by
    funext b
    split <;> rfl
  rw [branch?, modifyBranch, changed]
  refine (lookup_map_value (fun k b => if k = n then f b else b) m s.branches).trans ?_
  by_cases same : m = n <;> simp [same, branch?]

theorem queue?_modifyBranch (n m : Nat) (f : Branch → Branch) (s : Session σ) :
    (s.modifyBranch n f).queue? m =
      if m = n then (s.branch? m).map fun b => (f b).queue else s.queue? m := by
  unfold queue?
  rw [branch?_modifyBranch]
  split
  · rw [Option.map_map]
    rfl
  · rfl

/-! ### Silence -/

end Session

/-- The idle builders of a pool are not asked to announce anything. -/
def BuilderPool.Silent (p : BuilderPool) : Prop := ∀ b ∈ p.idle, b.notify = .off

namespace BuilderPool

variable {p : BuilderPool}

theorem Silent.take (h : p.Silent) (r : Randomness) :
    (p.take r).1.notify = .off ∧ (p.take r).2.1.Silent := by
  unfold BuilderPool.take
  cases last : p.idle.getLast? with
  | none => exact ⟨rfl, h⟩
  | some b =>
    exact ⟨h b (List.mem_of_getLast? last), fun c hc => h c (List.dropLast_subset _ hc)⟩

theorem Silent.put (h : p.Silent) (b : Builder) : (p.put b).Silent := by
  unfold BuilderPool.put
  split
  · intro c hc
    rcases List.mem_append.mp hc with hc | hc
    · exact h c hc
    · -- what was asked of the builder is forgotten when it is given back
      rw [List.mem_singleton.mp hc]
      rfl
  · exact h

theorem Silent.setMax (h : p.Silent) (max : Nat) : (p.setMax max).Silent :=
  fun b hb => h b (List.mem_of_mem_take hb)

theorem Silent.foldl_put (h : p.Silent) (idle : List Builder) :
    (idle.foldl (·.put ·) p).Silent := by
  induction idle generalizing p with
  | nil => exact h
  | cons b idle ih => exact ih (h.put b)

end BuilderPool

namespace Session

/-- No idle builder is asked to announce anything. -/
structure Silent (s : Session σ) : Prop where
  pool : s.pool.Silent
  branches : ∀ b ∈ s.branches, b.2.pool.Silent

theorem Silent.poolOf {s : Session σ} (h : s.Silent) (target : Target) :
    (s.poolOf target).Silent := by
  cases target with
  | pool => exact h.pool
  | connection n =>
    cases found : s.branch? n with
    | none => simpa only [Session.poolOf, found, Option.map_none, Option.getD_none] using h.pool
    | some b =>
      simpa only [Session.poolOf, found, Option.map_some, Option.getD_some] using
        h.branches _ (mem_of_branch? found)

theorem Silent.modifyBranch {s : Session σ} (h : s.Silent) (n : Nat) {f : Branch → Branch}
    (hf : ∀ b, (n, b) ∈ s.branches → (f b).pool.Silent) : (s.modifyBranch n f).Silent := by
  refine ⟨h.pool, fun b hb => ?_⟩
  obtain ⟨c, hc, rfl⟩ := List.mem_map.mp hb
  by_cases same : c.1 = n
  · subst same
    simpa using hf c.2 hc
  · simpa [same] using h.branches c hc

/-! ### What is done between two sessions -/

/-- Between the sessions, deeds were done and events came to wait, each for a transaction that is
there.  Handlers, transactions and kept builders are as they were. -/
structure Does (deeds : Journal) (late : Notices) (s s' : Session σ) : Prop where
  steady : s.Steady s'
  handlers : s'.handlers = s.handlers
  silent : s.Silent → s'.Silent
  journal : s'.journal = s.journal ++ deeds
  queues : ∀ n, s'.queue? n = (s.queue? n).map (· ++ late.of n)

namespace Does

variable {deeds deeds' : Journal} {late late' : Notices} {s s' s'' : Session σ}

theorem trans (h : s.Does deeds late s') (h' : s'.Does deeds' late' s'') :
    s.Does (deeds ++ deeds') (late ++ late') s'' := by
  refine ⟨trans_of Steady h.steady h'.steady, h'.handlers.trans h.handlers,
    h'.silent ∘ h.silent, ?_, fun n => ?_⟩
  · rw [h'.journal, h.journal, List.append_assoc]
  · rw [h'.queues, h.queues, Option.map_map, Notices.of_append]
    congr 1
    funext queue
    exact List.append_assoc _ _ _

/-- What leaves the queues as they are. -/
theorem of_steady (steady : s.Steady s') (handlers : s'.handlers = s.handlers)
    (silent : s.Silent → s'.Silent) (journal : s'.journal = s.journal ++ deeds)
    (queues : ∀ n, s'.queue? n = s.queue? n) : s.Does deeds [] s' := by
  refine ⟨steady, handlers, silent, journal, fun n => ?_⟩
  rw [queues]
  simp

/-- What leaves pools, transactions, kept builders and handlers as they are. -/
theorem of_eq (connections : s'.connections = s.connections) (pool : s'.pool = s.pool)
    (branches : s'.branches = s.branches) (leases : s'.leases = s.leases)
    (handlers : s'.handlers = s.handlers) (journal : s'.journal = s.journal ++ deeds) :
    s.Does deeds [] s' := by
  refine of_steady (steady_of_eq connections (by rw [pool]) branches leases) handlers (fun h => ?_)
    journal fun n => ?_
  · exact ⟨by rw [pool]; exact h.pool, by rw [branches]; exact h.branches⟩
  · rw [queue?, branch?, branches]
    rfl

theorem refl (s : Session σ) : s.Does [] [] s := of_eq rfl rfl rfl rfl rfl (by simp)

/-- Handlers hear of events as they did before. -/
theorem deliveries (h : s.Does deeds late s') (events : List TableEvent) :
    s'.deliveries events = s.deliveries events := by
  simp only [Session.deliveries, handlersOf, h.handlers]

theorem then_still (h : s.Does deeds late s') (h' : s'.Does [] [] s'') : s.Does deeds late s'' := by
  simpa using h.trans h'

theorem after_still (h : s.Does [] [] s') (h' : s'.Does deeds late s'') :
    s.Does deeds late s'' := h.trans h'

end Does

theorem does_noted (deeds : Journal) (s : Session σ) : s.Does deeds [] (s.noted deeds) :=
  .of_eq rfl rfl rfl rfl rfl rfl

theorem does_send [Backend σ] (target : Target) (sql : String) (args : List Value)
    (s : Session σ) :
    s.Does [.sent target sql args] [] (s.afterSending target sql args) :=
  .of_eq rfl rfl rfl rfl rfl rfl

/-- An event comes to wait in the queue of a transaction. -/
theorem does_enqueue (n : Nat) (e : TableEvent) (s : Session σ) :
    s.Does [] [(n, e)] (s.modifyBranch n fun b => { b with queue := b.queue ++ [e] }) := by
  refine ⟨steady_enqueue n e s, rfl, fun h => h.modifyBranch n fun b hb => h.branches _ hb,
    (List.append_nil _).symm, fun m => ?_⟩
  have waits : Notices.of m [(n, e)] = if n = m then [e] else [] := Notices.of_map n m [e]
  rw [queue?_modifyBranch, waits]
  by_cases same : m = n
  · subst same
    simp [queue?, Function.comp_def]
  · simp [same, Ne.symm same]

/-! ### Pools -/

/-- The pool of a target may be replaced by one with the same wires. -/
theorem does_setPool {s : Session σ} (target : Target) {p : BuilderPool}
    (wires : p.wires = (s.poolOf target).wires) (silent : s.Silent → p.Silent) :
    s.Does [] [] (s.setPool target p) := by
  have steady : s.Steady (s.setPool target p) := steady_setPool wires
  cases target with
  | pool =>
    exact .of_steady steady rfl (fun h => ⟨silent h, h.branches⟩) (List.append_nil _).symm
      fun _ => rfl
  | connection n =>
    refine .of_steady steady rfl (fun h => ?_) (List.append_nil _).symm fun m => ?_
    · exact h.modifyBranch n (f := fun b => { b with pool := p }) fun _ _ => silent h
    · show (s.modifyBranch n fun b => { b with pool := p }).queue? m = s.queue? m
      rw [queue?_modifyBranch]
      split <;> rfl

theorem does_giveBack (b : Builder) (s : Session σ) : s.Does [] [] (giveBack b s).2 :=
  does_setPool b.target ((s.poolOf b.target).wires_put b) fun h => (h.poolOf b.target).put b

/-- A builder that is taken for a target announces nothing yet, and has the queue of the target. -/
theorem does_acquire {s s' : Session σ} {target : Target} {table schema : String}
    {state : Lifecycle} {b : Builder} (h : acquire target table schema state s = (.ok b, s')) :
    s.Does [] [] s' ∧ (s.Silent → b.notify = .off) ∧ b.wires = (s.poolOf target).wires := by
  have wires := (s.poolOf target).wires_take s.supply.random
  cases h
  refine ⟨?_, fun h => ((h.poolOf target).take s.supply.random).1, wires.1⟩
  have replaced : s.Does [] [] (s.setPool target ((s.poolOf target).take s.supply.random).2.1) :=
    does_setPool target wires.2 fun h => ((h.poolOf target).take s.supply.random).2
  exact replaced.then_still (.of_eq rfl rfl rfl rfl rfl (List.append_nil _).symm)

end Session

end TableMapper
