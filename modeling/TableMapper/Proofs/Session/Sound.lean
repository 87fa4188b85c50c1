import TableMapper.Proofs.Session.Run
import TableMapper.Proofs.Table.Lookup
import TableMapper.Session.Statements

/-!
# The wiring of a session

A transaction is told by the number of its connection: its statements run on that connection, and
its events wait in the queue of that number.  This works as long as no builder and no transaction
of the session bears a number that is yet to be given out.

* `Session.Sound` is this invariant.
* `Session.Steady` relates two sessions between which no transaction began or ended and no builder
  was kept or freed; it has the invariant carried along.
* All that is done with one builder is steady, and the builder keeps its wires.
-/

namespace TableMapper

variable {σ α : Type}

/-- What the statements of a builder run on, and the queue of its events. -/
def Builder.wires (b : Builder) : Target × Option Nat := (b.target, b.queue)

/-- What the statements of the builders of a pool run on, and the queue of their events. -/
def BuilderPool.wires (p : BuilderPool) : Target × Option Nat := (p.target, p.queue)

/-- The wires of the builders of a transaction, or of those outside. -/
def Target.wires : Target → Target × Option Nat
  | .pool => (.pool, none)
  | .connection n => (.connection n, some n)

namespace Session

/-- The target is no connection that is yet to be checked out. -/
def Has (s : Session σ) : Target → Prop
  | .pool => True
  | .connection n => n ≤ s.connections

theorem Has.mono {s s' : Session σ} {target : Target} (h : s.Has target)
    (hs : s.connections ≤ s'.connections) : s'.Has target := by
  cases target with
  | pool => trivial
  | connection n => exact Nat.le_trans h hs

/-- Builders are wired to connections that were checked out. -/
structure Sound (s : Session σ) : Prop where
  pool : s.pool.wires = Target.pool.wires
  branches : ∀ b ∈ s.branches,
    b.1 ≤ s.connections ∧ b.2.pool.wires = (Target.connection b.1).wires
  leases : ∀ l ∈ s.leases, s.Has l.2.target

/-- A new session is sound. -/
theorem Sound.of_new {s : Session σ} (pool : s.pool.wires = Target.pool.wires)
    (branches : s.branches = []) (leases : s.leases = []) : s.Sound := by
  refine ⟨pool, fun b hb => ?_, fun l hl => ?_⟩
  · rw [branches] at hb
    cases hb
  · rw [leases] at hl
    cases hl

/-- The second session has the transactions and the kept builders of the first one, and is sound if
that is. -/
structure Steady (s s' : Session σ) : Prop where
  connections : s'.connections = s.connections
  numbers : s'.branches.map (·.1) = s.branches.map (·.1)
  leases : s'.leases = s.leases
  sound : s.Sound → s'.Sound

instance : Std.Refl (Steady : Session σ → Session σ → Prop) := ⟨fun _ => ⟨rfl, rfl, rfl, id⟩⟩

instance : IsTrans (Session σ) Steady :=
  ⟨fun _ _ _ h h' => ⟨h'.connections.trans h.connections, h'.numbers.trans h.numbers,
    h'.leases.trans h.leases, h'.sound ∘ h.sound⟩⟩

/-- What changes neither pools nor transactions nor kept builders is steady. -/
theorem steady_of_eq {s s' : Session σ} (connections : s'.connections = s.connections)
    (pool : s'.pool.wires = s.pool.wires) (branches : s'.branches = s.branches)
    (leases : s'.leases = s.leases) : s.Steady s' := by
  refine ⟨connections, by rw [branches], leases, fun h => ⟨pool.trans h.pool, ?_, ?_⟩⟩
  · rw [branches, connections]
    exact h.branches
  · intro l hl
    rw [leases] at hl
    have known := h.leases l hl
    cases hn : l.2.target with
    | pool => trivial
    | connection n =>
      rw [hn] at known
      show n ≤ s'.connections
      rw [connections]
      exact known

/-! ### Transactions by number -/

theorem mem_of_branch? {s : Session σ} {n : Nat} {b : Branch} (h : s.branch? n = some b) :
    (n, b) ∈ s.branches := mem_of_lookup_eq_some h

theorem branch?_isSome_iff {s : Session σ} {n : Nat} :
    (s.branch? n).isSome ↔ n ∈ s.branches.map (·.1) := by
  rw [branch?, List.lookup_isSome_iff, List.mem_map]
  simp only [beq_iff_eq, eq_comm (a := n)]

theorem numbers_modifyBranch (n : Nat) (f : Branch → Branch) (s : Session σ) :
    (s.modifyBranch n f).branches.map (·.1) = s.branches.map (·.1) := by
  simp only [modifyBranch, List.map_map]
  refine List.map_congr_left fun b _ => ?_
  by_cases hn : b.1 = n <;> simp [hn]

theorem steady_modifyBranch {s : Session σ} {n : Nat} {f : Branch → Branch}
    (h : s.Sound → ∀ b, (n, b) ∈ s.branches → (f b).pool.wires = b.pool.wires) :
    s.Steady (s.modifyBranch n f) := by
  refine ⟨rfl, numbers_modifyBranch n f s, rfl, fun hs => ⟨hs.pool, ?_, hs.leases⟩⟩
  intro b hb
  simp only [modifyBranch, List.mem_map] at hb
  obtain ⟨c, hc, rfl⟩ := hb
  -- only the transaction with the number changes, and its pool keeps its wires
  by_cases hn : c.1 = n
  · subst hn
    simp only [if_true]
    refine ⟨(hs.branches c hc).1, ?_⟩
    rw [h hs c.2 hc]
    exact (hs.branches c hc).2
  · simp only [hn, if_false]
    exact hs.branches c hc

theorem steady_enqueue (n : Nat) (e : TableEvent) (s : Session σ) :
    s.Steady (s.modifyBranch n fun b => { b with queue := b.queue ++ [e] }) :=
  steady_modifyBranch fun _ _ _ => rfl

/-! ### Pools -/

theorem Sound.wires_poolOf {s : Session σ} (h : s.Sound) {n : Nat} {b : Branch}
    (hb : s.branch? n = some b) :
    (s.poolOf (.connection n)).wires = (Target.connection n).wires := by
  have hw := (h.branches _ (mem_of_branch? hb)).2
  simpa only [poolOf, hb, Option.map_some, Option.getD_some] using hw

theorem Sound.has_poolOf {s : Session σ} (h : s.Sound) (target : Target) :
    s.Has (s.poolOf target).target := by
  have outside : s.Has s.pool.target := by
    rw [show s.pool.target = .pool from congrArg Prod.fst h.pool]
    trivial
  cases target with
  | pool => exact outside
  | connection n =>
    cases hb : s.branch? n with
    -- without such a transaction it is the pool outside that is used
    | none => simpa only [poolOf, hb, Option.map_none, Option.getD_none] using outside
    | some b =>
      rw [show (s.poolOf (.connection n)).target = .connection n from
        congrArg Prod.fst (h.wires_poolOf hb)]
      exact (h.branches _ (mem_of_branch? hb)).1

theorem steady_setPool {s : Session σ} {target : Target} {p : BuilderPool}
    (h : p.wires = (s.poolOf target).wires) : s.Steady (s.setPool target p) := by
  cases target with
  | pool => exact steady_of_eq rfl h rfl rfl
  | connection n =>
    show s.Steady (s.modifyBranch n fun b => { b with pool := p })
    refine steady_modifyBranch fun hs b hb => ?_
    -- the pool of the target is that of the first transaction with the number, which need not be
    -- `b`; in a sound session both have the wires of the connection
    have found : (s.branch? n).isSome := branch?_isSome_iff.mpr (List.mem_map_of_mem hb)
    obtain ⟨c, hc⟩ := Option.isSome_iff_exists.mp found
    show p.wires = b.pool.wires
    rw [h, hs.wires_poolOf hc]
    exact (hs.branches _ hb).2.symm

end Session

namespace BuilderPool

theorem wires_take (p : BuilderPool) (r : Randomness) :
    (p.take r).1.wires = p.wires ∧ (p.take r).2.1.wires = p.wires := by
  unfold take
  cases p.idle.getLast? <;> exact ⟨rfl, rfl⟩

theorem wires_put (p : BuilderPool) (b : Builder) : (p.put b).wires = p.wires := by
  unfold put
  split <;> rfl

end BuilderPool

namespace Session

theorem keeps_acquire (target : Target) (table schema : String) (state : Lifecycle) :
    Keeps Steady (acquire target table schema state : SessionM σ Builder) := by
  intro s
  have taken := (s.poolOf target).wires_take s.supply.random
  have replaced : s.Steady (s.setPool target ((s.poolOf target).take s.supply.random).2.1) :=
    steady_setPool taken.2
  refine trans_of Steady replaced ?_
  exact steady_of_eq rfl rfl rfl rfl

/-- A builder that is taken for a target has the wires of the pool of that target. -/
theorem wires_acquire (target : Target) (table schema : String) (state : Lifecycle)
    (s : Session σ) :
    ∃ b, (acquire target table schema state s).1 = .ok b ∧ b.wires = (s.poolOf target).wires :=
  ⟨_, rfl, ((s.poolOf target).wires_take s.supply.random).1⟩

theorem keeps_giveBack (b : Builder) : Keeps Steady (giveBack b : SessionM σ Unit) :=
  keeps_modify fun s => steady_setPool ((s.poolOf b.target).wires_put b)

theorem steady_noted (deeds : Journal) (s : Session σ) : s.Steady (s.noted deeds) :=
  steady_of_eq rfl rfl rfl rfl

theorem keeps_note (deeds : Journal) : Keeps Steady (note deeds : SessionM σ Unit) :=
  keeps_modify (steady_noted deeds)

theorem keeps_send [Backend σ] (target : Target) (sql : String) (args : List Value) :
    Keeps Steady (send target sql args : SessionM σ QueryOutput) :=
  fun _ => steady_of_eq rfl rfl rfl rfl

end Session

end TableMapper
