import TableMapper.Proofs.Session.Builders
import TableMapper.Proofs.Session.Notices

/-!
# Pools in order

Builders go from pool to pool and back.  A pool is in order when its builders are as new ones, and
no more than its bound.

* `Target.newBuilder` is a new builder for a target.
* `BuilderPool.Tidy` says that a pool is in order, `BuilderPool.Balanced` that its counters agree
  with what became of its builders.
* `Session.Tidy` says that all pools of a session are in order.
* `Session.acquire_spec` and `Session.giveBack_spec` say what happens to the pools when a builder is
  taken and given back.
-/

namespace TableMapper

variable {σ : Type}

/-- A new builder for a target, outside of transactions or on the connection of one. -/
def Target.newBuilder (home : Target) (binding : Binding) (tag : DollarTag) : Builder :=
  { tag, binding, target := home, queue := home.wires.2 }

/-- Builders of the target come from the pool outside of transactions. -/
def Target.isPool : Target → Bool
  | .pool => true
  | .connection _ => false

/-! ### One pool -/

namespace BuilderPool

variable {home : Target} {binding : Binding} {p : BuilderPool}

/-- The pool is one of the target, and its idle builders are new but for the tags and the schemas
that they had before. -/
structure Tidy (home : Target) (binding : Binding) (p : BuilderPool) : Prop where
  target : p.target = home
  queue : p.queue = home.wires.2
  binds : p.binding = binding
  bounded : p.idle.length ≤ p.max
  idle : ∀ b ∈ p.idle, b = { home.newBuilder binding b.tag with schema := b.schema }

namespace Tidy

theorem newBuilder (h : p.Tidy home binding) (tag : DollarTag) :
    p.newBuilder tag = home.newBuilder binding tag := by
  rw [BuilderPool.newBuilder, h.target, h.queue, h.binds]
  rfl

/-- A builder that is taken is a new one, but for its schema. -/
theorem take (h : p.Tidy home binding) (r : Randomness) :
    (∃ tag schema, (p.take r).1 = { home.newBuilder binding tag with schema }) ∧
      (p.take r).2.1.Tidy home binding := by
  unfold BuilderPool.take
  cases last : p.idle.getLast? with
  | none => exact ⟨⟨_, _, h.newBuilder _⟩, h.target, h.queue, h.binds, h.bounded, h.idle⟩
  | some b =>
    -- it was made as new when it came in, so that it is wired again makes no difference
    have asNew := h.idle b (List.mem_of_getLast? last)
    refine ⟨⟨b.tag, b.schema, ?_⟩, h.target, h.queue, h.binds, ?_, fun c hc => ?_⟩
    · dsimp only
      rw [asNew, h.target, h.queue]
      rfl
    · exact Nat.le_trans (List.dropLast_sublist _).length_le h.bounded
    · exact h.idle c (List.dropLast_subset _ hc)

/-- Whatever a builder was used for, it is as new once it was given back. -/
theorem put (h : p.Tidy home binding) {b : Builder} (hb : b.binding = binding) :
    (p.put b).Tidy home binding := by
  unfold BuilderPool.put
  split
  · next room =>
    refine ⟨h.target, h.queue, h.binds, ?_, fun c hc => ?_⟩
    · simpa [Nat.succ_le_iff] using room
    · rcases List.mem_append.mp hc with hc | hc
      · exact h.idle c hc
      · rw [List.mem_singleton.mp hc]
        simp only [Builder.reset, Builder.retarget, Target.newBuilder, h.target, h.queue, hb]
  · exact ⟨h.target, h.queue, h.binds, h.bounded, h.idle⟩

theorem foldl_put (h : p.Tidy home binding) {idle : List Builder}
    (hb : ∀ b ∈ idle, b.binding = binding) : (idle.foldl (·.put ·) p).Tidy home binding := by
  induction idle generalizing p with
  | nil => exact h
  | cons b idle ih =>
    exact ih (h.put (hb b List.mem_cons_self)) fun c hc => hb c (List.mem_cons_of_mem _ hc)

theorem setMax (h : p.Tidy home binding) (max : Nat) : (p.setMax max).Tidy home binding :=
  ⟨h.target, h.queue, h.binds, List.length_take_le _ _,
    fun b hb => h.idle b (List.mem_of_mem_take hb)⟩

theorem drain (h : p.Tidy home binding) : p.drain.2.Tidy home binding :=
  ⟨h.target, h.queue, h.binds, Nat.zero_le _, fun _ hb => absurd hb List.not_mem_nil⟩

theorem binding_of_mem_idle (h : p.Tidy home binding) {b : Builder} (hb : b ∈ p.idle) :
    b.binding = binding := by
  rw [h.idle b hb]
  rfl

end Tidy

/-- The counters of a pool agree with what is known of its builders: so many were leased in all, so
many came over from other pools, so many were drained, and so many are out on lease. -/
structure Balanced (given handed drained out : Nat) (p : BuilderPool) : Prop where
  stock : p.created + handed = p.idle.length + out + p.discarded + drained
  given : p.created + p.reused = given

namespace Balanced

variable {given handed drained out : Nat}

theorem take (h : p.Balanced given handed drained out) (r : Randomness) :
    (p.take r).2.1.Balanced (given + 1) handed drained (out + 1) := by
  obtain ⟨stock, leased⟩ := h
  unfold BuilderPool.take
  cases last : p.idle.getLast? with
  | none =>
    have empty : p.idle = [] := List.getLast?_eq_none_iff.mp last
    rw [empty, List.length_nil] at stock
    constructor <;> simp only [empty, List.length_nil] <;> omega
  | some b =>
    have some : 0 < p.idle.length := List.length_pos_of_mem (List.mem_of_getLast? last)
    constructor <;> simp only [List.length_dropLast] <;> omega

/-- A builder comes in: kept or dropped, it is counted. -/
theorem enter (h : p.Balanced given handed drained (out + 1)) (b : Builder) :
    (p.put b).Balanced given handed drained out := by
  obtain ⟨stock, leased⟩ := h
  unfold BuilderPool.put
  split <;> constructor <;> simp only [List.length_append, List.length_singleton] <;> omega

/-- Builders of another pool come in. -/
theorem foldl_put (h : p.Balanced given handed drained out) (idle : List Builder) :
    (idle.foldl (·.put ·) p).Balanced given (handed + idle.length) drained out := by
  induction idle generalizing p handed with
  | nil => exact h
  | cons b idle ih =>
    -- a builder that is handed over is out until it comes in
    have lent : p.Balanced given (handed + 1) drained (out + 1) :=
      ⟨by have := h.stock; omega, h.given⟩
    have counted := ih (lent.enter b)
    rwa [Nat.add_assoc, Nat.add_comm 1] at counted

theorem setMax (h : p.Balanced given handed drained out) (max : Nat) :
    (p.setMax max).Balanced given handed drained out := by
  obtain ⟨stock, leased⟩ := h
  constructor
  · simp only [BuilderPool.setMax, List.length_take]
    omega
  · exact leased

theorem drain (h : p.Balanced given handed drained out) :
    p.drain.2.Balanced given handed (drained + p.idle.length) out := by
  obtain ⟨stock, leased⟩ := h
  constructor
  · simp only [BuilderPool.drain, List.length_nil]
    omega
  · exact leased

end Balanced

/-- What is done to the pool outside of transactions when it is done to the pool of a target. -/
def outside (home : Target) (g : BuilderPool → BuilderPool) : BuilderPool → BuilderPool :=
  if home.isPool then g else id

namespace Balanced

variable {given handed drained out : Nat}

/-- A builder is leased, from this pool or another one. -/
theorem lend (h : p.Balanced given handed drained out) (home : Target) (r : Randomness) :
    (outside home (fun p => (p.take r).2.1) p).Balanced (given + home.isPool.toNat) handed drained
      (out + home.isPool.toNat) := by
  cases home with
  | pool => exact h.take r
  | connection n => exact h

/-- A builder comes back, to this pool or another one. -/
theorem regain {home : Target} (h : p.Balanced given handed drained (out + home.isPool.toNat))
    (b : Builder) : (outside home (·.put b) p).Balanced given handed drained out := by
  cases home with
  | pool => exact h.enter b
  | connection n => exact h

end Balanced

end BuilderPool

/-! ### The pools of a session -/

namespace Session

/-- The pools of the transactions, by the numbers of their connections. -/
def pools (s : Session σ) : List (Nat × BuilderPool) := s.branches.map fun b => (b.1, b.2.pool)

theorem lookup_pools (s : Session σ) (n : Nat) :
    s.pools.lookup n = (s.branch? n).map (·.pool) :=
  lookup_map_value (fun _ (b : Branch) => b.pool) n s.branches

theorem poolOf_connection (s : Session σ) (n : Nat) :
    s.poolOf (.connection n) = (s.pools.lookup n).getD s.pool := by
  rw [lookup_pools]
  rfl

theorem pools_modifyBranch (n : Nat) {f : Branch → Branch} {g : BuilderPool → BuilderPool}
    (h : ∀ b, (f b).pool = g b.pool) (s : Session σ) :
    (s.modifyBranch n f).pools = s.pools.map fun q => (q.1, if q.1 = n then g q.2 else q.2) := by
  simp only [pools, modifyBranch, List.map_map]
  refine List.map_congr_left fun b _ => ?_
  by_cases same : b.1 = n <;> simp [same, h]

theorem pools_requeued (n : Nat) (g : Branch → List TableEvent) (s : Session σ) :
    (s.modifyBranch n fun b => { b with queue := g b }).pools = s.pools := by
  have kept : ∀ b : Branch, ({ b with queue := g b } : Branch).pool = id b.pool := fun _ => rfl
  rw [s.pools_modifyBranch n kept]
  simp

theorem pools_setPool (n : Nat) (p : BuilderPool) (s : Session σ) :
    (s.setPool (.connection n) p).pools =
      s.pools.map fun q => (q.1, if q.1 = n then p else q.2) :=
  s.pools_modifyBranch n (g := fun _ => p) fun _ => rfl

@[simp] theorem leases_setPool (home : Target) (p : BuilderPool) (s : Session σ) :
    (s.setPool home p).leases = s.leases := by cases home <;> rfl

@[simp] theorem tables_setPool (home : Target) (p : BuilderPool) (s : Session σ) :
    (s.setPool home p).tables = s.tables := by cases home <;> rfl

/-- Between the sessions nothing was done with pools and with kept builders. -/
structure Undisturbed (s s' : Session σ) : Prop where
  pool : s'.pool = s.pool
  pools : s'.pools = s.pools
  leases : s'.leases = s.leases

instance : Loose (Undisturbed : Session σ → Session σ → Prop) where
  refl _ := ⟨rfl, rfl, rfl⟩
  trans _ _ _ h h' := ⟨h'.pool.trans h.pool, h'.pools.trans h.pools, h'.leases.trans h.leases⟩
  supplied _ _ := ⟨rfl, rfl, rfl⟩
  dealt _ _ _ := ⟨rfl, rfl, rfl⟩
  enqueued s n _ := ⟨rfl, s.pools_requeued n _, rfl⟩

/-- All pools are in order. -/
structure Tidy (binding : Binding) (s : Session σ) : Prop where
  pool : s.pool.Tidy .pool binding
  pools : ∀ q ∈ s.pools, q.2.Tidy (.connection q.1) binding

/-- The target has a pool of its own. -/
def Serves (s : Session σ) : Target → Prop
  | .pool => True
  | .connection n => n ∈ s.pools.map (·.1)

variable {s s' : Session σ} {binding : Binding} {home : Target}

theorem Undisturbed.tidy (h : s.Undisturbed s') (hs : s.Tidy binding) : s'.Tidy binding := by
  refine ⟨?_, ?_⟩
  · rw [h.pool]
    exact hs.pool
  · rw [h.pools]
    exact hs.pools

theorem Tidy.poolOf (h : s.Tidy binding) (serves : s.Serves home) :
    (s.poolOf home).Tidy home binding := by
  cases home with
  | pool => exact h.pool
  | connection n =>
    have found : (s.pools.lookup n).isSome := by
      rw [List.lookup_isSome_iff]
      obtain ⟨q, hq, number⟩ := List.mem_map.mp serves
      exact ⟨q, hq, by simp [number]⟩
    obtain ⟨p, hp⟩ := Option.isSome_iff_exists.mp found
    rw [poolOf_connection, hp]
    exact h.pools _ (mem_of_lookup_eq_some hp)

/-- Between the sessions the pool outside of transactions was changed, and maybe others.  All pools
are in order if they were before. -/
structure Deals (binding : Binding) (g : BuilderPool → BuilderPool) (s s' : Session σ) : Prop where
  tidy : s.Tidy binding → s'.Tidy binding
  pool : s'.pool = g s.pool
  numbers : s'.pools.map (·.1) = s.pools.map (·.1)

namespace Deals

variable {s'' : Session σ} {g g' : BuilderPool → BuilderPool}

theorem trans (h : s.Deals binding g s') (h' : s'.Deals binding g' s'') :
    s.Deals binding (g' ∘ g) s'' :=
  ⟨h'.tidy ∘ h.tidy, by rw [h'.pool, h.pool]; rfl, h'.numbers.trans h.numbers⟩

theorem serves (h : s.Deals binding g s') (hs : s.Serves home) : s'.Serves home := by
  cases home with
  | pool => trivial
  | connection n =>
    show n ∈ s'.pools.map (·.1)
    rw [h.numbers]
    exact hs

end Deals

theorem Undisturbed.deals (h : s.Undisturbed s') : s.Deals binding id s' :=
  ⟨h.tidy, h.pool, by rw [h.pools]⟩

theorem deals_setPool {p : BuilderPool} {g : BuilderPool → BuilderPool} (serves : s.Serves home)
    (h : s.Tidy binding → p.Tidy home binding) (made : home = .pool → p = g s.pool) :
    s.Deals binding (BuilderPool.outside home g) (s.setPool home p) := by
  cases home with
  | pool => exact ⟨fun hs => ⟨h hs, hs.pools⟩, made rfl, rfl⟩
  | connection n =>
    refine ⟨fun hs => ⟨hs.pool, fun q hq => ?_⟩, rfl, ?_⟩
    · -- what has the number is replaced, and other pools stay as they are
      rw [pools_setPool] at hq
      obtain ⟨q, hq', rfl⟩ := List.mem_map.mp hq
      by_cases same : q.1 = n
      · simp only [same, if_true]
        exact h hs
      · simp only [same, if_false]
        exact hs.pools q hq'
    · rw [pools_setPool, List.map_map]
      rfl

/-- **A builder that is taken** is a new one, bound as was asked. -/
theorem acquire_spec (hs : s.Tidy binding) (serves : s.Serves home) (table schema : String)
    (state : Lifecycle) :
    ∃ tag s', acquire home table schema state s =
        (.ok ((home.newBuilder binding tag).bind table schema (s.tables.get? table) state), s') ∧
      s.Deals binding (BuilderPool.outside home fun p => (p.take s.supply.random).2.1) s' ∧
      s'.leases = s.leases := by
  obtain ⟨⟨tag, schema', made⟩, tidy⟩ := (hs.poolOf serves).take s.supply.random
  have deals : s.Deals binding (BuilderPool.outside home fun p => (p.take s.supply.random).2.1)
      (s.setPool home ((s.poolOf home).take s.supply.random).2.1) := by
    refine deals_setPool serves (fun _ => tidy) fun same => ?_
    rw [same]
    rfl
  refine ⟨tag, (acquire home table schema state s).2, Prod.ext ?_ rfl, ?_,
    s.leases_setPool home _⟩
  · show Except.ok (((s.poolOf home).take s.supply.random).1.bind table schema
      ((s.setPool home ((s.poolOf home).take s.supply.random).2.1).tables.get? table) state) = _
    rw [tables_setPool, made]
    rfl
  · exact ⟨fun hs => ⟨(deals.tidy hs).pool, (deals.tidy hs).pools⟩, deals.pool, deals.numbers⟩

/-- **A builder that is given back** goes to the pool of its target, if that is still there. -/
theorem giveBack_spec {b : Builder} (hb : b.binding = binding) :
    s.Deals binding (BuilderPool.outside b.target (·.put b)) (giveBack b s).2 := by
  show s.Deals binding _ (s.setPool b.target ((s.poolOf b.target).put b))
  by_cases serves : s.Serves b.target
  · refine deals_setPool serves (fun hs => (hs.poolOf serves).put hb) fun same => ?_
    rw [same]
    rfl
  · -- the transaction is over, and its pool went with it
    cases target : b.target with
    | pool =>
      rw [target] at serves
      exact absurd trivial serves
    | connection n =>
      rw [target] at serves
      have gone (p : BuilderPool) : (s.setPool (.connection n) p).pools = s.pools := by
        rw [pools_setPool]
        refine (List.map_congr_left fun q hq => ?_).trans (List.map_id _)
        have other : q.1 ≠ n := fun same => serves (List.mem_map.mpr ⟨q, hq, same⟩)
        simp [other]
      refine ⟨fun hs => ⟨hs.pool, ?_⟩, rfl, ?_⟩ <;> rw [gone]
      exact hs.pools

theorem leases_giveBack (b : Builder) (s : Session σ) : (giveBack b s).2.leases = s.leases :=
  s.leases_setPool b.target _

end Session

end TableMapper
