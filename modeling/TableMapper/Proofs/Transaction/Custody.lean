import TableMapper.Proofs.Session.Isolation
import TableMapper.Proofs.Session.Pools
import TableMapper.Proofs.Transaction.Stage

/-!
# Custody of builders

Builders are leased and come back, in any order, outside of transactions and in any number of them,
and a transaction that ends hands its idle builders over.

* `PoolCall` is a call that concerns pools, and `PoolCall.runAll` the effect of calls on a stage.
* `Loan` is what a builder is leased for, and `LoanBook` a record of calls: it is told by these alone
  which builders are out, and counts what went through the pool outside of transactions.
* `LoanBook.Agrees` says that the stage is as the record has it.
* `PoolCall.custody` says so of every run.
-/

namespace TableMapper

variable {σ α β : Type}

/-- A call that concerns the pools of builders, with transactions whose results are of type `α`.
Builders are leased in an open transaction, which is told by its number, or outside. -/
inductive PoolCall (α : Type) where
  /-- Leases a builder, and keeps it under a name.  One kept there before is given back. -/
  | lease (home : Option Nat) (name table schema : String) (state : Lifecycle)
  /-- Uses the builder kept under a name. -/
  | use (name : String) (clauses : List Clause) (finish : Finish)
  /-- Leases a builder for one use. -/
  | once (home : Option Nat) (table schema : String) (state : Lifecycle) (clauses : List Clause)
    (finish : Finish)
  /-- Gives back the builder kept under a name. -/
  | drop (name : String)
  | setMax (max : Nat)
  | drain
  | register (t : TableDecl)
  /-- Begins a transaction, on a table or without one. -/
  | begin (table : Option String)
  /-- Ends an open transaction, whose body returned and said something about it. -/
  | settle (number : Nat) (returned : Except Error α) (v : Verdict α)

namespace Stage

/-- What builders that are leased in a transaction, or outside, run on. -/
def target (x : Stage σ) (home : Option Nat) : Target := (x.scope home).elim .pool Transaction.target

/-- The stage after a computation in its session. -/
def after (m : SessionM σ β) (x : Stage σ) : Stage σ := { x with session := (m x.session).2 }

end Stage

namespace PoolCall

variable [Backend σ]

/-- The stage after a call. -/
def run (x : Stage σ) : PoolCall α → Stage σ
  | .lease home name table schema state =>
    x.after (Session.acquire (x.target home) table schema state >>= Session.keep name)
  | .use name clauses finish => x.after (Session.withLease? name (finish.runAfter clauses))
  | .once home table schema state clauses finish =>
    x.after (Session.withBuilder (x.target home) table schema state (finish.runAfter clauses))
  | .drop name => x.after (Session.free name)
  | .setMax max => x.after (Session.setMaxPool max)
  | .drain => x.after Session.close
  | .register t => x.after (Session.register t)
  | .begin table => x.begin α table
  | .settle number returned v =>
    match x.scope (some number) with
    | none => x
    | some t => x.settle t returned v

end PoolCall

/-! ### The record -/

/-- What a builder is leased for. -/
structure Loan where
  /-- The pool that it comes from, by what the builders of the pool run on. -/
  home : Target
  table : String
  schema : String
  decl : Option TableDecl
  state : Lifecycle

/-- A new builder, bound as it is leased. -/
def Loan.builder (o : Loan) (binding : Binding) (tag : DollarTag) : Builder :=
  (o.home.newBuilder binding tag).bind o.table o.schema o.decl o.state

/-- A record of calls. -/
structure LoanBook where
  /-- The builders that are out, by the names under which they are kept. -/
  loans : List (String × Loan) := []
  /-- How many leases the pool outside of transactions gave. -/
  given : Nat := 0
  /-- How many builders finished transactions handed over. -/
  handed : Nat := 0
  /-- How many idle builders were drained. -/
  drained : Nat := 0

/-- The idle builders of a transaction. -/
def Transaction.idle (t : Transaction) (s : Session σ) : List Builder :=
  ((s.branch? t.number).map (·.pool.idle)).getD []

namespace LoanBook

/-- How many builders of the pool outside of transactions are on lease. -/
def out (l : LoanBook) : Nat := l.loans.countP fun o => o.2.home.isPool

/-- The record after a call on a stage. -/
def after (x : Stage σ) (l : LoanBook) : PoolCall α → LoanBook
  | .lease home name table schema state =>
    { l with
      loans :=
        (name, ⟨x.target home, table, schema, x.session.tables.get? table, state⟩) ::
          l.loans.filter (·.1 != name)
      given := l.given + (x.target home).isPool.toNat }
  | .once home .. => { l with given := l.given + (x.target home).isPool.toNat }
  | .drop name => { l with loans := l.loans.filter (·.1 != name) }
  | .drain => { l with drained := l.drained + x.session.pool.idle.length }
  | .settle number _ _ =>
    match x.scope (some number) with
    | none => l
    | some t => { l with handed := l.handed + (t.idle x.session).length }
  | _ => l

end LoanBook

/-- The builder is a new one, bound as it is leased, but for what it collected since and was asked to
announce. -/
def Loan.Of (binding : Binding) (b : Builder) (o : Loan) : Prop :=
  BuilderM.spent b = o.builder binding b.tag

/-- The stage is as the record has it. -/
structure LoanBook.Agrees (binding : Binding) (x : Stage σ) (l : LoanBook) : Prop where
  tidy : x.session.Tidy binding
  /-- Each open transaction has a pool of its own. -/
  opened : ∀ t ∈ x.opened, x.session.Serves t.target
  names : (l.loans.map (·.1)).Nodup
  /-- The builders that are kept are those that are out. -/
  kept : ∀ name, Option.Rel (Loan.Of binding) (x.session.lease? name) (l.loans.lookup name)
  balanced : x.session.pool.Balanced l.given l.handed l.drained l.out

/-! ### Uses -/

namespace Finish

variable [Backend σ] (clauses : List Clause) (f : Finish) (b : Builder) (s : Session σ)

theorem spent_runAfter :
    BuilderM.spent (f.runAfter clauses (b, s)).2.1 = BuilderM.spent b := by
  have left (b : Builder) : BuilderM.spent (f.leaves b) = BuilderM.spent b := by cases f <;> rfl
  rw [f.runAfter_apply, f.builder_run, left, b.spent_addAll]

theorem undisturbed_runAfter : s.Undisturbed (f.runAfter clauses (b, s)).2.2 := by
  have used : SteadfastIn Session.Undisturbed (f.run : BuilderM σ Reply) := steadfast_finish f
  rw [f.runAfter_apply]
  exact (used (b.addAll clauses, s)).2

end Finish

namespace Loan

variable {binding : Binding} {b b' : Builder} {o : Loan}

theorem of_builder (binding : Binding) (o : Loan) (tag : DollarTag) :
    o.Of binding (o.builder binding tag) := rfl

theorem Of.after (h : o.Of binding b) (same : BuilderM.spent b' = BuilderM.spent b) :
    o.Of binding b' := by
  have tags := congrArg Builder.tag same
  have tag : b'.tag = b.tag := tags
  rw [Of, same, tag]
  exact h

/-- A builder runs all the time on what the pool that it comes from runs on. -/
theorem Of.target (h : o.Of binding b) : b.target = o.home := by
  have targets := congrArg Builder.target h
  exact targets

theorem Of.wires (h : o.Of binding b) : b.wires = o.home.wires := by
  have wires := congrArg Builder.wires h
  have home : (o.builder binding b.tag).wires = o.home.wires := by
    cases target : o.home <;> simp [builder, Target.newBuilder, Builder.bind, Builder.wires,
      Target.wires, target]
  exact wires.trans home

theorem Of.binds (h : o.Of binding b) : b.binding = binding := by
  have bindings := congrArg Builder.binding h
  exact bindings

end Loan

namespace Session

theorem lease?_setLease (s : Session σ) (name name' : String) (b : Builder) :
    (s.setLease name b).lease? name' = if name' = name then some b else s.lease? name' :=
  lookup_put name name' b s.leases

/-- The session after a builder was given back, if there was one. -/
def returned (old : Option Builder) (s : Session σ) : Session σ :=
  old.elim s fun b => (giveBack b s).2

theorem kept_eq (name : String) (b : Builder) (s : Session σ) :
    s.kept name b = (s.setLease name b).returned (s.lease? name) := by
  rw [kept]
  cases s.lease? name <;> rfl

theorem free_state (name : String) (s : Session σ) :
    (free name s).2 =
      ({ s with leases := s.leases.filter (·.1 != name) } : Session σ).returned
        (s.lease? name) := by
  rw [free, bind_ok (get_apply s)]
  cases found : s.lease? name with
  | some b => rfl
  | none =>
    have others : s.leases.filter (·.1 != name) = s.leases := by
      refine List.filter_eq_self.mpr fun l hl => ?_
      have other : name ≠ l.1 := by simpa using List.lookup_eq_none_iff.mp found l hl
      simpa using other.symm
    rw [others]
    rfl

theorem deals_leases (binding : Binding) (s : Session σ) (leases : List (String × Builder)) :
    s.Deals binding id { s with leases } := ⟨fun h => ⟨h.pool, h.pools⟩, rfl, rfl⟩

/-- A builder that comes back is no longer out. -/
theorem deals_returned {binding : Binding} {old : Option Builder} {lent : Option Loan}
    (h : Option.Rel (Loan.Of binding) old lent) (s : Session σ) :
    ∃ g, s.Deals binding g (s.returned old) ∧ (s.returned old).leases = s.leases ∧
      ∀ {p : BuilderPool} {given handed drained out : Nat},
        p.Balanced given handed drained (out + (lent.any (·.home.isPool)).toNat) →
          (g p).Balanced given handed drained out := by
  cases h with
  | none => exact ⟨id, ⟨id, rfl, rfl⟩, rfl, id⟩
  | @some b o of =>
    refine ⟨BuilderPool.outside b.target (·.put b), giveBack_spec of.binds, leases_giveBack b s,
      fun balanced => ?_⟩
    rw [of.target]
    exact balanced.regain b

end Session

/-! ### Ends of transactions -/

namespace Transaction

variable {binding : Binding} (t : Transaction) {s : Session σ}

theorem idle_eq (s : Session σ) : t.idle s = ((s.pools.lookup t.number).map (·.idle)).getD [] := by
  rw [Session.lookup_pools, Option.map_map]
  rfl

/-- The idle builders of a transaction come to the pool outside. -/
theorem deals_recycled (h : s.Tidy binding) :
    s.Deals binding (fun p => (t.idle s).foldl (·.put ·) p) (t.recycled s) ∧
      (t.recycled s).leases = s.leases := by
  unfold recycled idle
  cases found : s.branch? t.number with
  | none => exact ⟨⟨id, rfl, rfl⟩, rfl⟩
  | some b =>
    have there : (t.number, b.pool) ∈ s.pools :=
      List.mem_map.mpr ⟨_, Session.mem_of_branch? found, rfl⟩
    have tidy := h.pools _ there
    -- the pool of the transaction is emptied first, which does nothing to the pool outside
    have drained : s.Deals binding id (s.setPool t.target b.pool.drain.2) :=
      Session.deals_setPool (g := id) (List.mem_map_of_mem there) (fun _ => tidy.drain) nofun
    refine ⟨⟨fun h => ⟨?_, (drained.tidy h).pools⟩, rfl, drained.numbers⟩, rfl⟩
    exact h.pool.foldl_put fun c hc => tidy.binding_of_mem_idle hc

theorem pools_freed (s : Session σ) :
    (t.freed s).pools = s.pools.filter (·.1 != t.number) := by
  simp only [Session.pools, List.filter_map]
  rfl

variable [Backend σ]

theorem undisturbed_conclude (returned : Except Error α) (v : Verdict α) (s : Session σ) :
    s.Undisturbed (t.conclude returned v s).2 :=
  keeps_conclude Session.Loose.dealt
    (keeps_modifyGet fun s => ⟨rfl, s.pools_requeued t.number _, rfl⟩) returned v s

theorem settle_state (returned : Except Error α) (v : Verdict α) (s : Session σ) :
    (t.settle returned v s).2 = (t.release (t.recycled (t.conclude returned v s).2)).2 := by
  obtain ⟨o, s₁, ends, -⟩ := concluded_conclude t returned v s
  rw [settle, bind_ok ends, bind_ok (modify_apply _ _), bind_ok (release_apply _ _), ends,
    release_apply]
  rfl

end Transaction

/-! ### Calls -/

namespace LoanBook.Agrees

variable {binding : Binding} {x : Stage σ} {l l' : LoanBook}

theorem serves (h : l.Agrees binding x) (home : Option Nat) :
    x.session.Serves (x.target home) := by
  unfold Stage.target
  cases found : x.scope home with
  | none => trivial
  | some t =>
    obtain ⟨n, -, found⟩ := Option.bind_eq_some_iff.mp found
    exact h.opened t (List.mem_of_find?_eq_some found)

/-- A call changes what it does to the pool outside of transactions and to the kept builders. -/
theorem deal (h : l.Agrees binding x) {s : Session σ} {g : BuilderPool → BuilderPool}
    (deals : x.session.Deals binding g s) (names : (l'.loans.map (·.1)).Nodup)
    (kept : ∀ name, Option.Rel (Loan.Of binding) (s.lease? name) (l'.loans.lookup name))
    (balanced : (g x.session.pool).Balanced l'.given l'.handed l'.drained l'.out) :
    l'.Agrees binding { x with session := s } := by
  refine ⟨deals.tidy h.tidy, fun t ht => deals.serves (h.opened t ht), names, kept, ?_⟩
  rw [deals.pool]
  exact balanced

/-- The same for a call that leaves kept builders alone. -/
theorem dealBeside (h : l.Agrees binding x) {s : Session σ} {g : BuilderPool → BuilderPool}
    (deals : x.session.Deals binding g s) (leases : s.leases = x.session.leases)
    (loans : l'.loans = l.loans)
    (balanced : (g x.session.pool).Balanced l'.given l'.handed l'.drained l'.out) :
    l'.Agrees binding { x with session := s } := by
  refine h.deal deals ?_ (fun name => ?_) balanced
  · rw [loans]
    exact h.names
  · rw [loans, Session.lease?, leases]
    exact h.kept name

/-- What is out besides what is out under a name. -/
theorem out_eq (h : l.Agrees binding x) (name : String) :
    l.out = (l.loans.filter (·.1 != name)).countP (fun o => o.2.home.isPool) +
      ((l.loans.lookup name).any (·.home.isPool)).toNat :=
  countP_filter_ne h.names (fun o => o.home.isPool) name

/-- What a kept builder is leased for. -/
theorem loan (h : l.Agrees binding x) {name : String} {b : Builder}
    (found : x.session.lease? name = some b) :
    ∃ o, l.loans.lookup name = some o ∧ o.Of binding b := by
  have known := h.kept name
  rw [found] at known
  generalize l.loans.lookup name = lent at known ⊢
  cases known with
  | some of => exact ⟨_, rfl, of⟩

variable [Backend σ]

theorem lease (h : l.Agrees binding x) (home : Option Nat) (name table schema : String)
    (state : Lifecycle) :
    (l.after x (.lease home name table schema state : PoolCall α)).Agrees binding
      ((PoolCall.lease home name table schema state : PoolCall α).run x) := by
  obtain ⟨tag, s, taken, deals, leases⟩ :=
    Session.acquire_spec h.tidy (h.serves home) table schema state
  let o : Loan := ⟨x.target home, table, schema, x.session.tables.get? table, state⟩
  have run : (PoolCall.lease home name table schema state : PoolCall α).run x = { x with
      session := (s.setLease name (o.builder binding tag)).returned (x.session.lease? name) } := by
    rw [PoolCall.run, Stage.after, bind_ok taken, Session.keep_apply, Session.kept_eq,
      Session.lease?, leases]
    rfl
  -- the builder that was kept under the name comes back only after the new one was taken
  obtain ⟨g, back, stay, regain⟩ :=
    Session.deals_returned (h.kept name) (s.setLease name (o.builder binding tag))
  rw [run]
  refine h.deal ((deals.trans (Session.deals_leases binding s _)).trans back)
    (nodup_put h.names name o) (fun name' => ?_) (regain ?_)
  · rw [Session.lease?, stay]
    show Option.Rel _ ((s.setLease name (o.builder binding tag)).lease? name')
      (((name, o) :: l.loans.filter (·.1 != name)).lookup name')
    rw [Session.lease?_setLease, lookup_put]
    split
    · exact .some (o.of_builder binding tag)
    · rw [Session.lease?, leases]
      exact h.kept name'
  · have lent := h.balanced.lend (x.target home) x.session.supply.random
    rw [h.out_eq name] at lent
    have out : (l.after x (.lease home name table schema state : PoolCall α)).out =
        (l.loans.filter (·.1 != name)).countP (fun o => o.2.home.isPool) +
          (x.target home).isPool.toNat := by
      simp only [LoanBook.out, LoanBook.after, List.countP_cons]
      cases (x.target home).isPool <;> rfl
    rw [out, Nat.add_right_comm]
    exact lent

theorem use (h : l.Agrees binding x) (name : String) (clauses : List Clause) (f : Finish) :
    l.Agrees binding ((PoolCall.use name clauses f : PoolCall α).run x) := by
  rw [PoolCall.run, Stage.after, Session.withLease?, bind_ok (get_apply _)]
  cases found : x.session.lease? name with
  | none => exact h
  | some b =>
    dsimp only
    rw [bind_ok (WithinM.runFrom_apply b _ _), bind_ok (modify_apply _ _), map_apply,
      liftExcept_apply]
    have quiet := f.undisturbed_runAfter clauses b x.session
    refine h.deal (quiet.deals.trans (Session.deals_leases binding _ _)) h.names (fun name' => ?_)
      h.balanced
    show Option.Rel _ ((Session.setLease name _ _).lease? name') _
    rw [Session.lease?_setLease]
    split
    next same =>
      -- what the builder collected and was asked for changed, and that is not in its loan
      obtain ⟨o, lent, of⟩ := h.loan found
      rw [same, lent]
      exact .some (of.after (f.spent_runAfter clauses b x.session))
    next =>
      rw [Session.lease?, quiet.leases]
      exact h.kept name'

theorem once (h : l.Agrees binding x) (home : Option Nat) (table schema : String)
    (state : Lifecycle) (clauses : List Clause) (f : Finish) :
    (l.after x (.once home table schema state clauses f : PoolCall α)).Agrees binding
      ((PoolCall.once home table schema state clauses f : PoolCall α).run x) := by
  obtain ⟨tag, s, taken, deals, leases⟩ :=
    Session.acquire_spec h.tidy (h.serves home) table schema state
  let o : Loan := ⟨x.target home, table, schema, x.session.tables.get? table, state⟩
  have quiet := f.undisturbed_runAfter clauses (o.builder binding tag) s
  have of : o.Of binding (f.runAfter clauses (o.builder binding tag, s)).2.1 :=
    (o.of_builder binding tag).after (f.spent_runAfter clauses _ s)
  -- the builder is out for the time of the use, though it is kept under no name
  obtain ⟨g, back, stay, regain⟩ := Session.deals_returned (.some of)
    (f.runAfter clauses (o.builder binding tag, s)).2.2
  have run : (PoolCall.once home table schema state clauses f : PoolCall α).run x = { x with
      session := (f.runAfter clauses (o.builder binding tag, s)).2.2.returned
        (some (f.runAfter clauses (o.builder binding tag, s)).2.1) } := by
    rw [PoolCall.run, Stage.after, Session.withBuilder, bind_ok taken,
      bind_ok (WithinM.runFrom_apply _ _ s)]
    exact congrArg (fun s => { x with session := s }) (congrArg Prod.snd (liftExcept_apply _ _))
  rw [run]
  refine h.dealBeside ((deals.trans quiet.deals).trans back) ?_ rfl (regain ?_)
  · rw [stay, quiet.leases, leases]
  · exact h.balanced.lend (x.target home) x.session.supply.random

theorem drop (h : l.Agrees binding x) (name : String) :
    (l.after x (.drop name : PoolCall α)).Agrees binding
      ((PoolCall.drop name : PoolCall α).run x) := by
  obtain ⟨g, back, stay, regain⟩ := Session.deals_returned (h.kept name)
    { x.session with leases := x.session.leases.filter (·.1 != name) }
  rw [PoolCall.run, Stage.after, Session.free_state]
  refine h.deal ((Session.deals_leases binding x.session _).trans back)
    (nodup_filter_ne h.names name) (fun name' => ?_) (regain ?_)
  · rw [Session.lease?, stay]
    show Option.Rel _ ((x.session.leases.filter (·.1 != name)).lookup name')
      ((l.loans.filter (·.1 != name)).lookup name')
    by_cases same : name' = name
    · rw [same, lookup_filter_self, lookup_filter_self]
      exact .none
    · rw [lookup_filter_ne same, lookup_filter_ne same]
      exact h.kept name'
  · have balanced := h.balanced
    rw [h.out_eq name] at balanced
    exact balanced

theorem setMax (h : l.Agrees binding x) (max : Nat) :
    l.Agrees binding ((PoolCall.setMax max : PoolCall α).run x) :=
  h.dealBeside (g := fun p => p.setMax max)
    ⟨fun tidy => ⟨tidy.pool.setMax max, tidy.pools⟩, rfl, rfl⟩ rfl rfl (h.balanced.setMax max)

theorem drain (h : l.Agrees binding x) :
    (l.after x (.drain : PoolCall α)).Agrees binding ((PoolCall.drain : PoolCall α).run x) :=
  h.dealBeside (g := fun p => p.drain.2)
    ⟨fun tidy => ⟨tidy.pool.drain, tidy.pools⟩, rfl, rfl⟩ rfl rfl h.balanced.drain

omit [Backend σ] in
/-- What leaves pools and kept builders alone. -/
theorem undisturbed (h : l.Agrees binding x) {s : Session σ} (quiet : x.session.Undisturbed s) :
    l.Agrees binding { x with session := s } :=
  h.dealBeside quiet.deals quiet.leases rfl h.balanced

theorem begin (h : l.Agrees binding x) (table : Option String) :
    l.Agrees binding ((PoolCall.begin table : PoolCall α).run x) := by
  rw [PoolCall.run, Stage.begin]
  rcases hc : Backend.connect x.session.database with ⟨e | u, d⟩
  · rw [Transaction.begin_unconnected table hc]
    exact h.undisturbed ⟨rfl, rfl, rfl⟩
  · cases hb : (Backend.answer (Transaction.next table x.session).target "BEGIN" [] d).1 with
    | error e =>
      rw [Transaction.begin_refused table hc hb]
      exact h.undisturbed ⟨rfl, rfl, rfl⟩
    | ok out =>
      rw [Transaction.begin_ok table hc hb]
      have pools : (Transaction.opened (x.session.connections + 1) (x.session.begun d)).pools =
          x.session.pools ++ [(x.session.connections + 1, {
            target := .connection (x.session.connections + 1)
            queue := some (x.session.connections + 1)
            binding := x.session.pool.binding
            max := x.session.pool.max })] := by
        simp only [Session.pools, Transaction.opened, List.map_append]
        rfl
      refine ⟨⟨h.tidy.pool, fun q hq => ?_⟩, fun t ht => ?_, h.names, h.kept, h.balanced⟩
      · rw [pools] at hq
        rcases List.mem_append.mp hq with hq | hq
        · exact h.tidy.pools q hq
        · -- the pool of the transaction is empty yet
          rw [List.mem_singleton.mp hq]
          exact ⟨rfl, rfl, h.tidy.pool.binds, Nat.zero_le _, fun _ hb => absurd hb List.not_mem_nil⟩
      · show t.number ∈ (Transaction.opened _ _).pools.map (·.1)
        rw [pools, List.map_append]
        rcases List.mem_cons.mp ht with rfl | ht
        · exact List.mem_append_right _ (List.mem_singleton.mpr rfl)
        · exact List.mem_append_left _ (h.opened t ht)

theorem settle (h : l.Agrees binding x) (t : Transaction) (returned : Except Error α)
    (v : Verdict α) :
    ({ l with handed := l.handed + (t.idle x.session).length } : LoanBook).Agrees binding
      (x.settle t returned v) := by
  -- the last statement and what handlers hear of come before the builders are handed over
  have quiet := t.undisturbed_conclude returned v x.session
  have ended := h.undisturbed quiet
  obtain ⟨deals, leases⟩ := t.deals_recycled ended.tidy
  have same : t.idle (t.conclude returned v x.session).2 = t.idle x.session := by
    rw [t.idle_eq, t.idle_eq, quiet.pools]
  rw [same] at deals
  have recycled : ({ l with handed := l.handed + (t.idle x.session).length } : LoanBook).Agrees
      binding { x with session := t.recycled (t.conclude returned v x.session).2 } :=
    ended.dealBeside deals leases rfl (ended.balanced.foldl_put _)
  rw [Stage.settle, t.settle_state, t.release_apply]
  dsimp only
  split
  · -- a builder still runs on the connection
    exact ⟨recycled.tidy, fun t' ht => recycled.opened t' (List.mem_filter.mp ht).1,
      recycled.names, recycled.kept, recycled.balanced⟩
  · -- the pool of the transaction is gone; those of the other transactions are still there
    refine ⟨⟨recycled.tidy.pool, fun q hq => ?_⟩, fun t' ht => ?_, recycled.names, recycled.kept,
      recycled.balanced⟩
    · rw [t.pools_freed] at hq
      exact recycled.tidy.pools q (List.mem_filter.mp hq).1
    · obtain ⟨ht, other⟩ := List.mem_filter.mp ht
      show t'.number ∈ (t.freed _).pools.map (·.1)
      rw [t.pools_freed]
      obtain ⟨q, hq, number⟩ := List.mem_map.mp (recycled.opened t' ht)
      exact List.mem_map.mpr ⟨q, List.mem_filter.mpr ⟨hq, by rw [number]; exact other⟩, number⟩

end LoanBook.Agrees

/-! ### Runs -/

/-- The session with a new pool, and without transactions and kept builders. -/
def Session.renewed (binding : Binding) (max : Nat) (s : Session σ) : Session σ :=
  { s with pool := { binding, max }, branches := [], leases := [] }

namespace PoolCall

variable [Backend σ] {binding : Binding} {x : Stage σ} {l : LoanBook}

/-- The stage after calls, and their record. -/
def runAll : List (PoolCall α) → Stage σ → LoanBook → Stage σ × LoanBook
  | [], x, l => (x, l)
  | call :: calls, x, l => runAll calls (call.run x) (l.after x call)

omit [Backend σ] in
theorem agrees_renewed (binding : Binding) (max : Nat) (s : Session σ) :
    ({} : LoanBook).Agrees binding { session := s.renewed binding max } where
  tidy := ⟨⟨rfl, rfl, rfl, Nat.zero_le _, fun _ hb => absurd hb List.not_mem_nil⟩,
    fun _ hq => absurd hq List.not_mem_nil⟩
  opened _ ht := absurd ht List.not_mem_nil
  names := List.nodup_nil
  kept _ := .none
  balanced := ⟨rfl, rfl⟩

theorem agrees_run (h : l.Agrees binding x) (call : PoolCall α) :
    (l.after x call).Agrees binding (call.run x) := by
  cases call with
  | lease home name table schema state => exact h.lease home name table schema state
  | use name clauses f => exact h.use name clauses f
  | once home table schema state clauses f => exact h.once home table schema state clauses f
  | drop name => exact h.drop name
  | setMax max => exact h.setMax max
  | drain => exact h.drain
  | register t => exact h.undisturbed ⟨rfl, rfl, rfl⟩
  | begin table => exact h.begin table
  | settle number returned v =>
    rw [run, LoanBook.after]
    cases x.scope (some number) with
    | none => exact h
    | some t => exact h.settle t returned v

theorem agrees_runAll (calls : List (PoolCall α)) (h : l.Agrees binding x) :
    (runAll calls x l).2.Agrees binding (runAll calls x l).1 := by
  induction calls generalizing x l with
  | nil => exact h
  | cons call calls ih => exact ih (agrees_run h call)

/-- **Builders stay in custody.**  After any calls, no builder is lost and none is there twice: idle
builders are as new ones of their pools and no more than the bound, those that are kept are those
that are out, and the counters of the pool outside of transactions agree with the record.  Those that
are kept run on what the pool that they come from runs on.  The next builder that is leased is a new
one, bound as it is leased. -/
theorem custody (s : Session σ) (binding : Binding) (max : Nat) (calls : List (PoolCall α)) :
    let y := runAll calls { session := s.renewed binding max } {}
    y.2.Agrees binding y.1 ∧
      (∀ name b, y.1.session.lease? name = some b →
        ∃ o, y.2.loans.lookup name = some o ∧ b.wires = o.home.wires) ∧
      ∀ home table schema state, ∃ tag,
        (Session.acquire (y.1.target home) table schema state y.1.session).1 =
          .ok (Loan.builder
            ⟨y.1.target home, table, schema, y.1.session.tables.get? table, state⟩ binding tag) := by
  have agrees := agrees_runAll calls (agrees_renewed binding max s)
  refine ⟨agrees, fun name b found => ?_, fun home table schema state => ?_⟩
  · obtain ⟨o, lent, of⟩ := agrees.loan found
    exact ⟨o, lent, of.wires⟩
  · obtain ⟨tag, s', taken, -⟩ :=
      Session.acquire_spec agrees.tidy (agrees.serves home) table schema state
    exact ⟨tag, congrArg Prod.fst taken⟩

end PoolCall

end TableMapper
