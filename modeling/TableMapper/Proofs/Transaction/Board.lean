import TableMapper.Proofs.Transaction.Stage

/-!
# What handlers are to hear

A board tells from what can be seen of a run which events handlers are to hear of, and when.  It
knows nothing of pools and queues: for each builder that is kept it has the transaction in which it
was leased and what was asked for since, and it has the events that wait.

* `Board.fate` is what becomes of the event of a write, by the builder's transaction and by what
  was asked for: handlers hear of it at once, it waits for the commit, or it is lost.
* `Board.due` are the events that handlers are to hear of in an act, and `Board.after` is the board
  after the act.
* `Board.log` is all that is done in a run, and `Board.lost` are the events that no handler ever
  hears of although that was asked for and their transaction was not rolled back.
* `Board.lost_eq_nil`: nothing is lost unless a builder outlives its transaction.
-/

namespace TableMapper

variable {α : Type}

/-- What is known of a run. -/
structure Board where
  /-- The handlers with their tables, in the order of registration. -/
  handlers : List (String × Handler) := []
  /-- The kept builders by name, each with the transaction in which it was leased, if it was leased
  in one, and with what was asked for since its last write, or since it was leased. -/
  leases : List (String × Option Nat × Notify) := []
  /-- The numbers of the open transactions. -/
  opened : List Nat := []
  /-- The events that wait for a commit, in the order of the writes. -/
  waiting : Notices := []

/-- What becomes of the event of a write. -/
inductive Fate where
  /-- Nobody asked for it. -/
  | unasked
  /-- Handlers hear of it right after the statement. -/
  | atOnce
  /-- It waits for the commit of a transaction. -/
  | waits (number : Nat)
  /-- It is to wait for the commit of a transaction that is over. -/
  | lost
  deriving DecidableEq

namespace Fate

/-- The events that handlers hear of right after a statement. -/
def told : Fate → Option TableEvent → List TableEvent
  | .atOnce, e => e.toList
  | _, _ => []

/-- The events that come to wait after a statement. -/
def queued : Fate → Option TableEvent → Notices
  | .waits n, e => e.toList.map (n, ·)
  | _, _ => []

end Fate

namespace Board

/-- The transaction in which an act is done, unless it is done outside. -/
def home (d : Board) (number : Option Nat) : Option Nat := number.filter d.opened.contains

/-- The transaction of the builder that is used, and what is asked for after more clauses. -/
def asked (d : Board) (number : Option Nat) (clauses : List Clause) :
    Source → Option (Option Nat × Notify)
  | .kept name => (d.leases.lookup name).map fun l => (l.1, l.2.after clauses)
  | .fresh _ _ _ => some (d.home number, Notify.off.after clauses)

/-- What becomes of the event of a write by a builder. -/
def fate (d : Board) : Option Nat × Notify → Fate
  | (_, .off) => .unasked
  | (_, .immediate) => .atOnce
  | (none, .onCommit) => .atOnce
  | (some n, .onCommit) => if n ∈ d.opened then .waits n else .lost

/-- What becomes of the event of an act. -/
def fateOf (d : Board) (p : Passage α) : Fate :=
  match p.act with
  | .build number source clauses _ => ((d.asked number clauses source).map d.fate).getD .unasked
  | _ => .unasked

/-- The events that handlers are to hear of in an act. -/
def due (d : Board) (p : Passage α) : List TableEvent :=
  match p.act with
  | .build _ _ _ _ => (d.fateOf p).told p.event
  | .settle number _ _ => if p.committed then d.waiting.of number else []
  | _ => []

/-- The board with a builder kept under a name. -/
def setLease (name : String) (l : Option Nat × Notify) (d : Board) : Board :=
  { d with leases := (name, l) :: d.leases.filter (·.1 != name) }

/-- The board after an act. -/
def after (d : Board) (p : Passage α) : Board :=
  match p.act with
  | .build number source clauses finish =>
    let d' := { d with waiting := d.waiting ++ (d.fateOf p).queued p.event }
    match source, d.asked number clauses source with
    | .kept name, some (home, mode) =>
      -- a write uses up what was asked for
      d'.setLease name (home, if finish.write?.isSome then .off else mode)
    | _, _ => d'
  | .lease number name (.fresh _ _ _) => d.setLease name (d.home number, .off)
  | .free name => { d with leases := d.leases.filter (·.1 != name) }
  | .listen table h => { d with handlers := d.handlers ++ [(table, h)] }
  | .removeHandlers table => { d with handlers := d.handlers.filter (·.1 != table) }
  | .begin _ => { d with opened := p.opened.toList ++ d.opened }
  | .settle number _ _ =>
    { d with
      opened := d.opened.filter (· != number)
      waiting := d.waiting.filter (·.1 != number) }
  | _ => d

/-- Each handler of the table that does something about such events hears of the event, in the order
of registration, whatever the others come to. -/
def announce (d : Board) (e : TableEvent) : Journal :=
  (d.handlers.filter fun h => h.1 == e.table && h.2.hears e.kind).map fun h =>
    .delivered h.2.name e (h.2.react e)

/-- What is done in an act. -/
def deeds (d : Board) (p : Passage α) : Journal :=
  p.sent ++ (d.due p).flatMap d.announce ++ p.released

/-- What is done in a run. -/
def log (d : Board) : List (Passage α) → Journal
  | [] => []
  | p :: ps => d.deeds p ++ (d.after p).log ps

/-- The events that are lost in a run. -/
def lost (d : Board) : List (Passage α) → List TableEvent
  | [] => []
  | p :: ps => (if d.fateOf p = .lost then p.event.toList else []) ++ (d.after p).lost ps

/-! ### Nothing is lost -/

/-- No builder is kept that was leased in a transaction that is over. -/
def Current (d : Board) : Prop := ∀ l ∈ d.leases, ∀ n, l.2.1 = some n → n ∈ d.opened

/-- If a transaction ends, no builder is kept that was leased in it. -/
def endsFree (d : Board) (p : Passage α) : Bool :=
  match p.act with
  | .settle number _ _ => d.leases.all (·.2.1 != some number)
  | _ => true

/-- In a run, the builders that were leased in a transaction are given back before it ends. -/
def isTidy (d : Board) : List (Passage α) → Bool
  | [] => true
  | p :: ps => d.endsFree p && (d.after p).isTidy ps

variable {d : Board}

theorem mem_opened_of_home {number : Option Nat} {n : Nat} (h : d.home number = some n) :
    n ∈ d.opened := by
  obtain ⟨-, isOpen⟩ := Option.filter_eq_some_iff.mp h
  simpa using isOpen

theorem Current.setLease (h : d.Current) (name : String) {l : Option Nat × Notify}
    (hl : ∀ n, l.1 = some n → n ∈ d.opened) : (d.setLease name l).Current := by
  intro k hk n same
  rcases List.mem_cons.mp hk with rfl | hk
  · exact hl n same
  · exact h k (List.mem_filter.mp hk).1 n same

/-- The builder that is used was leased in a transaction that is open. -/
theorem Current.asked (h : d.Current) {number : Option Nat} {clauses : List Clause}
    {source : Source} {home : Option Nat} {mode : Notify}
    (ha : d.asked number clauses source = some (home, mode)) (n : Nat) (hn : home = some n) :
    n ∈ d.opened := by
  cases source with
  | kept name =>
    obtain ⟨l, hl, same⟩ := Option.map_eq_some_iff.mp ha
    exact h (name, l) (mem_of_lookup_eq_some hl) n ((congrArg Prod.fst same).trans hn)
  | fresh table schema held =>
    have home' : d.home number = home := congrArg Prod.fst (Option.some.inj ha)
    exact mem_opened_of_home (home'.trans hn)

theorem Current.fateOf_ne_lost (h : d.Current) (p : Passage α) : d.fateOf p ≠ .lost := by
  unfold fateOf
  split
  · next number source clauses finish _ =>
    cases ha : d.asked number clauses source with
    | none => exact nofun
    | some l =>
      obtain ⟨home, mode⟩ := l
      have known := h.asked ha
      rw [Option.map_some, Option.getD_some]
      cases mode with
      | off => exact nofun
      | immediate => exact nofun
      | onCommit =>
        cases home with
        | none => exact nofun
        | some n =>
          rw [fate, if_pos (known n rfl)]
          exact nofun
  · exact nofun

theorem Current.after (h : d.Current) {p : Passage α} (free : d.endsFree p = true) :
    (d.after p).Current := by
  unfold Board.after
  split
  next number source clauses finish _ =>
    dsimp only
    split
    next ha => exact h.setLease _ (h.asked ha)
    next => exact h
  next number name _ _ _ _ => exact h.setLease name fun n => mem_opened_of_home
  next => exact fun l hl => h l (List.mem_filter.mp hl).1
  next => exact h
  next => exact h
  next => exact fun l hl n same => List.mem_append_right _ (h l hl n same)
  next number returned v act =>
    -- the transaction ends, and no builder is left that was leased in it
    intro l hl n same
    refine List.mem_filter.mpr ⟨h l hl n same, ?_⟩
    rw [bne_iff_ne]
    rintro rfl
    simp only [endsFree, act, List.all_eq_true, bne_iff_ne] at free
    exact free l hl same
  next => exact h

/-- **Nothing is lost** in a run in which no builder outlives its transaction. -/
theorem lost_eq_nil (ps : List (Passage α)) (h : d.Current) (tidy : d.isTidy ps = true) :
    d.lost ps = [] := by
  induction ps generalizing d with
  | nil => rfl
  | cons p ps ih =>
    obtain ⟨free, rest⟩ := Bool.and_eq_true_iff.mp tidy
    rw [lost, if_neg (h.fateOf_ne_lost p), ih (h.after free) rest]
    rfl

end Board

end TableMapper
