import TableMapper.Proofs.Session.Sound
import TableMapper.Scenario.Perform

/-!
# Builders at work

Every use of a builder is steady, and the builder keeps its wires: clauses, terminals, statements of
its own and the events that it announces.

* `Builder.Alike` relates two builders with the same wires.
* `Session.Loose` are the relations between sessions that stand whatever a use does.
* `Steadfast` says this of a use, and `steadfast_finish` of every end of one.
-/

namespace TableMapper

variable {σ α β : Type}

namespace BuilderM

/-- The builder after a write: what it collected is used up, and nothing is asked for. -/
def spent (b : Builder) : Builder := { b with notify := .off, draft := {} }

end BuilderM

namespace Builder

/-- The builder with nothing collected. -/
def cleared (b : Builder) : Builder := { b with draft := {} }

/-- The second builder has the wires of the first one. -/
def Alike (b b' : Builder) : Prop := b'.wires = b.wires

instance : Std.Refl Alike := ⟨fun _ => rfl⟩

instance : IsTrans Builder Alike := ⟨fun _ _ _ h h' => h'.trans h⟩

theorem alike_modifyDraft (f : Draft → Draft) (b : Builder) : b.Alike (b.modifyDraft f) := rfl

/-- A clause changes nothing but what is collected and asked for. -/
theorem spent_add (b : Builder) (c : Clause) : BuilderM.spent (b.add c) = BuilderM.spent b := by
  cases c with
  | filter c =>
    simp only [add]
    split <;> rfl
  | _ => rfl

theorem table_add (b : Builder) (c : Clause) : (b.add c).table = b.table := by
  have same := congrArg Builder.table (b.spent_add c)
  exact same

theorem decl_add (b : Builder) (c : Clause) : (b.add c).decl = b.decl := by
  have same := congrArg Builder.decl (b.spent_add c)
  exact same

theorem spent_addAll (b : Builder) (clauses : List Clause) :
    BuilderM.spent (b.addAll clauses) = BuilderM.spent b := by
  unfold addAll
  induction clauses generalizing b with
  | nil => rfl
  | cons c clauses ih => rw [List.foldl_cons, ih, spent_add]

theorem alike_addAll (b : Builder) (clauses : List Clause) : b.Alike (b.addAll clauses) := by
  have same := congrArg wires (b.spent_addAll clauses)
  exact same

theorem cleared_prepareInsert (b : Builder) (rows : List Row) (command : Command)
    (supply : IdSupply) : (b.prepareInsert rows command supply).1.cleared = b.cleared := by
  unfold prepareInsert
  split <;> rfl

/-- Preparing a statement changes nothing but what is collected. -/
theorem cleared_prepare (b : Builder) (t : Terminal) (supply : IdSupply) :
    (b.prepare t supply).1.cleared = b.cleared := by
  cases t with
  | insert row => exact b.cleared_prepareInsert [row] .insert supply
  | insertAll rows => exact b.cleared_prepareInsert rows .insertAll supply
  | _ => rfl

theorem alike_prepare (b : Builder) (t : Terminal) (supply : IdSupply) :
    b.Alike (b.prepare t supply).1 := by
  have same := congrArg wires (b.cleared_prepare t supply)
  exact same

end Builder

/-- A relation between sessions that stands whatever is done with builders that were taken: keys are
made, statements are sent, handlers hear of events, and events come to wait. -/
class Session.Loose (R : Session σ → Session σ → Prop) : Prop extends
    Std.Refl R, IsTrans (Session σ) R where
  supplied (s : Session σ) (supply : IdSupply) : R s { s with supply }
  dealt (s : Session σ) (deeds : Journal) (d : σ) : R s { s.noted deeds with database := d }
  enqueued (s : Session σ) (n : Nat) (e : TableEvent) :
    R s (s.modifyBranch n fun b => { b with queue := b.queue ++ [e] })

instance : Session.Loose (Session.Steady : Session σ → Session σ → Prop) where
  supplied _ _ := Session.steady_of_eq rfl rfl rfl rfl
  dealt _ _ _ := Session.steady_of_eq rfl rfl rfl rfl
  enqueued s n e := Session.steady_enqueue n e s

/-- A use of a builder keeps a relation between sessions, and the builder keeps its wires. -/
abbrev SteadfastIn (R : Session σ → Session σ → Prop) (m : BuilderM σ α) : Prop :=
  Keeps (Beside Builder.Alike R) m

/-- A use of a builder is steady, and the builder keeps its wires. -/
abbrev Steadfast (m : BuilderM σ α) : Prop := SteadfastIn Session.Steady m

section

variable {R : Session σ → Session σ → Prop} [Session.Loose R]

namespace BuilderM

theorem addAll_apply (clauses : List Clause) (b : Builder) (s : Session σ) :
    addAll clauses (b, s) = (.ok (), (b.addAll clauses, s)) := rfl

theorem steadfast_modifyOwn {f : Builder → Builder} (h : ∀ b : Builder, b.Alike (f b)) :
    SteadfastIn R (WithinM.modifyOwn f : BuilderM σ Unit) := keeps_modifyOwn h

theorem steadfast_addAll (clauses : List Clause) :
    SteadfastIn R (addAll clauses : BuilderM σ Unit) :=
  steadfast_modifyOwn fun b => b.alike_addAll clauses

theorem steadfast_add (c : Clause) : SteadfastIn R (add c : BuilderM σ Unit) := steadfast_addAll [c]

theorem steadfast_prepare (t : Terminal) : SteadfastIn R (prepare t : BuilderM σ (List Json)) :=
  fun (b, s) => ⟨b.alike_prepare t s.supply, Session.Loose.supplied s _⟩

theorem steadfast_take : SteadfastIn R (take : BuilderM σ Statement) :=
  fun (_, s) => ⟨rfl, refl s⟩

theorem steadfast_preview (t : Terminal) : SteadfastIn R (preview t : BuilderM σ Statement) :=
  (steadfast_prepare t).bind fun _ => steadfast_take

theorem steadfast_announce (mode : Notify) (e : TableEvent) :
    SteadfastIn R (announce mode e : BuilderM σ Unit) := by
  refine keeps_own.bind fun b => ?_
  split
  · -- the event waits for the commit of the transaction
    refine keeps_modify fun (b, s) => ⟨refl b, ?_⟩
    exact Session.Loose.enqueued s _ e
  · refine Keeps.within fun s => ?_
    rw [Session.emit_apply]
    exact Session.Loose.dealt s _ s.database

variable [Backend σ]

theorem steadfast_execute (st : Statement) : SteadfastIn R (execute st : BuilderM σ QueryOutput) :=
  keeps_own.bind fun _ => Keeps.within fun s => Session.Loose.dealt s _ _

theorem steadfast_query (sql : String) (args : List Value) :
    SteadfastIn R (query sql args : BuilderM σ QueryOutput) := by
  refine Keeps.bind (steadfast_modifyOwn fun b => ?_) fun _ => steadfast_execute _
  exact b.alike_modifyDraft _

theorem steadfast_read (t : Terminal) : SteadfastIn R (read t : BuilderM σ QueryOutput) :=
  (steadfast_preview t).bind steadfast_execute

theorem steadfast_write (t : Terminal) (kind : EventKind) :
    SteadfastIn R (write t kind : BuilderM σ WriteResult) := by
  refine (steadfast_prepare t).bind fun ids => keeps_own.bind fun b => ?_
  refine Keeps.bind (steadfast_modifyOwn fun _ => rfl) fun _ => ?_
  refine steadfast_take.bind fun st => (steadfast_execute st).bind fun out => ?_
  dsimp only
  split
  · exact keeps_pure _
  · exact keeps_pure _
  · exact (steadfast_announce _ _).bind fun _ => keeps_pure _

theorem steadfast_select : SteadfastIn R (select : BuilderM σ (List Row)) :=
  (steadfast_read .select).bind fun _ => keeps_pure _

theorem steadfast_get? : SteadfastIn R (get? : BuilderM σ (Option Row)) :=
  (steadfast_read .get).bind fun _ => keeps_pure _

theorem steadfast_count : SteadfastIn R (count : BuilderM σ Int) :=
  (steadfast_read _).bind fun _ => keeps_pure _

theorem steadfast_aggregate (function field : String) (form : Option Coercion) :
    SteadfastIn R (aggregate function field form : BuilderM σ Json) := by
  refine (steadfast_read _).bind fun _ => ?_
  exact keeps_pure _

end BuilderM

theorem steadfast_finish [Backend σ] (f : Finish) : SteadfastIn R (f.run : BuilderM σ Reply) := by
  cases f with
  | nothing => exact keeps_pure _
  | select => exact BuilderM.steadfast_select.map _
  | get => exact BuilderM.steadfast_get?.map _
  | insert row => exact (BuilderM.steadfast_write _ _).map _
  | insertAll rows => exact (BuilderM.steadfast_write _ _).map _
  | update data => exact (BuilderM.steadfast_write _ _).map _
  | delete => exact (BuilderM.steadfast_write _ _).map _
  | count => exact BuilderM.steadfast_count.map _
  | aggregate function field form => exact (BuilderM.steadfast_aggregate _ _ _).map _
  | query sql args => exact (BuilderM.steadfast_query _ _).map _
  | preview t => exact (BuilderM.steadfast_preview t).map _
  | info => exact fun x => refl x

end

end TableMapper
