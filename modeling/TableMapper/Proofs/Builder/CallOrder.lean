import TableMapper.Proofs.Builder.Filtered

/-!
# The order of calls

The clauses of a statement are given in any order, and each kind of clause has its own place in the
statement.

* `Clause.kind` is the kind of a clause, and `Clause.Kind.part` what the clauses of a kind are kept
  in.
* `Clause.SameCalls` says that the calls for each kind are the same.
* `Clause.Kind.part_addAll`: the clauses of other kinds do not matter.
* `Clause.JoinsSettled` says that no join depends on the schema at the time of the call.
* `Builder.calls_reordered`: the same calls in another order give the same statement, but for the
  schemas of joined tables.
-/

namespace TableMapper

/-! ### Kinds of clauses -/

namespace Clause

/-- The kinds of clauses. -/
inductive Kind where
  | filter
  | join
  | fields
  | order
  | group
  | limit
  | returning
  | shortName
  | forUpdate
  | schema
  /-- Who hears of the statement. -/
  | notice
  deriving DecidableEq

/-- The kind of a clause. -/
def kind : Clause → Kind
  | .filter _ => .filter
  | .join _ _ _ => .join
  | .fields _ => .fields
  | .order _ => .order
  | .group _ => .group
  | .limit _ _ => .limit
  | .returning _ => .returning
  | .shortName _ => .shortName
  | .forUpdate => .forUpdate
  | .schema _ => .schema
  | .trigger | .triggerCommit => .notice

/-- A clause of the kind is added to those before. -/
def Kind.collects : Kind → Bool
  | .filter | .join | .fields | .order | .group | .returning => true
  | .limit | .shortName | .forUpdate | .schema | .notice => false

/-- A clause of the kind takes the place of those before. -/
def Kind.replaces : Kind → Bool
  | .limit | .shortName | .forUpdate | .schema => true
  | .filter | .join | .fields | .order | .group | .returning | .notice => false

/-- The clauses of a kind, in order. -/
def ofKind (k : Kind) (cs : List Clause) : List Clause := cs.filter (·.kind = k)

/-- For each kind the calls are the same, in the same order, or the last of them is the same, if it
takes the place of the others. -/
structure SameCalls (cs ds : List Clause) : Prop where
  collected (k : Kind) : k.collects = true → ofKind k cs = ofKind k ds
  replaced (k : Kind) : k.replaces = true → (ofKind k cs).getLast? = (ofKind k ds).getLast?

end Clause

/-- The filter and the mistake that a condition comes to. -/
theorem Builder.draft_add_filter (b : Builder) (c : Condition) :
    (b.add (.filter c)).draft =
      { b.draft with
        filters := b.draft.filters ++ ((Clause.filter c).filter? b.decl).toList
        mistake := b.draft.mistake.or ((Clause.filter c).mistake? b.decl) } := by
  rw [← filters_add, ← mistake_add]
  simp only [add]
  split <;> rfl

namespace Clause.Kind

/-- What the clauses of a kind are kept in.  For joins there is no such part: it takes the schema as
well to tell what they add. -/
def part (k : Kind) (b : Builder) : Draft :=
  match k with
  | .filter => { filters := b.draft.filters, mistake := b.draft.mistake }
  | .fields => { fields := b.draft.fields }
  | .order => { order := b.draft.order }
  | .group => { group := b.draft.group }
  | .limit => { limit := b.draft.limit }
  | .returning => { returning := b.draft.returning }
  | .shortName => { shortName := b.draft.shortName }
  | .forUpdate => { lock := b.draft.lock }
  | .schema => { schema := b.draft.schema }
  | .join | .notice => {}

variable {k : Kind} {b b' : Builder} {c : Clause} {cs ds : List Clause}

/-- A clause leaves the parts of other kinds as they are. -/
theorem part_add_of_ne (other : c.kind ≠ k) : k.part (b.add c) = k.part b := by
  cases c with
  | filter c =>
    cases k with
    | filter => exact absurd rfl other
    | _ => simp only [part, Builder.draft_add_filter]
  | _ => cases k <;> first | rfl | exact absurd rfl other

/-- What a clause does to a part depends on that part only. -/
theorem part_add_congr (decl : b.decl = b'.decl) (same : k.part b = k.part b') (c : Clause) :
    k.part (b.add c) = k.part (b'.add c) := by
  by_cases other : c.kind = k
  · subst other
    cases c with
    | filter c =>
      simp only [part, Clause.kind, Draft.mk.injEq] at same
      simp only [part, Clause.kind, Builder.draft_add_filter, same, decl]
    | join kind table on => simp only [part, Clause.kind]
    | trigger => exact same
    | triggerCommit => exact same
    | _ =>
      simp only [part, Clause.kind, Draft.mk.injEq] at same
      simp only [part, Clause.kind, Builder.add, Builder.modifyDraft, same]
  · rw [part_add_of_ne other, part_add_of_ne other, same]

theorem part_addAll_congr (decl : b.decl = b'.decl) (same : k.part b = k.part b')
    (cs : List Clause) : k.part (b.addAll cs) = k.part (b'.addAll cs) := by
  induction cs generalizing b b' with
  | nil => exact same
  | cons c cs ih =>
    refine ih ?_ (part_add_congr decl same c)
    rw [Builder.decl_add, Builder.decl_add, decl]

/-- The clauses of other kinds do not matter. -/
theorem part_addAll (k : Kind) (b : Builder) (cs : List Clause) :
    k.part (b.addAll cs) = k.part (b.addAll (ofKind k cs)) := by
  induction cs generalizing b with
  | nil => rfl
  | cons c cs ih =>
    have first : k.part (b.addAll (c :: cs)) = k.part ((b.add c).addAll (ofKind k cs)) := ih _
    by_cases own : c.kind = k
    · rw [first, ofKind, ofKind, List.filter_cons_of_pos (by simpa using own)]
      rfl
    · rw [first, ofKind, ofKind, List.filter_cons_of_neg (by simpa using own)]
      exact part_addAll_congr (b.decl_add c) (part_add_of_ne own) _

/-- A clause that takes the place of others does so whatever they were. -/
theorem part_add_of_replaces (h : k.replaces = true) (own : c.kind = k) :
    k.part (b.add c) = k.part (b'.add c) := by
  subst own
  cases c with
  | limit count offset => rfl
  | shortName name => rfl
  | forUpdate => rfl
  | schema name => rfl
  | _ => cases h

/-- The last of these clauses counts, or else what the part was. -/
theorem part_addAll_of_replaces (h : k.replaces = true) (same : k.part b = k.part b')
    (last : (ofKind k cs).getLast? = (ofKind k ds).getLast?) :
    k.part (b.addAll (ofKind k cs)) = k.part (b'.addAll (ofKind k ds)) := by
  rcases List.eq_nil_or_concat (ofKind k cs) with none | ⟨before, c, split⟩
  · rw [none, List.getLast?_nil] at last
    rw [none, List.getLast?_eq_none_iff.mp last.symm]
    exact same
  · rw [split, List.concat_eq_append, List.getLast?_concat] at last
    obtain ⟨before', split'⟩ := List.getLast?_eq_some_iff.mp last.symm
    have own : c.kind = k := by
      have there : c ∈ ofKind k cs := by simp [split]
      simpa using (List.mem_filter.mp there).2
    rw [split, split', List.concat_eq_append, Builder.addAll, List.foldl_concat, Builder.addAll,
      List.foldl_concat]
    exact part_add_of_replaces h own

/-- The same calls for each kind leave the same parts. -/
theorem part_addAll_eq (calls : SameCalls cs ds) (decl : b.decl = b'.decl)
    (same : k.part b = k.part b') : k.part (b.addAll cs) = k.part (b'.addAll ds) := by
  rw [part_addAll k b, part_addAll k b']
  by_cases collects : k.collects = true
  · rw [calls.collected k collects]
    exact part_addAll_congr decl same _
  by_cases replaces : k.replaces = true
  · exact part_addAll_of_replaces replaces same (calls.replaced k replaces)
  · cases k <;> first | rfl | exact absurd rfl collects | exact absurd rfl replaces

end Clause.Kind

/-! ### Joins -/

namespace Clause

/-- The name of the table that a join is given, without an alias. -/
def joinedName (table : String) : String :=
  let cs := (Text.trim table).toList
  String.ofList ((Text.cutWhere? Text.isBlank cs).getD (cs, [])).1

/-- Each join names the schema of its table itself, or no clause after it names a schema. -/
def JoinsSettled (cs : List Clause) : Prop :=
  ∀ before kind table on after, cs = before ++ .join kind table on :: after →
    Text.contains "." (joinedName table) = true ∨ ofKind .schema after = []

theorem JoinsSettled.tail {c : Clause} {cs : List Clause} (h : JoinsSettled (c :: cs)) :
    JoinsSettled cs := fun before kind table on after split =>
  h (c :: before) kind table on after (by rw [split, List.cons_append])

end Clause

namespace Builder

variable {b b' : Builder} {cs ds : List Clause}

/-- The text of a join, with the schema in force. -/
def joinText? (b : Builder) : Clause → Option String
  | .join kind table on => some (b.joinClause kind table on)
  | _ => none

theorem joins_add (b : Builder) (c : Clause) :
    (b.add c).draft.joins = b.draft.joins ++ (b.joinText? c).toList := by
  cases c with
  | filter c => rw [draft_add_filter]; exact (List.append_nil _).symm
  | join kind table on => rfl
  | _ => exact (List.append_nil _).symm

theorem joinText?_congr (schema : b.schemaName = b'.schemaName) : b.joinText? = b'.joinText? := by
  funext c
  cases c with
  | join kind table on => simp only [joinText?, joinClause, schema]
  | _ => rfl

/-- A join with a table that names its schema is the same in any schema. -/
theorem joinClause_of_named {table : String}
    (named : Text.contains "." (Clause.joinedName table) = true) (kind : JoinKind) (on : String) :
    b.joinClause kind table on = b'.joinClause kind table on := by
  unfold Clause.joinedName at named
  dsimp only at named
  unfold joinClause
  simp only [named, if_true]

theorem schema_addAll (b : Builder) (cs : List Clause) : (b.addAll cs).schema = b.schema := by
  have same := congrArg Builder.schema (b.spent_addAll cs)
  exact same

theorem schemaName_congr (schema : b.schema = b'.schema)
    (part : Clause.Kind.part .schema b = Clause.Kind.part .schema b') :
    b.schemaName = b'.schemaName := by
  have own := congrArg Draft.schema part
  rw [schemaName, schemaName, schema, show b.draft.schema = b'.draft.schema from own]

/-- Settled joins are all written in the schema of the statement. -/
theorem joins_addAll (settled : Clause.JoinsSettled cs) (b : Builder) :
    (b.addAll cs).draft.joins = b.draft.joins ++ cs.filterMap (b.addAll cs).joinText? := by
  induction cs generalizing b with
  | nil => exact (List.append_nil _).symm
  | cons c cs ih =>
    have later := ih settled.tail (b.add c)
    have first : b.joinText? c = ((b.add c).addAll cs).joinText? c := by
      cases c with
      | join kind table on =>
        rcases settled [] kind table on cs rfl with named | none
        · exact congrArg some (joinClause_of_named named kind on)
        · have quiet := Clause.Kind.part_addAll .schema (b.add (.join kind table on)) cs
          rw [none] at quiet
          have same : ((b.add (.join kind table on)).addAll cs).schemaName = b.schemaName :=
            schemaName_congr (schema_addAll _ cs) quiet
          exact congrFun (joinText?_congr same.symm) _
      | _ => rfl
    show ((b.add c).addAll cs).draft.joins = b.draft.joins ++ _
    rw [later, joins_add, first, List.append_assoc]
    show _ = b.draft.joins ++ (c :: cs).filterMap ((b.add c).addAll cs).joinText?
    rw [List.filterMap_cons]
    cases ((b.add c).addAll cs).joinText? c <;> rfl

theorem filterMap_joinText? (b : Builder) (cs : List Clause) :
    cs.filterMap b.joinText? = (Clause.ofKind .join cs).filterMap b.joinText? := by
  rw [Clause.ofKind, List.filterMap_filter]
  congr
  funext c
  cases c <;> rfl

end Builder

/-! ### Statements with other joins -/

namespace Terminal

/-- The kind of statement that a terminal ends. -/
def command : Terminal → Command
  | .select | .aggregate _ _ => .select
  | .get => .get
  | .insert _ => .insert
  | .insertAll _ => .insertAll
  | .update _ => .update
  | .delete => .delete

/-- The terminal ends a query, which has joins. -/
def IsRead (t : Terminal) : Prop := t.command = .select ∨ t.command = .get

instance (t : Terminal) : Decidable t.IsRead := inferInstanceAs (Decidable (_ ∨ _))

theorem IsRead.filtered?_eq {t : Terminal} (h : t.IsRead) : t.filtered? = some t.command := by
  cases t with
  | insert row => rcases h with h | h <;> cases h
  | insertAll rows => rcases h with h | h <;> cases h
  | _ => rfl

end Terminal

namespace Draft

/-- The draft with other joins. -/
def withJoins (joins : List String) (d : Draft) : Draft := { d with joins }

/-- The text of joins. -/
def joinsSql (joins : List String) : String := String.join (joins.map (" " ++ ·))

variable {d : Draft}

/-- Statements but queries have no joins. -/
theorem fragment_withJoins (other : d.command ≠ some .select ∧ d.command ≠ some .get)
    (joins : List String) (schema table : String) :
    (d.withJoins joins).fragment schema table = d.fragment schema table := by
  simp only [fragment, withJoins]
  cases d.mistake with
  | some message => rfl
  | none =>
    cases kind : d.command with
    | none => rfl
    | some c =>
      cases c with
      | select => exact absurd kind other.1
      | get => exact absurd kind other.2
      | _ => rfl

/-- The joins of a query stand behind the table. -/
theorem assemble_withJoins {c : Command} (read : c = .select ∨ c = .get) (target : String)
    (joins : List String) :
    (d.withJoins joins).assemble target c =
      .ok ((d.withJoins []).queryHead target ++ joins.map (fun j => .sql (" " ++ j)) ++
        (d.whereClause ++ d.afterFilters c)) := by
  have head : (d.withJoins joins).queryHead target =
      (d.withJoins []).queryHead target ++ joins.map (fun j => .sql (" " ++ j)) := by
    rw [queryHead, queryHead, show (d.withJoins []).joins = [] from rfl, List.map_nil,
      List.append_nil]
    rfl
  rcases read with rfl | rfl
  · rw [assemble_filtered (by simp) (by simp), beforeFilters, head, List.append_assoc]
    rfl
  · rw [assemble_filtered (by simp) (by simp), beforeFilters, head, List.append_assoc]
    rfl

theorem isText_joins (joins : List String) :
    Fragment.IsText (joins.map fun j => Piece.sql (" " ++ j)) := by
  intro p hp
  obtain ⟨j, -, rfl⟩ := List.mem_map.mp hp
  exact ⟨_, rfl⟩

theorem sqlAfter_joins (binding : Binding) (tag : DollarTag) (n : Nat) (joins : List String) :
    Fragment.sqlAfter binding tag n (joins.map fun j => .sql (" " ++ j)) = joinsSql joins := by
  unfold joinsSql
  induction joins with
  | nil => rfl
  | cons j joins ih =>
    rw [List.map_cons, List.map_cons, Fragment.sqlAfter_sql_cons, ih, String.join_cons]

end Draft

namespace Builder

variable {b b' : Builder} {cs ds : List Clause}

/-- The builder with other joins. -/
def withJoins (joins : List String) (b : Builder) : Builder := b.modifyDraft (·.withJoins joins)

/-- No clause says what kind of statement it is, or what is written. -/
theorem command_addAll (b : Builder) (cs : List Clause) :
    (b.addAll cs).draft.command = b.draft.command ∧
      (b.addAll cs).draft.values = b.draft.values := by
  induction cs generalizing b with
  | nil => exact ⟨rfl, rfl⟩
  | cons c cs ih =>
    obtain ⟨command, values⟩ := ih (b.add c)
    refine ⟨command.trans ?_, values.trans ?_⟩ <;>
    · cases c with
      | filter c => rw [draft_add_filter]
      | _ => rfl

/-- Drafts with the same parts are the same, but for their joins. -/
theorem draft_withJoins_of_parts (parts : ∀ k : Clause.Kind, k.part b = k.part b')
    (rest : b.draft.command = b'.draft.command ∧ b.draft.values = b'.draft.values)
    (joins : List String) : b.draft.withJoins joins = b'.draft.withJoins joins := by
  have filter := parts .filter
  have fields := parts .fields
  have order := parts .order
  have group := parts .group
  have limit := parts .limit
  have returning := parts .returning
  have shortName := parts .shortName
  have lock := parts .forUpdate
  have schema := parts .schema
  simp only [Clause.Kind.part, Draft.mk.injEq, true_and, and_true] at *
  simp only [Draft.withJoins, rest, filter, fields, order, group, limit, returning, shortName,
    lock, schema]

/-- The same calls in another order leave the same parts. -/
theorem parts_reordered (same : b.core = b'.core) (calls : Clause.SameCalls cs ds)
    (k : Clause.Kind) : k.part (b.addAll cs) = k.part (b'.addAll ds) := by
  have decl := congrArg Builder.decl same
  have draft := congrArg Builder.draft same
  simp only [core] at decl draft
  exact Clause.Kind.part_addAll_eq calls decl (by simp only [Clause.Kind.part, draft])

/-- The same calls in another order leave the same builder, but for its joins. -/
theorem core_reordered (same : b.core = b'.core) (calls : Clause.SameCalls cs ds)
    (joins : List String) :
    ((b.addAll cs).withJoins joins).core = ((b'.addAll ds).withJoins joins).core := by
  have draft := congrArg Builder.draft same
  have blank := congrArg Builder.blank same
  simp only [core] at draft
  have rest : (b.addAll cs).draft.command = (b'.addAll ds).draft.command ∧
      (b.addAll cs).draft.values = (b'.addAll ds).draft.values := by
    obtain ⟨command, values⟩ := b.command_addAll cs
    obtain ⟨command', values'⟩ := b'.command_addAll ds
    rw [command, values, command', values', draft]
    exact ⟨rfl, rfl⟩
  have collected := draft_withJoins_of_parts (parts_reordered same calls) rest joins
  have blanks : (b.addAll cs).blank = (b'.addAll ds).blank := by
    rw [blank_addAll, blank_addAll]
    exact blank
  calc ((b.addAll cs).withJoins joins).core
      = { (b.addAll cs).blank with draft := (b.addAll cs).draft.withJoins joins } := rfl
    _ = { (b'.addAll ds).blank with draft := (b'.addAll ds).draft.withJoins joins } := by
      rw [blanks, collected]
    _ = ((b'.addAll ds).withJoins joins).core := rfl

/-- Settled joins are the same in another order of the calls. -/
theorem joins_reordered (same : b.core = b'.core) (calls : Clause.SameCalls cs ds)
    (settled : Clause.JoinsSettled cs) (settled' : Clause.JoinsSettled ds) :
    (b.addAll cs).draft.joins = (b'.addAll ds).draft.joins := by
  have draft := congrArg Builder.draft same
  have schema := congrArg Builder.schema same
  simp only [core] at draft schema
  have named : (b.addAll cs).schemaName = (b'.addAll ds).schemaName :=
    schemaName_congr (by rw [schema_addAll, schema_addAll, schema])
      (parts_reordered same calls .schema)
  rw [joins_addAll settled, joins_addAll settled', filterMap_joinText? _ cs,
    filterMap_joinText? _ ds, calls.collected .join rfl, joinText?_congr named, draft]

theorem insertion_withJoins (b : Builder) (joins : List String) (rows : List Row)
    (command : Command) :
    (b.withJoins joins).insertion rows command = (b.insertion rows command).withJoins joins := by
  unfold insertion
  dsimp only
  split_ifs <;> rfl

theorem prepare_withJoins (b : Builder) (joins : List String) (t : Terminal) (supply : IdSupply) :
    ((b.withJoins joins).prepare t supply).1 = (b.prepare t supply).1.withJoins joins := by
  have inserts (rows : List Row) (command : Command) :
      ((b.withJoins joins).prepareInsert rows command supply).1 =
        (b.prepareInsert rows command supply).1.withJoins joins := by
    unfold prepareInsert
    split
    · rfl
    · show { b with draft := (b.withJoins joins).insertion _ command } =
        withJoins joins { b with draft := b.insertion _ command }
      rw [insertion_withJoins]
      rfl
  cases t with
  | insert row => exact inserts [row] .insert
  | insertAll rows => exact inserts rows .insertAll
  | select => rfl
  | get => rfl
  | delete => rfl
  | update data =>
    simp only [prepare, prepareUpdate, withJoins, modifyDraft]
    split_ifs <;> rfl
  | aggregate function field =>
    simp only [prepare, prepareAggregate, withJoins, modifyDraft]
    split_ifs <;> rfl

theorem command_prepare (b : Builder) (t : Terminal) (supply : IdSupply) :
    (b.prepare t supply).1.draft.command = some t.command := by
  have inserts (rows : List Row) (command : Command) :
      (b.prepareInsert rows command supply).1.draft.command = some command := by
    unfold prepareInsert
    split
    · rfl
    · dsimp only [insertion]
      split_ifs <;> rfl
  cases t with
  | insert row => exact inserts [row] .insert
  | insertAll rows => exact inserts rows .insertAll
  | select => rfl
  | get => rfl
  | delete => rfl
  | update data =>
    simp only [prepare, prepareUpdate, modifyDraft]
    split_ifs <;> rfl
  | aggregate function field =>
    simp only [prepare, prepareAggregate, modifyDraft]
    split_ifs <;> rfl

/-- The joins have no part in statements but queries. -/
theorem outcome_withJoins {t : Terminal} (other : ¬ t.IsRead) (b : Builder) (joins : List String)
    (supply : IdSupply) : (b.withJoins joins).outcome t supply = b.outcome t supply := by
  have kind := b.command_prepare t supply
  rw [outcome, outcome, prepare_withJoins]
  generalize (b.prepare t supply).1 = b at kind
  have apart : b.draft.command ≠ some .select ∧ b.draft.command ≠ some .get := by
    rw [kind]
    exact ⟨fun h => other (.inl (Option.some.inj h)), fun h => other (.inr (Option.some.inj h))⟩
  simp only [statement, withJoins, modifyDraft]
  cases b.table with
  | none => rfl
  | some table => simp only [Draft.render, Draft.fragment_withJoins apart]

/-- The statements of a query with any joins differ in the text of the joins. -/
theorem outcome_joined {t : Terminal} {table : String} (bound : b.table = some table)
    (clean : b.draft.mistake = none) (read : t.IsRead) (complete : t.IsComplete)
    (supply : IdSupply) :
    ∃ lead foot args, ∀ joins, (b.withJoins joins).outcome t supply =
      .ok { sql := lead ++ Draft.joinsSql joins ++ foot, args } := by
  obtain ⟨command, mistake, -, -⟩ :=
    draft_prepare_filtered (b := b) read.filtered?_eq complete supply
  have there := congrArg Builder.table (b.cleared_prepare t supply)
  simp only [cleared, bound] at there
  let x := (b.prepare t supply).1
  let head := (x.draft.withJoins []).queryHead (Sql.qualified x.schemaName table)
  let rest := x.draft.whereClause ++ x.draft.afterFilters t.command
  have isText : head.IsText := Draft.isText_queryHead _ _
  refine ⟨head.sqlAfter x.binding x.tag 0, rest.sqlAfter x.binding x.tag 0,
    rest.arguments x.binding, fun joins => ?_⟩
  have written : (b.withJoins joins).outcome t supply = .ok
      (Fragment.render x.binding x.tag (head ++ joins.map (fun j => .sql (" " ++ j)) ++ rest)) := by
    rw [outcome, prepare_withJoins]
    simp only [statement, withJoins, modifyDraft, there, Draft.render, Draft.fragment]
    simp only [Draft.withJoins, mistake, clean, command]
    exact congrArg (Except.map (Fragment.render x.binding x.tag))
      (Draft.assemble_withJoins read _ joins)
  have middle := Draft.isText_joins joins
  rw [written]
  congr 1
  refine Statement.mk.injEq .. ▸ ⟨?_, ?_⟩
  · show Fragment.sqlAfter x.binding x.tag 0 _ = _
    rw [Fragment.sqlAfter_append, Fragment.sqlAfter_append, Draft.sqlAfter_joins,
      Fragment.count_append, Fragment.count, isText.arguments_eq, Fragment.count,
      middle.arguments_eq]
    rfl
  · show Fragment.arguments x.binding _ = _
    rw [Fragment.arguments_append, Fragment.arguments_append, isText.arguments_eq,
      middle.arguments_eq]
    rfl

/-- **The order of calls.**  Let two builders have the same table, schema and declaration, and let
them be given the same clauses of each kind in the same order, and the same last clause of the kinds
that take the place of others, with the kinds in any order.  But for the joins they then write the
same: an insertion, an update or a deletion is the same, or fails alike, and so is a query with the
same joins.  A joined table is in the schema that is in force at the call, so the joins are the same
if each of them names a schema itself or comes after the last schema; otherwise two queries that can
be written are the same exactly if the texts of their joins are. -/
theorem calls_reordered {b b' : Builder} (same : b.core = b'.core) {cs ds : List Clause}
    (calls : Clause.SameCalls cs ds) :
    let x := b.addAll cs
    let y := b'.addAll ds
    (∀ joins t supply,
      (x.withJoins joins).outcome t supply = (y.withJoins joins).outcome t supply) ∧
    (∀ t supply, ¬ t.IsRead → x.outcome t supply = y.outcome t supply) ∧
    (Clause.JoinsSettled cs → Clause.JoinsSettled ds →
      ∀ t supply, x.outcome t supply = y.outcome t supply) ∧
    ∀ t supply, t.IsRead → t.IsComplete → b.table.isSome = true → x.draft.mistake = none →
      (x.outcome t supply = y.outcome t supply ↔
        Draft.joinsSql x.draft.joins = Draft.joinsSql y.draft.joins) := by
  intro x y
  have joined (joins : List String) (t : Terminal) (supply : IdSupply) :
      (x.withJoins joins).outcome t supply = (y.withJoins joins).outcome t supply :=
    (outcome_congr (core_reordered same calls joins) t supply).1
  refine ⟨joined, fun t supply other => ?_, fun settled settled' t supply => ?_,
    fun t supply read complete bound clean => ?_⟩
  · rw [← outcome_withJoins other x [], joined, outcome_withJoins other]
  · have joins : x.draft.joins = y.draft.joins := joins_reordered same calls settled settled'
    calc x.outcome t supply = (x.withJoins x.draft.joins).outcome t supply := rfl
      _ = (y.withJoins y.draft.joins).outcome t supply := by rw [joins, joined]
      _ = y.outcome t supply := rfl
  · obtain ⟨table, bound⟩ := Option.isSome_iff_exists.mp bound
    obtain ⟨lead, foot, args, written⟩ :=
      outcome_joined (b := x) ((table_addAll b cs).trans bound) clean read complete supply
    have left : x.outcome t supply = _ := written x.draft.joins
    have right : y.outcome t supply = _ := (joined y.draft.joins t supply).symm.trans (written _)
    rw [left, right]
    constructor
    · intro alike
      have texts := congrArg Statement.sql (Except.ok.inj alike)
      rwa [String.append_left_inj, String.append_right_inj] at texts
    · intro texts
      rw [texts]

/-- The organizations of users, with the schema named before the join and after it: a deletion is
the same, but a query is not. -/
theorem calls_reordered_orgs :
    let join := Clause.join .inner "orgs o" "o.id = users.id"
    let cs := [.schema "app", join, .limit 5 0]
    let ds := [.limit 9 0, join, .limit 5 0, .schema "app"]
    let x := users.addAll cs
    let y := users.addAll ds
    users.core = users.core ∧ Clause.SameCalls cs ds ∧
      x.outcome .delete still = y.outcome .delete still ∧
      x.outcome .select still ≠ y.outcome .select still ∧
      x.draft.joins = ["INNER JOIN app.orgs o ON o.id = users.id"] ∧
      y.draft.joins = ["INNER JOIN public.orgs o ON o.id = users.id"] := by
  intro join cs ds x y
  have calls : Clause.SameCalls cs ds := by
    constructor
    · intro k collects
      cases k <;> first | rfl | cases collects
    · intro k _
      cases k <;> rfl
  obtain ⟨-, others, -, reads⟩ := calls_reordered (b := users) rfl calls
  have apart : Draft.joinsSql x.draft.joins ≠ Draft.joinsSql y.draft.joins := by decide +kernel
  refine ⟨rfl, calls, others .delete still (by decide), ?_, by decide +kernel, by decide +kernel⟩
  exact fun same => apart ((reads .select still (.inl rfl) trivial rfl rfl).mp same)

end Builder

end TableMapper
