import TableMapper.Builder.Filter
import TableMapper.Sql.Draft

/-!
# Builders

A builder is bound to a table and collects the clauses of one statement at a time.

* `Builder` is the state of a builder, `Builder.bind` and `Builder.reset` start and end its use.
* `Clause` is one call that adds to the statement, and `Builder.add` its effect.
-/

namespace TableMapper

/-- Where a builder stands in its life. -/
inductive Lifecycle where
  /-- Idle in a pool. -/
  | free
  /-- Bound to a table for one use. -/
  | inUse
  /-- Bound to a table until it is given back. -/
  | held
  deriving DecidableEq

/-- When the handlers of a table hear of the next write. -/
inductive Notify where
  /-- Not at all. -/
  | off
  /-- Right after the write. -/
  | immediate
  /-- When the transaction around it has committed; at once outside of one. -/
  | onCommit
  deriving DecidableEq

/-- What statements run on. -/
inductive Target where
  /-- Any connection. -/
  | pool
  /-- One connection, by its number. -/
  | connection (number : Nat)
  deriving DecidableEq

/-- A builder. -/
structure Builder where
  /-- The tag of its literals. -/
  tag : DollarTag
  binding : Binding
  target : Target
  /-- The queue of events that wait for a commit, inside a transaction. -/
  queue : Option Nat := none
  schema : String := Sql.defaultSchema
  table : Option String := none
  decl : Option TableDecl := none
  state : Lifecycle := .free
  notify : Notify := .off
  draft : Draft := {}

namespace Builder

/-- Binds the builder to a table in a schema; to none when the name is empty. -/
def bind (table schema : String) (decl : Option TableDecl) (state : Lifecycle) (b : Builder) :
    Builder :=
  { b with table := if table.isEmpty then none else some table, schema, decl, state }

/-- Forgets the table and what was collected. -/
def reset (b : Builder) : Builder :=
  { b with draft := {}, table := none, decl := none, notify := .off, state := .free }

/-- Makes statements run on another target. -/
def retarget (target : Target) (queue : Option Nat) (b : Builder) : Builder :=
  { b with target, queue }

/-- The schema of the statement being collected. -/
def schemaName (b : Builder) : String := b.draft.schema.getD b.schema

/-- Statements run on the connection of a transaction. -/
def inTransaction (b : Builder) : Bool :=
  match b.target with
  | .pool => false
  | .connection _ => true

/-- Changes the draft. -/
def modifyDraft (f : Draft → Draft) (b : Builder) : Builder := { b with draft := f b.draft }

end Builder

/-- The kinds of joins. -/
inductive JoinKind where
  | inner
  | left
  | right
  deriving DecidableEq

/-- The keywords of a join. -/
def JoinKind.sql : JoinKind → String
  | .inner => "INNER JOIN"
  | .left => "LEFT JOIN"
  | .right => "RIGHT JOIN"

/-- A call that adds to the statement being collected. -/
inductive Clause where
  | filter (condition : Condition)
  | join (kind : JoinKind) (table on : String)
  | fields (names : List String)
  | order (by_ : String)
  | group (by_ : String)
  | limit (count offset : Int)
  | returning (columns : String)
  | shortName (name : String)
  | forUpdate
  | schema (name : String)
  | trigger
  | triggerCommit

namespace Builder

/-- A list with the text at its end, unless the text is blank. -/
def appendText (items : List String) (s : String) : List String :=
  if Text.isBlankText s then items else items ++ [Text.trim s]

/-- The join clause with a table, which may be followed by an alias.  A table without a schema is
one in the schema of the statement. -/
def joinClause (b : Builder) (kind : JoinKind) (table on : String) : String :=
  let cs := (Text.trim table).toList
  let (name, rest) := (Text.cutWhere? Text.isBlank cs).getD (cs, [])
  let name := String.ofList name
  let target := if Text.contains "." name then name else Sql.qualified b.schemaName name
  let short := Text.trim (String.ofList rest)
  kind.sql ++ " " ++ (if short.isEmpty then target else target ++ " " ++ short) ++ " ON " ++ on

/-- The builder with one clause more.  A condition that cannot be written is a mistake, which the
statement reports. -/
def add (b : Builder) : Clause → Builder
  | .filter c =>
    match Filter.fragment? b.decl c with
    | .ok (some f) => b.modifyDraft fun d => { d with filters := d.filters ++ [f] }
    | .ok none => b
    | .error message => b.modifyDraft (·.fail message)
  | .join kind table on =>
    b.modifyDraft fun d => { d with joins := d.joins ++ [b.joinClause kind table on] }
  | .fields names => b.modifyDraft fun d => { d with fields := d.fields ++ names }
  | .order s => b.modifyDraft fun d => { d with order := appendText d.order s }
  | .group s => b.modifyDraft fun d => { d with group := appendText d.group s }
  | .limit count offset => b.modifyDraft fun d => { d with limit := some (count, max offset 0) }
  | .returning s => b.modifyDraft fun d => { d with returning := appendText d.returning s }
  | .shortName name => b.modifyDraft fun d => { d with shortName := some name }
  | .forUpdate => b.modifyDraft fun d => { d with lock := some "FOR UPDATE" }
  | .schema name => b.modifyDraft fun d => { d with schema := some name }
  | .trigger => { b with notify := .immediate }
  | .triggerCommit => { b with notify := .onCommit }

/-- The builder with several clauses more. -/
def addAll (b : Builder) (clauses : List Clause) : Builder := clauses.foldl add b

end Builder

end TableMapper
