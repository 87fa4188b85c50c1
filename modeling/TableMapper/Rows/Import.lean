import TableMapper.Rows.Write
import TableMapper.Session.Transaction

/-!
# Importing rows

The entries of an import are sorted first: what is no row, rows with unknown columns and rows with
invalid values are rejected, and the others are told apart by whether they carry their key.  Then
the rows are written in one transaction.

* `Sorted.ofEntries` sorts the entries.
* `Import.body` writes them.
* `Rows.importRows` is the whole.
-/

namespace TableMapper

/-- What happens to the other rows of an import when some are rejected. -/
inductive ImportMode where
  /-- Nothing is imported. -/
  | strict
  /-- They are imported. -/
  | loose
  deriving DecidableEq

/-- What happens to rows that carry their key. -/
inductive ImportUpdate where
  /-- They are deleted and inserted again. -/
  | deleteInsert
  /-- They are updated if they exist, and inserted otherwise. -/
  | update
  /-- They are left as they are if they exist, and inserted otherwise. -/
  | keep
  deriving DecidableEq

/-- The options of an import. -/
structure ImportOptions where
  mode : ImportMode := .strict
  update : ImportUpdate := .deleteInsert
  /-- The schema, when it is not that of the session. -/
  schema : Option String := none

/-- How many rows were written. -/
structure ImportCounts where
  inserted : Nat := 0
  updated : Nat := 0
  deleted : Nat := 0

namespace ImportCounts

/-- The counts of two steps. -/
def add (a b : ImportCounts) : ImportCounts :=
  { inserted := a.inserted + b.inserted
    updated := a.updated + b.updated
    deleted := a.deleted + b.deleted }

instance : Add ImportCounts := ⟨add⟩

end ImportCounts

/-- The sorted entries of an import. -/
structure Sorted where
  /-- Entries that are no rows. -/
  notRows : List Json := []
  /-- Rows with unknown columns. -/
  unknown : List Row := []
  /-- Rows with invalid values, and what is wrong with them. -/
  invalid : List (Row × Error) := []
  /-- Rows without a key. -/
  fresh : List Row := []
  /-- Rows with a key. -/
  keyed : List Row := []

namespace Sorted

/-- A row carries its key. -/
def hasKey (key : String) (row : Row) : Bool := (row.get? key).any (!·.isNull)

/-- The sorted entries with one more. -/
def add (t : TableDecl) (key : String) (s : Sorted) : Json → Sorted
  | .object row =>
    if (Row.names row).any (!t.keeps ·) then { s with unknown := s.unknown ++ [row] }
    else
      match t.validateRow row with
      | .error e => { s with invalid := s.invalid ++ [(row, e)] }
      | .ok () =>
        if hasKey key row then { s with keyed := s.keyed ++ [row] }
        else { s with fresh := s.fresh ++ [row] }
  | entry => { s with notRows := s.notRows ++ [entry] }

/-- The sorted entries. -/
def ofEntries (t : TableDecl) (key : String) (entries : List Json) : Sorted :=
  entries.foldl (add t key) {}

/-- How many entries are rejected. -/
def rejected (s : Sorted) : Nat := s.notRows.length + s.unknown.length + s.invalid.length

end Sorted

/-- What came of an import. -/
structure ImportReport where
  ok : Bool := false
  message : Option String := none
  counts : ImportCounts := {}
  sorted : Sorted := {}

/-- An import into a table, in a transaction. -/
structure Import where
  decl : TableDecl
  /-- The column of the key. -/
  key : String
  schema : String
  transaction : Transaction
  /-- The time of the import. -/
  now : Int

namespace Import

variable {σ α : Type}

/-- The text by which keys are compared. -/
def keyText : Json → String
  | .string s => s
  | other => other.render

/-- The text of the key of a row. -/
def keyTextOf (i : Import) (row : Row) : String := keyText ((row.get? i.key).getD .null)

/-- The row with its timestamps. -/
def stamp (i : Import) (inserting : Bool) (row : Row) : Row := i.decl.stamp i.now inserting row

/-- The condition on the keys of rows. -/
def among (i : Import) (rows : List Row) : Condition :=
  Condition.empty.isIn i.key (rows.filterMap fun row => (row.get? i.key).map Value.ofJson)

/-- Uses a builder for the table. -/
def withBuilder (i : Import) (m : BuilderM σ α) : SessionM σ α :=
  i.transaction.withBuilder i.decl.name i.schema m

variable [Backend σ]

/-- Inserts rows, whose timestamps are set. -/
def insert (i : Import) (rows : List Row) : SessionM σ ImportCounts := do
  let r ← i.withBuilder (BuilderM.insertAll rows)
  return { inserted := r.count }

/-- Inserts rows, if there are any. -/
def insertAny (i : Import) (rows : List Row) : SessionM σ ImportCounts :=
  if rows.isEmpty then return {} else i.insert (rows.map (i.stamp true))

/-- Deletes the rows with the keys of these rows. -/
def delete (i : Import) (rows : List Row) : SessionM σ ImportCounts := do
  let r ← i.withBuilder do
    BuilderM.add (.filter (i.among rows))
    BuilderM.delete
  return { deleted := r.count }

/-- Updates the row with the key of this row. -/
def update (i : Import) (row : Row) : SessionM σ ImportCounts := do
  let row := i.stamp false row
  let key := Value.ofJson ((row.get? i.key).getD .null)
  let r ← i.withBuilder do
    BuilderM.add (.filter (Condition.empty.eq i.key key))
    BuilderM.update (.columns row)
  return { updated := r.count }

/-- The texts of those keys of rows that are in the table. -/
def existing (i : Import) (rows : List Row) : SessionM σ (List String) := do
  let found ← i.withBuilder do
    BuilderM.addAll [.filter (i.among rows), .fields [i.key]]
    BuilderM.select
  return found.filterMap fun row => (row.get? i.key).map keyText

/-- Writes rows that carry their key. -/
def writeKeyed (i : Import) (policy : ImportUpdate) (rows : List Row) :
    SessionM σ ImportCounts := do
  if policy = .deleteInsert then
    return (← i.delete rows) + (← i.insertAny rows)
  let existing ← i.existing rows
  let (present, missing) := rows.partition fun row => existing.contains (i.keyTextOf row)
  let updated ←
    if policy = .update then present.mapM i.update else pure []
  return updated.foldl (· + ·) {} + (← i.insertAny missing)

/-- Writes the rows of an import. -/
def body (i : Import) (policy : ImportUpdate) (s : Sorted) : SessionM σ ImportCounts := do
  let inserted ← i.insertAny s.fresh
  if s.keyed.isEmpty then return inserted
  return inserted + (← i.writeKeyed policy s.keyed)

end Import

namespace Rows

variable {σ : Type} [Backend σ]

/-- Imports entries into a table, whose key must be a single column. -/
def importRows (t : TableDecl) (entries : List Json) (o : ImportOptions) :
    SessionM σ ImportReport := do
  match t.idColumn? with
  | none => throw (.usage (t.name ++ " has no single-column primary key"))
  | some key =>
    let sorted := Sorted.ofEntries t key entries
    if o.mode = .strict && 0 < sorted.rejected then
      return {
        sorted
        message := some (toString sorted.rejected ++ " rows rejected; nothing imported") }
    let s ← get
    let outcome ← Session.transaction (some t.name) fun transaction =>
      let i : Import := {
        decl := t, key, transaction
        schema := o.schema.getD s.schema
        now := s.supply.now }
      (i.body o.update sorted).within
    return {
      ok := outcome.ok
      message := outcome.message
      counts := outcome.result.getD {}
      sorted }

end Rows

end TableMapper
