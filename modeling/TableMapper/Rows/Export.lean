import TableMapper.Rows.Read

/-!
# Exporting rows

Rows are read page by page, in the order of the primary key, until as many were passed over and read
as there were at the start, or a page is empty.

* `Export.next?` reads a page.
* `Rows.exportEach` hands the pages to a function, and `Rows.exportPages` collects them.
-/

namespace TableMapper

/-- The options of an export. -/
structure ExportOptions where
  /-- The schema, when it is not that of the session. -/
  schema : Option String := none
  cond : Option Condition := none
  /-- The columns, when they are not those that the table selects.  All must be declared. -/
  fields : List String := []
  /-- The rows of a page, if more than one. -/
  pageSize : Option Nat := none
  offset : Int := 0

/-- How far an export has come. -/
structure Export where
  decl : TableDecl
  options : ExportOptions
  /-- The rows of a page. -/
  page : Nat
  /-- How many rows were passed over or read. -/
  offset : Int
  /-- How many rows there were at the start. -/
  total : Int

namespace Export

/-- The rows of a page when the options do not say. -/
def defaultPage : Nat := 1000

/-- The rows of a page. -/
def pageOf (o : ExportOptions) : Nat :=
  match o.pageSize with
  | some n => if 1 < n then n else defaultPage
  | none => defaultPage

/-- The order of the rows. -/
def order (t : TableDecl) : String := ",".intercalate (t.keyColumns.map Sql.ident)

/-- The condition on the rows. -/
def cond (o : ExportOptions) : Condition := o.cond.getD Condition.empty

variable {σ τ : Type} [Backend σ]

/-- Starts an export. -/
def start (t : TableDecl) (o : ExportOptions) : SessionM σ Export := do
  let undeclared := o.fields.filter (!t.hasColumn ·)
  if !undeclared.isEmpty then
    throw (.usage ("cannot export undeclared columns: " ++ ", ".intercalate undeclared))
  let total ← Rows.count t (cond o) o.schema
  return { decl := t, options := o, page := pageOf o, offset := max o.offset 0, total }

/-- The rows of the next page. -/
def rows (e : Export) : SessionM σ (List Row) :=
  Rows.withBuilder e.decl e.options.schema do
    BuilderM.addAll [.filter (cond e.options), .fields e.options.fields, .limit e.page e.offset,
      .order (order e.decl)]
    BuilderM.select

/-- Reads the next page, if there is one. -/
def next? (e : Export) : SessionM σ (Option (List Row × Export)) := do
  if e.total ≤ e.offset then return none
  let rows ← e.rows
  if rows.isEmpty then return none
  return some (rows, { e with offset := e.offset + rows.length })

/-- Hands pages to a function, and gives the number of rows; at most `fuel` pages. -/
def each (f : List Row → WithinM τ σ Unit) : Nat → Export → WithinM τ σ Nat
  | 0, _ => return 0
  | fuel + 1, e => do
    match ← e.next?.within with
    | none => return 0
    | some (rows, e) =>
      f rows
      return rows.length + (← each f fuel e)

end Export

namespace Rows

variable {σ τ : Type} [Backend σ]

/-- Hands the pages of an export to a function, and gives the number of rows.  Each page has a row
at least, so there are not more pages than rows. -/
def exportEach (t : TableDecl) (o : ExportOptions) (f : List Row → WithinM τ σ Unit) :
    WithinM τ σ Nat := do
  let e ← (Export.start t o).within
  Export.each f (e.total - e.offset).toNat e

/-- The pages of an export, and the error that ended it, if one did.  It fails itself when it cannot
start. -/
def exportPages (t : TableDecl) (o : ExportOptions) :
    SessionM σ (List (List Row) × Option Error) := do
  let e ← Export.start t o
  let push (rows : List Row) : WithinM (List (List Row)) σ Unit :=
    WithinM.modifyOwn (· ++ [rows])
  let (r, pages) ← (Export.each push (e.total - e.offset).toNat e).runFrom []
  return match r with
    | .ok _ => (pages, none)
    | .error err => (pages, some err)

end Rows

end TableMapper
