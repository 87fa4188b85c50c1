import TableMapper.Json.Basic

/-!
# Results of statements

`QueryOutput` is what the database answers to a statement, and `WriteResult` what a write reports.
-/

namespace TableMapper

/-- The answer to a statement. -/
structure QueryOutput where
  rows : List Row := []
  /-- The rows returned by a query, or affected by a write. -/
  rowCount : Nat := 0
  deriving Inhabited

/-- The report of an insertion, an update or a deletion. -/
structure WriteResult where
  /-- The rows affected. -/
  count : Nat := 0
  /-- The rows that a RETURNING clause gave. -/
  rows : List Row := []
  /-- The keys of the inserted rows. -/
  ids : List Json := []
  deriving Inhabited

namespace WriteResult

/-- The first row returned. -/
def first? (r : WriteResult) : Option Row := r.rows.head?

/-- No row was affected. -/
def isEmpty (r : WriteResult) : Bool := r.count == 0

/-- The report as JSON. -/
def toJson (r : WriteResult) : Json :=
  .ofMembers
    [("count", .int r.count), ("rows", .array (r.rows.map .object)), ("ids", .array r.ids)]

end WriteResult

end TableMapper
