import TableMapper.Rows.Write

/-!
# Reading rows

Queries through the declaration of a table: single rows, pages, aggregates, groups and joins.
-/

namespace TableMapper

/-- The options of a page of rows. -/
structure ListOptions where
  /-- The schema, when it is not that of the session. -/
  schema : Option String := none
  /-- The rows of a page, when they are not those of the table. -/
  pageSize : Option Nat := none
  offset : Int := 0
  order : Option String := none
  /-- The columns, when they are not those that the table selects. -/
  fields : List String := []

/-- The options of a query for groups. -/
structure GroupOptions where
  /-- The schema, when it is not that of the session. -/
  schema : Option String := none
  /-- The columns, when they are not those of the groups. -/
  fields : List String := []
  order : Option String := none
  cond : Option Condition := none

/-- The options of a page of a join. -/
structure JoinOptions where
  /-- The schema, when it is not that of the session. -/
  schema : Option String := none
  /-- Another name for the table. -/
  shortName : Option String := none
  fields : List String := []
  cond : Option Condition := none
  order : Option String := none
  /-- The rows of a page, when they are not those of the table. -/
  pageSize : Option Nat := none
  offset : Int := 0

namespace Rows

variable {σ : Type}

/-- The rows of a page: as asked for, as the table has it, or as the session has it. -/
def pageRows (t : TableDecl) (s : Session σ) (requested : Option Nat) : Nat :=
  (requested.or t.pageSize).getD s.pageSize

/-- The clause for an option that may be missing. -/
def clause? (f : β → Clause) (o : Option β) : List Clause := (o.map f).toList

variable [Backend σ]

/-- The first row that a condition holds of. -/
def get? (t : TableDecl) (cond : Condition) (fields : List String) : SessionM σ (Option Row) :=
  withBuilder t none do
    BuilderM.addAll [.filter cond, .fields fields]
    BuilderM.get?

/-- A page of the rows that a condition holds of. -/
def list (t : TableDecl) (cond : Condition) (o : ListOptions) : SessionM σ (List Row) := do
  let size := pageRows t (← get) o.pageSize
  withBuilder t o.schema do
    BuilderM.addAll ([.filter cond, .fields o.fields, .limit size o.offset] ++
      clause? .order o.order)
    BuilderM.select

/-- The number of rows that a condition holds of. -/
def count (t : TableDecl) (cond : Condition) (schema : Option String) : SessionM σ Int :=
  withBuilder t schema do
    BuilderM.add (.filter cond)
    BuilderM.count

/-- The aggregates over a column. -/
def columnAggregates : List String := ["max", "min", "avg", "sum"]

/-- An aggregate over a declared column, in the wanted form or in that of the column. -/
def aggregate (t : TableDecl) (function : String) (cond : Condition) (field : String)
    (form : Option Coercion) : SessionM σ Json := do
  match t.column? field with
  | none =>
    throw (.usage (function ++ " over undeclared column '" ++ field ++ "' of " ++ t.name))
  | some c =>
    withBuilder t none do
      BuilderM.add (.filter cond)
      if columnAggregates.contains function then
        BuilderM.aggregate function field (form.or c.coercion?)
      else throw (.usage ("unsupported aggregate '" ++ function ++ "'"))

/-- The rows in groups. -/
def group (t : TableDecl) (groupBy : String) (o : GroupOptions) : SessionM σ (List Row) :=
  withBuilder t o.schema do
    BuilderM.addAll (clause? .filter o.cond ++
      [.group groupBy, .fields (if o.fields.isEmpty then [groupBy] else o.fields)] ++
      clause? .order o.order)
    BuilderM.select

/-- A page of the rows joined with those of another table, which may be followed by an alias. -/
def join (t : TableDecl) (kind : JoinKind) (other on : String) (o : JoinOptions) :
    SessionM σ (List Row) := do
  let size := pageRows t (← get) o.pageSize
  withBuilder t o.schema do
    BuilderM.addAll (clause? .shortName o.shortName ++ [.join kind other on] ++
      clause? .filter o.cond ++ [.fields o.fields, .limit size o.offset] ++ clause? .order o.order)
    BuilderM.select

end Rows

end TableMapper
