import TableMapper.Error
import TableMapper.Sql.Fragment
import TableMapper.Sql.Identifier

/-!
# Drafts of statements

A draft collects the clauses of one statement, in any order.  `Draft.render` writes the statement
in the order of SQL, or fails with the first mistake made while collecting.
-/

namespace TableMapper

/-- The kind of a statement. -/
inductive Command where
  | select
  /-- A query for at most one row. -/
  | get
  | insert
  | insertAll
  | update
  | delete
  deriving DecidableEq

/-- The name of a kind of statement. -/
def Command.name : Command → String
  | .select => "select"
  | .get => "get"
  | .insert => "insert"
  | .insertAll => "insert_all"
  | .update => "update"
  | .delete => "delete"

/-- The clauses of a statement. -/
structure Draft where
  /-- The kind of statement, once it is known. -/
  command : Option Command := none
  /-- The columns of a query; all columns when empty. -/
  fields : List String := []
  /-- The columns and tuples of an insertion, or the SET list of an update. -/
  values : Fragment := []
  /-- The filters, all of which must hold. -/
  filters : List Fragment := []
  joins : List String := []
  group : List String := []
  order : List String := []
  /-- How many rows, and how many to skip before them.  No cap when the number is not positive. -/
  limit : Option (Int × Int) := none
  returning : List String := []
  shortName : Option String := none
  lock : Option String := none
  /-- The schema, when it is not that of the builder. -/
  schema : Option String := none
  /-- The first mistake. -/
  mistake : Option String := none
  deriving Inhabited

namespace Draft

/-- Notes a mistake, unless there was one before. -/
def fail (message : String) (d : Draft) : Draft :=
  { d with mistake := some (d.mistake.getD message) }

/-- A clause of texts separated by commas, if there are any. -/
def listClause (lead : String) (items : List String) : Fragment :=
  if items.isEmpty then [] else .ofText (lead ++ ",".intercalate items)

/-- The WHERE clause: each filter in parentheses. -/
def whereClause (d : Draft) : Fragment :=
  if d.filters.isEmpty then []
  else
    .sql " WHERE " ::
      Fragment.join " AND " (d.filters.map fun f => .sql "(" :: (f ++ [.sql ")"]))

/-- The RETURNING clause. -/
def returningClause (d : Draft) : Fragment := listClause " RETURNING " d.returning

/-- The LIMIT and OFFSET of a query for rows. -/
def limitClause (d : Draft) : Fragment :=
  match d.limit with
  | none => []
  | some (count, offset) =>
    if 0 < count then .ofText (" LIMIT " ++ toString count ++ " OFFSET " ++ toString offset)
    else .ofText (" OFFSET " ++ toString offset)

/-- The LIMIT and OFFSET of a query for one row. -/
def oneRowClause (d : Draft) : Fragment :=
  match d.limit with
  | some (_, offset) =>
    if 0 < offset then .ofText (" LIMIT 1 OFFSET " ++ toString offset) else .ofText " LIMIT 1"
  | none => .ofText " LIMIT 1"

/-- The clauses of a query, up to the cap on rows. -/
def queryBody (d : Draft) (target : String) : Fragment :=
  let fields := if d.fields.isEmpty then "*" else ",".intercalate (d.fields.map Sql.ident)
  Fragment.ofText ("SELECT " ++ fields ++ " FROM " ++ target) ++
    (match d.shortName with
      | some a => Fragment.ofText (" AS " ++ Sql.ident a)
      | none => []) ++
    d.joins.map (fun j => .sql (" " ++ j)) ++ d.whereClause ++
    listClause " GROUP BY " d.group ++ listClause " ORDER BY " d.order

/-- The row lock of a query. -/
def lockClause (d : Draft) : Fragment :=
  match d.lock with
  | some l => .ofText (" " ++ l)
  | none => []

/-- The fragment of the statement on `target`. -/
def assemble (d : Draft) (target : String) : Command → Except Error Fragment
  | .select => .ok (d.queryBody target ++ d.limitClause ++ d.lockClause)
  | .get => .ok (d.queryBody target ++ d.oneRowClause ++ d.lockClause)
  | .insert | .insertAll =>
    if d.values.isEmpty then .error (.usage "insert without values")
    else .ok (.sql ("INSERT INTO " ++ target ++ " ") :: (d.values ++ d.returningClause))
  | .update =>
    if d.values.isEmpty then .error (.usage "update without values")
    else
      .ok (.sql ("UPDATE " ++ target ++ " SET ") ::
        (d.values ++ d.whereClause ++ d.returningClause))
  | .delete => .ok (.sql ("DELETE FROM " ++ target) :: (d.whereClause ++ d.returningClause))

/-- The fragment of the statement on a table, whose schema the draft may override. -/
def fragment (d : Draft) (schema table : String) : Except Error Fragment :=
  match d.mistake, d.command with
  | some message, _ => .error (.usage message)
  | none, none => .error (.usage "no statement kind set")
  | none, some command => d.assemble (Sql.qualified (d.schema.getD schema) table) command

/-- The statement on a table. -/
def render (d : Draft) (schema table : String) (binding : Binding) (tag : DollarTag) :
    Except Error Statement :=
  (d.fragment schema table).map (Fragment.render binding tag)

end Draft

end TableMapper
