import TableMapper.Error
import TableMapper.Schema.Ddl

/-!
# Plans

* `Issue` is a remark on an object, `Step` a change to be made, `Plan` a list of steps with the
  issues found on the way.
* `TableDecl.validate` refuses declarations that cannot be used and warns of dubious ones.
-/

namespace TableMapper

/-- A remark on a column, an index or a constraint. -/
structure Issue where
  object : String
  message : String
  deriving DecidableEq

/-- The text of an issue. -/
def Issue.text (i : Issue) : String := i.object ++ ": " ++ i.message

/-- A change to be made. -/
structure Step where
  change : Ddl
  /-- The column, index or constraint that is changed. -/
  object : String
  /-- A failure does not matter. -/
  bestEffort : Bool := false

/-- The changes that bring a table in line with its declaration. -/
structure Plan where
  steps : List Step := []
  issues : List Issue := []
  /-- The columns that change their type. -/
  changed : List String := []
  deriving Inhabited

namespace Plan

/-- The steps, issues and changed columns of both plans. -/
def append (p q : Plan) : Plan :=
  { steps := p.steps ++ q.steps
    issues := p.issues ++ q.issues
    changed := p.changed ++ q.changed }

instance : Append Plan := ⟨append⟩

/-- The plans one after the other. -/
def concat (plans : List Plan) : Plan := plans.foldl append {}

/-- The plan of one step. -/
def step (object : String) (change : Ddl) : Plan := { steps := [{ change, object }] }

/-- The plan of one step whose failure does not matter. -/
def tryStep (object : String) (change : Ddl) : Plan :=
  { steps := [{ change, object, bestEffort := true }] }

/-- The plan that only remarks on an object. -/
def issue (object message : String) : Plan := { issues := [{ object, message }] }

/-- The plan that only notes that a column changes its type. -/
def change (column : String) : Plan := { changed := [column] }

/-- The statements of a plan. -/
def statements (schema table : String) (p : Plan) : List String :=
  p.steps.map (·.change.sql schema table)

end Plan

namespace TableDecl

/-- A name within a table. -/
def member (t : TableDecl) (name : String) : String := t.name ++ "." ++ name

/-- A column name that cannot be used is an error, and a reserved one worth a warning. -/
def checkName (t : TableDecl) (name : String) : Except Error (List Issue) :=
  let lower := Text.lowerAscii name
  if Sql.forbiddenWords.contains lower then
    .error (.schema ("'" ++ name ++ "' cannot be used as a column name") (t.member name))
  else if Sql.quotedWords.contains lower then
    .ok [⟨t.member name, "reserved word; the column is always quoted"⟩]
  else .ok []

/-- The warnings on the columns of an index entry. -/
def checkEntry (t : TableDecl) (entry : String) : List Issue :=
  ((Naming.entryColumns entry).filter (!t.hasColumn ·)).map fun column =>
    ⟨t.member entry, "index column '" ++ column ++ "' is not declared"⟩

/-- The warnings on a declaration that can be used. -/
def validate (t : TableDecl) : Except Error (List Issue) := do
  if Text.isBlankText t.name then throw (.schema "table name is empty" "")
  if t.columns.isEmpty then throw (.schema "no columns declared" t.name)
  let warnings ← t.columnNames.mapM t.checkName
  match t.keyColumns.find? (!t.hasColumn ·) with
  | some key =>
    throw (.schema ("primary key column '" ++ key ++ "' is not declared") t.name)
  | none => pure ()
  return warnings.flatten ++ (t.indexes ++ t.uniques).flatMap t.checkEntry

end TableDecl

end TableMapper
