import TableMapper.Session.CatalogQuery

/-!
# A scripted database

A database that stores nothing and answers from a script, for trying out what a session sends.

* `Script` is the script: failures, a catalog and answers.
* `Script.answer` answers a statement: with a failure if one is due, else from the catalog if the
  statement asks for it, else as the script has it, and else with no rows.
-/

namespace TableMapper

/-- The answers to statements that contain a text.  They are given in turn, and the last one again
and again. -/
structure AnswerRule where
  pattern : String
  outputs : List QueryOutput

/-- The failure of statements that contain a text. -/
structure FailureRule where
  pattern : String
  error : Error
  /-- How often it still occurs; always if that is not said. -/
  times : Option Nat := none

/-- The catalog rows of a table. -/
structure ScriptedTable where
  columns : List Row := []
  indexes : List String := []
  foreignKeys : List String := []

/-- A script for a database. -/
structure Script where
  failures : List FailureRule := []
  answers : List AnswerRule := []
  catalog : List (String × ScriptedTable) := []
  /-- Why no connection can be checked out. -/
  connectError : Option Error := none

/-- The question to the catalog that a statement puts. -/
def CatalogQuery.ofSql? (sql : String) : Option CatalogQuery :=
  all.find? fun q => Text.contains q.relation sql

namespace ScriptedTable

/-- The row with a name. -/
def nameRow (key name : String) : Row := [(key, .string name)]

/-- The answer to a question about a table with this name. -/
def rows (t : ScriptedTable) (name : String) : CatalogQuery → List Row
  | .tables => [nameRow "table_name" name]
  | .columns => t.columns
  | .indexes => t.indexes.map (nameRow "indexname")
  | .foreignKeys => t.foreignKeys.map (nameRow "conname")

end ScriptedTable

namespace Script

/-- A failure rule applies to a statement. -/
def isDue (sql : String) (r : FailureRule) : Bool :=
  Text.contains r.pattern sql && r.times != some 0

/-- The rule after it was applied. -/
def used (r : FailureRule) : FailureRule := { r with times := r.times.map (· - 1) }

/-- The failure of a statement, and the rules after it. -/
def fail? (sql : String) : List FailureRule → Option (Error × List FailureRule)
  | [] => none
  | r :: rules =>
    if isDue sql r then some (r.error, used r :: rules)
    else (fail? sql rules).map fun (e, rules) => (e, r :: rules)

/-- The answer to a statement by the rules, and the rules after it. -/
def respond? (sql : String) : List AnswerRule → Option (QueryOutput × List AnswerRule)
  | [] => none
  | r :: rules =>
    if Text.contains r.pattern sql then
      match r.outputs with
      | [] => some ({}, r :: rules)
      | [o] => some (o, r :: rules)
      | o :: outputs => some (o, { r with outputs } :: rules)
    else (respond? sql rules).map fun (o, rules) => (o, r :: rules)

/-- An answer of rows. -/
def outputOf (rows : List Row) : QueryOutput := { rows, rowCount := rows.length }

/-- The answer to a question about the table that the second argument names. -/
def catalogRows (s : Script) (q : CatalogQuery) (args : List Value) : List Row :=
  match (args[1]?).bind (·.text?) with
  | none => []
  | some table =>
    match s.catalog.lookup table with
    | none => []
    | some t => t.rows table q

/-- The answer to a statement that the script does not know. -/
def defaultOutput (sql : String) : QueryOutput :=
  if Text.startsWith "SELECT" sql then {} else { rowCount := 1 }

/-- The answer to a statement, and the script after it. -/
def answer (sql : String) (args : List Value) (s : Script) : Except Error QueryOutput × Script :=
  match fail? sql s.failures with
  | some (e, failures) => (.error e, { s with failures })
  | none =>
    match CatalogQuery.ofSql? sql with
    | some q => (.ok (outputOf (s.catalogRows q args)), s)
    | none =>
      match respond? sql s.answers with
      | some (o, answers) => (.ok o, { s with answers })
      | none => (.ok (defaultOutput sql), s)

/-- The result of checking out a connection. -/
def connect (s : Script) : Except Error Unit × Script :=
  match s.connectError with
  | some e => (.error e, s)
  | none => (.ok (), s)

/-- The script with another one after it.  Tables that both have are as in the other one. -/
def extend (s more : Script) : Script :=
  { failures := s.failures ++ more.failures
    answers := s.answers ++ more.answers
    catalog := more.catalog ++ s.catalog
    connectError := more.connectError }

end Script

instance : Backend Script where
  answer _ sql args s := s.answer sql args
  connect := Script.connect

end TableMapper
