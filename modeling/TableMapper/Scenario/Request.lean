import TableMapper.Rows.Export
import TableMapper.Rows.Import
import TableMapper.Session.Registry

/-!
# Requests and replies

A scenario is a list of requests to a session.

* `Call` is a call of the session, of a builder or of a table, and `Request` one of these or a
  transaction, whose `Body` is made of requests.
* `Reply` is what a request comes to, `Record` the same with what was done on the way.
-/

namespace TableMapper

/-- Where the builder for a request comes from. -/
inductive Source where
  /-- It is kept under a name. -/
  | kept (name : String)
  /-- It is taken for a table; the empty name stands for that of the transaction, if there is one.
  A builder that is held is one in the schema of the session. -/
  | fresh (table : String) (schema : Option String) (held : Bool)

/-- How the use of a builder ends. -/
inductive Finish where
  | nothing
  | select
  | get
  | insert (row : Row)
  | insertAll (rows : List Row)
  | update (data : UpdateData)
  | delete
  | count
  | aggregate (function field : String) (form : Option Coercion)
  | query (sql : String) (args : List Value)
  /-- The statement of a terminal, which is not run. -/
  | preview (t : Terminal)
  /-- What is known of the builder. -/
  | info

/-- A call of a table. -/
inductive TableCall where
  | name
  | insert (row : Row) (o : WriteOptions)
  | insertAll (rows : List Row) (o : WriteOptions)
  | update (cond : Condition) (data : UpdateData) (o : WriteOptions)
  | delete (cond : Condition) (o : WriteOptions)
  | get (cond : Condition) (fields : List String)
  | list (cond : Condition) (o : ListOptions)
  | count (cond : Condition)
  | aggregate (function : String) (cond : Condition) (field : String) (form : Option Coercion)
  | group (groupBy : String) (o : GroupOptions)
  | join (kind : JoinKind) (other on : String) (o : JoinOptions)
  | exportPages (o : ExportOptions)
  /-- An export that is stopped at a page, counted from one. -/
  | exportUntil (o : ExportOptions) (page : Nat)
  | importRows (entries : List Json) (o : ImportOptions)
  | check (row : Row) (quiet : Bool)
  | validate (row : Row)
  | sync (o : SyncOptions)

/-- A call that is over at once, of a session over a database with states of type `σ`. -/
inductive Call (σ : Type) where
  /-- Uses a builder. -/
  | build (source : Source) (clauses : List Clause) (finish : Finish)
  /-- Keeps a builder under a name. -/
  | lease (name : String) (source : Source)
  /-- Gives back the builder kept under a name. -/
  | free (name : String)
  /-- Calls a registered table. -/
  | onTable (table : String) (call : TableCall)
  /-- Fails. -/
  | raise (e : Error)
  /-- Runs a statement on the connection of the transaction, or on any. -/
  | query (sql : String) (args : List Value)
  | schema
  | setSchema (name : String)
  | applySearchPath
  | createSchema (name : String)
  | register (t : TableDecl)
  | tables
  | hasTable (name : String)
  | setMaxPool (max : Nat)
  | pool
  | close
  | listen (table : String) (h : Handler)
  | hasHandlers (table : String)
  | removeHandlers (table : String)
  /-- Runs statements, whatever comes of each, and counts the successes. -/
  | runHooks (statements : List String)
  | sync (table : String) (o : SyncOptions)
  | syncAll (o : SyncOptions)
  | plan (table : String) (o : SyncOptions)
  /-- The database changes. -/
  | database (change : σ → σ)

mutual

/-- A request to a session, or to its open transaction. -/
inductive Request (σ : Type) where
  | call (c : Call σ)
  /-- Marks the transaction as failed. -/
  | fail (message : String)
  /-- Marks the transaction as failed, and fails. -/
  | throwFailed (message : String)
  /-- Sets the result of the transaction. -/
  | setResult (value : Json)
  /-- Whether the transaction is marked as failed. -/
  | isFailed
  /-- Runs a transaction, on a table or without one.  The builders that its body keeps are given
  back at its end, but for those with these names.  The outcome may be wanted as a result. -/
  | transaction (table : Option String) (keep : List String) (asResult : Bool) (body : Body σ)

/-- What runs in a transaction. -/
inductive Body (σ : Type) where
  /-- Returns. -/
  | done (value : Json)
  /-- Runs a request and then the rest.  A failure ends the body unless it is caught. -/
  | step (r : Request σ) (caught : Bool) (rest : Body σ)

end

/-- What is known of a builder. -/
structure BuilderInfo where
  builder : Builder
  /-- How many builders are idle in its pool. -/
  idle : Nat

/-- What a request comes to. -/
inductive Reply where
  | nothing
  | text (s : String)
  | flag (b : Bool)
  | number (n : Int)
  | value (v : Json)
  | row (r : Option Row)
  | rows (rs : List Row)
  | written (r : WriteResult)
  | output (o : QueryOutput)
  | statement (s : Statement)
  | names (ns : List String)
  | builder (i : BuilderInfo)
  | pool (p : BuilderPool)
  | registered (t : TableDecl) (schema : String)
  | report (r : SyncReport)
  | reports (rs : List (Except Error SyncReport))
  /-- A plan for a table of a schema, and whether the table has to be created. -/
  | plan (schema table : String) (p : Plan) (created : Bool)
  /-- The pages of an export, and the error that ended it, if one did. -/
  | pages (ps : List (List Row)) (e : Option Error)
  /-- The lengths of the pages of an export, and their sum unless it failed. -/
  | exported (pages : List Nat) (total : Except Error Nat)
  | imported (r : ImportReport)
  /-- What was done to begin a transaction, if it began; what its body came to; and its outcome,
  which may be wanted as a result. -/
  | transaction (began : Option Journal) (body : List (Except Error Reply × Journal))
    (outcome : Outcome Json) (asResult : Bool)
  /-- Whether the transaction is marked as failed. -/
  | failed (b : Bool)
  /-- The table is not registered. -/
  | noSuchTable

/-- What a request came to, and what was done for it. -/
abbrev Record := Except Error Reply × Journal

end TableMapper
