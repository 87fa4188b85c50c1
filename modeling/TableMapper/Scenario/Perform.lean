import TableMapper.Scenario.Request

/-!
# Performing requests

* `Call.run` is the effect of a call and `Request.run` that of a request, in a transaction or
  outside of one.
* `Body.run` is the effect of a body, whose requests are recorded.
* `Request.perform` is the record of a request outside of transactions.
-/

namespace TableMapper

variable {σ : Type}

namespace Source

/-- Takes a builder for a table, from the transaction or from the session. -/
def acquire (scope : Option Transaction) (table : String) (schema : Option String) (held : Bool) :
    SessionM σ Builder := do
  match scope with
  | some t =>
    if table.isEmpty then t.acquire (t.table.getD "") t.schema
    else t.acquire table (schema.getD t.schema)
  | none =>
    let default := (← get).schema
    if held then Session.acquire .pool table default .held
    else Session.acquire .pool table (schema.getD default) .inUse

/-- Uses the builder of a source. -/
def use (scope : Option Transaction) (m : BuilderM σ Reply) : Source → SessionM σ Reply
  | .kept name => return (← Session.withLease? name m).getD .nothing
  | .fresh table schema held => do
    let b ← acquire scope table schema held
    let (r, b) ← m.runFrom b
    Session.giveBack b
    liftExcept r

/-- Keeps the builder of a source under a name. -/
def keepAs (scope : Option Transaction) (name : String) : Source → SessionM σ Unit
  | .kept _ => pure ()
  | .fresh table schema held => do Session.keep name (← acquire scope table schema held)

end Source

variable [Backend σ]

/-- The effect of the end of the use of a builder. -/
def Finish.run : Finish → BuilderM σ Reply
  | .nothing => return .nothing
  | .select => .rows <$> BuilderM.select
  | .get => .row <$> BuilderM.get?
  | .insert row => .written <$> BuilderM.insert row
  | .insertAll rows => .written <$> BuilderM.insertAll rows
  | .update data => .written <$> BuilderM.update data
  | .delete => .written <$> BuilderM.delete
  | .count => .number <$> BuilderM.count
  | .aggregate function field form => .value <$> BuilderM.aggregate function field form
  | .query sql args => .output <$> BuilderM.query sql args
  | .preview t => .statement <$> BuilderM.preview t
  | .info => fun (builder, s) =>
    (.ok (.builder { builder, idle := (s.poolOf builder.target).idle.length }), (builder, s))

namespace TableCall

/-- Counts a page of an export, and stops at one of them. -/
def countPage (stop : Nat) (rows : List Row) : WithinM (List Nat) σ Unit := do
  WithinM.modifyOwn (· ++ [rows.length])
  if (← WithinM.own).length = stop then throw (.invalidInput "stopped by callback")

/-- The effect of a call of a table. -/
def run (t : TableDecl) : TableCall → SessionM σ Reply
  | .name => return .text t.name
  | .insert row o => return .row (some (← Rows.insert t row o))
  | .insertAll rows o => .written <$> Rows.insertAll t rows o
  | .update cond data o => .written <$> Rows.update t cond data o
  | .delete cond o => .written <$> Rows.delete t cond o
  | .get cond fields => .row <$> Rows.get? t cond fields
  | .list cond o => .rows <$> Rows.list t cond o
  | .count cond => .number <$> Rows.count t cond none
  | .aggregate function cond field form => .value <$> Rows.aggregate t function cond field form
  | .group groupBy o => .rows <$> Rows.group t groupBy o
  | .join kind other on o => .rows <$> Rows.join t kind other on o
  | .exportPages o => return (fun (ps, e) => .pages ps e) (← Rows.exportPages t o)
  | .exportUntil o page => do
    let (total, counts) ← (Rows.exportEach t o (countPage page)).runFrom []
    return .exported counts total
  | .importRows entries o => .imported <$> Rows.importRows t entries o
  | .check row quiet => return .row (some (← liftExcept (t.checkRow row quiet)))
  | .validate row => do
    liftExcept (t.validateRow row)
    return .flag true
  | .sync o => .report <$> Session.syncTable t o

end TableCall

/-- Does something with a registered table. -/
def withTable (name : String) (f : TableDecl → SessionM σ Reply) : SessionM σ Reply := do
  match (← get).tables.get? name with
  | some t => f t
  | none => return .noSuchTable

/-- Gives back the builders that the body of a transaction keeps, but for those with some names. -/
def Transaction.dropLeases (t : Transaction) (keep : List String) : SessionM σ Unit := do
  for (name, b) in (← get).leases do
    if b.target = t.target && !keep.contains name then
      let _ ← Session.free name

/-- The effect of a call, in a transaction or outside of one. -/
def Call.run (scope : Option Transaction) : Call σ → SessionM σ Reply
  | .build source clauses finish =>
    source.use scope do
      BuilderM.addAll clauses
      finish.run
  | .lease name source => do
    source.keepAs scope name
    return .nothing
  | .free name => .flag <$> Session.free name
  | .onTable table call => withTable table call.run
  | .raise e => throw e
  | .query sql args =>
    .output <$> match scope with
      | some t => t.query sql args
      | none => Session.query sql args
  | .schema => return .text (← get).schema
  | .setSchema name => (fun _ => .nothing) <$> Session.setSchema name
  | .applySearchPath => (fun _ => .nothing) <$> Session.applySearchPath
  | .createSchema name => (fun _ => .nothing) <$> Session.createSchema name
  | .register t => do
    Session.register t
    return .registered t (← get).schema
  | .tables => return .names (← get).tableNames
  | .hasTable name => return .flag ((← get).tables.get? name).isSome
  | .setMaxPool max => (fun _ => .nothing) <$> Session.setMaxPool max
  | .pool => return .pool (← get).pool
  | .close => (fun _ => .nothing) <$> Session.close
  | .listen table h => (fun _ => .nothing) <$> Session.listen table h
  | .hasHandlers table => return .flag ((← get).hasHandlers table)
  | .removeHandlers table => .flag <$> Session.removeHandlers table
  | .runHooks statements => do
    let hooks := statements.map fun sql => (fun _ => ()) <$> Session.query sql []
    return .number (← Session.runHooks hooks)
  | .sync table o => .report <$> Session.sync table o
  | .syncAll o => .reports <$> Session.syncAll o
  | .plan table o =>
    withTable table fun t => do
      let s ← get
      let (p, created) ← (s.synchronizer o).plan t
      return .plan s.schema t.name p created
  | .database change => do
    modify fun s => { s with database := change s.database }
    return .nothing

mutual

/-- The effect of a request, in a transaction or outside of one. -/
def Request.run (scope : Option Transaction) : Request σ → TransactionM Json σ Reply
  | .call c => (c.run scope).within
  | .fail message => (fun _ => .nothing) <$> TransactionM.fail message
  | .throwFailed message => TransactionM.throwFailed message
  | .setResult value => (fun _ => .nothing) <$> TransactionM.setResult value
  | .isFailed => .failed <$> TransactionM.isFailed
  | .transaction table keep asResult body =>
    SessionM.within do
      if let some name := table then
        if ((← get).tables.get? name).isNone then return .noSuchTable
      match ← Transaction.begin table with
      | .error o => return .transaction none [] o asResult
      | .ok t =>
        let began ← Session.takeJournal
        let ((records, returned), verdict) ← fun s =>
          let (r, (v, s)) := body.run t ({}, s)
          (.ok (r, v), s)
        t.dropLeases keep
        return .transaction (some began) records (← t.settle returned verdict) asResult

/-- The records of the requests of a body, and what it returns unless it fails. -/
def Body.run (t : Transaction) :
    Body σ → StateM (Verdict Json × Session σ) (List Record × Except Error Json)
  | .done value => return ([], .ok value)
  | .step request caught rest => do
    let r ← (request.run (some t)).run
    let journal ← modifyGet fun (v, s) => (s.journal, (v, { s with journal := [] }))
    match r, caught with
    | .error e, false => return ([(r, journal)], .error e)
    | _, _ =>
      let (records, returned) ← rest.run t
      return ((r, journal) :: records, returned)

end

/-- The record of a request outside of transactions. -/
def Request.perform (request : Request σ) : StateM (Session σ) Record :=
  fun s =>
    let (r, (_, s)) := request.run none ({}, s)
    ((r, s.journal), { s with journal := [] })

end TableMapper
