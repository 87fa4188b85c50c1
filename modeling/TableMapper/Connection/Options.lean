import TableMapper.Connection.Pool
import TableMapper.Text.Digits
import TableMapper.Url.Basic
import TableMapper.Url.Percent

/-!
# Connection options

* `ConnectOptions.parse` takes them from an address.  Parameters of the query that are options of
  the pool are taken out of it; the others are left for the driver.
* `ConnectOptions.ofVariables` takes them from environment variables.
* `OptionsFault` is what can be wrong with either.
-/

namespace TableMapper

/-- What can be wrong with connection options. -/
inductive OptionsFault where
  | url (fault : UrlError)
  | scheme (name : String)
  | host (fault : UrlError)
  | port (text : String)
  | user
  | password
  | pool (fault : PoolFault)
  deriving DecidableEq

/-- The text of a fault. -/
def OptionsFault.message : OptionsFault → String
  | .url f => "Invalid URL: " ++ f.message
  | .scheme name =>
    "Unsupported scheme '" ++ name ++ "': only postgres:// URLs are supported"
  | .host f => "Invalid PGHOST value: " ++ f.message
  | .port text => "Invalid PGPORT value: " ++ text
  | .user => "Invalid PGUSER value"
  | .password => "Invalid PGPASSWORD value"
  | .pool f => f.message

/-- How to connect to a database. -/
structure ConnectOptions where
  /-- The address for the driver. -/
  url : Url
  /-- The name of the database. -/
  database : Option String
  pool : PoolOptions
  /-- How many seconds a statement may take. -/
  queryTimeout : Nat

namespace ConnectOptions

/-- How many seconds a statement may take, unless something else is asked for. -/
def defaultQueryTimeout : Nat := 30

/-- The parameters of a query that are options of the pool. -/
def poolParameters : List String :=
  ["max_connections", "min_connections", "idle_timeout", "acquire_timeout", "test_before_acquire"]

/-- A parameter is an option of the pool, whatever the case of its letters. -/
def isPoolParameter (param : String × String) : Bool :=
  poolParameters.contains (Text.lowerAscii param.1)

/-- The value of an option, from its last occurrence. -/
def lastValue? (name : String) (params : List (String × String)) : Option String :=
  (params.reverse.find? fun p => Text.lowerAscii p.1 == name).map (·.2)

/-- A truth value in either case. -/
def truth? (s : String) : Option Bool :=
  match Text.lowerAscii s with
  | "true" => some true
  | "false" => some false
  | _ => none

/-- The options of the pool among the parameters of a query.  A value that cannot be read is
absent. -/
def poolOfParameters (params : List (String × String)) : PoolOptions where
  maxConnections := (lastValue? "max_connections" params).bind (Text.naturalBelow? (Nat.pow 2 32))
  minConnections := (lastValue? "min_connections" params).bind (Text.naturalBelow? (Nat.pow 2 32))
  idleTimeout := (lastValue? "idle_timeout" params).bind (Text.naturalBelow? (Nat.pow 2 64))
  acquireTimeout := (lastValue? "acquire_timeout" params).bind (Text.naturalBelow? (Nat.pow 2 64))
  testBeforeAcquire := (lastValue? "test_before_acquire" params).bind truth?

/-- The name of the database that an address names: the last segment of its path. -/
def databaseOf (u : Url) : Option String :=
  let name := Text.afterLast '/' u.path.text
  if name.isEmpty then none else some name

/-- The options in an address. -/
def parse (s : String) : Except OptionsFault ConnectOptions := do
  let url ← (Url.parse s).mapError .url
  if url.scheme != "postgres" && url.scheme != "postgresql" then throw (.scheme url.scheme)
  let params := (url.query.map Form.pairs).getD []
  let others := params.filter (!isPoolParameter ·)
  let url := url.setQuery (if others.isEmpty then none else some (Form.encode others))
  let pool := poolOfParameters params
  pool.check.mapError .pool
  return { url, database := databaseOf url, pool, queryTimeout := defaultQueryTimeout }

/-- The options of the pool in environment variables.  The number of connections is read as a
number of 64 bits, of which the lower 32 count. -/
def poolOfVariables (env : String → Option String) : PoolOptions where
  maxConnections :=
    ((env "PSQLORM_MAX_CONNECTIONS").bind (Text.naturalBelow? (Nat.pow 2 64))).map
      (· % Nat.pow 2 32)
  idleTimeout := (env "PSQLORM_IDLE_TIMEOUT").bind (Text.naturalBelow? (Nat.pow 2 64))
  acquireTimeout := (env "PSQLORM_ACQUIRE_TIMEOUT").bind (Text.naturalBelow? (Nat.pow 2 64))

/-- The options in environment variables. -/
def ofVariables (env : String → Option String) : Except OptionsFault ConnectOptions := do
  let host := (env "PGHOST").getD "localhost"
  let port ← match env "PGPORT" with
    | some p => match Text.naturalBelow? (Nat.pow 2 16) p with
      | some n => .ok n
      | none => .error (.port p)
    | none => .ok 5432
  let url ← (Url.parse ("postgres://" ++ host ++ ":" ++ toString port)).mapError .host
  let url ← match env "PGUSER" with
    | some user => match url.setUser? user with
      | some url => .ok url
      | none => .error .user
    | none => .ok url
  let url ← match env "PGPASSWORD" with
    | some password => match url.setPassword? password with
      | some url => .ok url
      | none => .error .password
    | none => .ok url
  let database := (env "PGDATABASE").filter (!·.isEmpty)
  let url := match database with
    | some name => url.setPath name
    | none => url
  let pool := poolOfVariables env
  pool.check.mapError .pool
  return { url, database, pool, queryTimeout := defaultQueryTimeout }

end ConnectOptions

end TableMapper
