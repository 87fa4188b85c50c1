import TableMapper.Error
import TableMapper.Json.Printer
import TableMapper.Postgres.Decode
import TableMapper.Sql.Output
import TableMapper.Text.Letter
import TableMapper.Text.Search
import TableMapper.Value

/-!
# Statements on the wire

* `DriverFailure` is a failure below this library, `DriverFailure.toError` the error that it is
  reported as.
* `DriverFailure.stateAdvice` and `DriverFailure.connectionAdvice` say what to do about it.
* `Wire.parameter` is the type and the bytes that a value is sent as.
* `ServerReply` is how a server reacts to a statement, `ServerReply.outcome` what becomes of the
  statement.
-/

namespace TableMapper

/-- What went wrong between this library and the server. -/
inductive DriverFailure where
  /-- The server reports an error, with its SQLSTATE. -/
  | server (message : String) (code : Option String)
  | configuration (message : String)
  | poolTimedOut
  | poolClosed
  | io (message : String)
  | tls (message : String)
  | protocol (message : String)
  | columnDecode (index message : String)
  | rowNotFound
  | workerCrashed
  | columnNotFound (name : String)

namespace DriverFailure

/-- Advice for an SQLSTATE. -/
def stateAdvice : Option String → String
  | some "42P01" => "The table does not exist yet; run sync for it first"
  | some "42703" => "A referenced column is not in the live table; re-run sync"
  | some "23505" => "A row with the same unique key already exists"
  | some "23503" => "The referenced row is missing or still referenced"
  | some "23502" => "A NOT NULL column was left empty and has no default"
  | some "22P02" => "A value could not be cast to the column type"
  | some "40001" | some "40P01" => "Serialization conflict; the caller may retry"
  | some code =>
    if Text.startsWith "42" code then "Check the statement syntax and referenced objects"
    else "Check the statement and the live schema"
  | none => "Check the statement and the live schema"

/-- Advice for a connection that fails with this text. -/
def connectionAdvice (message : String) : String :=
  let lower := Text.lowerAscii message
  let has (words : String) : Bool := Text.contains words lower
  if has "password" || has "authentication" then "Check the username and password"
  else if has "does not exist" then "Check that the database exists"
  else if has "refused" || has "timed out" then
    "Check that PostgreSQL is running and reachable"
  else "Check the connection URL and server status"

/-- The error that a failure is reported as. -/
def toError : DriverFailure → Error
  | .server message code => .database message code (stateAdvice code)
  | .configuration m => .connection m "Check the postgres:// URL and credentials"
  | .poolTimedOut => .timeout "connection acquire" 30
  | .poolClosed => .connection "Connection pool is closed" "The Orm was ended; build a new one"
  | .io m =>
    .connection ("I/O error: " ++ m) "Check that the PostgreSQL server is reachable"
  | .tls m =>
    .connection ("TLS error: " ++ m) "Build with tls-native or tls-rustls and check sslmode"
  | .protocol m => .connection ("Protocol error: " ++ m) "Check the server is PostgreSQL"
  | .columnDecode index m => .internal ("cannot decode column " ++ index ++ ": " ++ m)
  | .rowNotFound =>
    .internal ("driver error: " ++
      "no rows returned by a query that expected to return at least one row")
  | .workerCrashed =>
    .internal "driver error: attempted to communicate with a crashed background worker"
  | .columnNotFound name => .internal ("driver error: no column found for name: " ++ name)

/-- The error of a connection that the server refuses. -/
def refused (message : String) : Error :=
  let text := "error returned from database: " ++ message
  .connection ("Failed to connect: " ++ text) (connectionAdvice text)

end DriverFailure

namespace Wire

/-- The lowest `size` bytes of a number, the first of them the most significant. -/
def bytesOf : Nat → Nat → List UInt8
  | 0, _ => []
  | size + 1, n => bytesOf size (n / 256) ++ [UInt8.ofNat (n % 256)]

/-- The type and the bytes of an argument; NULL has no bytes. -/
def parameter : Value → ColumnType × Option (List UInt8)
  | .null => (25, none)
  | .bool b => (16, some [if b then 1 else 0])
  | .int n => (20, some (bytesOf 8 (n % Nat.pow 2 64).toNat))
  | .double x => (701, some (bytesOf 8 x.toBits))
  | .text s => (25, some (Utf8.encode s))
  | .json d => (3802, some (1 :: Utf8.encode d.render))

/-- The number of rows that a completed command reports after the last space of its tag. -/
def affected (tag : String) : Nat :=
  match Text.cutWhere? (· == ' ') tag.toList.reverse with
  | none => 0
  | some (back, _) =>
    let digits (cs : List Char) := Text.decimalValue (cs.takeWhile Text.isDigit)
    let n := match back.reverse with
      | '+' :: cs => digits cs
      | cs => digits cs
    if n < Nat.pow 2 64 then n else 0

end Wire

/-- How a server reacts to a statement. -/
inductive ServerReply where
  /-- It sends rows, and the tag of the completed command. -/
  | rows (columns : List (String × ColumnType)) (rows : List (List (Option (List UInt8))))
      (tag : String)
  /-- It reports an error. -/
  | error (message code : String)
  /-- It does not let the client in. -/
  | refused (message : String)
  /-- It does not answer before `millis` milliseconds have passed. -/
  | silence (millis : Nat)

/-- What becomes of a statement that a server reacts to like this. -/
def ServerReply.outcome : ServerReply → Except Error QueryOutput
  | .rows columns sent tag =>
    .ok { rows := sent.map (Wire.row columns), rowCount := max sent.length (Wire.affected tag) }
  | .error message code => .error (DriverFailure.server message (some code)).toError
  | .refused message => .error (DriverFailure.refused message)
  | .silence millis => .error (.timeout "statement execution" (millis / 1000))

/-- The statement reaches the server. -/
def ServerReply.isReached : ServerReply → Bool
  | .refused _ => false
  | _ => true

end TableMapper
