/-!
# Errors

`Error` is what an operation of this library fails with.  `Error.message` is its text,
`Error.sqlState?` and `Error.suggestion?` what the server and the library add to it, and
`Error.isRetryable` whether the same call may succeed later.
-/

namespace TableMapper

/-- The causes of failure. -/
inductive Error where
  /-- A builder or handle was used in a way its contract forbids. -/
  | usage (text : String)
  /-- The server could not be reached. -/
  | connection (text suggestion : String)
  /-- The server refused a statement. -/
  | database (text : String) (sqlState : Option String) (suggestion : String)
  /-- A declaration cannot be turned into a schema. -/
  | schema (text object : String)
  /-- A transaction did not commit. -/
  | transaction (text : String)
  /-- An operation took longer than it was given. -/
  | timeout (operation : String) (seconds : Nat)
  /-- A value that the caller passed in was refused. -/
  | invalidInput (text : String)
  /-- Something that should not happen. -/
  | internal (text : String)
  deriving DecidableEq, Inhabited

namespace Error

/-- The text shown for an error. -/
def message : Error → String
  | .usage m => "Usage error: " ++ m
  | .connection m _ => "Connection failed: " ++ m
  | .database m _ _ => "Database error: " ++ m
  | .schema m o => "Schema error: " ++ m ++ " (object: " ++ o ++ ")"
  | .transaction m => "Transaction failed: " ++ m
  | .timeout o s => "Timeout: " ++ o ++ " exceeded " ++ toString s ++ "s"
  | .invalidInput m => "Invalid input: " ++ m
  | .internal m => "Internal error: " ++ m

/-- What to do about the error, where the library knows. -/
def suggestion? : Error → Option String
  | .connection _ s => some s
  | .database _ _ s => some s
  | _ => none

/-- The SQLSTATE that the server reported. -/
def sqlState? : Error → Option String
  | .database _ code _ => code
  | _ => none

/-- Trying again may help when the server was not reached or not in time. -/
def isRetryable : Error → Bool
  | .connection .. => true
  | .timeout .. => true
  | _ => false

end Error

end TableMapper
