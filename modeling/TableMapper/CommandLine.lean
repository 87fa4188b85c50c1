import TableMapper.Connection.Options
import TableMapper.Sql.Identifier

/-!
# The command line

* `CommandLine` is what the command line asks for.
* `CommandLine.parse` reads the arguments in order.  What no argument gives is taken from an
  environment variable, then from a default.
* `CommandLineFault` is why there is nothing to do.
-/

namespace TableMapper

/-- Why a command line is not carried out. -/
inductive CommandLineFault where
  | missingRequired
  | invalidValue
  | valueValidation
  | unknownArgument
  | tooManyValues
  | argumentConflict
  | help
  | version
  deriving DecidableEq

/-- Why a command line is not carried out, in words. -/
def CommandLineFault.message : CommandLineFault → String
  | .missingRequired => "no declaration is given: use --spec FILE"
  | .invalidValue => "an option lacks its value, or has one that is not possible"
  | .valueValidation => "the value of an option is not a number"
  | .unknownArgument => "an argument is not known"
  | .tooManyValues => "an option without a value has one"
  | .argumentConflict => "an option is given twice"
  | .help => "help is asked for"
  | .version => "the version is asked for"

/-- What the command line asks for. -/
structure CommandLine where
  /-- The address of the database. -/
  database : Option String
  /-- The schema that the tables live in. -/
  schema : String
  /-- The files with the declarations. -/
  specs : List String
  /-- Print the statements instead of executing them. -/
  dryRun : Bool
  /-- Drop columns that are not declared. -/
  dropUndeclared : Bool
  /-- Change types even where the contents of a column are lost. -/
  force : Bool
  /-- How many seconds a statement may take. -/
  queryTimeout : Nat
  logLevel : String
  jsonLogs : Bool

namespace CommandLine

/-- An option with a value. -/
inductive Param where
  | database | schema | spec | queryTimeout | logLevel
  deriving DecidableEq

/-- An option without a value. -/
inductive Flag where
  | dryRun | dropUndeclared | force | jsonLogs
  deriving DecidableEq

/-- What the name of an option stands for. -/
inductive Switch where
  | param (p : Param)
  | flag (f : Flag)
  | help
  | version

/-- The option with a long name. -/
def Switch.ofLong? : String → Option Switch
  | "database" => some (.param .database)
  | "schema" => some (.param .schema)
  | "spec" => some (.param .spec)
  | "query-timeout" => some (.param .queryTimeout)
  | "log-level" => some (.param .logLevel)
  | "dry-run" => some (.flag .dryRun)
  | "drop-undeclared" => some (.flag .dropUndeclared)
  | "force" => some (.flag .force)
  | "json-logs" => some (.flag .jsonLogs)
  | "help" => some .help
  | "version" => some .version
  | _ => none

/-- The option with a short name. -/
def Switch.ofShort? : Char → Option Switch
  | 'd' => some (.param .database)
  | 's' => some (.param .spec)
  | 'h' => some .help
  | 'V' => some .version
  | _ => none

/-- What has been given so far. -/
structure Given where
  database : Option String := none
  schema : Option String := none
  specs : List String := []
  queryTimeout : Option Nat := none
  logLevel : Option String := none
  dryRun : Bool := false
  dropUndeclared : Bool := false
  force : Bool := false
  jsonLogs : Bool := false
  /-- An option whose value is still to come, or is not yet looked at. -/
  pending : Option (Param × Option String) := none

namespace Given

/-- The option has a value already. -/
def has (g : Given) : Param → Bool
  | .database => g.database.isSome
  | .schema => g.schema.isSome
  | .spec => false
  | .queryTimeout => g.queryTimeout.isSome
  | .logLevel => g.logLevel.isSome

/-- Gives an option its value.  Only the declaration files are a list. -/
def set (g : Given) (p : Param) (value : String) : Except CommandLineFault Given :=
  if g.has p then .error .argumentConflict
  else match p with
    | .database => .ok { g with database := some value }
    | .schema => .ok { g with schema := some value }
    | .spec =>
      if value.isEmpty then .error .invalidValue else .ok { g with specs := g.specs ++ [value] }
    | .queryTimeout => match Text.naturalBelow? (Nat.pow 2 64) value with
      | some n => .ok { g with queryTimeout := some n }
      | none => .error .valueValidation
    | .logLevel => .ok { g with logLevel := some value }

/-- Sets a flag, which may be done once. -/
def raise (g : Given) : Flag → Except CommandLineFault Given
  | .dryRun => if g.dryRun then .error .argumentConflict else .ok { g with dryRun := true }
  | .dropUndeclared =>
    if g.dropUndeclared then .error .argumentConflict else .ok { g with dropUndeclared := true }
  | .force => if g.force then .error .argumentConflict else .ok { g with force := true }
  | .jsonLogs => if g.jsonLogs then .error .argumentConflict else .ok { g with jsonLogs := true }

/-- Looks at the value of the option before. -/
def settle (g : Given) : Except CommandLineFault Given :=
  match g.pending with
  | none => .ok g
  | some (_, none) => .error .invalidValue
  | some (p, some value) => { g with pending := none }.set p value

/-- An option, with a value if one is attached to its name. -/
def option (g : Given) (attached : Option String) : Switch → Except CommandLineFault Given
  | .param p => do
    let g ← g.settle
    match attached with
    | some value => g.set p value
    | none => .ok { g with pending := some (p, none) }
  | .flag f => do
    if attached.isSome then throw .tooManyValues
    (← g.settle).raise f
  | .help => do
    if attached.isSome then throw .tooManyValues
    let _ ← g.settle
    throw .help
  | .version => do
    if attached.isSome then throw .tooManyValues
    let _ ← g.settle
    throw .version

/-- An argument that is no option: the value of the option before. -/
def value (g : Given) (text : String) : Except CommandLineFault Given :=
  match g.pending with
  | some (p, none) => .ok { g with pending := some (p, some text) }
  | _ => .error .unknownArgument

/-- Short options in one argument.  The first one with a value takes the rest, without an equals
sign at its front. -/
def shorts (g : Given) : List Char → Except CommandLineFault Given
  | [] => .ok g
  | c :: cs =>
    match Switch.ofShort? c with
    | none => .error .unknownArgument
    | some (.param p) =>
      match cs with
      | [] => g.option none (.param p)
      | '=' :: rest => g.option (some (String.ofList rest)) (.param p)
      | rest => g.option (some (String.ofList rest)) (.param p)
    | some switch => do (← g.option none switch).shorts cs

/-- A long option, with the value after the first equals sign. -/
def long (g : Given) (cs : List Char) : Except CommandLineFault Given :=
  let (name, attached) := match Text.cutWhere? (· == '=') cs with
    | some (name, value) => (name, some (String.ofList value))
    | none => (cs, none)
  match Switch.ofLong? (String.ofList name) with
  | none => .error .unknownArgument
  | some switch => g.option attached switch

/-- The arguments.  After a lone double hyphen none is an option. -/
def arguments (g : Given) : List String → Except CommandLineFault Given
  | [] => g.settle
  | arg :: rest => do
    match arg.toList with
    | ['-', '-'] => if rest.isEmpty then g.settle else throw .unknownArgument
    | '-' :: '-' :: cs => (← g.long cs).arguments rest
    | '-' :: c :: cs => (← g.shorts (c :: cs)).arguments rest
    | _ => (← g.value arg).arguments rest

/-- An option takes the value of a variable where no argument gave one. -/
def orVariable (p : Param) (value : Option String) (g : Given) : Except CommandLineFault Given :=
  match value with
  | some text => if g.has p then .ok g else g.set p text
  | none => .ok g

/-- A flag takes the value of a variable, `true` or `false`, where no argument set it. -/
def orTruth (value : Option String) (g : Given) : Except CommandLineFault Given :=
  match value with
  | none => .ok g
  | some text =>
    if g.jsonLogs then .ok g
    else if text == "true" then .ok { g with jsonLogs := true }
    else if text == "false" then .ok g
    else .error .invalidValue

end Given

/-- The environment variables that count. -/
def variableNames : List String :=
  ["PSQLORM_DATABASE_URL", "PSQLORM_SCHEMA", "PSQLORM_QUERY_TIMEOUT", "PSQLORM_LOG_LEVEL",
    "PSQLORM_JSON_LOGS", "PSQLORM_MAX_CONNECTIONS", "PSQLORM_IDLE_TIMEOUT",
    "PSQLORM_ACQUIRE_TIMEOUT", "PGHOST", "PGPORT", "PGUSER", "PGPASSWORD", "PGDATABASE"]

/-- What arguments and environment variables ask for. -/
def parse (args : List String) (env : String → Option String) :
    Except CommandLineFault CommandLine := do
  let g ← ({} : Given).arguments args
  let g ← g.orVariable .database (env "PSQLORM_DATABASE_URL")
  let g ← g.orVariable .schema (env "PSQLORM_SCHEMA")
  let g ← g.orVariable .queryTimeout (env "PSQLORM_QUERY_TIMEOUT")
  let g ← g.orVariable .logLevel (env "PSQLORM_LOG_LEVEL")
  let g ← g.orTruth (env "PSQLORM_JSON_LOGS")
  if g.specs.isEmpty then throw .missingRequired
  return {
    database := g.database
    schema := g.schema.getD Sql.defaultSchema
    specs := g.specs
    dryRun := g.dryRun
    dropUndeclared := g.dropUndeclared
    force := g.force
    queryTimeout := g.queryTimeout.getD ConnectOptions.defaultQueryTimeout
    logLevel := g.logLevel.getD "info"
    jsonLogs := g.jsonLogs }

/-- The connection options that the command line asks for: those in the address, or those in the
environment. -/
def connectOptions (c : CommandLine) (env : String → Option String) :
    Except OptionsFault ConnectOptions := do
  let options ← match c.database with
    | some address => ConnectOptions.parse address
    | none => ConnectOptions.ofVariables env
  return { options with queryTimeout := c.queryTimeout }

end CommandLine

end TableMapper
