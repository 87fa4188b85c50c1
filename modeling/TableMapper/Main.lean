import TableMapper.CommandLine
import TableMapper.Scenario.Script
import TableMapper.Session.Registry
import TableMapper.Table.Reader

/-!
# The program

Reads declarations and prints the statements that make their tables, in an order in which every
table comes after those that it refers to.  The program has no connection to a server: a dry run is
one on an empty database, and any other run fails.
-/

namespace TableMapper

namespace Program

/-- How the program is called. -/
def usage : String :=
  "Usage: tablemapper [OPTIONS] --spec <FILE>...\n\n" ++
  "Options:\n" ++
  "  -d, --database <URL>           Address of the database\n" ++
  "      --schema <SCHEMA>          Schema of the tables [default: public]\n" ++
  "  -s, --spec <FILE>              File with a declaration; may be repeated\n" ++
  "      --dry-run                  Print the statements instead of running them\n" ++
  "      --drop-undeclared          Drop columns that are not declared\n" ++
  "      --force                    Change types even where contents are lost\n" ++
  "      --query-timeout <SECONDS>  Longest time of a statement [default: 30]\n" ++
  "      --log-level <LEVEL>        Level of messages [default: info]\n" ++
  "      --json-logs                Write messages as JSON\n" ++
  "  -h, --help                     Print help\n" ++
  "  -V, --version                  Print version"

/-- An empty database. -/
def emptyDatabase : Session Script :=
  { database := {}
    supply := { now := 0, counter := 0, random := .cycle [] } }

/-- What comes of the declared tables in a dry run on an empty database. -/
def dryRun (c : CommandLine) (decls : List TableDecl) : List (Except Error SyncReport) :=
  let s := { emptyDatabase with schema := c.schema, tables := Tables.ofList decls }
  let tables := decls.filterMap fun t => s.tables.get? t.name
  let options : SyncOptions :=
    { dryRun := true, dropUndeclared := c.dropUndeclared, force := c.force }
  match ((s.synchronizer options).syncAll tables).run.run s with
  | (.ok reports, _) => reports
  | (.error e, _) => [.error e]

/-- Reads a file with a declaration. -/
def readDecl (path : String) : IO (Except Error TableDecl) := do
  match ← (IO.FS.readFile path).toBaseIO with
  | .error e => return .error (.invalidInput ("cannot read " ++ path ++ ": " ++ toString e))
  | .ok text =>
    match TableDecl.read? text with
    | some t => return .ok t
    | none => return .error (.schema "invalid declaration" path)

/-- Reads files with declarations, up to the first one that fails. -/
def readDecls : List String → IO (Except Error (List TableDecl))
  | [] => return .ok []
  | path :: paths => do
    match ← readDecl path with
    | .error e => return .error e
    | .ok t => return (← readDecls paths).map (t :: ·)

/-- Prints what came of tables, and tells whether all went well. -/
def printReports : List (Except Error SyncReport) → IO Bool
  | [] => return true
  | .ok r :: reports => do
    for line in r.lines do IO.println line
    return (← printReports reports) && r.isOk
  | .error e :: reports => do
    IO.eprintln ("Table synchronization failed: " ++ e.message)
    let _ ← printReports reports
    return false

/-- Does what a command line asks for; the result is the exit code. -/
def run (c : CommandLine) (env : String → Option String) : IO UInt32 := do
  match ← readDecls c.specs with
  | .error e =>
    IO.eprintln ("Failed to load table declarations: " ++ e.message)
    return 1
  | .ok decls =>
    match c.connectOptions env with
    | .error f =>
      IO.eprintln ("Invalid connection configuration: " ++ f.message)
      return 1
    | .ok _ =>
      unless c.dryRun do
        IO.eprintln "Failed to connect: no server can be reached"
        return 1
      return if ← printReports (dryRun c decls) then 0 else 1

end Program

end TableMapper

/-- Reads the arguments and the environment, and does what they ask for. -/
def main (args : List String) : IO UInt32 := do
  let found ← TableMapper.CommandLine.variableNames.filterMapM fun name => do
    return (← IO.getEnv name).map (name, ·)
  let env (name : String) : Option String := found.lookup name
  match TableMapper.CommandLine.parse args env with
  | .ok c => TableMapper.Program.run c env
  | .error .help =>
    IO.println TableMapper.Program.usage
    return 0
  | .error .version =>
    IO.println "tablemapper 0.1.0"
    return 0
  | .error f =>
    IO.eprintln ("error: " ++ f.message)
    return 2
