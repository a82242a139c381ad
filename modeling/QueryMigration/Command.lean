import QueryMigration.Host
import QueryMigration.SourceFile
import QueryMigration.Terminal.Summary
import QueryMigration.Release

/-! One run of the command: shells are answered first, then errors on the command line, help and
version. -/

namespace QueryMigration.Command

open Settings Terminal

def name : String := "fixsql"

structure State where
  disk : Disk
  logger : Log.Logger
  style : Style

/-- What a run is called with. Standard error may be closed, and what is written to it then is
lost. -/
structure Call where
  arguments : List String
  environment : Environment
  errorsOpen : Bool

structure Output where
  exitCode : Nat
  stdout : Text
  stderr : Text
deriving DecidableEq, Repr

inductive Error where
  | flags (cause : FlagError)
  | settings (cause : LoadError)
  | file (cause : SourceFile.Failure)
  | summary
  | request (message : String)
deriving DecidableEq, Repr

def Error.message : Error → String
  | .flags cause => cause.message
  | .settings cause => "failed to load config: " ++ cause.message
  | .file cause => cause.message
  | .summary => "failed to print summary: closed"
  | .request message => message

def helpLines : List String :=
  ["Rewrite a single source file in place for PostgreSQL.",
   "",
   "The file goes through four fixed passes:",
   "- ? placeholders inside backtick queries become $1, $2, ... (per line)",
   "- = 1 / = 0 flag comparisons and ? 1 : 0 become true / false",
   "- getOne, getAll and runQuery calls get an await",
   "- exported void/Response functions become async when the file needs it",
   "",
   "The passes are textual heuristics. Review the result before committing it.",
   "",
   "Usage:",
   "  fixsql <file> [flags]",
   "",
   "Flags:",
   "      --debug      Log each pass to stderr",
   "  -h, --help       help for fixsql",
   "      --no-color   Disable colored output",
   "      --summary    Print changed lines per pass to stderr",
   "  -v, --version    version for fixsql"]

def helpText : String := String.join (helpLines.map (· ++ "\n"))

def versionText : String := name ++ " version " ++ Release.current.describe ++ "\n"

def Call.received (call : Call) (t : Text) : Text := if call.errorsOpen then t else []

def failing (call : Call) (style : Style) (stdout written : Text) (e : Error) : Output :=
  ⟨1, stdout, call.received (written ++ style.failure ("Error: " ++ e.message).toList)⟩

def completion (report : SourceFile.Report) : Log.Record :=
  ⟨.info, "rewrite complete", [⟨"path", .text report.path⟩, ⟨"changed", .bool report.changed⟩]⟩

def summaryRows (report : SourceFile.Report) : List SummaryRow :=
  report.changes.map fun c => ⟨c.pass, c.lines⟩

/-- Migrates a file under settings that are known. The look and the logger change to what the
settings say, whatever becomes of the file. `written` stands on standard error already. -/
def migrateWith (state : State) (call : Call) (path : String) (settings : Settings)
    (written : Text) : State × Output :=
  let logger : Log.Logger := ⟨settings.debug⟩
  let style : Style := { state.style with plain := settings.noColor }
  let outcome := SourceFile.migrate state.disk path
  let after : State := ⟨outcome.disk, logger, style⟩
  let written := written ++ logger.write outcome.records
  match outcome.result with
  | .error e => (after, failing call style [] written (.file e))
  | .ok report =>
    let stdout := style.success ("Converted " ++ path).toList
    let written := written ++ logger.write [completion report]
    if settings.summary then
      if call.errorsOpen then
        (after, ⟨0, stdout, call.received (written ++ summary style.plain (summaryRows report))⟩)
      else (after, failing call style stdout written .summary)
    else (after, ⟨0, stdout, call.received written⟩)

/-- Migrates a file under the settings that are found. A warning about them goes to the logger that
the run before left. -/
def migrateFile (place : Place) (state : State) (call : Call) (host : Host) (line : CommandLine)
    (path : String) : State × Output :=
  let loaded := load state.disk place call.environment line host.visit
  let warned := state.logger.write loaded.records
  match loaded.result with
  | .error e => (state, failing call state.style [] warned (.settings e))
  | .ok settings => migrateWith state call path settings warned

def answer (call : Call) (style : Style) (reply : Reply) : Output :=
  match reply.error? with
  | none => ⟨0, reply.stdout, call.received reply.stderr⟩
  | some message => failing call style reply.stdout reply.stderr (.request message)

def run (place : Place) (state : State) (call : Call) (host : Host := .standard) : State × Output :=
  if isRequest call.arguments then
    (state, answer call state.style (host.reply call.arguments call.environment))
  else
    match CommandLine.parse Switch.all call.arguments with
    | .error e => (state, failing call state.style [] [] (.flags e))
    | .ok line =>
      if line.asks .help then (state, ⟨0, helpText.toList, []⟩)
      else if line.asks .version then (state, ⟨0, versionText.toList, []⟩)
      else
        match line.arguments with
        | [path] => migrateFile place state call host line path
        | _ => (state, ⟨1, state.style.usage name.toList, []⟩)

end QueryMigration.Command
