import QueryMigration.Settings.Sources
import QueryMigration.Disk.Basic
import QueryMigration.Log

/-! Finding the settings of a run on a disk. A local file of statements that is refused is left out
with a warning. -/

namespace QueryMigration.Settings

open Text

structure Place where
  working : String
  home : String
deriving DecidableEq, Repr

def documentName : String := ".fixsql"

def documentEndings : List String :=
  ["json", "toml", "yaml", "yml", "properties", "props", "prop", "hcl", "tfvars", "dotenv", "env",
   "ini"].map ("." ++ ·) ++ [""]

def inDirectory (directory name : String) : String :=
  (Path.ofString (directory ++ "/" ++ name)).toString

def documentPaths (place : Place) : List String :=
  [place.working, place.home, inDirectory place.home ".config/fixsql"].flatMap fun directory =>
    documentEndings.map fun ending => inDirectory directory (documentName ++ ending)

def statementsPath : String := ".env"

inductive LoadError where
  | unreadable (cause : DiskError)
  | malformed (cause : Document.Error)
deriving DecidableEq, Repr

def LoadError.message : LoadError → String
  | .unreadable cause => "failed to read config file: " ++ cause.message
  | .malformed cause => "failed to read config file: While parsing config: " ++ cause.message

def hasDocument (d : Disk) (path : String) : Bool :=
  match d.stat path with
  | .ok f => !f.folder
  | .error _ => false

def documentPath? (d : Disk) (place : Place) : Option String :=
  (documentPaths place).find? (hasDocument d)

def loadDocument (d : Disk) (place : Place) : Except LoadError (List (Text × Document.Node)) :=
  match documentPath? d place with
  | none => .ok []
  | some path =>
    match d.read path with
    | .error e => .error (.unreadable e)
    | .ok f => (Document.parse f.bytes).mapError .malformed

/-- The statements of the local file, or why it is refused. A file that cannot be read has none. -/
def loadStatements (d : Disk) : Except DotEnv.Error (Entries Text Text) :=
  match d.read statementsPath with
  | .error _ => .ok []
  | .ok f => DotEnv.parse f.bytes

def refusal (e : DotEnv.Error) : Log.Record :=
  ⟨.warn, "ignoring .env", [⟨"error", .runes e.message⟩]⟩

structure Loaded where
  records : List Log.Record
  result : Except LoadError Settings

/-- An order in which statements are visited. Their file does not tell it. -/
structure Visiting where
  order : Entries Text Text → Entries Text Text
  perm : ∀ statements, (order statements).Perm statements

def Visiting.asWritten : Visiting := ⟨id, fun _ => .refl _⟩

def load (d : Disk) (place : Place) (environment : Environment) (line : CommandLine)
    (visit : Visiting := .asWritten) : Loaded :=
  let statements := loadStatements d
  let records := match statements with
    | .ok _ => []
    | .error e => [refusal e]
  let known := match statements with
    | .ok entries => entries
    | .error _ => []
  let result := (loadDocument d place).map fun document =>
    Settings.ofSources ⟨line, environment, document, visit.order known⟩
  ⟨records, result⟩

end QueryMigration.Settings
