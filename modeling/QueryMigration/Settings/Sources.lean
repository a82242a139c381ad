import QueryMigration.Settings.CommandLine
import QueryMigration.Settings.DotEnv
import QueryMigration.Settings.Document.Basic

/-! The sources of a setting, the first of which to say something decides. -/

namespace QueryMigration.Settings

open Text

inductive Key where
  | debug
  | noColor
  | summary
deriving DecidableEq, Repr

namespace Key

def switch : Key → Switch
  | .debug => .debug
  | .noColor => .noColor
  | .summary => .summary

def name : Key → Text
  | .debug => "debug".toList
  | .noColor => "no_color".toList
  | .summary => "summary".toList

def variableName : Key → String
  | .debug => "FIXSQL_DEBUG"
  | .noColor => "FIXSQL_NO_COLOR"
  | .summary => "FIXSQL_SUMMARY"

end Key

abbrev Environment := Entries String String

structure Sources where
  line : CommandLine
  environment : Environment
  document : List (Text × Document.Node)
  statements : Entries Text Text

namespace Sources

def ofLine (s : Sources) (k : Key) : Option Bool := s.line.value? k.switch

def ofEnvironment (s : Sources) (k : Key) : Option Bool :=
  match Entries.get? k.variableName s.environment with
  | some v => if v = "" then none else some (isTrue v)
  | none => none

/-- A setting in the document. Names count without regard to case, and null says nothing. -/
def ofDocument (s : Sources) (k : Key) : Option Bool :=
  match s.document.reverse.find? fun e => e.1.map Char.toLower = k.name with
  | some (_, n) => if n.isNull then none else some n.isOn
  | none => none

def statementStem : Text := "FIXSQL_".toList

/-- What one statement makes of a setting: its own value, or off where it names something below the
setting behind a dot. -/
def applyStatement (k : Key) (current : Option Bool) (statement : Text × Text) : Option Bool :=
  match strip? statementStem statement.1 with
  | none => current
  | some rest =>
    let key := rest.map Char.toLower
    if key = k.name then some (isTrue (String.ofList statement.2))
    else if (k.name ++ ['.']).isPrefixOf key then some false
    else current

def ofStatements (s : Sources) (k : Key) : Option Bool :=
  s.statements.foldl (applyStatement k) none

def resolve (s : Sources) (k : Key) : Bool :=
  (((s.ofLine k).or (s.ofEnvironment k)).or ((s.ofDocument k).or (s.ofStatements k))).getD false

end Sources

end QueryMigration.Settings

namespace QueryMigration

structure Settings where
  debug : Bool
  noColor : Bool
  summary : Bool
deriving DecidableEq, Repr

def Settings.ofSources (s : Settings.Sources) : Settings :=
  ⟨s.resolve .debug, s.resolve .noColor, s.resolve .summary⟩

end QueryMigration
