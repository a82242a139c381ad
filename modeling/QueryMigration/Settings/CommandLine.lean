import QueryMigration.Settings.Truth
import QueryMigration.Text.Quoted

/-! Command lines: switches, each with a truth value behind `=` or true, among other arguments. -/

namespace QueryMigration.Settings

open Text

inductive Switch where
  | debug
  | noColor
  | summary
  | help
  | version
deriving DecidableEq, Repr

namespace Switch

def name : Switch → String
  | .debug => "debug"
  | .noColor => "no-color"
  | .summary => "summary"
  | .help => "help"
  | .version => "version"

def letter? : Switch → Option Char
  | .help => some 'h'
  | .version => some 'v'
  | _ => none

def title (s : Switch) : String :=
  match s.letter? with
  | some c => "-" ++ String.singleton c ++ ", --" ++ s.name
  | none => "--" ++ s.name

def settings : List Switch := [.debug, .noColor, .summary]

def all : List Switch := settings ++ [.help, .version]

end Switch

inductive FlagError where
  | badSyntax (argument : String)
  | unknownName (name : String)
  | unknownLetter (letters : Text)
  | badValue (switch : Switch) (value : String)
  | helpRequested
deriving DecidableEq, Repr

/-- The character by which messages show a letter: a letter beyond ASCII by the first character of
a two-byte encoding. -/
def shownLetter (letters : Text) : Char :=
  match letters with
  | c :: _ => if c.toNat < 0x80 then c else '\u00c3'
  | [] => ' '

def quoted (s : String) : String := String.ofList (Quoted.quote s.toList)

def FlagError.message : FlagError → String
  | .badSyntax argument => "bad flag syntax: " ++ argument
  | .unknownName name => "unknown flag: --" ++ name
  | .unknownLetter letters =>
    "unknown shorthand flag: " ++ String.ofList (Quoted.quoteChar (shownLetter letters)) ++
      " in -" ++ String.ofList letters
  | .badValue switch value =>
    "invalid argument " ++ quoted value ++ " for " ++ quoted switch.title ++
      " flag: strconv.ParseBool: parsing " ++ quoted value ++ ": invalid syntax"
  | .helpRequested => "pflag: help requested"

structure CommandLine where
  given : List (Switch × Bool)
  arguments : List String
deriving DecidableEq, Repr

namespace CommandLine

def value? (line : CommandLine) (s : Switch) : Option Bool :=
  (line.given.reverse.find? (·.1 = s)).map (·.2)

def asks (line : CommandLine) (s : Switch) : Bool := line.value? s == some true

def setTo (s : Switch) (value : Text) : Except FlagError (Switch × Bool) :=
  match truth? (String.ofList value) with
  | some b => .ok (s, b)
  | none => .error (.badValue s (String.ofList value))

def readName (known : List Switch) (t : Text) : Except FlagError (List (Switch × Bool)) :=
  let name := t.takeWhile (· != '=')
  if t.head?.all fun c => c == '-' || c == '=' then
    .error (.badSyntax (String.ofList ('-' :: '-' :: t)))
  else
    match known.find? (·.name == String.ofList name) with
    | none =>
      if name = "help".toList then .error .helpRequested
      else .error (.unknownName (String.ofList name))
    | some s =>
      match t.dropWhile (· != '=') with
      | _ :: value => (setTo s value).map ([·])
      | [] => .ok [(s, true)]

/-- Reads what stands behind one hyphen: letters, the last of which may have a value behind `=`.
Letters that begin `test.` belong to test runs and say nothing. -/
def readLetters (known : List Switch) : Text → Except FlagError (List (Switch × Bool))
  | [] => .ok []
  | c :: r =>
    if "test.".toList.isPrefixOf (c :: r) then .ok []
    else
      match known.find? (·.letter? == some c) with
      | none => if c = 'h' then .error .helpRequested else .error (.unknownLetter (c :: r))
      | some s =>
        match r with
        | '=' :: v :: value => (setTo s (v :: value)).map ([·])
        | _ => (readLetters known r).map ((s, true) :: ·)

def parse (known : List Switch) : List String → Except FlagError CommandLine
  | [] => .ok ⟨[], []⟩
  | a :: rest =>
    match a.toList with
    | ['-', '-'] => .ok ⟨[], rest⟩
    | '-' :: '-' :: t => do
      let given ← readName known t
      let line ← parse known rest
      return { line with given := given ++ line.given }
    | '-' :: c :: t => do
      let given ← readLetters known (c :: t)
      let line ← parse known rest
      return { line with given := given ++ line.given }
    | _ => do
      let line ← parse known rest
      return { line with arguments := a :: line.arguments }

end CommandLine

end QueryMigration.Settings
