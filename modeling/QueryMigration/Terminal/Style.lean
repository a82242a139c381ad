import QueryMigration.Text.Edit
import QueryMigration.Terminal.Display

/-! Styled messages: settled tabs and line ends, coloured lines, and padding to one width. -/

namespace QueryMigration.Terminal

open Text

def escapeChar : Char := '\x1b'

def sequence (codes : Text) : Text := escapeChar :: '[' :: (codes ++ ['m'])

def reset : Text := sequence ['0']

inductive Profile where
  | ascii
  | ansi
  | ansi256
  | trueColor
deriving DecidableEq, Repr

inductive Tone where
  | success
  | failure
  | secondary
deriving DecidableEq, Repr

/-- The display codes of a tone: bold, but for the secondary one, and the nearest colour that the
terminal has. -/
def Profile.codes? : Profile → Tone → Option Text
  | .ascii, _ => none
  | .ansi, .success => some "1;92".toList
  | .ansi, .failure => some "1;91".toList
  | .ansi, .secondary => some "36".toList
  | .ansi256, .success => some "1;38;5;48".toList
  | .ansi256, .failure => some "1;38;5;203".toList
  | .ansi256, .secondary => some "38;5;66".toList
  | .trueColor, .success => some "1;38;2;0;255;136".toList
  | .trueColor, .failure => some "1;38;2;255;68;68".toList
  | .trueColor, .secondary => some "38;2;108;117;125".toList

structure Style where
  plain : Bool
  profile : Profile
deriving DecidableEq, Repr

def settle : Text → Text
  | [] => []
  | '\r' :: '\n' :: r => '\n' :: settle r
  | c :: r => if c = '\t' then ' ' :: ' ' :: ' ' :: ' ' :: settle r else c :: settle r

def Profile.colour (profile : Profile) (tone : Tone) (line : Text) : Text :=
  match profile.codes? tone with
  | none => line
  | some codes => sequence codes ++ line ++ reset

def padding (full width : Nat) : Text := List.replicate (full - width) ' '

def Style.paint (style : Style) (tone : Tone) (t : Text) : Text :=
  if style.plain then t
  else
    let ls := (lines (settle t)).map (style.profile.colour tone)
    let full := (ls.map columns).foldl max 0
    unlines (ls.map fun l => l ++ padding full (columns l))

def Style.success (style : Style) (message : Text) : Text :=
  style.paint .success ("✓ ".toList ++ message) ++ ['\n']

def Style.failure (style : Style) (message : Text) : Text :=
  style.paint .failure ("✗ ".toList ++ message) ++ ['\n']

def Style.usage (style : Style) (command : Text) : Text :=
  "Usage: ".toList ++ command ++ " <file>\n".toList ++
    style.paint .secondary
      "Rewrites SQLite-style queries in <file> for PostgreSQL, in place.".toList ++ ['\n']

end QueryMigration.Terminal
