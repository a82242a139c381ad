import QueryMigration.Text.Rune

/-! Diagnostic records and the lines they are written on, quoted where they could be misread. -/

namespace QueryMigration.Log

open Text

inductive Level where
  | debug
  | info
  | warn
deriving DecidableEq, Repr

def Level.name : Level → String
  | .debug => "DEBUG"
  | .info => "INFO"
  | .warn => "WARN"

inductive Value where
  | text (s : String)
  | runes (t : List Rune)
  | int (i : Int)
  | bool (b : Bool)
  | null
deriving DecidableEq, Repr

structure Field where
  key : String
  value : Value
deriving DecidableEq, Repr

structure Record where
  level : Level
  message : String
  fields : List Field
deriving DecidableEq, Repr

def missingKey : String := "!BADKEY"

/-- Reads a list of values as fields: a text is the key of the value behind it, and any value that
cannot be paired so stands alone under `missingKey`. -/
def Field.ofValues : List Value → List Field
  | [] => []
  | .text key :: value :: rest => ⟨key, value⟩ :: ofValues rest
  | value :: rest => ⟨missingKey, value⟩ :: ofValues rest

def forcesQuotes (c : Char) : Bool :=
  if c.toNat < 0x80 then c.toNat ≤ 0x20 || c == '=' || c == Quoted.doubleQuote
  else c == '\ufffd' || isBlank c || !isPrintable c

def word (t : List Rune) : Text :=
  if t.isEmpty || t.any (forcesQuotes ·.shown) then Rune.quote t else t.map Rune.shown

def Value.written : Value → Text
  | .text s => word (Rune.ofString s)
  | .runes t => word t
  | .int i => i.repr.toList
  | .bool b => if b then "true".toList else "false".toList
  | .null => "<nil>".toList

def Field.written (f : Field) : Text :=
  if f = ⟨"", .null⟩ then [] else ' ' :: (word (Rune.ofString f.key) ++ '=' :: f.value.written)

def Record.line (r : Record) : Text :=
  "level=".toList ++ r.level.name.toList ++ " msg=".toList ++ word (Rune.ofString r.message) ++
    r.fields.flatMap Field.written ++ ['\n']

/-- A logger writes every record or none. It writes to the standard error of its process, which all
runs of the process share. -/
structure Logger where
  enabled : Bool
deriving DecidableEq, Repr

def Logger.off : Logger := ⟨false⟩

def Logger.write (logger : Logger) (records : List Record) : Text :=
  if logger.enabled then records.flatMap Record.line else []

end QueryMigration.Log
