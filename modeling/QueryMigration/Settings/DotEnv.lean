import QueryMigration.Entries
import QueryMigration.Text.Rune

/-! Files of `NAME=value` statements. A file is taken as a whole or not at all. -/

namespace QueryMigration.Settings.DotEnv

open Text

inductive Error where
  | badName (found : Char) (statement : List Rune)
  | missingName
  | unterminated (value : List Rune)
deriving DecidableEq, Repr

-- The statement is shown with its stray bytes escaped, an unterminated value with them as they are.
def Error.message : Error → List Rune
  | .badName found statement =>
    Rune.ofString "unexpected character " ++ (Quoted.quote [found]).map .char ++
      Rune.ofString " in variable name near " ++ (Rune.quote statement).map .char
  | .missingName => Rune.ofString "zero length string"
  | .unterminated value => Rune.ofString "unterminated quoted value " ++ value

def unifyEnds : List Rune → List Rune
  | [] => []
  | .char '\r' :: .char '\n' :: r => .char '\n' :: unifyEnds r
  | c :: r => c :: unifyEnds r

def isInnerBlank (c : Char) : Bool :=
  c == '\t' || c == '\x0b' || c == '\x0c' || c == '\r' || c == ' ' || c == '\u0085' || c == '\u00a0'

def statementStart (inComment : Bool) : List Rune → List Rune
  | [] => []
  | c :: r =>
    if inComment then statementStart (c != .char '\n') r
    else if isBlank c.shown then statementStart false r
    else if c = .char '#' then statementStart true r
    else c :: r

def latinRanges : List (Nat × Nat) :=
  [(0x30, 0x39), (0x41, 0x5a), (0x61, 0x7a), (0xaa, 0xaa), (0xb2, 0xb3), (0xb5, 0xb5),
   (0xb9, 0xba), (0xbc, 0xbe), (0xc0, 0xd6), (0xd8, 0xf6), (0xf8, 0xff)]

-- Names are checked byte by byte, each byte taken for the character of its number.
def isNameByte (b : Char) : Bool :=
  isInnerBlank b || b == '_' || b == '.' || inRanges latinRanges b.toNat

def badByte? (r : Rune) : Option Char :=
  (r.bytes.map fun b => Char.ofNat b.toNat).find? (!isNameByte ·)

def scanName (statement : List Rune) : List Rune → Except Error (Option (List Rune × List Rune))
  | [] => .ok none
  | c :: r =>
    if c = .char '=' || c = .char ':' then .ok (some ([], r))
    else
      match badByte? c with
      | some b => .error (.badName b statement)
      | none => (scanName statement r).map (Option.map fun (name, rest) => (c :: name, rest))

def dropExport (t : List Rune) : List Rune :=
  let word := Rune.ofString "export"
  let rest := t.drop word.length
  if word.isPrefixOf t && rest.head?.any (isInnerBlank ·.shown) then
    rest.dropWhile (isInnerBlank ·.shown)
  else t

def splitStatement (t : List Rune) : Except Error (List Rune × List Rune) := do
  let t := dropExport (t.dropWhile (isInnerBlank ·.shown))
  match ← scanName t t with
  | some (name, rest) =>
    return (dropEndWhile (isBlank ·.shown) name, rest.dropWhile (isInnerBlank ·.shown))
  | none => if t.isEmpty then throw .missingName else return ([], t)

def beforeComment? (before : Option Char) : Text → Option Text
  | [] => none
  | c :: r =>
    match beforeComment? (some c) r with
    | some kept => some (c :: kept)
    | none => if c = '#' && before.any isInnerBlank then some [] else none

def isReferenceChar (c : Char) : Bool := c.isUpper || c.isDigit || c == '_'

def optional (c : Char) (t : List Rune) : List Rune :=
  if t.head? = some (.char c) then [.char c] else []

def reference (t : List Rune) : List Rune × List Rune :=
  let paren := optional '(' t
  let t := t.drop paren.length
  let opening := optional '\x7b' t
  let t := t.drop opening.length
  let name := t.takeWhile (isReferenceChar ·.shown)
  let closing := optional '\x7d' (t.drop name.length)
  (paren ++ opening ++ name ++ closing, name)

/-- A reference at the front of a text and the value that it stands for, which is empty for an
unknown name. Behind a backslash a reference stands for itself. -/
def expansion? (vars : Entries (List Rune) (List Rune)) (t : List Rune) :
    Option (List Rune × List Rune) :=
  match t with
  | .char '\x5c' :: .char '$' :: r =>
    let (part, _) := reference r
    some (.char '\x5c' :: .char '$' :: part, .char '$' :: part)
  | .char '$' :: r =>
    let (part, name) := reference r
    let whole := .char '$' :: part
    some (whole, if name.isEmpty then whole else (Entries.get? name vars).getD [])
  | _ => none

-- `skip` runes of the last reference are still to be passed.
def expandFrom (vars : Entries (List Rune) (List Rune)) : Nat → List Rune → List Rune
  | _, [] => []
  | skip + 1, _ :: r => expandFrom vars skip r
  | 0, c :: r =>
    match expansion? vars (c :: r) with
    | some (part, value) => value ++ expandFrom vars (part.length - 1) r
    | none => c :: expandFrom vars 0 r

def expand (vars : Entries (List Rune) (List Rune)) (t : List Rune) : List Rune :=
  expandFrom vars 0 t

def lineEscapes : List Rune → List Rune
  | [] => []
  | .char '\x5c' :: c :: r =>
    if c = .char 'n' then .char '\n' :: lineEscapes r
    else if c = .char 'r' then .char '\r' :: lineEscapes r
    else .char '\x5c' :: c :: lineEscapes r
  | c :: r => c :: lineEscapes r

def dropBackslashes : List Rune → List Rune
  | [] => []
  | .char '\x5c' :: c :: r =>
    if c = .char '$' then .char '\x5c' :: c :: dropBackslashes r else c :: dropBackslashes r
  | c :: r => c :: dropBackslashes r

def closing? (mark before : Rune) : List Rune → Option (List Rune × List Rune)
  | [] => none
  | c :: r =>
    if c = mark && before != .char Quoted.backslash then some ([], r)
    else (closing? mark c r).map fun (value, rest) => (c :: value, rest)

def isLineEnd (c : Rune) : Bool := c == .char '\n' || c == .char '\r'

def readValue (vars : Entries (List Rune) (List Rune)) (t : List Rune) :
    Except Error (List Rune × List Rune) :=
  match t with
  | [] => .ok ([], [])
  | mark :: r =>
    if mark = .char Quoted.doubleQuote || mark = .char Quoted.singleQuote then
      match closing? mark mark r with
      | none => .error (.unterminated (t.takeWhile (· != .char '\n')))
      | some (inner, rest) =>
        let inner := trimWhile (· == mark) inner
        if mark = .char Quoted.doubleQuote then
          .ok (expand vars (dropBackslashes (lineEscapes inner)), rest)
        else .ok (inner, rest)
    else
      let line := (t.takeWhile (!isLineEnd ·)).map Rune.shown
      let value := trimWhile isInnerBlank ((beforeComment? none line).getD line)
      .ok (expand vars (value.map .char), t.dropWhile (!isLineEnd ·))

def statements : Nat → Entries (List Rune) (List Rune) → List Rune →
    Except Error (Entries (List Rune) (List Rune))
  | 0, vars, _ => .ok vars
  | limit + 1, vars, t =>
    match statementStart false t with
    | [] => .ok vars
    | start => do
      let (name, rest) ← splitStatement start
      let (value, rest) ← readValue vars rest
      statements limit (Entries.set name value vars) rest

/-- Reads a file of statements. Each statement takes a rune at least, so their number is bounded by
the length of the file. The last statement of a name counts. -/
def parse (bytes : ByteArray) : Except Error (Entries Text Text) :=
  let t := Rune.ofBytes bytes
  (statements t.length [] (unifyEnds t)).map
    (List.map fun (name, value) => (name.map Rune.shown, value.map Rune.shown))

end QueryMigration.Settings.DotEnv
