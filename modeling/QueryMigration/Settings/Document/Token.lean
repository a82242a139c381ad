import QueryMigration.Settings.Document.Lexeme

/-! The tokens of a settings document. They wait in a queue until it is clear whether the first
starts a key, which takes at most 1024 characters. -/

namespace QueryMigration.Settings.Document

open Text

inductive ScalarStyle where
  | plain
  | quoted
  | block
deriving DecidableEq, Repr

inductive Token where
  | textEnd
  | directive (d : Directive)
  | documentStart
  | documentEnd
  | blockList
  | blockMapping
  | blockEnd
  | openList
  | closeList
  | openMapping
  | closeMapping
  | dash
  | comma
  | key
  | value
  | alias (name : Text)
  | anchor (name : Text)
  | tag (t : TagText)
  | scalar (t : Text) (style : ScalarStyle)
deriving DecidableEq, Repr

structure Placed where
  token : Token
  mark : Mark

structure KeyStart where
  number : Nat
  required : Bool
  mark : Mark

/-- The tokens of a text as far as they are read. `queue` holds those that nobody took yet, and
`taken` is the number of the others. `indent` is the column of the innermost block, and `outer` those
around it. `keys` holds where a key may start, for each open flow bracket and the block around all of
them, the innermost first. `bound` bounds the tokens that one step has to read. Where a text starts
with a byte-order mark, each line loses its first character (`marked`) until the text is nearly
read. -/
structure Tokens where
  cursor : Cursor
  queue : List Placed
  taken : Nat
  indent : Int
  outer : List Int
  keys : List (Option KeyStart)
  keyAllowed : Bool
  marked : Bool
  bound : Nat

namespace Tokens

def ofText (t : Text) : Tokens where
  cursor := ⟨t, ⟨0, 0, 0⟩⟩
  queue := []
  taken := 0
  indent := -1
  outer := []
  keys := [none]
  keyAllowed := true
  marked := t.head? == some '\ufeff'
  bound := t.length + 4

def inFlow (s : Tokens) : Bool := 1 < s.keys.length

def problem (s : Tokens) (p : Problem) : Error := s.cursor.mark.problem s.cursor.mark p

def push (s : Tokens) (mark : Mark) (t : Token) : Tokens := { s with queue := s.queue ++ [⟨t, mark⟩] }

def insert (s : Tokens) (number : Nat) (mark : Mark) (t : Token) : Tokens :=
  let n := number - s.taken
  { s with queue := s.queue.take n ++ ⟨t, mark⟩ :: s.queue.drop n }

def nextNumber (s : Tokens) : Nat := s.taken + s.queue.length

def canBeKey (s : Tokens) (k : KeyStart) : Except Error Bool :=
  if k.mark.line < s.cursor.mark.line || k.mark.index + 1024 < s.cursor.mark.index then
    if k.required then .error (k.mark.problem s.cursor.mark .noColon) else .ok false
  else .ok true

def dropKey (s : Tokens) : Except Error Tokens :=
  match s.keys with
  | some k :: keys =>
    if k.required then .error (k.mark.problem s.cursor.mark .noColon)
    else .ok { s with keys := none :: keys }
  | _ => .ok s

/-- Notes that a key may start here, if one is allowed. It must start here at the column of the
innermost block. -/
def noteKey (s : Tokens) : Except Error Tokens :=
  if !s.keyAllowed then .ok s
  else do
    let required := !s.inFlow && s.indent == s.cursor.mark.column
    let s' ← s.dropKey
    return { s' with keys := some ⟨s.nextNumber, required, s.cursor.mark⟩ :: s'.keys.drop 1 }

def openBlock (s : Tokens) (column : Nat) (number? : Option Nat) (mark : Mark) (t : Token) : Tokens :=
  if s.inFlow || (column : Int) ≤ s.indent then s
  else
    let s := { s with indent := column, outer := s.indent :: s.outer }
    match number? with
    | some number => s.insert number mark t
    | none => s.push mark t

def closeFrom (column : Int) : List Int → Tokens → Tokens
  | [], s => s
  | around :: outer, s =>
    if s.indent ≤ column then s
    else closeFrom column outer
      { s.push s.cursor.mark .blockEnd with indent := around, outer := outer }

def closeBlocks (s : Tokens) (column : Int) : Tokens :=
  if s.inFlow then s else closeFrom column s.outer s

def toToken : Nat → Tokens → Tokens
  | 0, s => s
  | limit + 1, s =>
    let c := if s.marked && s.cursor.mark.column == 0 then s.cursor.skip 1 else s.cursor
    let c := c.skipWhile fun b => b == ' ' || ((s.inFlow || !s.keyAllowed) && b == '\t')
    let c := if c.rest.head? == some '#' then c.comments c.rest.length else c
    match c.lineEnd? with
    | some (_, after) =>
      toToken limit { s with cursor := after, keyAllowed := s.keyAllowed || !s.inFlow }
    | none => { s with cursor := c }

def take (s : Tokens) (n : Nat) (t : Token) : Tokens :=
  { s.push s.cursor.mark t with cursor := s.cursor.skip n }

def readEnd (s : Tokens) : Except Error Tokens := do
  let mark := s.cursor.mark
  let mark : Mark := if mark.column == 0 then mark else ⟨mark.index, mark.line + 1, 0⟩
  let s := { s with cursor := ⟨s.cursor.rest, mark⟩ }.closeBlocks (-1)
  let s ← s.dropKey
  return { s with keyAllowed := false }.push mark .textEnd

def readDirective (s : Tokens) : Except Error Tokens := do
  let s ← (s.closeBlocks (-1)).dropKey
  let (d, after) ← directive s.cursor
  return { s.push s.cursor.mark (.directive d) with cursor := after, keyAllowed := false }

def readDocumentMark (s : Tokens) (t : Token) : Except Error Tokens := do
  let s ← (s.closeBlocks (-1)).dropKey
  return { s with keyAllowed := false }.take 3 t

def readOpen (s : Tokens) (t : Token) : Except Error Tokens := do
  let s ← s.noteKey
  return { s with keys := none :: s.keys, keyAllowed := true }.take 1 t

def readClose (s : Tokens) (t : Token) : Except Error Tokens := do
  let s ← s.dropKey
  let keys := if s.inFlow then s.keys.drop 1 else s.keys
  return { s with keys := keys, keyAllowed := false }.take 1 t

def readComma (s : Tokens) : Except Error Tokens := do
  let s ← s.dropKey
  return { s with keyAllowed := true }.take 1 .comma

def readDash (s : Tokens) : Except Error Tokens := do
  if !s.inFlow && !s.keyAllowed then throw (s.problem .entryPlace)
  let s ← (s.openBlock s.cursor.mark.column none s.cursor.mark .blockList).dropKey
  return { s with keyAllowed := true }.take 1 .dash

def readKey (s : Tokens) : Except Error Tokens := do
  if !s.inFlow && !s.keyAllowed then throw (s.problem .keyPlace)
  let s ← (s.openBlock s.cursor.mark.column none s.cursor.mark .blockMapping).dropKey
  return { s with keyAllowed := !s.inFlow }.take 1 .key

def readKeyColon (s : Tokens) (k : KeyStart) : Tokens :=
  let s := (s.insert k.number k.mark .key).openBlock k.mark.column (some k.number) k.mark .blockMapping
  { s with keys := none :: s.keys.drop 1, keyAllowed := false }.take 1 .value

def readLoneColon (s : Tokens) : Except Error Tokens := do
  if !s.inFlow && !s.keyAllowed then throw (s.problem .valuePlace)
  let s := s.openBlock s.cursor.mark.column none s.cursor.mark .blockMapping
  return { s with keyAllowed := !s.inFlow }.take 1 .value

def readColon (s : Tokens) : Except Error Tokens := do
  match s.keys.head? with
  | some (some k) =>
    if ← s.canBeKey k then return s.readKeyColon k
    else readLoneColon { s with keys := none :: s.keys.drop 1 }
  | _ => s.readLoneColon

def readAnchor (s : Tokens) (token : Text → Token) : Except Error Tokens := do
  let s ← s.noteKey
  let (name, after) ← anchorName s.cursor.mark (s.cursor.skip 1)
  return { s.push s.cursor.mark (token name) with cursor := after, keyAllowed := false }

def readTag (s : Tokens) : Except Error Tokens := do
  let s ← s.noteKey
  let (t, after) ← tag s.cursor
  return { s.push s.cursor.mark (.tag t) with cursor := after, keyAllowed := false }

def readBlock (s : Tokens) (folded : Bool) : Except Error Tokens := do
  let s ← s.dropKey
  let (t, after) ← block s.cursor.mark folded s.indent (s.cursor.skip 1)
  return { s.push s.cursor.mark (.scalar t .block) with cursor := after, keyAllowed := true }

def readQuoted (s : Tokens) (quote : Char) : Except Error Tokens := do
  let s ← s.noteKey
  let (t, after) ← quoted s.cursor.mark quote s.cursor.rest.length [] (s.cursor.skip 1)
  return { s.push s.cursor.mark (.scalar t .quoted) with cursor := after, keyAllowed := false }

def readPlain (s : Tokens) : Except Error (Tokens × Bool) := do
  let s ← s.noteKey
  let (t, after) ←
    plain s.cursor.mark s.inFlow (s.indent + 1) s.cursor.rest.length [] .empty s.cursor
  return ({ s.push s.cursor.mark (.scalar t.text .plain) with
    cursor := after, keyAllowed := t.endsLine }, t.endsLine)

def startsPlain (flow : Bool) (c : Char) (r : Text) : Bool :=
  if c == '-' then !r.head?.any isInline
  else if c == '?' || c == ':' then !flow && !atGap r
  else !(isInline c || isFlowIndicator c || "#&*!|>%@\x60\x22\x27".toList.contains c)

def skipComment (s : Tokens) : Tokens := { s with cursor := s.cursor.lineComment }

def readToken (s : Tokens) (c : Char) (r : Text) : Except Error Tokens := do
  if c == '[' then return (← s.readOpen .openList).skipComment
  else if c == '\x7b' then return (← s.readOpen .openMapping).skipComment
  else if c == ']' then return (← s.readClose .closeList).skipComment
  else if c == '\x7d' then return (← s.readClose .closeMapping).skipComment
  else if c == ',' then return (← s.readComma).skipComment
  else if c == '-' && atGap r then s.readDash
  else if c == '?' && (s.inFlow || atGap r) then return (← s.readKey).skipComment
  else if c == ':' && (s.inFlow || atGap r) then return (← s.readColon).skipComment
  else if c == '*' then return (← s.readAnchor .alias).skipComment
  else if c == '&' then return (← s.readAnchor .anchor).skipComment
  else if c == '!' then return (← s.readTag).skipComment
  else if c == '|' && !s.inFlow then s.readBlock false
  else if c == '>' && !s.inFlow then s.readBlock true
  else if c == '\x27' || c == '\x22' then return (← s.readQuoted c).skipComment
  else if startsPlain s.inFlow c r then
    let (s, endsLine) ← s.readPlain
    return if endsLine then s else s.skipComment
  else throw (s.problem .stray)

def step (s : Tokens) : Except Error Tokens :=
  let s := toToken s.bound s
  let s := s.closeBlocks s.cursor.mark.column
  let s := { s with marked := s.marked && !(s.cursor.rest.drop 3).isEmpty }
  match s.cursor.rest with
  | [] => s.readEnd
  | c :: r =>
    if s.cursor.mark.column == 0 && c == '%' then s.readDirective
    else if s.cursor.atDocumentMark then
      s.readDocumentMark (if c == '-' then .documentStart else .documentEnd)
    else s.readToken c r

def isWaiting (s : Tokens) : Except Error Bool :=
  match s.keys.findSome? fun k => k.filter (·.number == s.taken) with
  | some k => s.canBeKey k
  | none => .ok false

def settle : Nat → Tokens → Except Error Tokens
  | 0, s => .ok s
  | limit + 1, s => do
    if s.queue.length < 3 || (← s.isWaiting) then settle limit (← s.step) else return s

def next (s : Tokens) : Except Error (Placed × Tokens) := do
  let s ← settle s.bound s
  return (s.queue.head?.getD ⟨.textEnd, s.cursor.mark⟩, s)

def drop (s : Tokens) : Tokens := { s with queue := s.queue.drop 1, taken := s.taken + 1 }

end Tokens

end QueryMigration.Settings.Document
