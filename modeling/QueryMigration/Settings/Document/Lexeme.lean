import QueryMigration.Settings.Document.Cursor
import QueryMigration.Settings.Document.Scalar

/-! The tokens of a settings document that have a text of their own. A reader gives the cursor
behind what it read. -/

namespace QueryMigration.Settings.Document

open Text

def isFlowIndicator (c : Char) : Bool :=
  c == ',' || c == '[' || c == ']' || c == '\x7b' || c == '\x7d'

def isNameChar (c : Char) : Bool := c.isAlphanum || c == '_' || c == '-'

def plainWord (flow : Bool) : Text → Text
  | [] => []
  | c :: r =>
    if isInline c || isBreak c then []
    else if c == ':' && atGap r then []
    else if flow && (isFlowIndicator c || c == '?') then []
    else c :: plainWord flow r

structure ScalarText where
  text : Text
  endsLine : Bool

def plain (start : Mark) (flow : Bool) (least : Int) : Nat → Text → Gap → Cursor →
    Except Error (ScalarText × Cursor)
  | 0, read, gap, c => .ok (⟨read, gap.endsLine⟩, c)
  | limit + 1, read, gap, c =>
    let word := plainWord flow c.rest
    let after := c.skip word.length
    if c.atDocumentMark || c.rest.head? = some '#' || word.isEmpty then
      .ok (⟨read, gap.endsLine⟩, c)
    else if after.rest.isEmpty || !atGap after.rest then .ok (⟨read ++ gap.text ++ word, false⟩, after)
    else do
      let read := read ++ gap.text ++ word
      let (gap, after) ← after.gap start least after.rest.length .empty
      if !flow && (after.mark.column : Int) < least then return (⟨read, gap.endsLine⟩, after)
      else plain start flow least limit read gap after

def escapes : List (Char × Char) :=
  [('0', '\x00'), ('a', '\x07'), ('b', '\x08'), ('t', '\t'), ('\t', '\t'), ('n', '\n'),
   ('v', '\x0b'), ('f', '\x0c'), ('r', '\r'), ('e', '\x1b'), (' ', ' '), ('\x22', '\x22'),
   ('\x27', '\x27'), ('\x5c', '\x5c'), ('N', '\u0085'), ('_', '\u00a0'), ('L', '\u2028'),
   ('P', '\u2029')]

def hexWidth? (c : Char) : Option Nat :=
  if c = 'x' then some 2 else if c = 'u' then some 4 else if c = 'U' then some 8 else none

def escaped (t : Text) : Except Problem (Char × Nat) :=
  match t with
  | [] => .error .escape
  | e :: digits =>
    match hexWidth? e, escapes.lookup e with
    | some width, _ =>
      if digits.length < width then .error .escapeDigits
      else
        match Scalar.number? 16 0 (digits.take width) with
        | none => .error .escapeDigits
        | some n => if n.isValidChar then .ok (Char.ofNat n, width + 1) else .error .escapeCode
    | none, some stands => .ok (stands, 1)
    | none, none => .error .escape

/-- Reads a quoted scalar up to a gap or the quote mark that closes it, and tells whether a backslash
took away the end of a line. `read` is what was read, in reverse. -/
def quotedWord (start : Mark) (quote : Char) : Nat → Text → Cursor →
    Except Error (Text × Bool × Cursor)
  | 0, read, c => .ok (read.reverse, false, c)
  | limit + 1, read, c =>
    match c.rest with
    | [] => .ok (read.reverse, false, c)
    | ch :: r =>
      if isInline ch || isBreak ch then .ok (read.reverse, false, c)
      else if ch == quote then
        if quote == '\x27' && r.head? == some quote then
          quotedWord start quote limit (quote :: read) (c.skip 2)
        else .ok (read.reverse, false, c)
      else if ch == '\x5c' && quote == '\x22' then
        match (c.skip 1).lineEnd? with
        | some (_, after) => .ok (read.reverse, true, after)
        | none =>
          match escaped r with
          | .ok (stands, width) =>
            quotedWord start quote limit (stands :: read) (c.skip (width + 1))
          | .error p => .error (start.problem c.mark p)
      else quotedWord start quote limit (ch :: read) (c.skip 1)

def quoted (start : Mark) (quote : Char) : Nat → Text → Cursor → Except Error (Text × Cursor)
  | 0, _, c => .error (start.problem c.mark .unclosed)
  | limit + 1, read, c =>
    if c.atDocumentMark then .error (start.problem c.mark .documentMark)
    else if c.rest.isEmpty then .error (start.problem c.mark .unclosed)
    else do
      let (word, joined, c) ← quotedWord start quote c.rest.length [] c
      if c.rest.head? == some quote then return (read ++ word, c.skip 1)
      else
        let (gap, c) ← c.gap start 0 c.rest.length .empty
        quoted start quote limit (read ++ word ++ if joined then gap.breaks else gap.text) c

inductive Chomping where
  | strip
  | clip
  | keep
deriving DecidableEq, Repr

structure BlockStyle where
  folded : Bool
  chomping : Chomping
  increment : Option Nat

def chomping (c : Cursor) : Chomping × Cursor :=
  match c.rest with
  | '+' :: _ => (.keep, c.skip 1)
  | '-' :: _ => (.strip, c.skip 1)
  | _ => (.clip, c)

def increment (start : Mark) (c : Cursor) : Except Error (Option Nat × Cursor) :=
  match c.rest with
  | d :: _ =>
    if d == '0' then .error (start.problem c.mark .blockIndent)
    else if d.isDigit then .ok (some (d.toNat - 0x30), c.skip 1)
    else .ok (none, c)
  | [] => .ok (none, c)

def blockStyle (start : Mark) (folded : Bool) (c : Cursor) : Except Error (BlockStyle × Cursor) := do
  match chomping c with
  | (.clip, _) =>
    let (width, c) ← increment start c
    let (chomp, c) := if width.isSome then chomping c else (.clip, c)
    return (⟨folded, chomp, width⟩, c)
  | (chomp, c) =>
    let (width, c) ← increment start c
    return (⟨folded, chomp, width⟩, c)

def finishLine (start : Mark) (c : Cursor) : Except Error Cursor :=
  let c := c.lineComment.skipWhile isInline
  if !atLineEnd c.rest then .error (start.problem c.mark .lineEnd)
  else
    match c.lineEnd? with
    | some (_, after) => .ok after
    | none => .ok c

/-- Skips the indentation of a line of a block scalar and the empty lines before it, whose line ends
are kept. Without an indentation all spaces are skipped, and the greatest column is told. -/
def indentation (start : Mark) (column? : Option Nat) : Nat → Nat → Text → Cursor →
    Except Error (Nat × Text × Cursor)
  | 0, widest, breaks, c => .ok (widest, breaks, c)
  | limit + 1, widest, breaks, c =>
    let spaces := (c.rest.takeWhile (· == ' ')).length
    let c := c.skip (match column? with
      | none => spaces
      | some column => min spaces (column - c.mark.column))
    let widest := max widest c.mark.column
    if column?.all (c.mark.column < ·) && c.rest.head? == some '\t' then
      .error (start.problem c.mark .blockTab)
    else
      match c.lineEnd? with
      | some (kept, after) => indentation start column? limit widest (breaks ++ [kept]) after
      | none => .ok (widest, breaks, c)

/-- Reads the lines of a block scalar. `pending` is the end of the line before and `breaks` the
empty lines behind it; `more` tells whether that line started with a blank. -/
def blockLines (start : Mark) (style : BlockStyle) (column : Nat) : Nat → (more : Bool) → Text →
    (pending breaks : Text) → Cursor → Except Error (Text × Cursor)
  | 0, _, read, _, _, c => .ok (read, c)
  | limit + 1, more, read, pending, breaks, c =>
    if c.mark.column != column || c.rest.isEmpty then
      .ok (match style.chomping with
        | .strip => read
        | .clip => read ++ pending
        | .keep => read ++ pending ++ breaks, c)
    else do
      let blank := c.rest.head?.any isInline
      let joint :=
        if style.folded && !more && !blank && pending == ['\n'] then
          if breaks.isEmpty then [' '] else []
        else pending
      let line := c.rest.takeWhile (!isBreak ·)
      let c := c.skip line.length
      let (pending, c) := match c.lineEnd? with
        | some (kept, after) => ([kept], after)
        | none => ([], c)
      let (_, after, c) ← indentation start (some column) c.rest.length.succ 0 [] c
      blockLines start style column limit blank (read ++ joint ++ breaks ++ line) pending after c

def block (start : Mark) (folded : Bool) (parent : Int) (c : Cursor) :
    Except Error (Text × Cursor) := do
  let (style, c) ← blockStyle start folded c
  let c ← finishLine start c
  let column? := style.increment.map fun n => parent.toNat + n
  let (widest, breaks, c) ← indentation start column? c.rest.length.succ 0 [] c
  let column := column?.getD (max (max widest (parent + 1).toNat) 1)
  blockLines start style column c.rest.length.succ false [] [] breaks c

def anchorName (start : Mark) (c : Cursor) : Except Error (Text × Cursor) :=
  let name := c.rest.takeWhile isNameChar
  let after := c.skip name.length
  if name.isEmpty || !(atGap after.rest || after.rest.head?.any "?:,]\x7d%@\x60".toList.contains) then
    .error (start.problem after.mark .anchorName)
  else .ok (name, after)

def isTagChar (c : Char) : Bool := isNameChar c || ";/?:@&=+$,.!~*'()[]".toList.contains c

def octet? (t : Text) : Option Nat :=
  match t with
  | '%' :: a :: b :: _ => do return (← Scalar.digit? 16 a) * 16 + (← Scalar.digit? 16 b)
  | _ => none

def octetCount? (n : Nat) : Option Nat :=
  if n < 0x80 then some 1
  else if 0xc0 ≤ n && n < 0xe0 then some 2
  else if 0xe0 ≤ n && n < 0xf0 then some 3
  else if 0xf0 ≤ n && n < 0xf8 then some 4
  else none

def octets? (t : Text) : Option (Char × Nat) := do
  let lead ← octet? t
  let count ← octetCount? lead
  let more ← (List.range (count - 1)).mapM fun i => octet? (t.drop (3 * i + 3))
  if !more.all (fun n => 0x80 ≤ n && n < 0xc0) then none
  let lead := if count = 1 then lead else lead % Nat.pow 2 (7 - count)
  return (Char.ofNat (more.foldl (fun n o => n * 64 + o % 64) lead), count)

def tagText (start : Mark) : Nat → Text → Cursor → Except Error (Text × Cursor)
  | 0, read, c => .ok (read.reverse, c)
  | limit + 1, read, c =>
    match c.rest with
    | [] => .ok (read.reverse, c)
    | ch :: _ =>
      if ch == '%' then
        match octets? c.rest with
        | some (stands, count) => tagText start limit (stands :: read) (c.skip (3 * count))
        | none => .error (start.problem c.mark .tagOctet)
      else if isTagChar ch then tagText start limit (ch :: read) (c.skip 1)
      else .ok (read.reverse, c)

def tagName (start : Mark) (c : Cursor) : Except Error (Text × Cursor) := do
  let (name, after) ← tagText start c.rest.length [] c
  if after.mark.index == c.mark.index then throw (start.problem c.mark .tagName)
  else return (name, after)

def handleText (t : Text) : Text :=
  match t with
  | '!' :: r =>
    let name := r.takeWhile isNameChar
    '!' :: name ++ if (r.drop name.length).head? == some '!' then ['!'] else []
  | _ => []

structure TagText where
  handle : Text
  name : Text
deriving DecidableEq, Repr

def tag (c : Cursor) : Except Error (TagText × Cursor) := do
  let start := c.mark
  let (tag, after) ← match c.rest with
    | '!' :: '<' :: _ => do
      let (name, after) ← tagName start (c.skip 2)
      if after.rest.head? == some '>' then pure (TagText.mk [] name, after.skip 1)
      else throw (start.problem after.mark .tagBracket)
    | _ => do
      let handle := handleText c.rest
      let after := c.skip handle.length
      if 1 < handle.length && handle.getLast? == some '!' then
        let (name, after) ← tagName start after
        pure (TagText.mk handle name, after)
      else
        let (more, after) ← tagText start after.rest.length [] after
        let name := handle.drop 1 ++ more
        pure (if name.isEmpty then TagText.mk [] ['!'] else TagText.mk ['!'] name, after)
  if atGap after.rest then return (tag, after) else throw (start.problem after.mark .tagEnd)

inductive Directive where
  | version (major minor : Nat)
  | handle (handle stem : Text)
deriving DecidableEq, Repr

def versionPart (start : Mark) (c : Cursor) : Except Error (Nat × Cursor) :=
  let digits := c.rest.takeWhile Char.isDigit
  if digits.isEmpty then .error (start.problem c.mark .versionNumber)
  else if 2 < digits.length then .error (start.problem c.mark .versionLength)
  else .ok ((Scalar.number? 10 0 digits).getD 0, c.skip digits.length)

def versionDirective (start : Mark) (c : Cursor) : Except Error (Directive × Cursor) := do
  let (major, c) ← versionPart start (c.skipWhile isInline)
  if c.rest.head? != some '.' then throw (start.problem c.mark .versionPoint)
  let (minor, c) ← versionPart start (c.skip 1)
  return (.version major minor, c)

def handleDirective (start : Mark) (c : Cursor) : Except Error (Directive × Cursor) := do
  let c := c.skipWhile isInline
  let handle := handleText c.rest
  if handle.isEmpty || (1 < handle.length && handle.getLast? != some '!') then
    throw (start.problem c.mark .handle)
  let c := c.skip handle.length
  if !c.rest.head?.any isInline then throw (start.problem c.mark .handleEnd)
  let (stem, c) ← tagName start (c.skipWhile isInline)
  if atGap c.rest then return (.handle handle stem, c) else throw (start.problem c.mark .tagEnd)

def directive (c : Cursor) : Except Error (Directive × Cursor) := do
  let start := c.mark
  let name := (c.rest.drop 1).takeWhile isNameChar
  let c := c.skip (name.length + 1)
  if name.isEmpty then throw (start.problem c.mark .directiveName)
  if !atGap c.rest then throw (start.problem c.mark .directiveLetter)
  let (found, c) ←
    if name = "YAML".toList then versionDirective start c
    else if name = "TAG".toList then handleDirective start c
    else throw (start.problem c.mark .directiveUnknown)
  return (found, ← finishLine start c)

end QueryMigration.Settings.Document
