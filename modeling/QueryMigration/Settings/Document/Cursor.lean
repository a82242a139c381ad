import QueryMigration.Settings.Document.Error

/-! Places in the text of a settings document, and the blanks and line ends between its tokens. -/

namespace QueryMigration.Settings.Document

open Text

structure Mark where
  index : Nat
  line : Nat
  column : Nat

def Mark.problem (start current : Mark) (p : Problem) : Error :=
  .malformed
    (if start.line != 0 then start.line + 1 else if current.line != 0 then current.line + 1 else 0) p

def isInline (c : Char) : Bool := c == ' ' || c == '\t'

def isBreak (c : Char) : Bool :=
  c == '\n' || c == '\r' || c == '\u0085' || c == '\u2028' || c == '\u2029'

def atLineEnd (t : Text) : Bool := t.head?.all isBreak

def atGap (t : Text) : Bool := t.head?.all fun c => isInline c || isBreak c

structure Cursor where
  rest : Text
  mark : Mark

namespace Cursor

def skip (n : Nat) (c : Cursor) : Cursor :=
  ⟨c.rest.drop n, ⟨c.mark.index + n, c.mark.line, c.mark.column + n⟩⟩

def skipWhile (p : Char → Bool) (c : Cursor) : Cursor := c.skip (c.rest.takeWhile p).length

def nextLine (n : Nat) (c : Cursor) : Cursor :=
  ⟨c.rest.drop n, ⟨c.mark.index + n, c.mark.line + 1, 0⟩⟩

/-- Reads the end of a line: a line feed stands for it, except that the separators of lines and of
paragraphs are kept. -/
def lineEnd? (c : Cursor) : Option (Char × Cursor) :=
  match c.rest with
  | '\r' :: '\n' :: _ => some ('\n', c.nextLine 2)
  | e :: _ =>
    if e == '\u2028' || e == '\u2029' then some (e, c.nextLine 1)
    else if isBreak e then some ('\n', c.nextLine 1)
    else none
  | [] => none

def atDocumentMark (c : Cursor) : Bool :=
  c.mark.column == 0 &&
    ["---".toList, "...".toList].any fun mark =>
      match strip? mark c.rest with
      | some rest => atGap rest
      | none => false

end Cursor

/-- Blanks and line ends between two parts of a scalar: the blanks if there is no line end, else the
line ends. -/
structure Gap where
  spaces : Text
  breaks : Text

namespace Gap

def empty : Gap := ⟨[], []⟩

def endsLine (g : Gap) : Bool := !g.breaks.isEmpty

def text (g : Gap) : Text :=
  match g.breaks with
  | [] => g.spaces
  | '\n' :: [] => [' ']
  | '\n' :: more => more
  | breaks => breaks

end Gap

/-- Reads a gap. On a further line a tab must not stand in front of the column `least`. -/
def Cursor.gap (start : Mark) (least : Int) : Nat → Gap → Cursor → Except Error (Gap × Cursor)
  | 0, g, c => .ok (g, c)
  | limit + 1, g, c =>
    match c.lineEnd? with
    | some (kept, after) => after.gap start least limit ⟨[], g.breaks ++ [kept]⟩
    | none =>
      match c.rest with
      | [] => .ok (g, c)
      | b :: _ =>
        if !isInline b then .ok (g, c)
        else if !g.endsLine then (c.skip 1).gap start least limit ⟨g.spaces ++ [b], []⟩
        else if b == '\t' && (c.mark.column : Int) < least then
          .error (start.problem c.mark .plainTab)
        else (c.skip 1).gap start least limit g

def Cursor.advance : Nat → Nat → Cursor → Cursor
  | 0, _, c => c
  | limit + 1, index, c =>
    if index ≤ c.mark.index then c
    else
      match c.lineEnd? with
      | some (_, after) => after.advance limit index
      | none => (c.skip 1).advance limit index

def Cursor.comments : Nat → Cursor → Cursor
  | 0, c => c
  | limit + 1, c =>
    let c := c.skipWhile (!isBreak ·)
    let gap := c.rest.takeWhile fun b => isInline b || isBreak b
    if (c.rest.drop gap.length).head? = some '#' then
      (c.advance gap.length (c.mark.index + gap.length)).comments limit
    else c

def Cursor.lineComment (c : Cursor) : Cursor :=
  let after := c.skipWhile isInline
  if after.rest.head? = some '#' then after.skipWhile (!isBreak ·) else c

end QueryMigration.Settings.Document
