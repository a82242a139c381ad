import QueryMigration.Terminal.Style

/-! The summary table: each pass and how many lines it changed. -/

namespace QueryMigration.Terminal

open Text

structure SummaryRow where
  pass : String
  changed : Int
deriving DecidableEq, Repr

def wrap (codes t : Text) : Text := sequence codes ++ t ++ reset

def reselect (codes : Text) : Rule := fun _ t =>
  if reset.isPrefixOf t then some ⟨reset, reset ++ sequence codes⟩ else none

def emphasize (codes t : Text) : Text :=
  wrap codes (unlines ((lines t).map fun l => wrap codes ((reselect codes).apply l)))

def separator (plain : Bool) : Text :=
  if plain then " | ".toList else emphasize "90".toList " | ".toList

/-- A count as written. Its end of styling names the codes to end where something changed. -/
def countCell (plain : Bool) (n : Int) : Text :=
  let digits := n.repr.toList
  if plain then digits
  else if n > 0 then sequence "32;1".toList ++ digits ++ sequence "0;22".toList
  else wrap "90".toList digits

def isCode (c : Char) : Bool := c.isDigit || c == ';'

def dropSequence : Rule := fun _ t => do
  let t ← strip? [escapeChar, '['] t
  let (codes, t) ← run? isCode t
  let _ ← strip? ['m'] t
  return ⟨sequence codes, []⟩

def unstyled (t : Text) : Text := dropSequence.apply t

/-- The code points that take no column of a cell: controls, some format characters, and the marks
whose names tell that they combine. -/
def emptyRanges : List (Nat × Nat) :=
  [(0x0, 0x1f), (0x7f, 0x9f), (0xad, 0xad), (0x300, 0x36f), (0x483, 0x487), (0x70f, 0x70f),
   (0x7eb, 0x7f3), (0xc00, 0xc00), (0xc04, 0xc04), (0xcf3, 0xcf3), (0xd00, 0xd01), (0x135d, 0x135f),
   (0x180b, 0x180e), (0x1a7f, 0x1a7f), (0x1ab0, 0x1ace), (0x1b6b, 0x1b73), (0x1dc0, 0x1dff),
   (0x200b, 0x200f), (0x2028, 0x202e), (0x206a, 0x206f), (0x20d0, 0x20f0), (0x2cef, 0x2cf1),
   (0x2de0, 0x2dff), (0x3099, 0x309a), (0xa66f, 0xa672), (0xa674, 0xa67d), (0xa69e, 0xa69f),
   (0xa6f0, 0xa6f1), (0xa8e0, 0xa8f1), (0xfe20, 0xfe2f), (0xfeff, 0xfeff), (0xfff9, 0xfffb),
   (0xfffe, 0xffff), (0x101fd, 0x101fd), (0x10376, 0x1037a), (0x10eab, 0x10eac), (0x10f46, 0x10f50),
   (0x10f82, 0x10f85), (0x11300, 0x11301), (0x1133b, 0x1133c), (0x11366, 0x1136c),
   (0x11370, 0x11374), (0x16af0, 0x16af4), (0x1cf00, 0x1cf2d), (0x1cf30, 0x1cf46),
   (0x1d165, 0x1d169), (0x1d16d, 0x1d172), (0x1d17b, 0x1d182), (0x1d185, 0x1d18b),
   (0x1d1aa, 0x1d1ad), (0x1d242, 0x1d244), (0x1e000, 0x1e006), (0x1e008, 0x1e018),
   (0x1e01b, 0x1e021), (0x1e023, 0x1e024), (0x1e026, 0x1e02a), (0x1e08f, 0x1e08f),
   (0x1e8d0, 0x1e8d6)]

def cellCharColumns (c : Char) : Nat :=
  if inRanges emptyRanges c.toNat then 0 else if inRanges wideRanges c.toNat then 2 else 1

def cellClusterColumns (cluster : Text) : Nat :=
  ((cluster.map cellCharColumns).find? (0 < ·)).getD 0

/-- The columns that a cell is taken to need. Selecting sequences are left out only where styling
ends completely. -/
def cellColumns (line : Text) : Nat :=
  let shown := if includes reset line then unstyled line else line
  (clusters shown).foldr (fun cluster n => cellClusterColumns cluster + n) 0

def padCell (full : Nat) (line : Text) : Text := line ++ padding full (cellColumns line)

def rowLines (name count : Text) : List (Text × Text) :=
  match lines name with
  | [] => []
  | l :: ls => (l, count) :: ls.map fun l => (l, [])

def columnWidth (ls : List Text) : Nat := (ls.map cellColumns).foldl max 0

def renderLines (plain : Bool) (left right : Nat) (ls : List (Text × Text)) : Text :=
  ls.flatMap fun (name, count) =>
    padCell left name ++ separator plain ++ padCell right count ++ ['\n']

def titles : Text × Text := ("Pass".toList, "Changed lines".toList)

def summary (plain : Bool) (rows : List SummaryRow) : Text :=
  let body := rows.flatMap fun r => rowLines r.pass.toList (countCell plain r.changed)
  let left := columnWidth ((titles :: body).map Prod.fst)
  let right := columnWidth ((titles :: body).map Prod.snd)
  let header := renderLines plain left right [titles]
  (if plain then header else emphasize "96".toList header) ++
    renderLines plain left right body ++ ['\n']

end QueryMigration.Terminal
