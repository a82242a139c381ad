import QueryMigration.Placeholder.Ternary

/-! Numbered placeholders: `?` in the backtick literals of a query line becomes `$1`, `$2`, … from
left to right. -/

namespace QueryMigration.Placeholder

open Text

def queryWords : List Text :=
  ["select".toList, "insert".toList, "update".toList, "delete".toList, "where".toList,
   "from".toList, "values".toList, "set".toList, "and".toList, "or".toList, "join".toList]

/-- The lower case of a letter, as far as it is an ASCII letter: besides `A` to `Z` only U+0130 and
U+212A have one. All other characters stay as they are. -/
def lowerLetter (c : Char) : Char :=
  if c == '\u0130' then 'i' else if c == '\u212a' then 'k' else c.toLower

def delimiter : Char := '\x60'

def marker : Char := '?'

def isQueryLine (line : Text) : Bool :=
  (words line).any (fun w => queryWords.contains (w.map lowerLetter)) &&
    line.contains delimiter && line.contains marker

/-- Numbers the placeholders from a place of a line on: `inside` says whether that place lies in a
literal, and `n` is the next number. -/
def numberFrom (inside : Bool) (n : Nat) : Text → Text
  | [] => []
  | c :: r =>
    if c = delimiter then c :: numberFrom (!inside) n r
    else if c = marker && inside && !isTernary r then
      '$' :: (Nat.toDigits 10 n ++ numberFrom inside (n + 1) r)
    else c :: numberFrom inside n r

def numberLine (line : Text) : Text :=
  if isQueryLine line then numberFrom false 1 line else line

def number (t : Text) : Text := mapLines numberLine t

end QueryMigration.Placeholder
