import QueryMigration.Text.Basic

/-! Telling a placeholder from the question mark of a conditional expression `a ? b : c`. -/

namespace QueryMigration.Placeholder

open Text

/-- The words that start a clause of a query. They count in capitals only. -/
def clauseWords : List Text :=
  ["SELECT".toList, "INSERT".toList, "UPDATE".toList, "DELETE".toList, "WHERE".toList,
   "FROM".toList, "VALUES".toList]

def lookahead : Int := 49

/-- Among how many characters, leading blanks aside, the colon must be. -/
def colonWindow : Int := 20

/-- Whether the text after a question mark makes it the mark of a conditional expression. -/
def isTernary (rest : Text) : Bool :=
  let after := trim (head lookahead rest)
  (head colonWindow after).contains ':' &&
    !(words (after.takeWhile (· != ':'))).any clauseWords.contains

end QueryMigration.Placeholder
