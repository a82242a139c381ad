/-! The words for true and false. -/

namespace QueryMigration.Settings

def trueWords : List String := ["1", "t", "T", "TRUE", "true", "True"]

def falseWords : List String := ["0", "f", "F", "FALSE", "false", "False"]

def truth? (s : String) : Option Bool :=
  if trueWords.contains s then some true
  else if falseWords.contains s then some false
  else none

def isTrue (s : String) : Bool := trueWords.contains s

end QueryMigration.Settings
