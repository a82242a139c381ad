import QueryMigration.Text.Edit

/-! Awaiting data-access calls, on lines that start with one and await nothing yet. -/

namespace QueryMigration.DataCall

open Text

def functions : List Text := ["getOne".toList, "getAll".toList, "runQuery".toList]

def awaitWord : Text := "await".toList

def binders : List Text := ["const".toList, "let".toList, "var".toList]

def callee? (t : Text) : Option Text := functions.find? fun f => (f ++ ['(']).isPrefixOf t

def startsWithCall (t : Text) : Bool := (callee? (t.dropWhile isBlank)).isSome

def startsWithValue (t : Text) : Bool :=
  match t.dropWhile isBlank with
  | '=' :: r => startsWithCall r
  | _ => false

def startsWithTarget (t : Text) : Bool :=
  match run? isWordChar t with
  | some (_, r) => startsWithValue r
  | none => false

def startsWithBinding (t : Text) : Bool :=
  binders.any fun b =>
    match strip? b t with
    | some r => ((run? isBlank r).map fun (_, r) => startsWithTarget r) == some true
    | none => false

def hasCallShape (line : Text) : Bool :=
  let t := line.dropWhile isBlank
  startsWithCall t || startsWithTarget t || startsWithBinding t

/-- Whether a call may start behind this character: not within a longer name and not on an object. -/
def startsName (before : Option Char) : Bool :=
  before.all fun c => !(isWordChar c || c == '.' || c == '$')

def awaiting : Rule := fun before t =>
  if startsName before then (callee? t).map fun f => ⟨f, awaitWord ++ ' ' :: f⟩ else none

def needsAwait (line : Text) : Bool := !includes awaitWord line && hasCallShape line

def awaitLine (line : Text) : Text := if needsAwait line then awaiting.apply line else line

def await (t : Text) : Text := mapLines awaitLine t

end QueryMigration.DataCall
