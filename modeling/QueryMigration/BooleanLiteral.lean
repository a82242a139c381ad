import QueryMigration.Text.Edit

/-! Boolean literals in place of the flags `0` and `1`, in conditions and in the choice `? 1 : 0`.
-/

namespace QueryMigration.BooleanLiteral

open Text

def endsCondition (rest : Text) : Bool :=
  let next := rest.dropWhile isBlank
  next.isEmpty ||
    ["AND".toList, "OR".toList, [')'], [';']].any fun closer => closer.isPrefixOf next

def comparison (digit : Char) (word : Text) : Rule := fun _ t =>
  match t with
  | '=' :: r =>
    match r.dropWhile isBlank with
    | d :: after =>
      if d = digit && endsCondition after then
        some ⟨'=' :: (r.takeWhile isBlank ++ [d]), '=' :: ' ' :: word⟩
      else none
    | [] => none
  | _ => none

def gapThen? (c : Char) (t : Text) : Option (Text × Text) :=
  match t.dropWhile isBlank with
  | d :: rest => if d = c then some (t.takeWhile isBlank ++ [d], rest) else none
  | [] => none

def choice : Rule := fun _ t => do
  let t ← strip? ['?'] t
  let (one, t) ← gapThen? '1' t
  let (colon, t) ← gapThen? ':' t
  let (zero, _) ← gapThen? '0' t
  return ⟨'?' :: (one ++ colon ++ zero), "? true : false".toList⟩

def rules : List Rule :=
  [comparison '1' "true".toList, comparison '0' "false".toList, choice]

def normalize (t : Text) : Text := rules.foldl (fun t rule => rule.apply t) t

end QueryMigration.BooleanLiteral
