import QueryMigration.Text.Basic

/-! Points in time. Behind `T` or `t` the time of day needs a time zone, behind blanks it has none.
-/

namespace QueryMigration.Settings.Document.Timestamp

open Text

def digit (c : Char) : Nat := c.toNat - 0x30

def short? : Text → Option (Nat × Text)
  | [] => none
  | [a] => if a.isDigit then some (digit a, []) else none
  | a :: b :: r =>
    if !a.isDigit then none
    else if b.isDigit then some (digit a * 10 + digit b, r)
    else some (digit a, b :: r)

def daysIn (year month : Nat) : Nat :=
  if month = 2 then
    if year % 4 = 0 && (year % 100 != 0 || year % 400 = 0) then 29 else 28
  else if month = 4 || month = 6 || month = 9 || month = 11 then 30
  else 31

def date? (t : Text) : Option Text := do
  let digits := t.takeWhile Char.isDigit
  if digits.length != 4 then none
  let year := digits.foldl (fun n c => n * 10 + digit c) 0
  let (month, t) ← short? (← strip? ['-'] (t.drop 4))
  let (day, t) ← short? (← strip? ['-'] t)
  if 1 ≤ month && month ≤ 12 && 1 ≤ day && day ≤ daysIn year month then some t else none

def dropFraction (t : Text) : Text :=
  match t with
  | p :: d :: r => if (p = '.' || p = ',') && d.isDigit then r.dropWhile Char.isDigit else t
  | _ => t

def clock? (t : Text) : Option Text := do
  let (hour, t) ← short? t
  let (minute, t) ← short? (← strip? [':'] t)
  let (second, t) ← short? (← strip? [':'] t)
  if hour < 24 && minute < 60 && second < 60 then some (dropFraction t) else none

def isZone (t : Text) : Bool :=
  match t with
  | ['Z'] => true
  | [s, a, b, ':', c, d] =>
    (s = '+' || s = '-') && [a, b, c, d].all Char.isDigit &&
      digit a * 10 + digit b ≤ 24 && digit c * 10 + digit d ≤ 60
  | _ => false

def isTimestamp (t : Text) : Bool :=
  match date? t with
  | none => false
  | some [] => true
  | some (c :: r) =>
    if c = 'T' || c = 't' then (clock? r).any isZone
    else c = ' ' && (clock? (r.dropWhile (· == ' '))).any List.isEmpty

end QueryMigration.Settings.Document.Timestamp
