import QueryMigration.Text.Basic

/-! Base 64: four characters write three bytes, and the last group is filled up by equals signs. -/

namespace QueryMigration.Text.Base64

def value? (c : Char) : Option Nat :=
  if 'A' ≤ c && c ≤ 'Z' then some (c.toNat - 0x41)
  else if 'a' ≤ c && c ≤ 'z' then some (c.toNat - 0x61 + 26)
  else if c.isDigit then some (c.toNat - 0x30 + 52)
  else if c = '+' then some 62
  else if c = '/' then some 63
  else none

def groups? : Text → Option (List Nat)
  | [] => some []
  | [a, b, '=', '='] => do
    let n := (← value? a) * 64 + (← value? b)
    return [n / 16]
  | [a, b, c, '='] => do
    let n := ((← value? a) * 64 + (← value? b)) * 64 + (← value? c)
    return [n / 1024, n / 4 % 256]
  | a :: b :: c :: d :: r => do
    let n := (((← value? a) * 64 + (← value? b)) * 64 + (← value? c)) * 64 + (← value? d)
    return n / 65536 :: n / 256 % 256 :: n % 256 :: (← groups? r)
  | _ => none

def decode? (t : Text) : Option (List Nat) := groups? (t.filter fun c => c != '\n' && c != '\r')

end QueryMigration.Text.Base64
