import QueryMigration.Settings.Document.Fields

/-! Settings documents as bytes, in UTF-8, or in UTF-16 behind a byte-order mark. -/

namespace QueryMigration.Settings.Document

open Text

def isAllowed (c : Char) : Bool :=
  let n := c.toNat
  n == 9 || n == 10 || n == 13 || (0x20 ≤ n && n ≤ 0x7e) || n == 0x85 ||
    (0xa0 ≤ n && n ≤ 0xfffd) || 0x10000 ≤ n

def units? (bigFirst : Bool) : List UInt8 → Option (List Nat)
  | [] => some []
  | [_] => none
  | a :: b :: r =>
    (units? bigFirst r).map fun rest =>
      (if bigFirst then a.toNat * 256 + b.toNat else b.toNat * 256 + a.toNat) :: rest

def ofUnits? : List Nat → Option Text
  | [] => some []
  | a :: b :: r =>
    if 0xd800 ≤ a && a < 0xdc00 then
      if 0xdc00 ≤ b && b < 0xe000 then
        (ofUnits? r).map fun t =>
          Char.ofNat (0x10000 + (a - 0xd800) * 0x400 + (b - 0xdc00)) :: t
      else none
    else if 0xdc00 ≤ a && a < 0xe000 then none
    else (ofUnits? (b :: r)).map fun t => Char.ofNat a :: t
  | [a] => if 0xd800 ≤ a && a < 0xe000 then none else some [Char.ofNat a]

def decode? (bytes : ByteArray) : Option Text :=
  match bytes.toList with
  | 0xff :: 0xfe :: r => (units? false r).bind ofUnits?
  | 0xfe :: 0xff :: r => (units? true r).bind ofUnits?
  | _ =>
    (String.fromUTF8? bytes).map fun s =>
      if s.toList.head? = some '\ufeff' then s.toList.drop 1 else s.toList

/-- Reads the fields of a document. A node takes at most a few steps for each character of it, so the
bound on them is never reached. -/
def ofText (t : Text) : Except Error (List (Text × Node)) := do
  if !t.all isAllowed then throw (.malformed 0 .control)
  let (n, _) ← (Read.document (8 * t.length + 32)).run ⟨.ofText t, [], []⟩
  match n with
  | some n => n.fields
  | none => return []

def parse (bytes : ByteArray) : Except Error (List (Text × Node)) :=
  match decode? bytes with
  | some t => ofText t
  | none => .error (.malformed 0 .encoding)

end QueryMigration.Settings.Document
