import QueryMigration.Text.Quoted

/-! Bytes read as characters where they are UTF-8, and as they are elsewhere. -/

namespace QueryMigration

/-- A character, or a byte that is part of none. -/
inductive Rune where
  | char (c : Char)
  | stray (b : UInt8)
deriving DecidableEq, Repr

namespace Rune

open Text

def ofBytesAt (bytes : ByteArray) : Nat → Nat → List Rune
  | 0, _ => []
  | limit + 1, i =>
    if i < bytes.size then
      match bytes.utf8DecodeChar? i with
      | some c => .char c :: ofBytesAt bytes limit (i + c.utf8Size)
      | none => .stray (bytes.get! i) :: ofBytesAt bytes limit (i + 1)
    else []

-- A rune takes a byte at least, so the bound on their number is never reached.
def ofBytes (bytes : ByteArray) : List Rune := ofBytesAt bytes bytes.size 0

def bytes : Rune → List UInt8
  | .char c => String.utf8EncodeChar c
  | .stray b => [b]

def shown : Rune → Char
  | .char c => c
  | .stray _ => '\ufffd'

def escape : Rune → Text
  | .char c => Quoted.escape Quoted.doubleQuote c
  | .stray b => Quoted.backslash :: 'x' :: Quoted.hex 2 b.toNat

def quote (t : List Rune) : Text := Quoted.doubleQuote :: (t.flatMap escape ++ [Quoted.doubleQuote])

def ofString (s : String) : List Rune := s.toList.map .char

end Rune

end QueryMigration
