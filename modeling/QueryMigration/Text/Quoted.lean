import QueryMigration.Text.Basic
import QueryMigration.Text.Printable

/-! Quoted text: what cannot be printed is written behind a backslash. -/

namespace QueryMigration.Text.Quoted

def doubleQuote : Char := '\x22'

def singleQuote : Char := '\x27'

def backslash : Char := '\x5c'

def hex (width n : Nat) : Text :=
  let digits := Nat.toDigits 16 n
  List.replicate (width - digits.length) '0' ++ digits

def letters : List (Nat × Char) :=
  [(7, 'a'), (8, 'b'), (9, 't'), (10, 'n'), (11, 'v'), (12, 'f'), (13, 'r')]

def escape (mark c : Char) : Text :=
  if c = mark || c = backslash then [backslash, c]
  else if isPrintable c then [c]
  else
    match letters.lookup c.toNat with
    | some letter => [backslash, letter]
    | none =>
      if c.toNat < 0x80 then backslash :: 'x' :: hex 2 c.toNat
      else if c.toNat < 0x10000 then backslash :: 'u' :: hex 4 c.toNat
      else backslash :: 'U' :: hex 8 c.toNat

def quote (t : Text) : Text := doubleQuote :: (t.flatMap (escape doubleQuote) ++ [doubleQuote])

def quoteChar (c : Char) : Text := singleQuote :: (escape singleQuote c ++ [singleQuote])

end QueryMigration.Text.Quoted
