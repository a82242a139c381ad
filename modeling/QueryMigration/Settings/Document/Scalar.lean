import QueryMigration.Settings.Truth
import QueryMigration.Settings.Document.Timestamp
import QueryMigration.Text.Base64

/-! Scalars of a settings document, by their form if they are plain, or under a tag. -/

namespace QueryMigration.Settings.Document

open Text

/-- The value of a scalar. Of a fraction only whether it differs from zero is kept, and nothing of a
point in time. -/
inductive Scalar where
  | null
  | bool (b : Bool)
  | int (n : Int)
  | float (nonzero : Bool)
  | time
  | text (t : Text)
deriving DecidableEq, Repr

namespace Scalar

def nullWords : List Text := [[], "~".toList, "null".toList, "Null".toList, "NULL".toList]

def infiniteWords : List Text :=
  [".nan", ".NaN", ".NAN", ".inf", ".Inf", ".INF", "+.inf", "+.Inf", "+.INF",
   "-.inf", "-.Inf", "-.INF"].map String.toList

def digit? (base : Nat) (c : Char) : Option Nat :=
  let value :=
    if c.isDigit then c.toNat - 0x30
    else if 'a' ≤ c && c ≤ 'f' then c.toNat - 0x61 + 10
    else if 'A' ≤ c && c ≤ 'F' then c.toNat - 0x41 + 10
    else base
  if value < base then some value else none

def number? (base : Nat) : Nat → Text → Option Nat
  | n, [] => some n
  | n, c :: r => (digit? base c).bind fun d => number? base (n * base + d) r

def magnitude? (t : Text) : Option Nat :=
  match t with
  | [] => none
  | '0' :: m :: d :: r =>
    if m = 'x' || m = 'X' then number? 16 0 (d :: r)
    else if m = 'o' || m = 'O' then number? 8 0 (d :: r)
    else if m = 'b' || m = 'B' then number? 2 0 (d :: r)
    else number? 8 0 (m :: d :: r)
  | '0' :: r => number? 8 0 r
  | _ => number? 10 0 t

def leastInt : Int := -(Nat.pow 2 63 : Nat)

def greatestInt : Int := (Nat.pow 2 63 : Nat) - 1

def greatestNat : Int := (Nat.pow 2 64 : Nat) - 1

def within (least greatest n : Int) : Option Scalar :=
  if least ≤ n && n ≤ greatest then some (.int n) else none

def innerSigned? (t : Text) : Option Scalar :=
  match t with
  | '0' :: m :: s :: d :: r =>
    let base := if m = 'b' then 2 else if m = 'o' then 8 else 0
    if base = 0 || (s != '+' && s != '-') then none
    else
      (number? base 0 (d :: r)).bind fun (n : Nat) =>
        within leastInt greatestInt (if s = '-' then -(n : Int) else n)
  | _ => none

/-- A whole number of at most 64 bits. A number without a sign may use all of them. -/
def int? (t : Text) : Option Scalar :=
  match t with
  | '-' :: r => (magnitude? r).bind fun (n : Nat) => within leastInt greatestInt (-(n : Int))
  | '+' :: r => (magnitude? r).bind fun (n : Nat) => within leastInt greatestInt n
  | _ => ((magnitude? t).bind fun (n : Nat) => within leastInt greatestNat n).or (innerSigned? t)

def sign (t : Text) : Bool × Text :=
  match t with
  | '-' :: r => (true, r)
  | '+' :: r => (false, r)
  | _ => (false, t)

def exponent? (t : Text) : Option Int :=
  match t with
  | [] => some 0
  | e :: r =>
    let (negative, digits) := sign r
    if (e = 'e' || e = 'E') && !digits.isEmpty && digits.all Char.isDigit then
      (number? 10 0 digits).map fun (n : Nat) => if negative then -(n : Int) else n
    else none

/-- Whether `m · 10 ^ e` is rounded to zero in double precision, which holds up to half of the least
positive double. The bounds on `e` keep the powers small. -/
def vanishes (m : Nat) (e : Int) : Bool :=
  m == 0 || (e < 0 && (decide ((Nat.toDigits 10 m).length + 400 < e.natAbs) ||
    m * Nat.pow 2 1075 ≤ Nat.pow 10 e.natAbs))

def overflows (m : Nat) (e : Int) : Bool :=
  let bound := (Nat.pow 2 54 - 1) * Nat.pow 2 970
  m != 0 && (if e < 0 then decide (bound * Nat.pow 10 e.natAbs ≤ m)
    else decide (400 < e) || decide (bound ≤ m * Nat.pow 10 e.natAbs))

def float? (t : Text) : Option Scalar :=
  let (_, t) := sign t
  let whole := t.takeWhile Char.isDigit
  let t := t.dropWhile Char.isDigit
  let hasPoint := t.head? == some '.'
  let t := if hasPoint then t.drop 1 else t
  let fraction := if hasPoint then t.takeWhile Char.isDigit else []
  let t := t.drop fraction.length
  if whole.isEmpty && fraction.isEmpty then none
  else do
    let e ← exponent? t
    let m ← number? 10 0 (whole ++ fraction)
    let e := e - fraction.length
    if vanishes m e then return .float false
    else if overflows m e then none
    else return .float true

def dividesDigits (before : Option Char) : Text → Bool
  | [] => true
  | c :: r =>
    (c != '_' || before.any Char.isDigit && r.head?.any Char.isDigit) && dividesDigits (some c) r

/-- The value of a scalar by its form, points in time apart. Underscores within a number only divide
its digits. -/
def ofForm (t : Text) : Scalar :=
  if nullWords.contains t then .null
  else if ["true".toList, "True".toList, "TRUE".toList].contains t then .bool true
  else if ["false".toList, "False".toList, "FALSE".toList].contains t then .bool false
  else if infiniteWords.contains t then .float true
  else
    let digits := t.filter (· != '_')
    match t.head? with
    | some c =>
      if c.isDigit || c = '+' || c = '-' then ((int? digits).or (float? digits)).getD (.text t)
      else if c = '.' && dividesDigits none t then (float? digits).getD (.text t)
      else .text t
    | none => .null

def ofPlain (t : Text) : Scalar := if Timestamp.isTimestamp t then .time else ofForm t

def tag : Scalar → String
  | .null => "!!null"
  | .bool _ => "!!bool"
  | .int _ => "!!int"
  | .float _ => "!!float"
  | .time => "!!timestamp"
  | .text _ => "!!str"

def formTags : List String := ["!!null", "!!bool", "!!int", "!!float", "!!timestamp"]

/-- The text whose bytes are written in base 64. Characters beyond ASCII are left as their bytes. -/
def ofBase64? (t : Text) : Option Scalar :=
  (Base64.decode? t).map fun bytes => .text (bytes.map Char.ofNat)

-- A point in time is looked for only where it is wanted.
def formed (wanted : String) (t : Text) : Scalar :=
  if wanted = "!!timestamp" then ofPlain t else ofForm t

/-- Reads a scalar under a tag. A tag of a kind must be the one of the scalar's form, except that a
whole number is a `!!float` too. Under any other tag a scalar is a text. -/
def ofTagged? (wanted : String) (t : Text) : Option Scalar :=
  if wanted = "!!binary" then ofBase64? t
  else if !formTags.contains wanted then some (.text t)
  else
    let plain := formed wanted t
    if wanted = plain.tag then some plain
    else
      match plain with
      | .int n =>
        if wanted = "!!float" && n ≤ greatestInt then some (.float (n != 0)) else none
      | _ => none

def isOn : Scalar → Bool
  | .null => false
  | .bool b => b
  | .int n => n != 0
  | .float nonzero => nonzero
  | .time => false
  | .text t => isTrue (String.ofList t)

end Scalar

end QueryMigration.Settings.Document
