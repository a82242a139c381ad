import QueryMigration.Text.Basic
import QueryMigration.Text.Columns

/-! What a terminal shows of a line. Control sequences and control strings take no column. -/

namespace QueryMigration.Terminal

open Text

/-- Where a terminal is while it reads: at text, behind an escape character, in a control sequence,
in the head of a device control string, or in a control string. -/
inductive Mode where
  | ground
  | escape
  | escapeIntermediate
  | sequence
  | sequenceIntermediate
  | deviceStart
  | deviceParameter
  | deviceIntermediate
  | deviceString
  | commandString
  | otherString
deriving DecidableEq, Repr

namespace Mode

def afterHigh (b : Nat) : Mode :=
  if b == 0x90 then .deviceStart
  else if b == 0x98 || b == 0x9e || b == 0x9f then .otherString
  else if b == 0x9b then .sequence
  else if b == 0x9d then .commandString
  else .ground

def afterEscape (b : Nat) : Mode :=
  if b < 0x20 || b == 0x7f then .escape
  else if b < 0x30 then .escapeIntermediate
  else if b == 0x50 then .deviceStart
  else if b == 0x58 || b == 0x5e || b == 0x5f then .otherString
  else if b == 0x5b then .sequence
  else if b == 0x5d then .commandString
  else .ground

def afterDevice (m : Mode) (b : Nat) : Mode :=
  if m == .deviceStart && 0x08 ≤ b && b ≤ 0x0d then .deviceString
  else if b < 0x20 || b == 0x7f then m
  else if b < 0x30 then .deviceIntermediate
  else if b < 0x40 && m != .deviceIntermediate then .deviceParameter
  else .deviceString

def afterAscii (m : Mode) (b : Nat) : Mode :=
  match m with
  | .ground => .ground
  | .escape => afterEscape b
  | .escapeIntermediate => if b < 0x30 || b == 0x7f then m else .ground
  | .sequence =>
    if 0x20 ≤ b && b < 0x30 then .sequenceIntermediate
    else if b < 0x40 || b == 0x7f then m
    else .ground
  | .sequenceIntermediate => if b < 0x30 || b == 0x7f then m else .ground
  | .deviceStart | .deviceParameter | .deviceIntermediate => m.afterDevice b
  | .commandString => if b == 0x07 then .ground else m
  | .deviceString | .otherString => m

def isOpen (m : Mode) : Bool := m == .deviceString || m == .commandString

def after (m : Mode) (b : Nat) : Mode :=
  if b == 0x18 || b == 0x1a then .ground
  else if b == 0x1b then if m == .deviceStart then .deviceString else .escape
  else if b < 0x80 then m.afterAscii b
  else if m.isOpen then if b == 0x9c then .ground else m
  else afterHigh b

end Mode

/-- The columns of a text, read from a mode on, when `skip` characters of the last cluster are still
to be passed. -/
def columnsFrom : Mode → Nat → Text → Nat
  | _, _, [] => 0
  | m, skip + 1, _ :: r => columnsFrom m skip r
  | m, 0, c :: r =>
    let n := c.toNat
    if n < 0x80 then
      (if m == .ground && 0x20 ≤ n && n < 0x7f then 1 else 0) + columnsFrom (m.after n) 0 r
    else if m.isOpen then
      columnsFrom ((String.utf8EncodeChar c).foldl (fun m b => m.after b.toNat) m) 0 r
    else
      let cluster := firstCluster c r
      clusterColumns cluster + columnsFrom .ground (cluster.length - 1) r

def columns (line : Text) : Nat := columnsFrom .ground 0 line

end QueryMigration.Terminal
