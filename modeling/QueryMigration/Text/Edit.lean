import QueryMigration.Text.Basic

/-! Replacing parts of a text from left to right. A rule never sees what it wrote. -/

namespace QueryMigration.Text

structure Edit where
  reads : Text
  writes : Text

/-- A rule looks at the character before a place, if any, and at the text from there on. An edit it
gives reads a non-empty beginning of that text. -/
abbrev Rule := Option Char → Text → Option Edit

/-- Applies a rule from a place on, when `skip` characters of the last edit are still to be passed. -/
def Rule.scan (rule : Rule) : Nat → Option Char → Text → Text
  | _, _, [] => []
  | skip + 1, _, c :: r => rule.scan skip (some c) r
  | 0, before, c :: r =>
    match rule before (c :: r) with
    | some e => e.writes ++ rule.scan (e.reads.length - 1) (some c) r
    | none => c :: rule.scan 0 (some c) r

def Rule.apply (rule : Rule) (t : Text) : Text := rule.scan 0 none t

theorem Rule.scan_append (rule : Rule) (s t : Text) (before : Option Char) :
    rule.scan s.length before (s ++ t) = rule.scan 0 (s.getLast?.or before) t := by
  induction s generalizing before with
  | nil => simp
  | cons c s ih =>
    simp only [List.length_cons, List.cons_append, Rule.scan, ih]
    cases s <;> simp [List.getLast?_cons]

end QueryMigration.Text
