import QueryMigration.Text.Blank
import QueryMigration.Text.WordChar

/-! Texts as lists of characters, and the ways of cutting them that the passes need. -/

namespace QueryMigration

abbrev Text := List Char

namespace Text

set_option maxRecDepth 2000 in
theorem isWordChar_eq_false_of_isBlank {c : Char} (h : isBlank c = true) : isWordChar c = false := by
  have outside : ∀ n ∈ [9, 10, 11, 12, 13, 0x20, 0x85, 0xa0, 0x1680, 0x2000, 0x2001, 0x2002, 0x2003,
      0x2004, 0x2005, 0x2006, 0x2007, 0x2008, 0x2009, 0x200a, 0x2028, 0x2029, 0x202f, 0x205f, 0x3000],
      inRanges wordRanges n = false := by decide
  simp only [isBlank, Bool.or_eq_true, Bool.and_eq_true, decide_eq_true_eq, beq_iff_eq] at h
  apply outside
  simp
  omega

/-- The lines of a text. Only a line feed ends a line, and `n` line feeds make `n + 1` lines. -/
def lines (t : Text) : List Text := t.splitOn '\n'

def unlines (ls : List Text) : Text := ['\n'].intercalate ls

theorem unlines_lines (t : Text) : unlines (lines t) = t := List.intercalate_splitOn '\n'

/-- The maximal runs of word characters, with an empty run between two neighbouring separators. -/
def words (t : Text) : List Text := t.splitOnP (!isWordChar ·)

def mapLines (f : Text → Text) (t : Text) : Text := unlines ((lines t).map f)

def includes (w : Text) : Text → Bool
  | [] => w.isEmpty
  | c :: r => w.isPrefixOf (c :: r) || includes w r

/-- The first `n` characters; a negative `n` sets no limit. -/
def head (n : Int) (t : Text) : Text := if n < 0 then t else t.take n.toNat

def dropEndWhile {α : Type} (p : α → Bool) (t : List α) : List α := (t.reverse.dropWhile p).reverse

def trimWhile {α : Type} (p : α → Bool) (t : List α) : List α := dropEndWhile p (t.dropWhile p)

def trim (t : Text) : Text := trimWhile isBlank t

def strip? (w t : Text) : Option Text :=
  if w.isPrefixOf t then some (t.drop w.length) else none

theorem strip?_eq_some_iff {w t rest : Text} : strip? w t = some rest ↔ t = w ++ rest := by
  unfold strip?
  split
  · rename_i h
    obtain ⟨s, rfl⟩ := List.isPrefixOf_iff_prefix.1 h
    simp [eq_comm]
  · rename_i h
    simp only [reduceCtorEq, false_iff]
    rintro rfl
    exact h (List.isPrefixOf_iff_prefix.2 (List.prefix_append w rest))

def run? (p : Char → Bool) (t : Text) : Option (Text × Text) :=
  match t.takeWhile p with
  | [] => none
  | run => some (run, t.dropWhile p)

theorem append_of_run? {p : Char → Bool} {t run rest : Text} (h : run? p t = some (run, rest)) :
    run ≠ [] ∧ run ++ rest = t := by
  unfold run? at h
  split at h
  · simp at h
  · rename_i hne
    simp only [Option.some.injEq, Prod.mk.injEq] at h
    obtain ⟨rfl, rfl⟩ := h
    exact ⟨hne, List.takeWhile_append_dropWhile⟩

end Text

end QueryMigration
