import QueryMigration.Terminal.Style
import QueryMigration.Proofs.Text.Patched

/-! Painting keeps the sign at the front of a message and adds nothing but blanks, line ends and
control sequences. -/

namespace QueryMigration.Terminal

open Text

theorem mem_of_mem_settle {c : Char} {t : Text} (h : c ∈ settle t) : c = ' ' ∨ c ∈ t := by
  fun_induction settle t with
  | case1 => exact Or.inr h
  | case2 r ih =>
    simp only [List.mem_cons] at h ⊢
    grind
  | case3 r hne ih =>
    simp only [List.mem_cons] at h ⊢
    grind
  | case4 c r hne hc ih =>
    simp only [List.mem_cons] at h ⊢
    grind

end QueryMigration.Terminal
