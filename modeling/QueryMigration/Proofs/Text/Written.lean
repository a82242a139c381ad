import QueryMigration.Text.Rune

/-! What numerals and quoted texts are made of. -/

namespace QueryMigration.Text

theorem mem_repr {c : Char} {n : Int} (h : c ∈ n.repr.toList) : c = '-' ∨ c.isDigit = true := by
  cases n with
  | ofNat m =>
    rw [Int.repr, Nat.toList_repr] at h
    exact Or.inr (Nat.isDigit_of_mem_toDigits (by decide) (by decide) h)
  | negSucc m =>
    rw [Int.repr, String.toList_append, List.mem_append, Nat.toList_repr] at h
    cases h with
    | inl h => exact Or.inl (by simpa using h)
    | inr h => exact Or.inr (Nat.isDigit_of_mem_toDigits (by decide) (by decide) h)

theorem notMem_repr {c : Char} (hsign : c ≠ '-') (hdigit : c.isDigit = false) (n : Int) :
    c ∉ n.repr.toList := by
  intro h
  cases mem_repr h with
  | inl h => exact hsign h
  | inr h => exact absurd (h.symm.trans hdigit) (by decide)

theorem lineFeed_notMem_toDigits (n : Nat) : '\n' ∉ Nat.toDigits 16 n := by
  induction n using Nat.strongRecOn with
  | _ n ih =>
    rw [Nat.toDigits_eq_if (by decide)]
    split
    · simp
    · simp [ih (n / 16) (by omega)]

namespace Quoted

theorem lineFeed_notMem_hex (width n : Nat) : '\n' ∉ hex width n := by
  simp [hex, lineFeed_notMem_toDigits]

theorem lineFeed_notMem_escape (c : Char) : '\n' ∉ escape doubleQuote c := by
  unfold escape
  split
  · rename_i hmark
    rcases Bool.or_eq_true_iff.1 hmark with h | h
    · rw [of_decide_eq_true h]
      decide
    · rw [of_decide_eq_true h]
      decide
  · split
    · rename_i hprintable
      rw [List.mem_singleton]
      rintro rfl
      exact absurd hprintable (by decide)
    · split
      · rename_i letter hletter
        have hletters : ∀ entry ∈ letters, entry.2 ≠ '\n' := by decide
        obtain ⟨before, after, hsplit, -⟩ := List.lookup_eq_some_iff.1 hletter
        have hne := hletters (c.toNat, letter) (by simp [hsplit])
        simpa [backslash] using hne.symm
      · split
        · simp [backslash, lineFeed_notMem_hex]
        · split
          · simp [backslash, lineFeed_notMem_hex]
          · simp [backslash, lineFeed_notMem_hex]

end Quoted

end QueryMigration.Text

namespace QueryMigration.Rune

open Text Quoted

theorem lineFeed_notMem_escape (r : Rune) : '\n' ∉ r.escape := by
  cases r with
  | char c => exact Quoted.lineFeed_notMem_escape c
  | stray b => simp [escape, backslash, lineFeed_notMem_hex]

theorem lineFeed_notMem_quote (t : List Rune) : '\n' ∉ quote t := by
  simp [quote, doubleQuote, lineFeed_notMem_escape]

end QueryMigration.Rune
