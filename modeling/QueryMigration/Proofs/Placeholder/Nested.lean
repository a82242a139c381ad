import QueryMigration.Proofs.Placeholder.Settled

/-! Nested conditionals: all marks up to a colon are kept along with the first. -/

namespace QueryMigration.Placeholder

open Text

theorem isTernary_of_append_marker {u r : Text} (hcolon : ':' ∉ u)
    (h : isTernary (u ++ marker :: r) = true) : isTernary r = true := by
  obtain ⟨between, after, hsplit, hbetween⟩ := isTernary_iff.1 h
  cases List.append_eq_append_iff.1 hsplit with
  | inl hinner =>
    obtain ⟨s, hs, hr⟩ := hinner
    cases s with
    | nil => exact absurd (List.cons.inj hr).1 (by decide)
    | cons c s =>
      obtain ⟨rfl, rfl⟩ := List.cons.inj hr
      exact hbetween.isTernary_of_eq hs after
  | inr houter =>
    -- The colon would have to stand before the mark, or in its place.
    obtain ⟨s, rfl, hr⟩ := houter
    cases s with
    | nil => exact absurd (List.cons.inj hr).1 (by decide)
    | cons c s =>
      obtain ⟨rfl, -⟩ := List.cons.inj hr
      simp at hcolon

theorem exists_numberFrom_append (s t : Text) (inside : Bool) (n : Nat) :
    ∃ front inside' n', numberFrom inside n (s ++ t) = front ++ numberFrom inside' n' t ∧
      PatchedBy Numbers s front := by
  induction s generalizing inside n with
  | nil => exact ⟨[], inside, n, rfl, .nil⟩
  | cons c s ih =>
    rw [List.cons_append, numberFrom]
    split
    · obtain ⟨front, inside', n', hrest, hfront⟩ := ih (!inside) n
      exact ⟨c :: front, inside', n', by rw [hrest]; rfl, .copy trivial hfront⟩
    · split
      · rename_i hplace
        obtain ⟨front, inside', n', hrest, hfront⟩ := ih inside (n + 1)
        have hc : c = marker := by
          simp only [Bool.and_eq_true, decide_eq_true_eq] at hplace
          exact hplace.1.1
        refine ⟨'$' :: Nat.toDigits 10 n ++ front, inside', n', by rw [hrest]; simp, ?_⟩
        exact Patched.edit (a := [c]) ⟨by rw [hc], n, rfl⟩ hfront
      · obtain ⟨front, inside', n', hrest, hfront⟩ := ih inside n
        exact ⟨c :: front, inside', n', by rw [hrest]; rfl, .copy trivial hfront⟩

/-- A kept mark and the text up to its colon stand in the numbered line as in the line itself. -/
theorem Conditional.exists_numberLine {between : Text} (h : Conditional between)
    (before after : Text) :
    ∃ front back, numberLine (before ++ marker :: (between ++ ':' :: after)) =
        front ++ marker :: (between ++ ':' :: back) ∧
      PatchedBy Numbers before front ∧ PatchedBy Numbers after back := by
  unfold numberLine
  split
  · obtain ⟨front, inside, n, hnumber, hfront⟩ :=
      exists_numberFrom_append before (marker :: (between ++ ':' :: after)) false 1
    have hkept : isTernary (between ++ ':' :: after) = true :=
      isTernary_iff.2 ⟨between, after, rfl, h⟩
    refine ⟨front, numberFrom (inside ^^ isInside between) n after, ?_, hfront,
      patchedBy_numberFrom _ n after⟩
    rw [hnumber, numberFrom, if_neg (by decide), if_neg (by simp [hkept]),
      h.numberFrom_append_colon]
  · exact ⟨before, after, rfl, .refl before, .refl after⟩

/-- Conditionals are closed downwards. Behind a conditional's mark every mark before the first colon
is a conditional's too; and on every line on which the mark stands, the mark and all text up to that
colon are written as they are, while numbers can appear only before and behind. -/
theorem nested_conditionals_never_half_numbered {rest : Text} (h : isTernary rest = true) :
    (∀ u r, rest = u ++ marker :: r → ':' ∉ u → isTernary r = true) ∧
      ∃ between after, rest = between ++ ':' :: after ∧ ':' ∉ between ∧
        ∀ before, ∃ front back,
          numberLine (before ++ marker :: rest) = front ++ marker :: (between ++ ':' :: back) ∧
            PatchedBy Numbers before front ∧ PatchedBy Numbers after back := by
  refine ⟨?_, ?_⟩
  · intro u r hrest hcolon
    exact isTernary_of_append_marker hcolon (hrest ▸ h)
  · obtain ⟨between, after, rfl, hbetween⟩ := isTernary_iff.1 h
    exact ⟨between, after, rfl, hbetween.colon_notMem, fun before =>
      hbetween.exists_numberLine before after⟩

def nestedChoice : Text := " vu？ ? 1 : 2 : 3\x7d, ?`".toList

/-- The inner mark is kept along with the outer one, and the placeholder gets its number. -/
theorem nested_conditionals_never_half_numbered_nestedChoice :
    isTernary nestedChoice = true ∧ isTernary " 1 : 2 : 3\x7d, ?`".toList = true ∧
      numberLine ("`SELECT ? FROM $\x7ba ".toList ++ marker :: nestedChoice) =
        "`SELECT $1 FROM $\x7ba ? vu？ ? 1 : 2 : 3\x7d, $2`".toList := by
  have h : isTernary nestedChoice = true := by decide +kernel
  refine ⟨h, ?_, by decide +kernel⟩
  exact (nested_conditionals_never_half_numbered h).1 " vu？ ".toList _ (by decide) (by decide)

end QueryMigration.Placeholder
