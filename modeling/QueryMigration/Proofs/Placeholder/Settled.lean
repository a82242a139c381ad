import QueryMigration.Proofs.Placeholder.Positional
import QueryMigration.Proofs.Placeholder.Window

/-! Texts without a placeholder left. A kept mark has its colon close behind it and nothing changes
between the two. -/

namespace QueryMigration.Placeholder

open Text

/-- Whether no query line of a text has a placeholder. -/
def Settled (t : Text) : Prop :=
  ∀ line ∈ lines t, isQueryLine line = true → ∀ i, isPlaceholder line i = false

/-- Whether every mark in a literal is a conditional's, from a place of a line on that lies in a
literal if `inside` says so. -/
def SettledFrom (inside : Bool) (t : Text) : Prop :=
  ∀ u r, t = u ++ marker :: r → (inside ^^ isInside u) = true → isTernary r = true

theorem isInside_cons_delimiter (s : Text) : isInside (delimiter :: s) = !isInside s := by
  have h := Nat.mod_two_eq_zero_or_one (s.count delimiter)
  rcases h with h | h <;> simp [isInside, Nat.add_mod, h]

theorem isInside_cons_of_ne {c : Char} (h : c ≠ delimiter) (s : Text) :
    isInside (c :: s) = isInside s := by
  simp [isInside, List.count_cons_of_ne h]

theorem settledFrom_cons_delimiter (inside : Bool) (t : Text) :
    SettledFrom inside (delimiter :: t) ↔ SettledFrom (!inside) t := by
  constructor
  · intro h u r hr hu
    refine h (delimiter :: u) r (by rw [hr]; rfl) ?_
    rw [isInside_cons_delimiter]
    simpa using hu
  · intro h u r hr hu
    cases List.cons_eq_append_iff.1 hr with
    | inl hhere =>
      obtain ⟨rfl, hc⟩ := hhere
      exact absurd (List.cons.inj hc).1 (by decide)
    | inr hlater =>
      obtain ⟨u, rfl, rfl⟩ := hlater
      rw [isInside_cons_delimiter] at hu
      exact h u r rfl (by simpa using hu)

theorem settledFrom_cons_of_ne {c : Char} (hc : c ≠ delimiter) (inside : Bool) (t : Text) :
    SettledFrom inside (c :: t) ↔
      (c = marker → inside = true → isTernary t = true) ∧ SettledFrom inside t := by
  constructor
  · intro h
    refine ⟨fun hm hin => h [] t (by rw [hm]; rfl) (by simpa [isInside] using hin), ?_⟩
    intro u r hr hu
    exact h (c :: u) r (by rw [hr]; rfl) (by rwa [isInside_cons_of_ne hc])
  · rintro ⟨hhead, hrest⟩ u r hr hu
    cases List.cons_eq_append_iff.1 hr with
    | inl hhere =>
      obtain ⟨rfl, hm⟩ := hhere
      obtain ⟨rfl, rfl⟩ := List.cons.inj hm
      exact hhead rfl (by simpa [isInside] using hu)
    | inr hlater =>
      obtain ⟨u, rfl, rfl⟩ := hlater
      rw [isInside_cons_of_ne hc] at hu
      exact hrest u r rfl hu

theorem settledFrom_append {s : Text} (hs : ∀ c ∈ s, c ≠ delimiter ∧ c ≠ marker) (inside : Bool)
    (t : Text) : SettledFrom inside (s ++ t) ↔ SettledFrom inside t := by
  induction s with
  | nil => rfl
  | cons c s ih =>
    obtain ⟨hd, hm⟩ := hs c List.mem_cons_self
    rw [List.cons_append, settledFrom_cons_of_ne hd, ih fun d h => hs d (List.mem_cons_of_mem c h)]
    simp [hm]

theorem numberFrom_append {s t : Text}
    (h : ∀ u r, s = u ++ marker :: r → isTernary (r ++ t) = true) (inside : Bool) (n : Nat) :
    numberFrom inside n (s ++ t) = s ++ numberFrom (inside ^^ isInside s) n t := by
  induction s generalizing inside with
  | nil => simp [isInside]
  | cons c s ih =>
    have hs := ih fun u r hr => h (c :: u) r (by rw [hr]; rfl)
    rw [List.cons_append, numberFrom]
    by_cases hd : c = delimiter
    · subst hd
      simp [hs, isInside_cons_delimiter]
    · have hkept : (decide (c = marker) && inside && !isTernary (s ++ t)) = false := by
        by_cases hm : c = marker
        · simp [h [] s (by rw [hm]; rfl)]
        · simp [hm]
      simp [hd, hkept, hs, isInside_cons_of_ne hd]

theorem numberFrom_colon (inside : Bool) (n : Nat) (t : Text) :
    numberFrom inside n (':' :: t) = ':' :: numberFrom inside n t := by
  rw [numberFrom, if_neg (by decide), if_neg (by simp [marker])]

/-- A mark between a conditional's mark and its colon is a conditional's mark as well. -/
theorem Conditional.isTernary_of_eq {between u r : Text} (h : Conditional between)
    (hsplit : between = u ++ marker :: r) (after : Text) : isTernary (r ++ ':' :: after) = true := by
  subst hsplit
  exact isTernary_iff.2 ⟨r, after, rfl, h.of_append (by decide) (by decide)⟩

/-- The text between a kept mark and its colon is copied. -/
theorem Conditional.numberFrom_append_colon {between : Text} (h : Conditional between)
    (inside : Bool) (n : Nat) (after : Text) :
    numberFrom inside n (between ++ ':' :: after) =
      between ++ ':' :: numberFrom (inside ^^ isInside between) n after := by
  rw [numberFrom_append fun u r hsplit => h.isTernary_of_eq hsplit after, numberFrom_colon]

theorem isTernary_numberFrom {r : Text} (h : isTernary r = true) (inside : Bool) (n : Nat) :
    isTernary (numberFrom inside n r) = true := by
  obtain ⟨between, after, rfl, hbetween⟩ := isTernary_iff.1 h
  rw [hbetween.numberFrom_append_colon]
  exact isTernary_iff.2 ⟨between, _, rfl, hbetween⟩

theorem settledFrom_numberFrom (inside : Bool) (n : Nat) (t : Text) :
    SettledFrom inside (numberFrom inside n t) := by
  induction t generalizing inside n with
  | nil => simp [SettledFrom, numberFrom]
  | cons c t ih =>
    rw [numberFrom]
    split
    · rename_i hd
      rw [hd, settledFrom_cons_delimiter]
      exact ih (!inside) n
    · rename_i hd
      split
      -- A number holds neither delimiter nor mark, so the rest is read in the same state.
      · rw [← List.cons_append, settledFrom_append]
        · exact ih inside (n + 1)
        · intro d hmem
          cases List.mem_cons.1 hmem with
          | inl heq =>
            subst heq
            decide
          | inr hmem =>
            constructor
            · rintro rfl
              exact notMem_toDigits (by decide) n hmem
            · rintro rfl
              exact notMem_toDigits (by decide) n hmem
      · rename_i hkept
        rw [settledFrom_cons_of_ne hd]
        refine ⟨fun hm hin => ?_, ih inside n⟩
        exact isTernary_numberFrom (by simpa [hm, hin] using hkept) inside n

theorem numberFrom_eq_self_iff (inside : Bool) (n : Nat) (t : Text) :
    numberFrom inside n t = t ↔ SettledFrom inside t := by
  induction t generalizing inside with
  | nil => simp [SettledFrom, numberFrom]
  | cons c t ih =>
    rw [numberFrom]
    split
    · rename_i hd
      rw [hd, settledFrom_cons_delimiter, ← ih]
      simp
    · rename_i hd
      rw [settledFrom_cons_of_ne hd]
      split
      · rename_i hplace
        simp only [Bool.and_eq_true, decide_eq_true_eq, Bool.not_eq_true'] at hplace
        obtain ⟨⟨rfl, hin⟩, hternary⟩ := hplace
        simp [marker, hin, hternary]
      · rename_i hkept
        rw [← ih]
        simp only [List.cons.injEq, true_and, iff_and_self]
        intro _ hm hin
        simpa [hm, hin] using hkept

theorem settledFrom_iff_isPlaceholder (line : Text) :
    SettledFrom false line ↔ ∀ i, isPlaceholder line i = false := by
  constructor
  · intro h i
    rw [Bool.eq_false_iff]
    intro hp
    simp only [isPlaceholder, Bool.and_eq_true, beq_iff_eq, Bool.not_eq_true'] at hp
    obtain ⟨⟨hget, hin⟩, hternary⟩ := hp
    obtain ⟨hi, hget⟩ := List.getElem?_eq_some_iff.1 hget
    have hline : line = line.take i ++ marker :: line.drop (i + 1) := by
      rw [← hget, List.getElem_cons_drop, List.take_append_drop]
    rw [h _ _ hline (by simpa using hin)] at hternary
    exact absurd hternary (by decide)
  · rintro h u r rfl hu
    have hp := h u.length
    rw [isPlaceholder_append] at hp
    simpa [show isInside u = true by simpa using hu] using hp

theorem numberLine_eq_self_iff (line : Text) :
    numberLine line = line ↔ (isQueryLine line = true → ∀ i, isPlaceholder line i = false) := by
  rw [numberLine, ← settledFrom_iff_isPlaceholder, ← numberFrom_eq_self_iff false 1]
  split <;> simp [*]

/-- The settled texts are those that numbering leaves alone. -/
theorem number_eq_self_iff (t : Text) : number t = t ↔ Settled t := by
  rw [number, mapLines_eq_self_iff lineFeed_notMem_numberLine]
  simp only [numberLine_eq_self_iff, Settled]

theorem numberLine_numberLine (line : Text) : numberLine (numberLine line) = numberLine line := by
  by_cases h : isQueryLine line = true
  · have hline : numberLine line = numberFrom false 1 line := by rw [numberLine, if_pos h]
    rw [numberLine_eq_self_iff, hline, ← settledFrom_iff_isPlaceholder]
    exact fun _ => settledFrom_numberFrom false 1 line
  · have hline : numberLine line = line := by rw [numberLine, if_neg h]
    rw [hline, hline]

theorem settled_number (t : Text) : Settled (number t) := by
  rw [← number_eq_self_iff, number, mapLines_eq_self_iff lineFeed_notMem_numberLine]
  intro line hline
  have hline : line ∈ (lines t).map numberLine := lines_number t ▸ hline
  obtain ⟨l, _, rfl⟩ := List.mem_map.1 hline
  exact numberLine_numberLine l

/-- Numbering twice is numbering once. -/
theorem number_number (t : Text) : number (number t) = number t :=
  (number_eq_self_iff (number t)).2 (settled_number t)

end QueryMigration.Placeholder
