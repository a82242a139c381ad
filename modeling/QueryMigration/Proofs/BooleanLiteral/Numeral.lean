import QueryMigration.Proofs.BooleanLiteral.Simultaneous

/-! Flags and the numbers that their numerals belong to: only the zero of a choice can begin a
longer number. -/

namespace QueryMigration.BooleanLiteral

open Text

def continuesNumber (c : Char) : Bool := c.isDigit || c == '.'

/-- Whether an edit reads a numeral but not the rest of its number, with the text behind the edit. -/
def CutsNumber (e : Edit) (rest : Text) : Prop :=
  ∃ u d v, e.reads = u ++ d :: v ∧ (d = '0' ∨ d = '1') ∧
    (v ++ rest).head?.any continuesNumber = true

theorem continuesNumber_eq_false_of_isBlank {c : Char} (h : isBlank c = true) :
    continuesNumber c = false := by
  rw [Bool.eq_false_iff]
  intro hc
  simp only [continuesNumber, Char.isDigit, Bool.or_eq_true, Bool.and_eq_true, decide_eq_true_eq,
    beq_iff_eq] at hc
  simp only [isBlank, Bool.or_eq_true, Bool.and_eq_true, decide_eq_true_eq, beq_iff_eq] at h
  cases hc with
  | inl hdigit =>
    have hlow : 48 ≤ c.toNat := hdigit.1
    have hhigh : c.toNat ≤ 57 := hdigit.2
    omega
  | inr hpoint =>
    subst hpoint
    exact absurd h (by decide)

theorem head_gap_append_number {gap rest : Text} (hgap : IsGap gap)
    (hrest : rest.head?.any continuesNumber = false) :
    (gap ++ rest).head?.any continuesNumber = false := by
  cases gap with
  | nil => exact hrest
  | cons c gap => simpa using continuesNumber_eq_false_of_isBlank (hgap c (by simp))

theorem ConditionEnds.head {rest : Text} (h : ConditionEnds rest) :
    rest.head?.any continuesNumber = false := by
  cases h with
  | inl hgap =>
    have hend : ([] : Text).head?.any continuesNumber = false := rfl
    simpa using head_gap_append_number hgap hend
  | inr hcloser =>
    obtain ⟨gap, closer, hgap, hmem, after, rfl⟩ := hcloser
    have hclosers : ∀ closer ∈ closers, ∀ s : Text,
        (closer ++ s).head?.any continuesNumber = false := by
      simp only [closers, List.forall_mem_cons]
      exact ⟨fun _ => rfl, fun _ => rfl, fun _ => rfl, fun _ => rfl, by simp⟩
    rw [List.append_assoc]
    exact head_gap_append_number hgap (hclosers closer hmem after)

theorem eq_or_exists_of_append_cons_eq {s r u v : Text} {c d : Char} (hd : d ∉ s)
    (h : s ++ c :: r = u ++ d :: v) : (d = c ∧ v = r) ∨ ∃ u', r = u' ++ d :: v := by
  induction s generalizing u with
  | nil =>
    cases u with
    | nil => exact Or.inl ⟨(List.cons.inj h).1.symm, (List.cons.inj h).2.symm⟩
    | cons b u => exact Or.inr ⟨u, (List.cons.inj h).2⟩
  | cons a s ih =>
    cases u with
    | nil => exact absurd (by simp [(List.cons.inj h).1]) hd
    | cons b u => exact ih (fun hmem => hd (List.mem_cons_of_mem a hmem)) (List.cons.inj h).2

/-- A flag is read with its whole numbers, save that the zero of a choice may begin a longer one. -/
theorem Flag.cutsNumber_iff {k : Kind} {e : Edit} {rest : Text} (h : Flag k e rest) :
    CutsNumber e rest ↔ k = .chosen ∧ rest.head?.any continuesNumber = true := by
  have hblank {d : Char} (hd : d = '0' ∨ d = '1') : isBlank d = false := by
    cases hd with
    | inl hzero => rw [hzero]; decide
    | inr hone => rw [hone]; decide
  have hother {d : Char} (hd : d = '0' ∨ d = '1') : d ≠ '=' ∧ d ≠ '?' ∧ d ≠ ':' := by
    cases hd with
    | inl hzero => rw [hzero]; decide
    | inr hone => rw [hone]; decide
  cases h with
  | @compared value gap _ hgap hends =>
    constructor
    · intro hcut
      obtain ⟨u, d, v, hreads, hd, hnext⟩ := hcut
      have hfront : d ∉ '=' :: gap := by simp [(hother hd).1, hgap.notMem (hblank hd)]
      cases eq_or_exists_of_append_cons_eq hfront hreads with
      | inl hhere => simp [hhere.2, hends.head] at hnext
      | inr hlater => simp at hlater
    · intro hchosen
      exact absurd hchosen.1 (by simp)
  | @chosen gap₁ gap₂ gap₃ _ h₁ h₂ h₃ =>
    constructor
    · intro hcut
      obtain ⟨u, d, v, hreads, hd, hnext⟩ := hcut
      refine ⟨rfl, ?_⟩
      have hfront : d ∉ '?' :: gap₁ := by simp [(hother hd).2.1, h₁.notMem (hblank hd)]
      cases eq_or_exists_of_append_cons_eq hfront hreads with
      | inl hone =>
        -- Blanks and the colon follow the one.
        rw [hone.2, List.append_assoc, List.cons_append, head_gap_append_number h₂ rfl] at hnext
        exact absurd hnext (by decide)
      | inr hlater =>
        obtain ⟨u', hlater⟩ := hlater
        have hfront' : d ∉ gap₂ ++ ':' :: gap₃ := by
          simp [(hother hd).2.2, h₂.notMem (hblank hd), h₃.notMem (hblank hd)]
        cases eq_or_exists_of_append_cons_eq hfront' (by simpa using hlater) with
        | inl hzero => simpa [hzero.2] using hnext
        | inr hend => simp at hend
    · intro hnext
      refine ⟨'?' :: (gap₁ ++ '1' :: (gap₂ ++ ':' :: gap₃)), '0', [], by simp, Or.inl rfl, ?_⟩
      exact hnext.2

theorem exists_choice_iff {t : Text} :
    (∃ u e v, t = u ++ (e.reads ++ v) ∧ Flag .chosen e v ∧
        v.head?.any continuesNumber = true) ↔
      ∃ m c, ChoiceSpan false m ∧ continuesNumber c = true ∧ m ++ [c] <:+: t := by
  constructor
  · intro h
    obtain ⟨u, e, v, rfl, hflag, hnext⟩ := h
    cases hflag with
    | @chosen gap₁ gap₂ gap₃ _ h₁ h₂ h₃ =>
      cases v with
      | nil => simp at hnext
      | cons c v =>
        refine ⟨_, c, ⟨rfl, gap₁, gap₂, gap₃, h₁, h₂, h₃, rfl⟩, by simpa using hnext, u, v, ?_⟩
        simp
  · intro h
    obtain ⟨_, c, ⟨-, gap₁, gap₂, gap₃, h₁, h₂, h₃, rfl⟩, hc, u, v, rfl⟩ := h
    exact ⟨u, _, c :: v, by simp, .chosen h₁ h₂ h₃, by simpa using hc⟩

/-- Where a number is cut. Each rule, on any text, cuts one exactly if it reads a choice whose zero
goes on as a number; and so a text has a number cut exactly if it holds such a choice. -/
theorem number_cut_iff_choice (t : Text) :
    (∀ (k : Kind) u e v, t = u ++ (e.reads ++ v) → k.rule u.getLast? (e.reads ++ v) = some e →
      (CutsNumber e v ↔ k = .chosen ∧ v.head?.any continuesNumber = true)) ∧
    ((∃ pieces before e after, CutAtFlags t pieces ∧ normalize t = writtenBy pieces ∧
        pieces = before ++ e :: after ∧ e.writes ≠ e.reads ∧ CutsNumber e (readBy after)) ↔
      ∃ m c, ChoiceSpan false m ∧ continuesNumber c = true ∧ m ++ [c] <:+: t) := by
  refine ⟨?_, ?_⟩
  · intro k u e v _ hrule
    obtain ⟨rest, hflag, hrest⟩ := Kind.rule_eq_some_iff.1 hrule
    obtain rfl := List.append_cancel_left hrest
    exact hflag.cutsNumber_iff
  · rw [← exists_choice_iff]
    constructor
    · intro h
      obtain ⟨pieces, before, e, after, hcut, -, rfl, hne, hnumber⟩ := h
      obtain ⟨k, hflag⟩ := (hcut.piece before e after rfl).resolve_left hne
      obtain ⟨rfl, hnext⟩ := hflag.cutsNumber_iff.1 hnumber
      refine ⟨readBy before, e, readBy after, ?_, hflag, hnext⟩
      rw [← hcut.whole]
      simp [readBy]
    · intro h
      obtain ⟨u, e, v, ht, hflag, hnext⟩ := h
      have hnormalize : Normalized Kind.all t (normalize t) :=
        normalized_foldl (List.Perm.refl rules) t
      obtain ⟨pieces, hcut, hwritten⟩ := hnormalize.exists_pieces
      obtain ⟨before, after, hpieces, -, rfl⟩ := hcut.flag u .chosen e v ht hflag
      have hne : e.writes ≠ e.reads := fun heq =>
        hflag.writes_ne hflag (readBy after) (by rw [heq])
      exact ⟨pieces, before, e, after, hcut, hwritten, hpieces, hne,
        hflag.cutsNumber_iff.2 ⟨rfl, hnext⟩⟩

def fractionChoice : Text := "const share = whole ? 1 : 0.5;".toList

/-- The zero of the fraction is replaced and its decimals stay. -/
theorem number_cut_of_fractionChoice :
    normalize fractionChoice = "const share = whole ? true : false.5;".toList ∧
      ¬ ∀ (k : Kind) u e v, fractionChoice = u ++ (e.reads ++ v) →
        k.rule u.getLast? (e.reads ++ v) = some e → ¬ CutsNumber e v := by
  refine ⟨by decide +kernel, ?_⟩
  intro h
  refine h .chosen "const share = whole ".toList ⟨"? 1 : 0".toList, "? true : false".toList⟩
    ".5;".toList (by decide) rfl ?_
  exact ⟨"? 1 : ".toList, '0', [], by decide, Or.inl rfl, by decide⟩

end QueryMigration.BooleanLiteral
