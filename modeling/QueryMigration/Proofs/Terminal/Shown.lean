import QueryMigration.Terminal.Summary
import QueryMigration.Proofs.Text.Patched
import Mathlib.Data.List.Forall2

/-! What is left of a styled text when its selecting sequences are deleted. -/

namespace QueryMigration.Terminal

open Text

def IsCodes (codes : Text) : Prop := codes ≠ [] ∧ ∀ c ∈ codes, isCode c = true

theorem isCodes_of_all {codes : Text} (hne : codes ≠ []) (h : codes.all isCode = true) :
    IsCodes codes :=
  ⟨hne, List.all_eq_true.1 h⟩

/-- The first text is the second one with selecting sequences put in. -/
inductive Shows : Text → Text → Prop
  | nil : Shows [] []
  | char {c : Char} {s shown : Text} (hc : c ≠ escapeChar) (rest : Shows s shown) :
      Shows (c :: s) (c :: shown)
  | select {codes s shown : Text} (hcodes : IsCodes codes) (rest : Shows s shown) :
      Shows (sequence codes ++ s) shown

section Deletion

theorem dropSequence_of_ne {c : Char} (hc : c ≠ escapeChar) (before : Option Char) (t : Text) :
    dropSequence before (c :: t) = none := by
  have hstrip : strip? [escapeChar, '['] (c :: t) = none := by
    simp [strip?, List.isPrefixOf, Ne.symm hc]
  simp [dropSequence, hstrip]

theorem dropSequence_sequence {codes : Text} (hcodes : IsCodes codes) (before : Option Char)
    (t : Text) : dropSequence before (sequence codes ++ t) = some ⟨sequence codes, []⟩ := by
  have hstart : strip? [escapeChar, '['] (sequence codes ++ t) = some (codes ++ 'm' :: t) :=
    strip?_eq_some_iff.2 (by simp [sequence])
  have hrun : run? isCode (codes ++ 'm' :: t) = some (codes, 'm' :: t) :=
    run?_eq_some_iff.2 ⟨hcodes.1, hcodes.2, rfl, rfl⟩
  have hend : strip? ['m'] ('m' :: t) = some t := strip?_eq_some_iff.2 rfl
  simp [dropSequence, hstart, hrun, hend]

theorem Shows.scan_eq {s shown : Text} (h : Shows s shown) (before : Option Char) :
    dropSequence.scan 0 before s = shown := by
  induction h generalizing before with
  | nil => rfl
  | char hc _ ih => rw [Rule.scan_of_none (dropSequence_of_ne hc before _), ih]
  | @select codes s shown hcodes _ ih =>
    have hne : sequence codes ≠ [] := by simp [sequence]
    rw [Rule.scan_of_some (e := ⟨sequence codes, []⟩) hne (dropSequence_sequence hcodes before s), ih]
    rfl

theorem Shows.unstyled_eq {s shown : Text} (h : Shows s shown) : unstyled s = shown :=
  h.scan_eq none

end Deletion

section Composition

variable {s t shown shown' codes : Text}

theorem Shows.append (hs : Shows s shown) (ht : Shows t shown') :
    Shows (s ++ t) (shown ++ shown') := by
  induction hs with
  | nil => exact ht
  | char hc _ ih => exact .char hc ih
  | select hcodes _ ih =>
    rw [List.append_assoc]
    exact .select hcodes ih

theorem shows_self (h : escapeChar ∉ s) : Shows s s := by
  induction s with
  | nil => exact .nil
  | cons c s ih =>
    simp only [List.mem_cons, not_or] at h
    exact .char (Ne.symm h.1) (ih h.2)

theorem shows_sequence (hcodes : IsCodes codes) : Shows (sequence codes) [] := by
  simpa using Shows.select hcodes .nil

theorem isCodes_reset : IsCodes ['0'] := isCodes_of_all (by decide) rfl

theorem isCodes_of_codes? {profile : Profile} {tone : Tone}
    (h : profile.codes? tone = some codes) : IsCodes codes := by
  have hall : ∀ codes ∈ profile.codes? tone, codes ≠ [] ∧ codes.all isCode = true := by
    cases profile <;> cases tone <;> decide
  exact isCodes_of_all (hall codes h).1 (hall codes h).2

theorem Shows.wrap (hcodes : IsCodes codes) (h : Shows s shown) : Shows (wrap codes s) shown := by
  have hwrapped := (Shows.select hcodes h).append (shows_sequence isCodes_reset)
  rwa [List.append_nil] at hwrapped

theorem Shows.mem {c : Char} (hc : ∀ codes, IsCodes codes → c ∉ sequence codes)
    (h : Shows s shown) (hmem : c ∈ s) : c ∈ shown := by
  induction h with
  | nil => exact hmem
  | char _ _ ih =>
    cases List.mem_cons.1 hmem with
    | inl heq => exact List.mem_cons.2 (Or.inl heq)
    | inr hmem => exact List.mem_cons_of_mem _ (ih hmem)
  | select hcodes _ ih =>
    cases List.mem_append.1 hmem with
    | inl hmem => exact absurd hmem (hc _ hcodes)
    | inr hmem => exact ih hmem

theorem reselect_of_ne {c : Char} (hc : c ≠ escapeChar) (before : Option Char) (t : Text) :
    reselect codes before (c :: t) = none := by
  simp [reselect, reset, sequence, List.isPrefixOf, Ne.symm hc]

theorem reselect_scan_append (hs : escapeChar ∉ s) (before : Option Char) (t : Text) :
    (reselect codes).scan 0 before (s ++ t) =
      s ++ (reselect codes).scan 0 (s.getLast?.or before) t := by
  induction s generalizing before with
  | nil => rfl
  | cons c s ih =>
    simp only [List.mem_cons, not_or] at hs
    rw [List.cons_append, Rule.scan_of_none (reselect_of_ne (Ne.symm hs.1) before _), ih hs.2]
    cases s <;> simp [List.getLast?_cons]

theorem escapeChar_notMem_codes (hcodes : IsCodes codes) : escapeChar ∉ codes := by
  intro h
  exact absurd (hcodes.2 _ h) (by decide)

theorem reset_isPrefixOf_sequence (hcodes : IsCodes codes) (hne : codes ≠ ['0']) (t : Text) :
    reset.isPrefixOf (sequence codes ++ t) = false := by
  obtain ⟨c, rest, rfl⟩ := List.exists_cons_of_ne_nil hcodes.1
  cases rest with
  | nil =>
    have hc : c ≠ '0' := fun h => hne (by rw [h])
    simp [reset, sequence, List.isPrefixOf, Ne.symm hc]
  | cons d rest =>
    have hd : d ≠ 'm' := by
      rintro rfl
      exact absurd (hcodes.2 'm' (by simp)) (by decide)
    simp [reset, sequence, List.isPrefixOf, Ne.symm hd]

/-- Selecting some codes anew wherever styling ends adds sequences only. -/
theorem Shows.reselect_scan (hcodes : IsCodes codes) (h : Shows s shown) (before : Option Char) :
    Shows ((reselect codes).scan 0 before s) shown := by
  induction h generalizing before with
  | nil => exact .nil
  | char hc _ ih =>
    rw [Rule.scan_of_none (reselect_of_ne hc before _)]
    exact .char hc (ih _)
  | @select inner s shown hinner _ ih =>
    by_cases hreset : inner = ['0']
    · subst hreset
      have hedit : reselect codes before (reset ++ s) = some ⟨reset, reset ++ sequence codes⟩ := by
        simp [reselect]
      have hne : reset ≠ [] := by simp [reset, sequence]
      change Shows ((reselect codes).scan 0 before (reset ++ s)) shown
      rw [Rule.scan_of_some (e := ⟨reset, reset ++ sequence codes⟩) hne hedit, List.append_assoc]
      exact .select isCodes_reset (.select hcodes (ih _))
    · have hpass : reselect codes before (sequence inner ++ s) = none := by
        rw [reselect, reset_isPrefixOf_sequence hinner hreset]
        rfl
      -- Behind its first character the sequence is an ordinary text and is copied.
      have htail : escapeChar ∉ '[' :: (inner ++ ['m']) := by
        simp only [List.mem_cons, List.mem_append, List.not_mem_nil, or_false, not_or]
        exact ⟨by decide, escapeChar_notMem_codes hinner, by decide⟩
      have hscan : (reselect codes).scan 0 before (sequence inner ++ s) = sequence inner ++
          (reselect codes).scan 0 (('[' :: (inner ++ ['m'])).getLast?.or (some escapeChar)) s := by
        calc (reselect codes).scan 0 before (sequence inner ++ s)
            = escapeChar :: (reselect codes).scan 0 (some escapeChar)
                ('[' :: (inner ++ ['m']) ++ s) := Rule.scan_of_none hpass
          _ = _ := by rw [reselect_scan_append htail]; rfl
      rw [hscan]
      exact .select hinner (ih _)

end Composition

section Lines

variable {s shown codes : Text}

theorem notMem_sequence {c : Char} (hframe : c ∉ [escapeChar, '[', 'm']) (hcode : isCode c = false)
    (hcodes : IsCodes codes) : c ∉ sequence codes := by
  intro h
  simp only [sequence, List.mem_cons, List.mem_append, List.not_mem_nil, or_false] at h hframe
  rcases h with h | h | h | h
  · exact hframe (Or.inl h)
  · exact hframe (Or.inr (Or.inl h))
  · exact absurd ((hcodes.2 c h).symm.trans hcode) (by decide)
  · exact hframe (Or.inr (Or.inr h))

theorem Shows.lines (h : Shows s shown) : List.Forall₂ Shows (lines s) (lines shown) := by
  induction h with
  | nil => exact .cons .nil .nil
  | @char c s shown hc _ ih =>
    by_cases hfeed : c = '\n'
    · rw [hfeed, lines_cons_lineFeed, lines_cons_lineFeed]
      exact .cons .nil ih
    · rw [lines_cons_of_ne hfeed, lines_cons_of_ne hfeed]
      generalize Text.lines s = ls at ih ⊢
      generalize Text.lines shown = ms at ih ⊢
      cases ih with
      | nil => exact .nil
      | cons hfirst hrest => exact .cons (.char hc hfirst) hrest
  | @select codes s shown hcodes _ ih =>
    rw [lines_append (notMem_sequence (by decide) rfl hcodes)]
    generalize Text.lines s = ls at ih ⊢
    generalize Text.lines shown = ms at ih ⊢
    cases ih with
    | nil => exact .nil
    | cons hfirst hrest => exact .cons (.select hcodes hfirst) hrest

theorem shows_unlines {ls shownLines : List Text} (h : List.Forall₂ Shows ls shownLines) :
    Shows (unlines ls) (unlines shownLines) := by
  induction h with
  | nil => exact .nil
  | @cons l m ls ms hfirst hrest ih =>
    cases hrest with
    | nil => simpa [unlines] using hfirst
    | cons hsecond hrest =>
      rw [unlines_cons_cons, unlines_cons_cons]
      exact hfirst.append (.char (by decide) ih)

theorem Shows.emphasize (hcodes : IsCodes codes) (h : Shows s shown) :
    Shows (emphasize codes s) shown := by
  have hlines : List.Forall₂ Shows
      ((Text.lines s).map fun l => Terminal.wrap codes ((reselect codes).apply l))
      (Text.lines shown) := by
    rw [List.forall₂_map_left_iff]
    exact h.lines.imp fun l m hl => (hl.reselect_scan hcodes none).wrap hcodes
  have hshown := (shows_unlines hlines).wrap hcodes
  rwa [unlines_lines] at hshown

end Lines

end QueryMigration.Terminal
