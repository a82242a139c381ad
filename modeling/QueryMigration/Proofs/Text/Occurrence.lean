import QueryMigration.Proofs.Text.Patched

/-! Occurrences of a word in a text that is changed part by part: which are copies, and which are
found again. -/

namespace QueryMigration.Text

/-- Whether `m` occurs in a text; at its very end, if `final` asks for that. -/
def Found (final : Bool) (m t : Text) : Prop :=
  ∃ u v, t = u ++ m ++ v ∧ (final = true → v = [])

theorem found_false_iff {m t : Text} : Found false m t ↔ m <:+: t := by
  simp [Found, List.IsInfix, eq_comm]

theorem includes_iff {w t : Text} : includes w t = true ↔ w <:+: t := by
  induction t with
  | nil => simp [includes]
  | cons c t ih => rw [includes, Bool.or_eq_true, ih, List.isPrefixOf_iff_prefix,
      List.infix_cons_iff]

section Cut

variable {final : Bool} {m x y : Text}

theorem found_append_cons {z : Char} (hz : z ∉ m) (h : Found final m (x ++ z :: y)) :
    (final = false ∧ Found final m x) ∨ Found final m y := by
  obtain ⟨u, v, huv, hv⟩ := h
  have hfalse {s : Text} (hs : v = s ++ z :: y) : final = false := by
    cases final with
    | false => rfl
    | true => simp [hv rfl] at hs
  rw [List.append_assoc] at huv
  -- The occurrence begins behind `x` or within it; in neither case can it run over `z`.
  cases List.append_eq_append_iff.1 huv with
  | inl hbehind =>
    obtain ⟨s, rfl, hs⟩ := hbehind
    cases List.cons_eq_append_iff.1 hs with
    | inl hhere =>
      obtain ⟨rfl, hmv⟩ := hhere
      cases List.append_eq_cons_iff.1 hmv with
      | inl hhere =>
        obtain ⟨rfl, hzy⟩ := hhere
        have hf := hfalse (s := []) hzy
        exact Or.inl ⟨hf, x, [], by simp, fun _ => rfl⟩
      | inr hlater =>
        obtain ⟨m', rfl, -⟩ := hlater
        simp at hz
    | inr hlater =>
      obtain ⟨s, rfl, rfl⟩ := hlater
      exact Or.inr ⟨s, v, by simp, hv⟩
  | inr hwithin =>
    obtain ⟨s, rfl, hs⟩ := hwithin
    cases List.append_eq_append_iff.1 hs with
    | inl hbehind =>
      obtain ⟨s', rfl, hs'⟩ := hbehind
      have hf := hfalse hs'
      exact Or.inl ⟨hf, u, s', by simp, by simp [hf]⟩
    | inr hwithin =>
      obtain ⟨s', rfl, hs'⟩ := hwithin
      cases List.cons_eq_append_iff.1 hs' with
      | inl hhere =>
        obtain ⟨rfl, hv'⟩ := hhere
        have hf := hfalse (s := []) hv'
        exact Or.inl ⟨hf, u, [], by simp, fun _ => rfl⟩
      | inr hlater =>
        obtain ⟨s', rfl, -⟩ := hlater
        simp at hz

theorem found_of_head {c : Char} (hc : c ∉ x) (h : Found final (c :: m) (x ++ y)) :
    Found final (c :: m) y := by
  induction x with
  | nil => exact h
  | cons d x ih =>
    simp only [List.mem_cons, not_or] at hc
    obtain ⟨u, v, huv, hv⟩ := h
    rcases List.cons_eq_append_iff.1 (huv.trans (List.append_assoc u _ v)) with
      ⟨rfl, hd⟩ | ⟨u, rfl, hx⟩
    · exact absurd (List.cons.inj hd).1 hc.1
    · exact ih hc.2 ⟨u, v, hx.trans (List.append_assoc u _ v).symm, hv⟩

theorem found_of_last {c : Char} (hc : c ∉ y) (h : Found false (m ++ [c]) (x ++ y)) :
    Found false (m ++ [c]) x := by
  rw [found_false_iff] at h ⊢
  rw [← List.reverse_infix] at h ⊢
  simp only [List.reverse_append, List.reverse_cons, List.reverse_nil, List.nil_append,
    List.singleton_append] at h ⊢
  rw [← found_false_iff] at h ⊢
  exact found_of_head (by simpa using hc) h

end Cut

section Carry

variable {patch : Text → Text → Prop} {stays : Text → Prop} {t t' m : Text}

/-- Whether an occurrence of `m` never reaches into the part `w` of a text. -/
def Isolated (final : Bool) (m w : Text) : Prop :=
  ∀ x y, Found final m (x ++ w ++ y) → (final = false ∧ Found final m x) ∨ Found final m y

/-- A part `p ++ z :: s` is free of a word that does not hold `z`, cannot end within `p` and cannot
begin within `s`. -/
theorem isolated_of_cut {final : Bool} {c z : Char} {p s : Text} (hz : z ∉ c :: m)
    (hp : final = false → ∃ l m', c :: m = m' ++ [l] ∧ l ∉ p) (hs : c ∉ s) :
    Isolated final (c :: m) (p ++ z :: s) := by
  intro x y h
  have hcut : x ++ (p ++ z :: s) ++ y = (x ++ p) ++ z :: (s ++ y) := by simp
  rw [hcut] at h
  cases found_append_cons hz h with
  | inl hbefore =>
    obtain ⟨rfl, h⟩ := hbefore
    obtain ⟨l, m', hm, hl⟩ := hp rfl
    rw [hm] at h ⊢
    exact Or.inl ⟨rfl, found_of_last hl h⟩
  | inr h => exact Or.inr (found_of_head hs h)

/-- Whether the text from each character of a stretch `x` on is one that stays. -/
def StaysIn (stays : Text → Prop) (x t : Text) : Prop :=
  ∀ u v, x = u ++ v → v ≠ [] → stays (v ++ t)

theorem StaysIn.concat {x : Text} {c : Char} (hx : StaysIn stays x (c :: t))
    (hc : stays (c :: t)) : StaysIn stays (x ++ [c]) t := by
  intro u v huv hne
  obtain ⟨v, d, rfl⟩ := (List.eq_nil_or_concat v).resolve_left hne
  rw [List.concat_eq_append, ← List.append_assoc] at huv
  obtain ⟨rfl, hd⟩ := List.append_inj' huv rfl
  obtain rfl := List.singleton_inj.1 hd
  cases v with
  | nil => exact hc
  | cons e v => simpa using hx u (e :: v) rfl (by simp)

theorem StaysIn.nil : StaysIn stays [] t := by
  intro u v huv hne
  exact absurd (List.append_eq_nil_iff.1 huv.symm).2 hne

/-- An occurrence in the new text is a copy of one in the old text, from which on the old text is
one that stays. The induction carries the stretch `x` copied since the last replacement. -/
theorem Patched.found_of_found_append {final : Bool} (hm : m ≠ [])
    (hw : ∀ a w, patch a w → Isolated final m w) (h : Patched patch stays t t') {x : Text}
    (hx : StaysIn stays x t) (hfound : Found final m (x ++ t')) :
    ∃ u v, x ++ t = u ++ m ++ v ∧ (final = true → v = []) ∧ stays (m ++ v) := by
  induction h generalizing x with
  | nil =>
    obtain ⟨u, v, huv, hv⟩ := hfound
    rw [List.append_nil] at huv
    have hstays := hx u (m ++ v) (by simp [huv]) (by simp [hm])
    rw [List.append_nil] at hstays
    exact ⟨u, v, by simp [huv], hv, hstays⟩
  | @copy c r r' here rest ih =>
    have hcopy (s : Text) : x ++ c :: s = (x ++ [c]) ++ s := by simp
    rw [hcopy] at hfound ⊢
    exact ih (hx.concat here) hfound
  | @edit a w r r' part rest ih =>
    rw [← List.append_assoc] at hfound
    cases hw a w part x r' hfound with
    | inl hbefore =>
      obtain ⟨rfl, u, v, rfl, -⟩ := hbefore
      have hstays := hx u (m ++ v) (by simp) (by simp [hm])
      exact ⟨u, v ++ (a ++ r), by simp, by simp, by simpa using hstays⟩
    | inr hrest =>
      obtain ⟨u, v, huv, hv, hstays⟩ := ih StaysIn.nil hrest
      rw [List.nil_append] at huv
      exact ⟨x ++ a ++ u, v, by simp [huv], hv, hstays⟩

theorem Patched.found_of_found {final : Bool} (hm : m ≠ [])
    (hw : ∀ a w, patch a w → Isolated final m w) (h : Patched patch stays t t')
    (hfound : Found final m t') :
    ∃ u v, t = u ++ m ++ v ∧ (final = true → v = []) ∧ stays (m ++ v) :=
  h.found_of_found_append hm hw StaysIn.nil hfound

/-- Whether an occurrence of `m` that reaches into `a` is found again in `w`. -/
def Kept (m a w : Text) : Prop :=
  ∀ x y, m <:+: x ++ a ++ y → m <:+: x ∨ m <:+: w ∨ m <:+: y

theorem kept_of_isolated {a w : Text} (h : Isolated false m a) : Kept m a w := by
  intro x y hin
  cases h x y (found_false_iff.2 hin) with
  | inl hbefore =>
    obtain ⟨-, hx⟩ := hbefore
    exact Or.inl (found_false_iff.1 hx)
  | inr hy => exact Or.inr (Or.inr (found_false_iff.1 hy))

theorem Patched.occurs_append (ha : ∀ a w, patch a w → Kept m a w) (h : Patched patch stays t t')
    {x : Text} (hin : m <:+: x ++ t) : m <:+: x ++ t' := by
  induction h generalizing x with
  | nil => exact hin
  | @copy c r r' here rest ih =>
    have hcopy (s : Text) : x ++ c :: s = (x ++ [c]) ++ s := by simp
    rw [hcopy] at hin ⊢
    exact ih hin
  | @edit a w r r' part rest ih =>
    rw [← List.append_assoc] at hin
    rcases ha a w part x r hin with hx | hw | hr
    · exact List.infix_append_of_infix_left hx
    · exact List.infix_append_of_infix_right (List.infix_append_of_infix_left hw)
    · have hr' := ih (x := []) hr
      exact List.infix_append_of_infix_right (List.infix_append_of_infix_right hr')

theorem Patched.occurs (ha : ∀ a w, patch a w → Kept m a w) (h : Patched patch stays t t')
    (hin : m <:+: t) : m <:+: t' :=
  h.occurs_append ha (x := []) hin

/-- An occurrence on the first line is found again there, if no replacement writes a line feed. A
replacement that reads one makes the new line longer, so the old line's words are still on it. -/
theorem Patched.occurs_firstLine_append (ha : ∀ a w, patch a w → Kept m a w) (hm : m ≠ [])
    (hnl : ∀ a w, patch a w → '\n' ∉ w) (h : Patched patch stays t t') {x : Text}
    (hin : m <:+: x ++ firstLine t) : m <:+: x ++ firstLine t' := by
  induction h generalizing x with
  | nil => exact hin
  | @copy c r r' here rest ih =>
    by_cases hc : c = '\n'
    · subst hc
      exact hin
    · have hcopy (s : Text) : x ++ firstLine (c :: s) = (x ++ [c]) ++ firstLine s := by
        simp [firstLine_cons hc]
      rw [hcopy] at hin ⊢
      exact ih hin
  | @edit a w r r' part rest ih =>
    rw [firstLine_append (hnl a w part)]
    have hcases : m <:+: x ∨ m <:+: w ∨ m <:+: firstLine r := by
      -- Where the part ends the old line, the occurrence lies before its line feed.
      by_cases hmem : '\n' ∈ a
      · rw [firstLine_append_of_mem hmem] at hin
        have hlonger : m <:+: x ++ a ++ [] := by
          refine hin.trans ?_
          rw [List.append_nil]
          exact (List.prefix_append_right_inj x).2 (firstLine_isPrefix a) |>.isInfix
        rcases ha a w part x [] hlonger with hx | hw | hnil
        · exact Or.inl hx
        · exact Or.inr (Or.inl hw)
        · exact absurd (List.infix_nil.1 hnil) hm
      · rw [firstLine_append hmem, ← List.append_assoc] at hin
        exact ha a w part x _ hin
    rcases hcases with hx | hw | hr
    · exact List.infix_append_of_infix_left hx
    · exact List.infix_append_of_infix_right (List.infix_append_of_infix_left hw)
    · have hr' := ih (x := []) hr
      exact List.infix_append_of_infix_right (List.infix_append_of_infix_right hr')

theorem Patched.occurs_firstLine (ha : ∀ a w, patch a w → Kept m a w) (hm : m ≠ [])
    (hnl : ∀ a w, patch a w → '\n' ∉ w) (h : Patched patch stays t t')
    (hin : m <:+: firstLine t) : m <:+: firstLine t' :=
  h.occurs_firstLine_append ha hm hnl (x := []) hin

/-- Whether a text that begins with `m` begins with it before any part `w`. -/
def Blocks (m w : Text) : Prop := ∀ x y, m <+: x ++ w ++ y → m <+: x

theorem blocks_of_ends {w : Text} (h : ∀ x q y, m = x ++ q → q ≠ [] → ¬ q <+: w ++ y) :
    Blocks m w := by
  intro x y hpre
  rw [List.append_assoc] at hpre
  cases prefix_append_cases hpre with
  | inl hx => exact hx
  | inr hlonger =>
    obtain ⟨q, hne, hm, hq⟩ := hlonger
    exact absurd hq (h x q y hm hne)

theorem Blocks.append {w : Text} (h : Blocks m w) (s : Text) : Blocks m (w ++ s) := by
  intro x y hpre
  exact h x (s ++ y) (by simpa using hpre)

theorem Patched.begins_append (hw : ∀ a w, patch a w → Blocks m w)
    (h : Patched patch stays t t') {x : Text} (hpre : m <+: x ++ t') : m <+: x ++ t := by
  induction h generalizing x with
  | nil => exact hpre
  | @copy c r r' here rest ih =>
    have hcopy (s : Text) : x ++ c :: s = (x ++ [c]) ++ s := by simp
    rw [hcopy] at hpre ⊢
    exact ih hpre
  | @edit a w r r' part rest ih =>
    rw [← List.append_assoc] at hpre
    exact List.prefix_append_of_prefix (hw a w part x r' hpre)

theorem Patched.begins (hw : ∀ a w, patch a w → Blocks m w) (h : Patched patch stays t t')
    (hpre : m <+: t') : m <+: t :=
  h.begins_append hw (x := []) hpre

end Carry

end QueryMigration.Text
