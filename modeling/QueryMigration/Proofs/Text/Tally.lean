import QueryMigration.Proofs.Text.Occurrence

/-! How often a word occurs in a text whose parts are replaced by parts that no occurrence reaches
into. -/

namespace QueryMigration.Text

def occurrences (m : Text) : Text → Nat
  | [] => 0
  | c :: r => (if m <+: c :: r then 1 else 0) + occurrences m r

theorem occurrences_pos_iff {m : Text} (hm : m ≠ []) {t : Text} :
    0 < occurrences m t ↔ m <:+: t := by
  induction t with
  | nil => simp [occurrences, hm]
  | cons c t ih =>
    rw [occurrences, List.infix_cons_iff, ← ih]
    by_cases hpre : m <+: c :: t
    · rw [if_pos hpre]
      exact ⟨fun _ => Or.inl hpre, fun _ => by omega⟩
    · rw [if_neg hpre, Nat.zero_add]
      exact ⟨Or.inr, fun h => h.resolve_left hpre⟩

section Cut

variable {m : Text}

theorem prefix_append_cons_iff {z : Char} (hz : z ∉ m) {x y : Text} :
    m <+: x ++ z :: y ↔ m <+: x := by
  constructor
  · intro hpre
    cases prefix_append_cases hpre with
    | inl hx => exact hx
    | inr hlonger =>
      obtain ⟨q, hne, rfl, hq⟩ := hlonger
      obtain ⟨d, q, rfl⟩ := List.exists_cons_of_ne_nil hne
      have hd : d = z := (List.cons_prefix_cons.1 hq).1
      simp [hd] at hz
  · intro hx
    exact hx.trans (List.prefix_append x _)

theorem occurrences_append_cons {z : Char} (hm : m ≠ []) (hz : z ∉ m) (x y : Text) :
    occurrences m (x ++ z :: y) = occurrences m x + occurrences m y := by
  have hpre {s : Text} : m <+: s ++ z :: y ↔ m <+: s := prefix_append_cons_iff hz
  induction x with
  | nil =>
    have hnot : ¬ m <+: z :: y := fun h => hm (List.prefix_nil.1 (hpre (s := []).1 h))
    simp [occurrences, hnot]
  | cons c x ih =>
    rw [List.cons_append, occurrences, occurrences, ih, ← List.cons_append, Nat.add_assoc]
    simp only [hpre]

theorem occurrences_append_of_head {c : Char} {x : Text} (hc : c ∉ x) (y : Text) :
    occurrences (c :: m) (x ++ y) = occurrences (c :: m) y := by
  induction x with
  | nil => rfl
  | cons d x ih =>
    simp only [List.mem_cons, not_or] at hc
    rw [List.cons_append, occurrences, ih hc.2]
    simp [List.cons_prefix_cons, hc.1]

theorem occurrences_append_of_last {l : Char} {y : Text} (hl : l ∉ y) (x : Text) :
    occurrences (m ++ [l]) (x ++ y) = occurrences (m ++ [l]) x := by
  have hpre {s : Text} : m ++ [l] <+: s ++ y ↔ m ++ [l] <+: s := by
    constructor
    · intro h
      cases prefix_append_cases h with
      | inl hs => exact hs
      | inr hlonger =>
        obtain ⟨q, hne, heq, hq⟩ := hlonger
        obtain ⟨q, d, rfl⟩ := (List.eq_nil_or_concat q).resolve_left hne
        rw [List.concat_eq_append, ← List.append_assoc] at heq
        have hd : l = d := List.singleton_inj.1 (List.append_inj' heq rfl).2
        exact absurd (hq.mem (by simp [hd])) hl
    · intro h
      exact h.trans (List.prefix_append s y)
  induction x with
  | nil =>
    have hnot : ¬ m ++ [l] <:+: y := fun h => hl (h.mem (by simp))
    rw [← occurrences_pos_iff (by simp)] at hnot
    simp only [List.nil_append, occurrences]
    omega
  | cons c x ih =>
    rw [List.cons_append, occurrences, occurrences, ih, ← List.cons_append]
    simp only [hpre]

end Cut

section Parts

variable {patch : Text → Text → Prop} {stays : Text → Prop} {m t t' : Text}

/-- Whether a part cuts every text in two for the counting of a word. -/
def Severs (m w : Text) : Prop :=
  ∀ x y, occurrences m (x ++ w ++ y) = occurrences m x + occurrences m y

/-- A part `p ++ z :: s` severs a word that does not hold `z`, cannot end within `p` and cannot begin
within `s`. -/
theorem severs_of_cut {c l z : Char} {b p s : Text} (hm : c :: m = b ++ [l]) (hz : z ∉ c :: m)
    (hp : l ∉ p) (hs : c ∉ s) : Severs (c :: m) (p ++ z :: s) := by
  intro x y
  have hcut : x ++ (p ++ z :: s) ++ y = (x ++ p) ++ z :: (s ++ y) := by simp
  have hleft : occurrences (c :: m) (x ++ p) = occurrences (c :: m) x := by
    rw [hm]
    exact occurrences_append_of_last hp x
  rw [hcut, occurrences_append_cons (List.cons_ne_nil c m) hz, hleft,
    occurrences_append_of_head hs]

theorem Severs.append {v w : Text} (hv : Severs m v) (hw : Severs m w) : Severs m (v ++ w) := by
  intro x y
  have hx : occurrences m (x ++ v) = occurrences m x := by
    have h := hv x []
    rw [List.append_nil] at h
    exact h
  rw [← List.append_assoc, hw, hx]

/-- Replacing parts that sever a word by parts that do so leaves its number of occurrences. The
induction carries the stretch `x` copied since the last replacement. -/
theorem Patched.occurrences_append_eq (hpatch : ∀ a w, patch a w → Severs m a ∧ Severs m w)
    (h : Patched patch stays t t') (x : Text) :
    occurrences m (x ++ t') = occurrences m (x ++ t) := by
  induction h generalizing x with
  | nil => rfl
  | @copy c r r' _ _ ih =>
    have hcopy (s : Text) : x ++ c :: s = (x ++ [c]) ++ s := by simp
    rw [hcopy r, hcopy r']
    exact ih (x ++ [c])
  | @edit a w r r' part _ ih =>
    obtain ⟨ha, hw⟩ := hpatch a w part
    have hr : occurrences m r' = occurrences m r := ih []
    rw [← List.append_assoc, ← List.append_assoc, ha, hw, hr]

theorem Patched.occurrences_eq (hpatch : ∀ a w, patch a w → Severs m a ∧ Severs m w)
    (h : Patched patch stays t t') : occurrences m t' = occurrences m t :=
  h.occurrences_append_eq hpatch []

end Parts

end QueryMigration.Text
