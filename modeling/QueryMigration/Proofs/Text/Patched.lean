import QueryMigration.Text.Edit
import QueryMigration.Proofs.Text.Split

/-! Texts changed part by part. What holds of every replacement carries over to the whole text. -/

namespace QueryMigration.Text

/-- The second text is the first with some parts replaced, each as `patch` allows, and all other
characters copied. From each copied character on the first text is one that `stays`. -/
inductive Patched (patch : Text → Text → Prop) (stays : Text → Prop) : Text → Text → Prop
  | nil : Patched patch stays [] []
  | copy {c : Char} {r r' : Text} (here : stays (c :: r)) (rest : Patched patch stays r r') :
      Patched patch stays (c :: r) (c :: r')
  | edit {a w r r' : Text} (part : patch a w) (rest : Patched patch stays r r') :
      Patched patch stays (a ++ r) (w ++ r')

abbrev PatchedBy (patch : Text → Text → Prop) : Text → Text → Prop := Patched patch fun _ => True

section Relation

variable {patch : Text → Text → Prop} {stays : Text → Prop} {t t' : Text}

theorem Patched.patchedBy (h : Patched patch stays t t') : PatchedBy patch t t' := by
  induction h with
  | nil => exact .nil
  | copy _ _ ih => exact .copy trivial ih
  | edit part _ ih => exact .edit part ih

theorem Patched.mono {patch' : Text → Text → Prop} (hpatch : ∀ a w, patch a w → patch' a w)
    (h : Patched patch stays t t') : Patched patch' stays t t' := by
  induction h with
  | nil => exact .nil
  | copy here _ ih => exact .copy here ih
  | edit part _ ih => exact .edit (hpatch _ _ part) ih

theorem PatchedBy.copies (s : Text) (h : PatchedBy patch t t') :
    PatchedBy patch (s ++ t) (s ++ t') := by
  induction s with
  | nil => exact h
  | cons c s ih => exact .copy trivial ih

theorem PatchedBy.refl (t : Text) : PatchedBy patch t t := by
  have h : PatchedBy patch (t ++ []) (t ++ []) := PatchedBy.copies t .nil
  simpa using h

theorem PatchedBy.append {s s' : Text} (hs : PatchedBy patch s s') (ht : PatchedBy patch t t') :
    PatchedBy patch (s ++ t) (s' ++ t') := by
  induction hs with
  | nil => exact ht
  | copy _ _ ih => exact .copy trivial ih
  | edit part _ ih =>
    rw [List.append_assoc, List.append_assoc]
    exact .edit part ih

/-- A character that no replacement writes was copied, and it cuts both texts. -/
theorem PatchedBy.exists_append_cons {c : Char} (hc : ∀ a w, patch a w → c ∉ w)
    (h : PatchedBy patch t t') {u' v' : Text} (ht' : t' = u' ++ c :: v') :
    ∃ u v, t = u ++ c :: v ∧ PatchedBy patch u u' ∧ PatchedBy patch v v' := by
  induction h generalizing u' with
  | nil => simp at ht'
  | @copy d r r' _ rest ih =>
    cases List.cons_eq_append_iff.1 ht' with
    | inl hhere =>
      obtain ⟨rfl, hv⟩ := hhere
      obtain ⟨rfl, rfl⟩ := List.cons.inj hv
      exact ⟨[], r, rfl, .nil, rest⟩
    | inr hlater =>
      obtain ⟨u'', rfl, hr⟩ := hlater
      obtain ⟨u, v, rfl, hu, hv⟩ := ih hr
      exact ⟨d :: u, v, rfl, .copy trivial hu, hv⟩
  | @edit a w r r' part rest ih =>
    -- The place of `c` lies behind what was written, at its end, or impossibly within it.
    cases List.append_eq_append_iff.1 ht' with
    | inl hbehind =>
      obtain ⟨u'', rfl, hr⟩ := hbehind
      obtain ⟨u, v, rfl, hu, hv⟩ := ih hr
      exact ⟨a ++ u, v, by simp, .edit part hu, hv⟩
    | inr hwithin =>
      obtain ⟨w', rfl, hw⟩ := hwithin
      cases w' with
      | nil =>
        have hr : r' = [] ++ c :: v' := by simpa using hw.symm
        obtain ⟨u, v, rfl, hu, hv⟩ := ih hr
        refine ⟨a ++ u, v, by simp, ?_, hv⟩
        simpa using Patched.edit part hu
      | cons d w' =>
        have hd : c = d := (List.cons.inj hw).1
        exact absurd (by simp [hd]) (hc _ _ part)

theorem PatchedBy.exists_append {p s' : Text}
    (hp : ∀ a w, patch a w → ∃ z r, w = z :: r ∧ z ∉ p) (h : PatchedBy patch t (p ++ s')) :
    ∃ s, t = p ++ s ∧ PatchedBy patch s s' := by
  induction p generalizing t with
  | nil => exact ⟨t, rfl, h⟩
  | cons c p ih =>
    generalize ht' : c :: p ++ s' = t' at h
    cases h with
    | nil => simp at ht'
    | copy _ rest =>
      obtain ⟨rfl, rfl⟩ := List.cons.inj ht'
      obtain ⟨s, rfl, hs⟩ := ih (fun a w part => by
        obtain ⟨z, r, hw, hz⟩ := hp a w part
        exact ⟨z, r, hw, fun hmem => hz (List.mem_cons_of_mem _ hmem)⟩) rest
      exact ⟨s, rfl, hs⟩
    | edit part rest =>
      obtain ⟨z, r, rfl, hz⟩ := hp _ _ part
      have hc : c = z := (List.cons.inj ht').1
      simp [hc] at hz

theorem PatchedBy.flip (h : PatchedBy patch t t') : PatchedBy (fun w a => patch a w) t' t := by
  induction h with
  | nil => exact .nil
  | copy _ _ ih => exact .copy trivial ih
  | edit part _ ih => exact .edit part ih

theorem PatchedBy.mem_of_mem {c : Char} (hc : ∀ a w, patch a w → c ∉ w)
    (h : PatchedBy patch t t') (hmem : c ∈ t') : c ∈ t := by
  obtain ⟨u', v', rfl⟩ := List.append_of_mem hmem
  obtain ⟨u, v, rfl, -⟩ := h.exists_append_cons hc rfl
  simp

end Relation

section Lines

variable {patch : Text → Text → Prop}

theorem unlines_cons_cons (l l' : Text) (ls : List Text) :
    unlines (l :: l' :: ls) = l ++ '\n' :: unlines (l' :: ls) := by
  simp [unlines, List.intercalate]

theorem mapLines_append_lineFeed {l : Text} (hl : '\n' ∉ l) (f : Text → Text) (t : Text) :
    mapLines f (l ++ '\n' :: t) = f l ++ '\n' :: mapLines f t := by
  obtain ⟨m, ms, hlines⟩ := List.exists_cons_of_ne_nil (lines_ne_nil t)
  have hcut : lines (l ++ '\n' :: t) = l :: lines t := by
    rw [lines_append hl, lines_cons_lineFeed, List.modifyHead_cons, List.append_nil]
  rw [mapLines, mapLines, hcut, hlines, List.map_cons, List.map_cons, unlines_cons_cons]

theorem count_unlines {c : Char} (hc : c ≠ '\n') (ls : List Text) :
    (unlines ls).count c = ls.flatten.count c := by
  induction ls with
  | nil => rfl
  | cons l ls ih =>
    cases ls with
    | nil => simp [unlines]
    | cons m ls =>
      rw [unlines_cons_cons, List.count_append, List.count_cons_of_ne (Ne.symm hc), ih,
        ← List.count_append, ← List.flatten_cons]

theorem count_lines {c : Char} (hc : c ≠ '\n') (t : Text) :
    (lines t).flatten.count c = t.count c := by
  rw [← count_unlines hc, unlines_lines]

theorem PatchedBy.unlines_map {f : Text → Text} (h : ∀ line, PatchedBy patch line (f line))
    (ls : List Text) : PatchedBy patch (unlines ls) (unlines (ls.map f)) := by
  induction ls with
  | nil => exact .nil
  | cons l ls ih =>
    cases ls with
    | nil => simpa [unlines] using h l
    | cons l' ls =>
      rw [unlines_cons_cons, List.map_cons, List.map_cons, unlines_cons_cons]
      exact (h l).append (.copy trivial ih)

theorem PatchedBy.of_lines {f : Text → Text} (h : ∀ line, PatchedBy patch line (f line))
    (t : Text) : PatchedBy patch t (mapLines f t) := by
  have hlines := PatchedBy.unlines_map h (lines t)
  rw [unlines_lines] at hlines
  exact hlines

end Lines

section Rules

def Rule.Lawful (rule : Rule) : Prop :=
  ∀ before t e, rule before t = some e → e.reads ≠ [] ∧ e.reads <+: t

theorem Rule.scan_of_none {rule : Rule} {before : Option Char} {c : Char} {r : Text}
    (h : rule before (c :: r) = none) :
    rule.scan 0 before (c :: r) = c :: rule.scan 0 (some c) r := by
  rw [Rule.scan, h]

theorem Rule.scan_of_some {rule : Rule} {before : Option Char} {e : Edit} {r : Text}
    (hne : e.reads ≠ []) (h : rule before (e.reads ++ r) = some e) :
    rule.scan 0 before (e.reads ++ r) =
      e.writes ++ rule.scan 0 (e.reads.getLast?.or before) r := by
  obtain ⟨c, s, hs⟩ := List.exists_cons_of_ne_nil hne
  rw [hs, List.cons_append] at h ⊢
  rw [Rule.scan, h]
  simp only [hs, List.length_cons, Nat.add_sub_cancel, Rule.scan_append]
  cases s <;> simp [List.getLast?_cons]

/-- Induction along the scan of a text: copied characters and edits. -/
theorem Rule.scan_induction {rule : Rule} (hrule : rule.Lawful)
    {motive : Option Char → Text → Text → Prop} (nil : ∀ before, motive before [] [])
    (copy : ∀ before c r, rule before (c :: r) = none →
      motive (some c) r (rule.scan 0 (some c) r) →
      motive before (c :: r) (c :: rule.scan 0 (some c) r))
    (edit : ∀ before e r, rule before (e.reads ++ r) = some e →
      motive (e.reads.getLast?.or before) r (rule.scan 0 (e.reads.getLast?.or before) r) →
      motive before (e.reads ++ r) (e.writes ++ rule.scan 0 (e.reads.getLast?.or before) r))
    (before : Option Char) (t : Text) : motive before t (rule.scan 0 before t) := by
  induction hn : t.length using Nat.strongRecOn generalizing before t with
  | _ n ih =>
    cases t with
    | nil => exact nil before
    | cons c r =>
      cases h : rule before (c :: r) with
      | none =>
        rw [Rule.scan_of_none h]
        exact copy before c r h (ih r.length (by simp [← hn]) (some c) r rfl)
      | some e =>
        obtain ⟨hne, r', hr'⟩ := hrule before (c :: r) e h
        rw [← hr'] at h hn ⊢
        rw [Rule.scan_of_some hne h]
        -- An edit reads at least one character, so the rest is shorter.
        refine edit before e r' h (ih r'.length ?_ _ r' rfl)
        have := List.length_pos_iff.2 hne
        simp at hn
        omega

variable {patch : Text → Text → Prop} {stays : Text → Prop} {rule : Rule}

theorem Rule.patched (hrule : rule.Lawful)
    (hpatch : ∀ before t e, rule before t = some e → ∀ r r', Patched patch stays r r' →
      Patched patch stays (e.reads ++ r) (e.writes ++ r'))
    (hstays : ∀ before t, rule before t = none → stays t) (t : Text) :
    Patched patch stays t (rule.apply t) := by
  refine Rule.scan_induction (motive := fun _ t t' => Patched patch stays t t') hrule
    (fun _ => .nil) ?_ ?_ none t
  · intro before c r h ih
    exact .copy (hstays before _ h) ih
  · intro before e r h ih
    exact hpatch before _ e h _ _ ih

def Rule.Writes (rule : Rule) (a w : Text) : Prop := ∃ before t, rule before t = some ⟨a, w⟩

def Rule.Passes (rule : Rule) (t : Text) : Prop := ∃ before, rule before t = none

theorem Rule.patched_apply (hrule : rule.Lawful) (t : Text) :
    Patched rule.Writes rule.Passes t (rule.apply t) :=
  Rule.patched hrule (fun before t _ h _ _ rest => .edit ⟨before, t, h⟩ rest)
    (fun before _ h => ⟨before, h⟩) t

def Rule.Quiet (rule : Rule) (before : Option Char) (t : Text) : Prop :=
  ∀ u v, t = u ++ v → rule (u.getLast?.or before) v = none

theorem Rule.quiet_cons {before : Option Char} {c : Char} {r : Text} :
    rule.Quiet before (c :: r) ↔ rule before (c :: r) = none ∧ rule.Quiet (some c) r := by
  constructor
  · intro h
    refine ⟨h [] (c :: r) rfl, fun u v huv => ?_⟩
    have hv := h (c :: u) v (by rw [huv]; rfl)
    cases u <;> simpa [List.getLast?_cons] using hv
  · rintro ⟨hhere, hrest⟩ u v huv
    cases List.cons_eq_append_iff.1 huv with
    | inl hhere =>
      obtain ⟨rfl, rfl⟩ := hhere
      exact hhere
    | inr hlater =>
      obtain ⟨u, rfl, rfl⟩ := hlater
      have hv := hrest u v rfl
      cases u <;> simpa [List.getLast?_cons] using hv

theorem Rule.Lawful.nil (hrule : rule.Lawful) (before : Option Char) : rule before [] = none := by
  cases h : rule before [] with
  | none => rfl
  | some e =>
    obtain ⟨hne, hprefix⟩ := hrule before [] e h
    exact absurd (List.prefix_nil.1 hprefix) hne

/-- A rule leaves a text alone because it applies nowhere, or else it has written something. -/
theorem Rule.quiet_or_exists_writes (hrule : rule.Lawful) (before : Option Char) (t : Text) :
    rule.Quiet before t ∨
      ∃ b v e, rule b v = some e ∧ e.writes <:+: rule.scan 0 before t := by
  refine Rule.scan_induction (motive := fun before t t' =>
    rule.Quiet before t ∨ ∃ b v e, rule b v = some e ∧ e.writes <:+: t') hrule ?_ ?_ ?_ before t
  · intro before
    refine Or.inl fun u v huv => ?_
    obtain ⟨rfl, rfl⟩ := List.append_eq_nil_iff.1 huv.symm
    exact hrule.nil before
  · rintro before c r h (hquiet | ⟨b, v, e, hv, he⟩)
    · exact Or.inl (Rule.quiet_cons.2 ⟨h, hquiet⟩)
    · exact Or.inr ⟨b, v, e, hv, List.infix_cons he⟩
  · intro before e r h _
    exact Or.inr ⟨before, _, e, h, [], _, rfl⟩

theorem Rule.scan_eq_self {before : Option Char} {t : Text} (h : rule.Quiet before t) :
    rule.scan 0 before t = t := by
  induction t generalizing before with
  | nil => simp [Rule.scan]
  | cons c r ih =>
    obtain ⟨hhere, hrest⟩ := Rule.quiet_cons.1 h
    rw [Rule.scan_of_none hhere, ih hrest]

end Rules

end QueryMigration.Text
