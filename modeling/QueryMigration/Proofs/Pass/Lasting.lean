import QueryMigration.Proofs.Pass.Rerun

/-! The characters that no pass takes away. Every replacement adds some, so no pass undoes another.
-/

namespace QueryMigration.Pass

open Text Placeholder BooleanLiteral DataCall Declaration

section Lasting

/-- Whether a character stays in a text whatever passes are applied. -/
def isLasting (c : Char) : Bool := !(isBlank c || c == '?' || c == '0' || c == '1')

def lasting (t : Text) : Text := t.filter isLasting

theorem lasting_append (s t : Text) : lasting (s ++ t) = lasting s ++ lasting t :=
  List.filter_append s t

theorem lasting_cons (c : Char) (t : Text) : lasting (c :: t) = lasting [c] ++ lasting t :=
  lasting_append [c] t

theorem lasting_gap {gap : Text} (h : IsGap gap) : lasting gap = [] := by
  refine List.filter_eq_nil_iff.2 fun c hc => ?_
  simp [isLasting, h c hc]

/-- The second text has all lasting characters of the first, in their order, and no more lines. It
has some more of them, unless it is the first. -/
structure Enriched (t t' : Text) : Prop where
  kept : (lasting t).Sublist (lasting t')
  lineFeeds : t'.count '\n' ≤ t.count '\n'
  more : t' = t ∨ (lasting t).length < (lasting t').length

theorem Enriched.refl (t : Text) : Enriched t t := ⟨.refl _, Nat.le_refl _, Or.inl rfl⟩

theorem Enriched.trans {s t u : Text} (h : Enriched s t) (h' : Enriched t u) : Enriched s u where
  kept := h.kept.trans h'.kept
  lineFeeds := Nat.le_trans h'.lineFeeds h.lineFeeds
  more := by
    have hle := h.kept.length_le
    have hle' := h'.kept.length_le
    cases h.more with
    | inl heq => exact heq ▸ h'.more
    | inr hlt => exact Or.inr (by omega)

/-- What is added stays: a text that comes back was never changed. -/
theorem Enriched.eq_of_eq {s t u : Text} (h : Enriched s t) (h' : Enriched t u) (heq : u = s) :
    t = s := by
  have hle := h'.kept.length_le
  rw [heq] at hle
  cases h.more with
  | inl heq => exact heq
  | inr hlt => omega

structure Enriches (a w : Text) : Prop where
  kept : (lasting a).Sublist (lasting w)
  more : (lasting a).length < (lasting w).length
  lineFeed_notMem : '\n' ∉ w

theorem Enriched.of_patched {t t' : Text} (h : PatchedBy Enriches t t') : Enriched t t' := by
  induction h with
  | nil => exact .refl []
  | @copy c r r' _ _ ih =>
    refine ⟨?_, ?_, ?_⟩
    · rw [lasting_cons c r, lasting_cons c r']
      exact (List.Sublist.refl _).append ih.kept
    · rw [List.count_cons, List.count_cons]
      exact Nat.add_le_add_right ih.lineFeeds _
    · cases ih.more with
      | inl heq => exact Or.inl (by rw [heq])
      | inr hlt =>
        rw [lasting_cons c r, lasting_cons c r', List.length_append, List.length_append]
        exact Or.inr (Nat.add_lt_add_left hlt _)
  | @edit a w r r' part _ ih =>
    refine ⟨?_, ?_, Or.inr ?_⟩
    · rw [lasting_append, lasting_append]
      exact part.kept.append ih.kept
    · rw [List.count_append, List.count_append, List.count_eq_zero.2 part.lineFeed_notMem]
      have hle := ih.lineFeeds
      omega
    · rw [lasting_append, lasting_append, List.length_append, List.length_append]
      have hlt := part.more
      have hle := ih.kept.length_le
      omega

end Lasting

section Replacements

theorem enriches_of_sublist {a w kept : Text} (ha : lasting a = kept)
    (hkept : kept.Sublist (lasting w)) (hmore : kept.length < (lasting w).length)
    (hfeed : '\n' ∉ w) : Enriches a w := by
  subst ha
  exact ⟨hkept, hmore, hfeed⟩

theorem enriches_of_eq {a w p q s : Text} (ha : lasting a = p ++ q) (hw : lasting w = p ++ s ++ q)
    (hs : s ≠ []) (hfeed : '\n' ∉ w) : Enriches a w := by
  refine enriches_of_sublist ha ?_ ?_ hfeed
  · rw [hw]
    exact (List.sublist_append_left p s).append (.refl q)
  · have hpos := List.length_pos_iff.2 hs
    rw [hw]
    simp only [List.length_append]
    omega

theorem enriches_of_numbers (a w : Text) (h : Numbers a w) : Enriches a w := by
  have hfeed : '\n' ∉ w := Numbers.notMem (by decide) (by decide) a w h
  obtain ⟨rfl, n, rfl⟩ := h
  exact enriches_of_eq (p := []) (q := []) rfl (List.append_nil _).symm (List.cons_ne_nil _ _) hfeed

theorem enriches_of_comparison {digit : Char} (hblank : isBlank digit = false)
    (hdigit : lasting [digit] = []) {word : Text} (hword : lasting word ≠ []) (hfeed : '\n' ∉ word)
    (a w : Text) (h : (comparison digit word).Writes a w) : Enriches a w := by
  obtain ⟨before, t, h⟩ := h
  obtain ⟨gap, after, -, hgap, -, he⟩ := (comparison_eq_some_iff hblank).1 h
  obtain ⟨rfl, rfl⟩ := Edit.mk.inj he
  refine enriches_of_eq (p := ['=']) (q := []) ?_ ?_ hword (by simp [hfeed])
  · rw [lasting_cons, lasting_append, lasting_gap hgap, hdigit]
    rfl
  · rw [List.append_nil, lasting_cons, lasting_cons ' ']
    rfl

theorem enriches_of_choice (a w : Text) (h : choice.Writes a w) : Enriches a w := by
  obtain ⟨before, t, h⟩ := h
  obtain ⟨gap₁, gap₂, gap₃, _, h₁, h₂, h₃, -, he⟩ := choice_eq_some_iff.1 h
  obtain ⟨rfl, rfl⟩ := Edit.mk.inj he
  have hread : lasting ('?' :: (gap₁ ++ ['1'] ++ (gap₂ ++ [':']) ++ (gap₃ ++ ['0']))) = [':'] := by
    rw [lasting_cons]
    simp only [lasting_append, lasting_gap h₁, lasting_gap h₂, lasting_gap h₃]
    rfl
  exact enriches_of_sublist hread (by decide) (by decide) (by decide)

theorem enriches_of_awaits (a w : Text) (h : Awaits a w) : Enriches a w := by
  have hfeed := Awaits.lineFeed_notMem a w h
  obtain ⟨-, rfl⟩ := h
  refine enriches_of_eq (p := []) (q := lasting a) rfl ?_ (s := awaitWord) (by decide) hfeed
  rw [lasting_append, lasting_cons]
  rfl

theorem enriches_of_promotes (a w : Text) (h : Promotes a w) : Enriches a w := by
  have hfeed := Promotes.lineFeed_notMem a w h
  cases h with
  | @arrowStart e c name n q he hc hname hn hq =>
    refine enriches_of_eq (p := exportWord ++ constWord ++ lasting name ++ ['=']) (q := [])
      (s := asyncWord) ?_ ?_ (by decide) hfeed
    · simp only [lasting_append, lasting_gap he, lasting_gap hc, lasting_gap hn, lasting_gap hq,
        List.append_nil]
      rfl
    · simp only [lasting_append, List.append_assoc]
      rfl
  | @arrowEnd g g' hg type hg' =>
    have hread : lasting (':' :: (g ++ type.text ++ g' ++ arrowSign)) =
        [':'] ++ type.text ++ arrowSign := by
      rw [lasting_cons]
      simp only [lasting_append, lasting_gap hg, lasting_gap hg', List.append_nil]
      cases type <;> rfl
    -- The type is kept inside the promise.
    refine enriches_of_sublist hread ?_ ?_ hfeed
    · cases type <;> decide
    · cases type <;> decide
  | @functionStart e f name n he hf hname hn =>
    refine enriches_of_eq (p := exportWord) (q := functionWord ++ lasting name ++ ['('])
      (s := asyncWord) ?_ ?_ (by decide) hfeed
    · simp only [lasting_append, lasting_gap he, lasting_gap hf, lasting_gap hn, List.append_assoc]
      rfl
    · simp only [lasting_append, List.append_assoc]
      rfl
  | @functionEnd g hg =>
    have hread : lasting (':' :: (g ++ ReturnType.void.text)) = ":void".toList := by
      rw [lasting_cons, lasting_append, lasting_gap hg]
      rfl
    exact enriches_of_sublist hread (by decide) (by decide) (by decide)

end Replacements

section Passes

theorem enriched_number (t : Text) : Enriched t (number t) :=
  .of_patched ((patchedBy_number t).mono enriches_of_numbers)

theorem Enriched.of_rule {rule : Rule} (hrule : rule.Lawful)
    (hwrites : ∀ a w, rule.Writes a w → Enriches a w) (t : Text) : Enriched t (rule.apply t) :=
  .of_patched ((Rule.patched_apply hrule t).patchedBy.mono hwrites)

theorem enriched_normalize (t : Text) : Enriched t (BooleanLiteral.normalize t) := by
  have hone : ∀ a w, (comparison '1' "true".toList).Writes a w → Enriches a w :=
    enriches_of_comparison (by decide) (by decide) (by decide) (by decide)
  have hzero : ∀ a w, (comparison '0' "false".toList).Writes a w → Enriches a w :=
    enriches_of_comparison (by decide) (by decide) (by decide) (by decide)
  rw [BooleanLiteral.normalize, rules]
  simp only [List.foldl_cons, List.foldl_nil]
  exact ((Enriched.of_rule spansOf_one.lawful hone t).trans
    (.of_rule spansOf_zero.lawful hzero _)).trans (.of_rule spansOf_choice.lawful enriches_of_choice _)

theorem enriched_await (t : Text) : Enriched t (DataCall.await t) :=
  .of_patched ((patchedBy_await t).mono enriches_of_awaits)

theorem enriched_promote (t : Text) : Enriched t (promote t) := by
  obtain ⟨s, harrow, hfunction⟩ := patchedBy_promote t
  have hs : Enriched t s := .of_patched (harrow.mono enriches_of_promotes)
  exact hs.trans (.of_patched (hfunction.mono enriches_of_promotes))

theorem enriched_apply {p : Pass} (hp : p ∈ migration) (t : Text) : Enriched t (p.apply t) := by
  simp only [migration, List.mem_cons, List.not_mem_nil, or_false] at hp
  obtain rfl | rfl | rfl | rfl := hp
  · exact enriched_number t
  · exact enriched_normalize t
  · exact enriched_await t
  · exact enriched_promote t

theorem enriched_output {passes : List Pass} (h : ∀ p ∈ passes, p ∈ migration) (t : Text) :
    Enriched t (output passes t) := by
  induction passes generalizing t with
  | nil => exact .refl t
  | cons p passes ih =>
    rw [List.forall_mem_cons] at h
    exact (enriched_apply h.1 t).trans (ih h.2 (p.apply t))

/-- No pass undoes what another has done: where the text comes back, each pass has left it alone. -/
theorem output_eq_self_iff {passes : List Pass} (h : ∀ p ∈ passes, p ∈ migration) (t : Text) :
    output passes t = t ↔ ∀ p ∈ passes, p.apply t = t := by
  refine ⟨fun hout => ?_, output_eq_self⟩
  induction passes with
  | nil => simp
  | cons p passes ih =>
    rw [List.forall_mem_cons] at h ⊢
    -- What the first pass added would still be there at the end.
    have hstep : p.apply t = t :=
      (enriched_apply h.1 t).eq_of_eq (enriched_output h.2 (p.apply t)) hout
    have hrest : output passes (p.apply t) = t := hout
    rw [hstep] at hrest
    exact ⟨hstep, ih h.2 hrest⟩

/-- Whatever passes are applied in whatever order, blanks, question marks, zeros and ones are all that
a text can lose, and it has no more lines than before. -/
theorem lasting_sublist_output {passes : List Pass} (h : ∀ p ∈ passes, p ∈ migration) (t : Text) :
    (lasting t).Sublist (output passes t) ∧
      (output passes t).count '\n' ≤ t.count '\n' := by
  have hout := enriched_output h t
  exact ⟨hout.kept.trans List.filter_sublist, hout.lineFeeds⟩

def headerOverLines : Text :=
  "export const save =\n  (id): void =>\n    await run(`SELECT ? WHERE old =\n 1`);".toList

theorem lasting_sublist_output_reverse :
    (∀ p ∈ migration.reverse, p ∈ migration) ∧
      (lasting headerOverLines).Sublist (output migration.reverse headerOverLines) ∧
      (output migration.reverse headerOverLines).count '\n' ≤ headerOverLines.count '\n' := by
  have hpasses : ∀ p ∈ migration.reverse, p ∈ migration := fun _ => List.mem_reverse.1
  exact ⟨hpasses, lasting_sublist_output hpasses headerOverLines⟩

end Passes

end QueryMigration.Pass
