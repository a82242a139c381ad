import QueryMigration.Proofs.Pass.Distance
import QueryMigration.Proofs.Pass.Migrated
import QueryMigration.Proofs.Placeholder.Settled

/-! Running a migration again: a second run only numbers marks that the first has uncovered, a third
does nothing. -/

namespace QueryMigration.Pass

open Text Placeholder BooleanLiteral DataCall Declaration

section Numbering

theorem numbers_spanFree (a w : Text) (h : Numbers a w) : SpanFree w := by
  obtain ⟨-, n, rfl⟩ := h
  exact spanFree_of_cut (p := []) (z := '$') (by decide) (by simp)
    ⟨notMem_toDigits (by decide) n, notMem_toDigits (by decide) n⟩

theorem numbers_blocks (a w : Text) (h : Numbers a w) (m : Text) (hm : CallShape m) :
    Blocks m w := by
  obtain ⟨-, n, rfl⟩ := h
  exact blocks_of_notMem (hm.notMem (by decide) (by decide) (by decide) (by decide))

theorem numbers_kept {m : Text} (hm : marker ∉ m) (a w : Text) (h : Numbers a w) :
    Kept m a w := by
  obtain ⟨rfl, -⟩ := h
  refine kept_of_isolated fun x y hfound => found_append_cons hm ?_
  simpa using hfound

theorem occurs_of_number {c : Char} {m t : Text} (hdollar : '$' ∉ c :: m)
    (hdigit : c.isDigit = false) (hlast : ∃ l m', c :: m = m' ++ [l])
    (h : c :: m <:+: number t) : c :: m <:+: t := by
  obtain ⟨l, m', hm⟩ := hlast
  have hisolated (a w : Text) (part : Numbers a w) : Isolated false (c :: m) w := by
    obtain ⟨-, n, rfl⟩ := part
    exact isolated_of_cut (p := []) hdollar (fun _ => ⟨l, m', hm, by simp⟩)
      (notMem_toDigits hdigit n)
  obtain ⟨u, v, huv, -⟩ := (patchedBy_number t).found_of_found (by simp) hisolated
    (found_false_iff.2 h)
  exact ⟨u, v, huv.symm⟩

theorem needsAsync_of_number {t : Text} (h : needsAsync (number t) = true) :
    needsAsync t = true := by
  rw [needsAsync_eq_true_iff] at h ⊢
  constructor
  · exact occurs_of_number (m := "wait".toList) (by decide) (by decide)
      ⟨'t', "awai".toList, by decide⟩ h.1
  · intro hasync
    exact h.2 ((patchedBy_number t).occurs (numbers_kept (by decide)) hasync)

theorem eq_nil_of_numbers {s : Text} (h : PatchedBy (fun w a => Numbers a w) s []) : s = [] := by
  generalize ht : ([] : Text) = t at h
  cases h with
  | nil => rfl
  | copy => simp at ht
  | edit part =>
    obtain ⟨rfl, -⟩ := part
    simp at ht

theorem exists_of_wordChar {c : Char} (hc : isWordChar c = true) {x y t' : Text}
    (h : PatchedBy Numbers (x ++ c :: y) t') :
    ∃ x' y', t' = x' ++ c :: y' ∧ (x = [] → x' = []) ∧ (y = [] → y' = []) := by
  have hmarker (w a : Text) (part : Numbers a w) : c ∉ a := by
    obtain ⟨rfl, -⟩ := part
    intro hmem
    rw [List.mem_singleton.1 hmem] at hc
    exact absurd hc (by decide)
  obtain ⟨x', y', rfl, hx, hy⟩ := h.flip.exists_append_cons hmarker rfl
  refine ⟨x', y', rfl, ?_, ?_⟩
  · intro hnil
    exact eq_nil_of_numbers (hnil ▸ hx)
  · intro hnil
    exact eq_nil_of_numbers (hnil ▸ hy)

theorem getLast?_of_numbers {u u' : Text} (h : PatchedBy Numbers u u')
    (hu' : u'.getLast?.any isWordChar = false) : u.getLast?.any isWordChar = false := by
  cases List.eq_nil_or_concat u with
  | inl hnil =>
    rw [hnil]
    rfl
  | inr hconcat =>
    obtain ⟨x, c, rfl⟩ := hconcat
    by_cases hc : isWordChar c = true
    · rw [List.concat_eq_append] at h
      obtain ⟨x', y', rfl, -, hy⟩ := exists_of_wordChar hc h
      simp [hy rfl, hc] at hu'
    · simpa using hc

theorem head?_of_numbers {r r' : Text} (h : PatchedBy Numbers r r')
    (hr' : r'.head?.any isWordChar = false) : r.head?.any isWordChar = false := by
  cases r with
  | nil => rfl
  | cons c y =>
    by_cases hc : isWordChar c = true
    · obtain ⟨x', y', rfl, hx, -⟩ := exists_of_wordChar (x := []) hc h
      simp [hx rfl, hc] at hr'
    · simpa using hc

end Numbering

section Headers

/-- Where numbering leaves a header there was one with the same words around its parameters: only the
parameters can hold a number. -/
theorem exists_header {t u' opening params' closing rest' : Text}
    (h : PatchedBy Numbers t (u' ++ (opening ++ (params' ++ ')' :: (closing ++ rest')))))
    (hhead : opening.head? = some 'e') (hdollar : '$' ∉ opening ∧ '$' ∉ closing)
    (hparams : ')' ∉ params') :
    ∃ u params rest, t = u ++ (opening ++ (params ++ ')' :: (closing ++ rest))) ∧ ')' ∉ params ∧
      PatchedBy Numbers u u' ∧ PatchedBy Numbers rest rest' := by
  have hstart {p : Text} (hp : '$' ∉ p) (a w : Text) (part : Numbers a w) :
      ∃ z r, w = z :: r ∧ z ∉ p := by
    obtain ⟨-, n, rfl⟩ := part
    exact ⟨'$', _, rfl, hp⟩
  obtain ⟨words, rfl⟩ := List.head?_eq_some_iff.1 hhead
  have hwords : '$' ∉ words := fun hmem => hdollar.1 (List.mem_cons_of_mem _ hmem)
  rw [List.cons_append] at h
  obtain ⟨u, _, rfl, hu, hheader⟩ :=
    h.exists_append_cons (c := 'e') (Numbers.notMem (by decide) (by decide)) rfl
  obtain ⟨_, rfl, hbody⟩ := hheader.exists_append (hstart hwords)
  obtain ⟨params, _, rfl, hold, htail⟩ :=
    hbody.exists_append_cons (c := ')') (Numbers.notMem (by decide) (by decide)) rfl
  obtain ⟨rest, rfl, hrest⟩ := htail.exists_append (hstart hdollar.2)
  refine ⟨u, params, rest, rfl, fun hmem => ?_, hu, hrest⟩
  -- A parenthesis among the old parameters would have been copied.
  refine hparams (hold.flip.mem_of_mem (fun w a part => ?_) hmem)
  obtain ⟨rfl, -⟩ := part
  decide

theorem quiet_number {rule : Rule} {header : Text → Prop} (hrule : Promoting rule header) {t : Text}
    (hback : ∀ u' v', PatchedBy Numbers t (u' ++ v') → header v' →
      ∃ u v, t = u ++ v ∧ PatchedBy Numbers u u' ∧ header v)
    (h : rule.Quiet none t) : rule.Quiet none (number t) := by
  intro u' v' huv'
  by_cases hnone : rule (u'.getLast?.or none) v' = none
  · exact hnone
  · obtain ⟨hbefore, hat⟩ := (hrule.applies_iff _ _).1 hnone
    have hpatched : PatchedBy Numbers t (u' ++ v') := huv' ▸ patchedBy_number t
    obtain ⟨u, v, huv, hu, hat⟩ := hback u' v' hpatched hat
    rw [Option.or_none] at hbefore
    have hold : rule (u.getLast?.or none) v ≠ none :=
      (hrule.applies_iff _ _).2 ⟨by rw [Option.or_none]; exact getLast?_of_numbers hu hbefore, hat⟩
    exact absurd (h u v huv) hold

theorem promoteArrow_quiet_number {t : Text} (h : promoteArrow.Quiet none t) :
    promoteArrow.Quiet none (number t) := by
  refine quiet_number promoting_arrow ?_ h
  intro u' v' hpatched hread
  obtain ⟨header, rest', hread⟩ := hread
  obtain ⟨wf, hwritten⟩ := Arrow.read?_eq_some_iff.1 hread
  rw [hwritten, header.written_eq, List.append_assoc, List.append_assoc, List.cons_append] at hpatched
  obtain ⟨u, params, rest, rfl, hparams, hu, -⟩ :=
    exists_header hpatched rfl (wf.notMem (by decide) (by decide) (by decide)) wf.params
  refine ⟨u, _, rfl, hu, { header with params }, rest, Arrow.read?_eq_some_iff.2 ?_⟩
  refine ⟨{ wf with params := hparams }, ?_⟩
  rw [Arrow.written_eq, List.append_assoc, List.append_assoc]
  rfl

theorem promoteFunction_quiet_number {t : Text} (h : promoteFunction.Quiet none t) :
    promoteFunction.Quiet none (number t) := by
  refine quiet_number promoting_function ?_ h
  intro u' v' hpatched hread
  obtain ⟨header, rest', hread⟩ := hread
  obtain ⟨wf, hend, hwritten⟩ := Function.read?_eq_some_iff.1 hread
  rw [hwritten, header.written_eq, List.append_assoc, List.append_assoc, List.cons_append] at hpatched
  obtain ⟨u, params, rest, rfl, hparams, hu, hrest⟩ :=
    exists_header hpatched rfl (wf.notMem (by decide) (by decide) (by decide)) wf.params
  refine ⟨u, _, rfl, hu, { header with params }, rest, Function.read?_eq_some_iff.2 ?_⟩
  refine ⟨{ wf with params := hparams }, head?_of_numbers hrest hend, ?_⟩
  rw [Function.written_eq, List.append_assoc, List.append_assoc]
  rfl

/-- Numbering keeps a migrated text migrated. -/
theorem Migrated.number {t : Text} (h : Migrated t) : Migrated (number t) where
  normal := h.normal.patched numbers_spanFree (patchedBy_number t)
  awaited := h.awaited.patched (Numbers.notMem (by decide) (by decide)) numbers_blocks
    (numbers_kept (by decide)) (patchedBy_number t)
  promoted := by
    intro hneeds
    obtain ⟨harrow, hfunction⟩ := h.promoted (needsAsync_of_number hneeds)
    exact ⟨promoteArrow_quiet_number harrow, promoteFunction_quiet_number hfunction⟩

end Headers

section Runs

theorem unchanged_iff (passes : List Pass) (t : Text) :
    (∀ s ∈ stages passes t, s.changed = 0) ↔ ∀ p ∈ passes, p.apply t = t := by
  induction passes generalizing t with
  | nil => simp [stages]
  | cons p passes ih =>
    rw [stages, List.forall_mem_cons, List.forall_mem_cons, changedLines_eq_zero_iff, ih]
    constructor
    · intro h
      exact ⟨h.1, h.1 ▸ h.2⟩
    · intro h
      refine ⟨h.1, ?_⟩
      rw [h.1]
      exact h.2

theorem output_eq_self {passes : List Pass} {t : Text} (h : ∀ p ∈ passes, p.apply t = t) :
    output passes t = t := by
  induction passes with
  | nil => rfl
  | cons p passes ih =>
    rw [List.forall_mem_cons] at h
    rw [output, List.foldl_cons, h.1]
    exact ih h.2

/-- Whether a run leaves a text as it is and reports no changed line. -/
def Harmless (passes : List Pass) (t : Text) : Prop :=
  output passes t = t ∧ ∀ s ∈ stages passes t, s.changed = 0

theorem Migrated.harmless_iff {t : Text} (h : Migrated t) :
    Harmless migration t ↔ Settled t := by
  rw [Harmless, unchanged_iff, ← number_eq_self_iff]
  constructor
  · intro hrun
    exact hrun.2 placeholders List.mem_cons_self
  · intro hnumber
    have hall : ∀ p ∈ migration, p.apply t = t :=
      List.forall_mem_cons.2 ⟨hnumber, fun p hp => h.apply_eq_self hp⟩
    exact ⟨output_eq_self hall, hall⟩

/-- A second run numbers what is left to number and does nothing else. -/
theorem Migrated.output_eq_number {t : Text} (h : Migrated t) :
    output migration t = Placeholder.number t := by
  have hnumber := h.number
  rw [output_migration, normalize_eq_self hnumber.normal, await_eq_self hnumber.awaited,
    promote_eq_self hnumber.promoted]

/-- A second run is harmless exactly if the first one has left no mark that numbering would take for
a placeholder. Whatever the first run has left, a second one only numbers it, and a third run is
harmless. -/
theorem rerun_harmless_iff_settled (t : Text) :
    (Harmless migration (output migration t) ↔ Settled (output migration t)) ∧
      output migration (output migration t) = number (output migration t) ∧
      Harmless migration (output migration (output migration t)) := by
  have hout := migrated_output t
  refine ⟨hout.harmless_iff, hout.output_eq_number, ?_⟩
  rw [hout.output_eq_number]
  exact hout.number.harmless_iff.2 (settled_number _)

/-- A query with a conditional whose colon stands just within sight of its question mark. -/
def flagInConditional : Text := "const q = `SELECT $\x7bok ? (flag = 1) + count : 0\x7d`;".toList

/-- The longer literal moves the colon out of sight, and a second run takes the question mark for a
placeholder. -/
theorem rerun_of_flagInConditional :
    ¬ Harmless migration (output migration flagInConditional) := by
  intro h
  have hchanged : output migration (output migration flagInConditional) ≠
      output migration flagInConditional := by
    decide +kernel
  exact hchanged h.1

end Runs

end QueryMigration.Pass
