import QueryMigration.Proofs.Text.Occurrence

/-! Edits of a text with the places they are made at. Two rounds that keep apart are one round. -/

namespace QueryMigration.Text

/-- The second text is the first with some parts edited, each as `allows` says of the character before
it and the text behind it, and all other characters copied. -/
inductive Edited (allows : Option Char → Edit → Text → Prop) : Option Char → Text → Text → Prop
  | nil {before : Option Char} : Edited allows before [] []
  | copy {before : Option Char} {c : Char} {r r' : Text} (rest : Edited allows (some c) r r') :
      Edited allows before (c :: r) (c :: r')
  | edit {before : Option Char} {e : Edit} {r r' : Text} (here : allows before e r)
      (rest : Edited allows (e.reads.getLast?.or before) r r') :
      Edited allows before (e.reads ++ r) (e.writes ++ r')

theorem Rule.edited {rule : Rule} (hrule : rule.Lawful) (before : Option Char) (t : Text) :
    Edited (fun before e r => rule before (e.reads ++ r) = some e) before t
      (rule.scan 0 before t) := by
  refine Rule.scan_induction (motive := fun before t t' =>
    Edited (fun before e r => rule before (e.reads ++ r) = some e) before t t') hrule
    (fun _ => .nil) ?copy ?edit before t
  case copy =>
    intro before c r _ ih
    exact .copy ih
  case edit =>
    intro before e r here ih
    exact .edit here ih

section Parts

variable {allows : Option Char → Edit → Text → Prop} {before : Option Char} {m t t' : Text}

theorem Edited.mono {allows' : Option Char → Edit → Text → Prop}
    (hallows : ∀ before e r, allows before e r → allows' before e r)
    (h : Edited allows before t t') : Edited allows' before t t' := by
  induction h with
  | nil => exact .nil
  | copy _ ih => exact .copy ih
  | edit here _ ih => exact .edit (hallows _ _ _ here) ih

theorem Blocks.tail {c : Char} {w : Text} (h : Blocks (c :: m) w) : Blocks m w := by
  intro x y hpre
  have hlonger : c :: m <+: c :: x ++ w ++ y := List.cons_prefix_cons.2 ⟨rfl, hpre⟩
  exact (List.cons_prefix_cons.1 (h (c :: x) y hlonger)).2

theorem Blocks.eq_nil {w s s' : Text} (h : Blocks m w) (heq : w ++ s = m ++ s') : m = [] := by
  have hpre : m <+: [] ++ w ++ s := ⟨s', by simpa using heq.symm⟩
  exact List.prefix_nil.1 (h [] s hpre)

theorem getLast?_cons_or (c : Char) (m : Text) (before : Option Char) :
    (c :: m).getLast?.or before = m.getLast?.or (some c) := by
  cases m with
  | nil => rfl
  | cons d m => simp [List.getLast?_cons]

/-- A beginning of the new text that no edit has written a part of was copied. -/
theorem Edited.exists_of_writes {s' : Text}
    (hblocks : ∀ before e r, allows before e r → Blocks m e.writes)
    (h : Edited allows before t (m ++ s')) :
    ∃ s, t = m ++ s ∧ Edited allows (m.getLast?.or before) s s' := by
  induction m generalizing before t with
  | nil => exact ⟨t, rfl, h⟩
  | cons c m ih =>
    generalize ht' : c :: m ++ s' = t' at h
    cases h with
    | nil => simp at ht'
    | copy rest =>
      obtain ⟨rfl, rfl⟩ := List.cons.inj ht'
      obtain ⟨s, rfl, hs⟩ := ih (fun before e r here => (hblocks before e r here).tail) rest
      refine ⟨s, rfl, ?_⟩
      rw [getLast?_cons_or]
      exact hs
    | edit here =>
      have hnil := (hblocks _ _ _ here).eq_nil ht'.symm
      exact absurd hnil (List.cons_ne_nil c m)

/-- A beginning of the old text that no edit has read a part of is copied. -/
theorem Edited.exists_of_reads {s : Text}
    (hblocks : ∀ before e r, allows before e r → Blocks m e.reads)
    (h : Edited allows before (m ++ s) t') :
    ∃ s', t' = m ++ s' ∧ Edited allows (m.getLast?.or before) s s' := by
  induction m generalizing before t' with
  | nil => exact ⟨t', rfl, h⟩
  | cons c m ih =>
    generalize ht : c :: m ++ s = t at h
    cases h with
    | nil => simp at ht
    | copy rest =>
      obtain ⟨rfl, rfl⟩ := List.cons.inj ht
      obtain ⟨s', rfl, hs'⟩ := ih (fun before e r here => (hblocks before e r here).tail) rest
      refine ⟨s', rfl, ?_⟩
      rw [getLast?_cons_or]
      exact hs'
    | edit here =>
      have hnil := (hblocks _ _ _ here).eq_nil ht.symm
      exact absurd hnil (List.cons_ne_nil c m)

end Parts

section Rounds

variable {first second : Option Char → Edit → Text → Prop}

/-- Two rounds of edits that keep apart: no edit is empty, the first round leaves the character before
each place, neither round reaches into the parts of the other, and what the second allows before an
edited text it allows before the text as it was. -/
structure Apart (first second : Option Char → Edit → Text → Prop) : Prop where
  reads_ne : ∀ before e r, first before e r → e.reads ≠ []
  last : ∀ before e r, first before e r → e.writes.getLast? = e.reads.getLast?
  reads_ne' : ∀ before e r, second before e r → e.reads ≠ []
  blocks : ∀ before e r before' e' r', first before e r → second before' e' r' →
    Blocks e'.reads e.writes ∧ Blocks e.writes e'.reads
  behind : ∀ before e r r', second before e r' → Edited first (e.reads.getLast?.or before) r r' →
    second before e r

theorem Edited.trans (hapart : Apart first second) {before : Option Char} {t s out : Text}
    (h : Edited first before t s) (h' : Edited second before s out) :
    Edited (fun before e r => first before e r ∨ second before e r) before t out := by
  -- An edit of either round takes the other one along, so the induction is on the length.
  induction hn : t.length using Nat.strongRecOn generalizing before t s out with
  | _ n ih =>
    subst hn
    have hshorter {e : Edit} (hne : e.reads ≠ []) (r : Text) :
        r.length < (e.reads ++ r).length := by
      have := List.length_pos_iff.2 hne
      simp only [List.length_append]
      omega
    cases h with
    | nil =>
      generalize hs : ([] : Text) = s at h'
      cases h' with
      | nil => exact .nil
      | copy => simp at hs
      | edit here => exact absurd (List.append_eq_nil_iff.1 hs.symm).1 (hapart.reads_ne' _ _ _ here)
    | @copy _ c r r' rest =>
      generalize hs : c :: r' = s at h'
      cases h' with
      | nil => simp at hs
      | copy rest' =>
        obtain ⟨rfl, rfl⟩ := List.cons.inj hs
        exact .copy (ih r.length (by simp) rest rest' rfl)
      | @edit _ e q q' here rest' =>
        have hold : Edited first before (c :: r) (e.reads ++ q) := hs ▸ .copy rest
        obtain ⟨p, hp, hrest⟩ := hold.exists_of_writes fun before' e' r' here' =>
          (hapart.blocks _ _ _ _ _ _ here' here).1
        rw [hp] at ih ⊢
        have hne := hapart.reads_ne' _ _ _ here
        exact .edit (Or.inr (hapart.behind _ _ _ _ here hrest))
          (ih p.length (hshorter hne p) hrest rest' rfl)
    | @edit _ e r r' here rest =>
      obtain ⟨q, rfl, hrest'⟩ := h'.exists_of_reads fun before' e' r' here' =>
        (hapart.blocks _ _ _ _ _ _ here here').2
      rw [hapart.last _ _ _ here] at hrest'
      have hne := hapart.reads_ne _ _ _ here
      exact .edit (Or.inl here) (ih r.length (hshorter hne r) rest hrest' rfl)

end Rounds

end QueryMigration.Text
