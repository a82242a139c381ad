import QueryMigration.Proofs.Declaration.Place

/-! Promotion leaves no header behind and edits nothing else: its two rules keep out of each other's
way. -/

namespace QueryMigration.Declaration

open Text

section Remaining

variable {f g : Form} {before : Option Char} {e : Edit} {t : Text}

def Free (f : Form) (before : Option Char) (t : Text) : Prop :=
  ∀ u e v, t = u ++ (e.reads ++ v) → ¬ HeaderAt f (u.getLast?.or before) e v

theorem free_nil : Free f before [] := by
  intro u e v heq hheader
  have hnil := (List.append_eq_nil_iff.1 heq.symm).2
  exact hheader.reads_ne (List.append_eq_nil_iff.1 hnil).1

theorem free_append_iff {s t : Text} : Free f before (s ++ t) ↔
    (∀ u u' e v, s = u ++ u' → u' ≠ [] → u' ++ t = e.reads ++ v →
      ¬ HeaderAt f (u.getLast?.or before) e v) ∧ Free f (s.getLast?.or before) t := by
  have hor (u : Text) : (s ++ u).getLast?.or before = u.getLast?.or (s.getLast?.or before) := by
    rw [List.getLast?_append, Option.or_assoc]
  constructor
  · intro h
    refine ⟨?_, ?_⟩
    · intro u u' e v hs _ heq
      exact h u e v (by rw [hs, List.append_assoc, heq])
    · intro u e v ht
      rw [← hor]
      exact h (s ++ u) e v (by rw [ht, List.append_assoc])
  · intro h u e v heq
    cases List.append_eq_append_iff.1 heq with
    | inl hbehind =>
      obtain ⟨u', rfl, ht⟩ := hbehind
      rw [hor]
      exact h.2 u' e v ht
    | inr hwithin =>
      obtain ⟨u', rfl, hu'⟩ := hwithin
      by_cases hne : u' = []
      · subst hne
        have hrest := h.2 [] e v (by simpa using hu'.symm)
        simpa using hrest
      · exact h.1 u u' e v rfl hne hu'.symm

theorem Free.of_front {before' : Option Char} (h : Free f before' t)
    (hfront : ∀ e v, t = e.reads ++ v → ¬ HeaderAt f before e v) : Free f before t := by
  intro u e v ht hheader
  cases u with
  | nil => exact hfront e v ht hheader
  | cons c u =>
    refine h (c :: u) e v ht ?_
    rw [getLast?_cons_or] at hheader ⊢
    exact hheader

/-- A rule leaves no header of its own form, and none of a form that was not there before. -/
theorem free_scan (f g : Form) (before : Option Char) (t : Text) (h : g = f ∨ Free g before t) :
    Free g before (f.rule.scan 0 before t) := by
  have hscan := Rule.scan_induction (motive := fun before t t' =>
    Edited (HeaderAt f) before t t' ∧ (g = f ∨ Free g before t → Free g before t'))
    f.lawful_rule ?nil ?copy ?edit before t
  · exact hscan.2 h
  case nil =>
    intro before
    exact ⟨.nil, fun _ => free_nil⟩
  case copy =>
    intro before c r hnone ih
    have hedited : Edited (HeaderAt f) before (c :: r) (c :: f.rule.scan 0 (some c) r) := .copy ih.1
    refine ⟨hedited, fun hold => ?_⟩
    rw [← List.singleton_append, free_append_iff]
    constructor
    · -- A header that begins here did so before, and the rule would have read it.
      intro u u' e v hs hne heq hheader
      obtain ⟨rfl, rfl⟩ : u = [] ∧ u' = [c] := by
        cases List.append_eq_singleton_iff.1 hs.symm with
        | inl hwhole => exact hwhole
        | inr hnone => exact absurd hnone.2 hne
      have hedited' : Edited (HeaderAt f) before (c :: r) (e.reads ++ v) := by
        rw [← heq]
        exact hedited
      obtain ⟨v', hr, hheader'⟩ := hheader.exists_front hedited'
      cases hold with
      | inl hform =>
        rw [Form.rule_eq_some_iff.2 ⟨v', hform ▸ hheader', hr⟩] at hnone
        cases hnone
      | inr hfree => exact hfree [] e v' hr hheader'
    · refine ih.2 (hold.imp_right fun hfree => ?_)
      exact (free_append_iff (s := [c]).1 hfree).2
  case edit =>
    intro before e r hsome ih
    obtain ⟨_, hheader, hrest⟩ := Form.rule_eq_some_iff.1 hsome
    obtain rfl := List.append_cancel_left hrest
    refine ⟨.edit hheader ih.1, fun hold => ?_⟩
    rw [free_append_iff]
    constructor
    · intro u u' e' v hs hne heq hheader'
      exact hheader'.isPlain.not_within hheader.isPromised hs hne _ ⟨v, heq.symm⟩
    · have hfree := ih.2 (hold.imp_right fun hfree => (free_append_iff.1 hfree).2)
      cases hheader.seam with
      | inl hlast => rw [hlast]; exact hfree
      | inr hend =>
        refine hfree.of_front fun e' v ht hheader' => ?_
        obtain ⟨v', hr, -⟩ := hheader'.exists_front (ht ▸ ih.1)
        obtain ⟨s, hs⟩ := hheader'.isPlain.exists_cons
        have he : isWordChar 'e' = true := by decide
        simp [hr, hs, he] at hend

end Remaining

section Rounds

/-- The rule for functions finds nothing that the rule for arrow functions has written. -/
theorem apart_forms : Apart (HeaderAt .arrow) (HeaderAt .function) where
  reads_ne := fun _ _ _ h => h.reads_ne
  last := by
    intro before e rest h
    cases h with
    | @arrow _ h => exact h.getLast?_promoted
  reads_ne' := fun _ _ _ h => h.reads_ne
  blocks := fun _ _ _ _ _ _ h h' => h'.isPlain.blocks h.isPromised
  behind := fun _ _ _ _ h hedited => h.of_edited hedited

/-- The two rules together promote headers of the text as it was. -/
theorem edited_promote {t : Text} (hneeds : needsAsync t = true) :
    Edited (fun before e rest => ∃ f, HeaderAt f before e rest) none t (promote t) := by
  rw [promote, if_pos hneeds]
  have hedited := (Form.arrow.edited none t).trans apart_forms (Form.function.edited none _)
  refine hedited.mono fun before e rest here => ?_
  cases here with
  | inl harrow => exact ⟨.arrow, harrow⟩
  | inr hfunction => exact ⟨.function, hfunction⟩

theorem free_promote {t : Text} (hneeds : needsAsync t = true) (f : Form) :
    Free f none (promote t) := by
  rw [promote, if_pos hneeds]
  have harrow : Free .arrow none (promoteArrow.apply t) :=
    free_scan .arrow .arrow none t (Or.inl rfl)
  cases f with
  | arrow => exact free_scan .function .arrow none _ (Or.inr harrow)
  | function => exact free_scan .function .function none _ (Or.inl rfl)

end Rounds

section Blanks

def solid (t : Text) : Text := t.filter fun c => !isBlank c

@[simp] theorem solid_append (s t : Text) : solid (s ++ t) = solid s ++ solid t := List.filter_append ..

theorem solid_gap {gap : Text} (hgap : IsGap gap) : solid gap = [] := by
  refine List.filter_eq_nil_iff.2 fun c hc => ?_
  simp [hgap c hc]

def promiseStart : Text := "Promise<".toList

def Arrow.wrapped (h : Arrow) : Text :=
  (exportWord ++ h.afterExport ++ constWord ++ h.afterConst ++ h.name ++ h.afterName ++ ['=']) ++
    (h.afterEquals ++ asyncWord ++ ['('] ++ h.params ++ paramsEnd) ++
    (h.beforeType ++ promiseStart ++ h.type.text ++ ['>'] ++ h.afterType ++ arrowSign)

def Function.wrapped (h : Function) : Text :=
  (exportWord ++ h.afterExport ++ asyncWord ++ functionWord ++ h.afterFunction ++ h.name) ++
    (h.afterName ++ ['('] ++ h.params ++ paramsEnd) ++
    (h.beforeType ++ promiseStart ++ ReturnType.void.text ++ ['>'])

theorem Arrow.WellFormed.solid_promoted {h : Arrow} (wf : h.WellFormed) :
    solid h.promoted = solid h.wrapped := by
  have hpromoted : h.promoted = exportWord ++ [' '] ++ constWord ++ [' '] ++ h.name ++
    ([' '] ++ ['='] ++ [' '] ++ asyncWord ++ [' '] ++ ['(']) ++ h.params ++
    (paramsEnd ++ [' '] ++ promiseStart) ++ h.type.text ++ (['>'] ++ [' '] ++ arrowSign) := rfl
  have hspace : solid [' '] = [] := by decide
  simp only [hpromoted, Arrow.wrapped, solid_append, hspace, solid_gap wf.afterExport.2,
    solid_gap wf.afterConst.2, solid_gap wf.afterName, solid_gap wf.afterEquals,
    solid_gap wf.beforeType, solid_gap wf.afterType, List.append_assoc, List.nil_append]

theorem Function.WellFormed.solid_promoted {h : Function} (wf : h.WellFormed) :
    solid h.promoted = solid h.wrapped := by
  have hpromoted : h.promoted = exportWord ++ [' '] ++ asyncWord ++ [' '] ++ functionWord ++ [' '] ++
    h.name ++ (['('] ++ h.params) ++ (paramsEnd ++ [' '] ++ promiseStart) ++
    ReturnType.void.text ++ ['>'] := rfl
  have hspace : solid [' '] = [] := by decide
  simp only [hpromoted, Function.wrapped, solid_append, hspace, solid_gap wf.afterExport.2,
    solid_gap wf.afterFunction.2, solid_gap wf.afterName, solid_gap wf.beforeType,
    List.append_assoc, List.nil_append]

/-- The edit of a header that puts `async` in and wraps the return type, with all blanks kept. -/
inductive WrappedAt : Option Char → Edit → Text → Prop
  | arrow {before : Option Char} {h : Arrow} {rest : Text}
      (here : HeaderAt .arrow before ⟨h.written, h.promoted⟩ rest) :
      WrappedAt before ⟨h.written, h.wrapped⟩ rest
  | function {before : Option Char} {h : Function} {rest : Text}
      (here : HeaderAt .function before ⟨h.written, h.promoted⟩ rest) :
      WrappedAt before ⟨h.written, h.wrapped⟩ rest

theorem HeaderAt.exists_wrapped {f : Form} {before : Option Char} {e : Edit} {rest : Text}
    (h : HeaderAt f before e rest) :
    ∃ w, WrappedAt before ⟨e.reads, w⟩ rest ∧ solid e.writes = solid w := by
  cases h with
  | arrow hbefore wf => exact ⟨_, .arrow (.arrow hbefore wf), wf.solid_promoted⟩
  | function hbefore wf hrest => exact ⟨_, .function (.function hbefore wf hrest), wf.solid_promoted⟩

theorem exists_wrapped_of_edited {before : Option Char} {t t' : Text}
    (h : Edited (fun before e rest => ∃ f, HeaderAt f before e rest) before t t') :
    ∃ out, Edited WrappedAt before t out ∧ solid t' = solid out := by
  induction h with
  | nil => exact ⟨[], .nil, rfl⟩
  | @copy _ c _ _ _ ih =>
    obtain ⟨out, hout, hsolid⟩ := ih
    refine ⟨c :: out, .copy hout, ?_⟩
    rw [← List.singleton_append, solid_append, hsolid, ← solid_append, List.singleton_append]
  | @edit _ e _ _ here _ ih =>
    obtain ⟨f, hheader⟩ := here
    obtain ⟨out, hout, hsolid⟩ := ih
    obtain ⟨w, hwrapped, hsolid'⟩ := hheader.exists_wrapped
    refine ⟨w ++ out, .edit (e := ⟨e.reads, w⟩) hwrapped hout, ?_⟩
    rw [solid_append, solid_append, hsolid, hsolid']

end Blanks

/-- Where a text needs it, promotion leaves no header of either form, edits nothing but headers, and
is, blanks aside, the text with one `async` put in and the return type wrapped in each of those.
Elsewhere it changes nothing. -/
theorem promote_complete_and_conservative (t : Text) :
    (needsAsync t = true →
      (∀ f, Free f none (promote t)) ∧
      Edited (fun before e rest => ∃ f, HeaderAt f before e rest) none t (promote t) ∧
      ∃ out, Edited WrappedAt none t out ∧ solid (promote t) = solid out) ∧
    (needsAsync t = false → promote t = t) := by
  constructor
  · intro hneeds
    have hedited := edited_promote hneeds
    exact ⟨free_promote hneeds, hedited, exists_wrapped_of_edited hedited⟩
  · intro hneeds
    simp [promote, hneeds]

def nestedHeader : Text :=
  "export const load = (\nexport function save($1): void => await x".toList

theorem promote_complete_and_conservative_nestedHeader :
    needsAsync nestedHeader = true ∧
    promote nestedHeader =
      "export const load = async (\nexport function save($1): Promise<void> => await x".toList ∧
    ∀ f, Free f none (promote nestedHeader) := by
  have hneeds : needsAsync nestedHeader = true := by decide
  exact ⟨hneeds, by decide, ((promote_complete_and_conservative nestedHeader).1 hneeds).1⟩

end QueryMigration.Declaration
