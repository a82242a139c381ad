import QueryMigration.BooleanLiteral
import QueryMigration.Proofs.Text.Occurrence

/-! Spans are what the boolean rules look for, with what must follow. The rules leave none behind.
-/

namespace QueryMigration.BooleanLiteral

open Text

section Reading

def closers : List Text := ["AND".toList, "OR".toList, [')'], [';']]

theorem endsCondition_iff {rest : Text} : endsCondition rest = true ↔
    IsGap rest ∨ ∃ gap closer after, IsGap gap ∧ closer ∈ closers ∧ rest = gap ++ closer ++ after := by
  obtain ⟨gap, next, rfl, hgap, hnext⟩ := exists_run isBlank rest
  simp only [endsCondition, dropWhile_append_rest hgap hnext, Bool.or_eq_true, List.isEmpty_iff,
    List.any_eq_true, List.isPrefixOf_iff_prefix]
  constructor
  · rintro (rfl | ⟨closer, hcloser, after, rfl⟩)
    · exact Or.inl (by simpa [IsGap] using hgap)
    · exact Or.inr ⟨gap, closer, after, hgap, hcloser, by simp⟩
  · rintro (hall | ⟨gap', closer, after, hgap', hcloser, heq⟩)
    · cases next with
      | nil => exact Or.inl rfl
      | cons c next => simp [hall c (by simp)] at hnext
    · refine Or.inr ⟨closer, hcloser, after, ?_⟩
      have hstart : (closer ++ after).head?.any isBlank = false := by
        have hall : ∀ closer ∈ closers, ∀ s : Text, (closer ++ s).head?.any isBlank = false := by
          simp only [closers, List.forall_mem_cons, List.not_mem_nil, false_imp_iff, implies_true,
            and_true]
          exact ⟨fun _ => rfl, fun _ => rfl, fun _ => rfl, fun _ => rfl⟩
        exact hall closer hcloser after
      rw [List.append_assoc] at heq
      exact rest_eq_of_append_eq hgap' hstart hgap hnext heq.symm

theorem comparison_eq_some_iff {digit : Char} (hdigit : isBlank digit = false) {word : Text}
    {before : Option Char} {t : Text} {e : Edit} :
    comparison digit word before t = some e ↔
      ∃ gap after, t = '=' :: (gap ++ digit :: after) ∧ IsGap gap ∧ endsCondition after = true ∧
        e = ⟨'=' :: (gap ++ [digit]), '=' :: ' ' :: word⟩ := by
  constructor
  · intro h
    unfold comparison at h
    split at h
    · rename_i r
      obtain ⟨gap, next, rfl, hgap, hnext⟩ := exists_run isBlank r
      rw [takeWhile_append_rest hgap hnext, dropWhile_append_rest hgap hnext] at h
      split at h
      · rename_i d after
        split at h
        · rename_i hcond
          simp only [Bool.and_eq_true, decide_eq_true_eq] at hcond
          obtain ⟨rfl, hends⟩ := hcond
          exact ⟨gap, after, rfl, hgap, hends, (Option.some.inj h).symm⟩
        · simp at h
      · simp at h
    · simp at h
  · rintro ⟨gap, after, rfl, hgap, hends, rfl⟩
    have hnext : (digit :: after).head?.any isBlank = false := by simpa using hdigit
    simp [comparison, takeWhile_append_rest hgap hnext, dropWhile_append_rest hgap hnext, hends]

theorem gapThen?_eq_some_iff {c : Char} (hc : isBlank c = false) {t part rest : Text} :
    gapThen? c t = some (part, rest) ↔
      ∃ gap, t = gap ++ c :: rest ∧ IsGap gap ∧ part = gap ++ [c] := by
  constructor
  · intro h
    obtain ⟨gap, next, rfl, hgap, hnext⟩ := exists_run isBlank t
    unfold gapThen? at h
    rw [takeWhile_append_rest hgap hnext, dropWhile_append_rest hgap hnext] at h
    split at h
    · split at h
      · rename_i hd
        subst hd
        simp only [Option.some.injEq, Prod.mk.injEq] at h
        obtain ⟨rfl, rfl⟩ := h
        exact ⟨gap, rfl, hgap, rfl⟩
      · simp at h
    · simp at h
  · rintro ⟨gap, rfl, hgap, rfl⟩
    have hnext : (c :: rest).head?.any isBlank = false := by simpa using hc
    simp [gapThen?, takeWhile_append_rest hgap hnext, dropWhile_append_rest hgap hnext]

theorem choice_eq_some_iff {before : Option Char} {t : Text} {e : Edit} :
    choice before t = some e ↔
      ∃ gap₁ gap₂ gap₃ after, IsGap gap₁ ∧ IsGap gap₂ ∧ IsGap gap₃ ∧
        t = '?' :: (gap₁ ++ '1' :: (gap₂ ++ ':' :: (gap₃ ++ '0' :: after))) ∧
        e = ⟨'?' :: (gap₁ ++ ['1'] ++ (gap₂ ++ [':']) ++ (gap₃ ++ ['0'])),
          "? true : false".toList⟩ := by
  have hone : isBlank '1' = false := by decide
  have hcolon : isBlank ':' = false := by decide
  have hzero : isBlank '0' = false := by decide
  simp only [choice, bind, Option.bind_eq_some_iff, Prod.exists, strip?_eq_some_iff,
    gapThen?_eq_some_iff hone, gapThen?_eq_some_iff hcolon, gapThen?_eq_some_iff hzero]
  constructor
  · rintro ⟨_, rfl, _, _, ⟨gap₁, rfl, h₁, rfl⟩, _, _, ⟨gap₂, rfl, h₂, rfl⟩, _, after,
      ⟨gap₃, rfl, h₃, rfl⟩, he⟩
    exact ⟨gap₁, gap₂, gap₃, after, h₁, h₂, h₃, rfl, (Option.some.inj he).symm⟩
  · rintro ⟨gap₁, gap₂, gap₃, after, h₁, h₂, h₃, rfl, rfl⟩
    exact ⟨_, rfl, _, _, ⟨gap₁, rfl, h₁, rfl⟩, _, _, ⟨gap₂, rfl, h₂, rfl⟩, _, after,
      ⟨gap₃, rfl, h₃, rfl⟩, rfl⟩

end Reading

section Spans

/-- A comparison with `digit` and what ends its condition: a closer, or the end of the text if
`final` says so. -/
def ComparisonSpan (digit : Char) (final : Bool) (m : Text) : Prop :=
  ∃ gap gap' closer, IsGap gap ∧ IsGap gap' ∧ (if final then closer = [] else closer ∈ closers) ∧
    m = '=' :: (gap ++ digit :: (gap' ++ closer))

def ChoiceSpan (final : Bool) (m : Text) : Prop :=
  final = false ∧ ∃ gap₁ gap₂ gap₃, IsGap gap₁ ∧ IsGap gap₂ ∧ IsGap gap₃ ∧
    m = '?' :: (gap₁ ++ '1' :: (gap₂ ++ ':' :: (gap₃ ++ ['0'])))

def Clear (span : Bool → Text → Prop) (t : Text) : Prop :=
  ∀ final m, span final m → ¬ Found final m t

def spanLetters : List Char := "=?:01ANDOR);".toList

/-- What all spans have in common: their first character, their last one if the end of the text is
no part of them, and the characters they consist of. -/
structure SpanLike (final : Bool) (m : Text) : Prop where
  head : ∃ c r, m = c :: r ∧ (c = '=' ∨ c = '?')
  last : final = false → ∃ l r, m = r ++ [l] ∧ l ∈ ['D', 'R', ')', ';', '0']
  letters : ∀ c ∈ m, isBlank c = true ∨ c ∈ spanLetters

def SpanFree (w : Text) : Prop := ∀ final m, SpanLike final m → Isolated final m w

/-- A kind of spans belongs to a rule: the rule applies exactly where one of them begins. -/
structure SpansOf (rule : Rule) (span : Bool → Text → Prop) : Prop where
  lawful : rule.Lawful
  applies_iff : ∀ before t, rule before t ≠ none ↔
    ∃ final m v, span final m ∧ t = m ++ v ∧ (final = true → v = [])
  spanLike : ∀ final m, span final m → SpanLike final m

variable {rule : Rule} {span : Bool → Text → Prop}

theorem SpansOf.apply_eq_self (h : SpansOf rule span) {t : Text} (hclear : Clear span t) :
    rule.apply t = t := by
  refine Rule.scan_eq_self fun u v huv => ?_
  by_cases happlies : rule (u.getLast?.or none) v = none
  · exact happlies
  · obtain ⟨final, m, w, hspan, rfl, hw⟩ := (h.applies_iff _ v).1 happlies
    exact absurd ⟨u, w, by rw [huv, List.append_assoc], hw⟩ (hclear final m hspan)

theorem spanLike_ne_nil {final : Bool} {m : Text} (h : SpanLike final m) : m ≠ [] := by
  obtain ⟨c, r, rfl, -⟩ := h.head
  simp

theorem SpanFree.append {v w : Text} (hv : SpanFree v)
    (hw : SpanFree w) : SpanFree (v ++ w) := by
  intro final m hm x y hfound
  rw [← List.append_assoc] at hfound
  cases hw final m hm (x ++ v) y hfound with
  | inl hbefore =>
    obtain ⟨hfinal, hleft⟩ := hbefore
    rw [← List.append_nil (x ++ v)] at hleft
    cases hv final m hm x [] hleft with
    | inl hx => exact Or.inl hx
    | inr hbehind =>
      obtain ⟨u, u', hnil, -⟩ := hbehind
      simp [spanLike_ne_nil hm] at hnil
  | inr hright => exact Or.inr hright

theorem SpansOf.clear_patched (h : SpansOf rule span) {patch : Text → Text → Prop}
    (hpatch : ∀ a w, patch a w → SpanFree w) {t t' : Text}
    (hclear : Clear span t) (hpatched : PatchedBy patch t t') : Clear span t' := by
  intro final m hspan hfound
  have hlike := h.spanLike final m hspan
  obtain ⟨u, v, huv, hv, -⟩ := hpatched.found_of_found (spanLike_ne_nil hlike)
    (fun a w part => hpatch a w part final m hlike) hfound
  exact hclear final m hspan ⟨u, v, huv, hv⟩

/-- Where a rule's own replacements hold no part of a span, applying it leaves none of its spans:
each would be a copy, and the rule would have applied there instead of copying. -/
theorem SpansOf.clear_apply (h : SpansOf rule span)
    (hwrites : ∀ a w, rule.Writes a w → SpanFree w) (t : Text) :
    Clear span (rule.apply t) := by
  intro final m hspan hfound
  have hlike := h.spanLike final m hspan
  obtain ⟨u, v, -, hv, before, hnone⟩ := (Rule.patched_apply h.lawful t).found_of_found
    (spanLike_ne_nil hlike) (fun a w part => hwrites a w part final m hlike) hfound
  exact (h.applies_iff before (m ++ v)).2 ⟨final, m, v, hspan, rfl, hv⟩ hnone

end Spans

section Rules

/-- A part is free of spans if it holds a character `z` foreign to them, before which no span can
end and behind which none can begin. -/
theorem spanFree_of_cut {p s : Text} {z : Char} (hz : isBlank z = false ∧ z ∉ spanLetters)
    (hp : ∀ l ∈ ['D', 'R', ')', ';', '0'], l ∉ p) (hs : '=' ∉ s ∧ '?' ∉ s) :
    SpanFree (p ++ z :: s) := by
  intro final m h
  obtain ⟨c, r, rfl, hc⟩ := h.head
  refine isolated_of_cut ?_ ?_ ?_
  · intro hmem
    cases h.letters z hmem with
    | inl hblank => simp [hz.1] at hblank
    | inr hletter => exact hz.2 hletter
  · intro hfinal
    obtain ⟨l, m', hm, hl⟩ := h.last hfinal
    exact ⟨l, m', hm, hp l hl⟩
  · cases hc with
    | inl heq =>
      subst heq
      exact hs.1
    | inr heq =>
      subst heq
      exact hs.2

theorem ComparisonSpan.spanLike {digit : Char} (hdigit : digit ∈ spanLetters) {final : Bool}
    {m : Text} (h : ComparisonSpan digit final m) : SpanLike final m := by
  obtain ⟨gap, gap', closer, hgap, hgap', hcloser, rfl⟩ := h
  refine ⟨⟨'=', _, rfl, Or.inl rfl⟩, ?_, ?_⟩
  · rintro rfl
    have hlast : ∀ closer ∈ closers, ∃ l s, closer = s ++ [l] ∧ l ∈ ['D', 'R', ')', ';', '0'] := by
      simp only [closers, List.forall_mem_cons]
      exact ⟨⟨'D', ['A', 'N'], by decide⟩, ⟨'R', ['O'], by decide⟩, ⟨')', [], by decide⟩,
        ⟨';', [], by decide⟩, by simp⟩
    obtain ⟨l, s, rfl, hl⟩ := hlast closer (by simpa using hcloser)
    exact ⟨l, '=' :: (gap ++ digit :: (gap' ++ s)), by simp, hl⟩
  · have hletters : ∀ closer ∈ closers, (closer.all fun c => c ∈ spanLetters) = true := by decide
    intro c hc
    simp only [List.mem_cons, List.mem_append] at hc
    rcases hc with rfl | hc | rfl | hc | hc
    · exact Or.inr (by decide)
    · exact Or.inl (hgap c hc)
    · exact Or.inr hdigit
    · exact Or.inl (hgap' c hc)
    · cases final with
      | false =>
        have hall := List.all_eq_true.1 (hletters closer (by simpa using hcloser)) c hc
        exact Or.inr (of_decide_eq_true hall)
      | true => simp [show closer = [] by simpa using hcloser] at hc

theorem spansOf_comparison {digit : Char} (hdigit : digit ∈ spanLetters)
    (hblank : isBlank digit = false) (word : Text) :
    SpansOf (comparison digit word) (ComparisonSpan digit) where
  lawful := by
    intro before t e h
    obtain ⟨gap, after, rfl, -, -, rfl⟩ := (comparison_eq_some_iff hblank).1 h
    exact ⟨by simp, after, by simp⟩
  applies_iff := by
    intro before t
    rw [Option.ne_none_iff_exists']
    simp only [comparison_eq_some_iff hblank, endsCondition_iff]
    constructor
    · rintro ⟨e, gap, after, rfl, hgap, hafter | ⟨gap', closer, v, hgap', hcloser, rfl⟩, -⟩
      · exact ⟨true, _, [], ⟨gap, after, [], hgap, hafter, rfl, rfl⟩, by simp, fun _ => rfl⟩
      · exact ⟨false, _, v, ⟨gap, gap', closer, hgap, hgap', hcloser, rfl⟩, by simp, by simp⟩
    · rintro ⟨final, _, v, ⟨gap, gap', closer, hgap, hgap', hcloser, rfl⟩, rfl, hv⟩
      refine ⟨_, gap, gap' ++ closer ++ v, by simp, hgap, ?_, rfl⟩
      cases final with
      | true => exact Or.inl (by simpa [hv rfl, show closer = [] by simpa using hcloser] using hgap')
      | false => exact Or.inr ⟨gap', closer, v, hgap', by simpa using hcloser, rfl⟩
  spanLike := fun _ _ => ComparisonSpan.spanLike hdigit

theorem spansOf_choice : SpansOf choice ChoiceSpan where
  lawful := by
    intro before t e h
    obtain ⟨gap₁, gap₂, gap₃, after, -, -, -, rfl, rfl⟩ := choice_eq_some_iff.1 h
    exact ⟨by simp, after, by simp⟩
  applies_iff := by
    intro before t
    rw [Option.ne_none_iff_exists']
    simp only [choice_eq_some_iff]
    constructor
    · rintro ⟨e, gap₁, gap₂, gap₃, after, h₁, h₂, h₃, rfl, -⟩
      exact ⟨false, _, after, ⟨rfl, gap₁, gap₂, gap₃, h₁, h₂, h₃, rfl⟩, by simp, by simp⟩
    · rintro ⟨_, _, v, ⟨rfl, gap₁, gap₂, gap₃, h₁, h₂, h₃, rfl⟩, rfl, -⟩
      exact ⟨_, gap₁, gap₂, gap₃, v, h₁, h₂, h₃, by simp, rfl⟩
  spanLike := by
    rintro _ _ ⟨rfl, gap₁, gap₂, gap₃, h₁, h₂, h₃, rfl⟩
    refine ⟨⟨'?', _, rfl, Or.inr rfl⟩, fun _ => ?_, ?_⟩
    · exact ⟨'0', '?' :: (gap₁ ++ '1' :: (gap₂ ++ ':' :: gap₃)), by simp, by decide⟩
    · intro c hc
      simp only [List.mem_cons, List.mem_append, List.not_mem_nil, or_false] at hc
      rcases hc with rfl | hc | rfl | hc | rfl | hc | rfl
      · exact Or.inr (by decide)
      · exact Or.inl (h₁ c hc)
      · exact Or.inr (by decide)
      · exact Or.inl (h₂ c hc)
      · exact Or.inr (by decide)
      · exact Or.inl (h₃ c hc)
      · exact Or.inr (by decide)

end Rules

section Normal

structure IsNormal (t : Text) : Prop where
  one : Clear (ComparisonSpan '1') t
  zero : Clear (ComparisonSpan '0') t
  choice : Clear ChoiceSpan t

theorem spansOf_one : SpansOf (comparison '1' "true".toList) (ComparisonSpan '1') :=
  spansOf_comparison (by decide) (by decide) _

theorem spansOf_zero : SpansOf (comparison '0' "false".toList) (ComparisonSpan '0') :=
  spansOf_comparison (by decide) (by decide) _

theorem normalize_eq_self {t : Text} (h : IsNormal t) : normalize t = t := by
  rw [normalize, rules]
  simp only [List.foldl_cons, List.foldl_nil]
  rw [spansOf_one.apply_eq_self h.one, spansOf_zero.apply_eq_self h.zero,
    spansOf_choice.apply_eq_self h.choice]

theorem IsNormal.patched {patch : Text → Text → Prop} (hpatch : ∀ a w, patch a w → SpanFree w)
    {t t' : Text} (h : IsNormal t) (hpatched : PatchedBy patch t t') : IsNormal t' where
  one := spansOf_one.clear_patched hpatch h.one hpatched
  zero := spansOf_zero.clear_patched hpatch h.zero hpatched
  choice := spansOf_choice.clear_patched hpatch h.choice hpatched

theorem spanFree_of_comparison {digit z : Char} {s : Text} (hblank : isBlank digit = false)
    (hz : isBlank z = false ∧ z ∉ spanLetters) (hs : '=' ∉ s ∧ '?' ∉ s) (a w : Text)
    (h : (comparison digit (z :: s)).Writes a w) : SpanFree w := by
  obtain ⟨before, t, h⟩ := h
  obtain ⟨gap, after, -, -, -, he⟩ := (comparison_eq_some_iff hblank).1 h
  obtain ⟨-, rfl⟩ := Edit.mk.inj he
  exact spanFree_of_cut (p := ['=', ' ']) hz (by simp) hs

theorem spanFree_of_choice (a w : Text) (h : choice.Writes a w) : SpanFree w := by
  obtain ⟨before, t, h⟩ := h
  obtain ⟨_, _, _, _, -, -, -, -, he⟩ := choice_eq_some_iff.1 h
  obtain ⟨-, rfl⟩ := Edit.mk.inj he
  exact spanFree_of_cut (p := ['?', ' ']) (z := 't') (s := "rue : false".toList) (by decide)
    (by simp) (by decide)

theorem isNormal_normalize (t : Text) : IsNormal (normalize t) := by
  have hone := spanFree_of_comparison (z := 't') (s := "rue".toList)
    (show isBlank '1' = false by decide) (by decide) (by decide)
  have hzero := spanFree_of_comparison (z := 'f') (s := "alse".toList)
    (show isBlank '0' = false by decide) (by decide) (by decide)
  let afterOne := (comparison '1' "true".toList).apply t
  let afterZero := (comparison '0' "false".toList).apply afterOne
  have zeroPatched := (Rule.patched_apply spansOf_zero.lawful afterOne).patchedBy
  have choicePatched := (Rule.patched_apply spansOf_choice.lawful afterZero).patchedBy
  have clearOne := spansOf_one.clear_apply hone t
  have clearZero := spansOf_zero.clear_apply hzero afterOne
  exact
    { one := spansOf_one.clear_patched spanFree_of_choice
        (spansOf_one.clear_patched hzero clearOne zeroPatched) choicePatched
      zero := spansOf_zero.clear_patched spanFree_of_choice clearZero choicePatched
      choice := spansOf_choice.clear_apply spanFree_of_choice afterZero }

end Normal

end QueryMigration.BooleanLiteral
