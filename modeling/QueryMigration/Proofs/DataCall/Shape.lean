import QueryMigration.DataCall
import QueryMigration.Proofs.Text.Occurrence
import QueryMigration.Proofs.Text.Word

/-! The beginnings of lines whose calls are awaited: at most three words, so little can reach into
them. -/

namespace QueryMigration.DataCall

open Text

section Reading

def IsLead (lead : Text) : Prop :=
  lead = [] ∨ ∃ b ∈ binders, ∃ gap, gap ≠ [] ∧ IsGap gap ∧ lead = b ++ gap

/-- The beginning of a line that calls a data-access function or assigns the call's value. -/
inductive CallShape : Text → Prop
  | call {gap f : Text} (hgap : IsGap gap) (hf : f ∈ functions) : CallShape (gap ++ f ++ ['('])
  | assigned {gap lead name gap' gap'' f : Text} (hgap : IsGap gap) (hlead : IsLead lead)
      (hname : IsWord name) (hgap' : IsGap gap') (hgap'' : IsGap gap'') (hf : f ∈ functions) :
      CallShape (gap ++ lead ++ name ++ gap' ++ '=' :: (gap'' ++ f ++ ['(']))

theorem callee?_isSome_iff {t : Text} :
    (callee? t).isSome = true ↔ ∃ f ∈ functions, ∃ rest, t = f ++ '(' :: rest := by
  simp only [callee?, List.find?_isSome, List.isPrefixOf_iff_prefix]
  constructor
  · rintro ⟨f, hf, rest, rfl⟩
    exact ⟨f, hf, rest, by simp⟩
  · rintro ⟨f, hf, rest, rfl⟩
    exact ⟨f, hf, rest, by simp⟩

theorem head_of_mem_functions {f : Text} (hf : f ∈ functions) :
    ∃ c r, f = c :: r ∧ isWordChar c = true ∧ isBlank c = false := by
  have hall : ∀ f ∈ functions, f ≠ [] ∧ f.head?.all fun c => isWordChar c && !isBlank c := by decide
  obtain ⟨hne, hhead⟩ := hall f hf
  obtain ⟨c, r, rfl⟩ := List.exists_cons_of_ne_nil hne
  exact ⟨c, r, rfl, by simpa using hhead⟩

theorem startsWithCall_iff {t : Text} : startsWithCall t = true ↔
    ∃ gap f rest, IsGap gap ∧ f ∈ functions ∧ t = gap ++ f ++ '(' :: rest := by
  obtain ⟨gap, next, rfl, hgap, hnext⟩ := exists_run isBlank t
  rw [startsWithCall, dropWhile_append_rest hgap hnext, callee?_isSome_iff]
  constructor
  · rintro ⟨f, hf, rest, rfl⟩
    exact ⟨gap, f, rest, hgap, hf, by simp⟩
  · rintro ⟨gap', f, rest, hgap', hf, heq⟩
    obtain ⟨c, r, rfl, -, hc⟩ := head_of_mem_functions hf
    have hstart : (c :: r ++ '(' :: rest).head?.any isBlank = false := by simpa using hc
    rw [List.append_assoc] at heq
    exact ⟨c :: r, hf, rest, rest_eq_of_append_eq hgap hnext hgap' hstart heq⟩

theorem startsWithValue_iff {t : Text} : startsWithValue t = true ↔
    ∃ gap rest, IsGap gap ∧ t = gap ++ '=' :: rest ∧ startsWithCall rest = true := by
  obtain ⟨gap, next, rfl, hgap, hnext⟩ := exists_run isBlank t
  rw [startsWithValue, dropWhile_append_rest hgap hnext]
  constructor
  · intro h
    split at h
    · rename_i r
      exact ⟨gap, r, hgap, rfl, h⟩
    · simp at h
  · rintro ⟨gap', rest, hgap', heq, hrest⟩
    have hstart : ('=' :: rest).head?.any isBlank = false := rfl
    rw [rest_eq_of_append_eq hgap hnext hgap' hstart heq]
    exact hrest

theorem head_of_startsWithValue {t : Text} (h : startsWithValue t = true) :
    t.head?.any isWordChar = false := by
  obtain ⟨gap, rest, hgap, rfl, -⟩ := startsWithValue_iff.1 h
  exact head_gap_append hgap rfl

theorem startsWithTarget_iff {t : Text} : startsWithTarget t = true ↔
    ∃ name rest, IsWord name ∧ t = name ++ rest ∧ startsWithValue rest = true := by
  constructor
  · intro h
    unfold startsWithTarget at h
    split at h
    · rename_i name rest hrun
      obtain ⟨hne, hname, -, rfl⟩ := run?_eq_some_iff.1 hrun
      exact ⟨name, rest, ⟨hne, hname⟩, rfl, h⟩
    · simp at h
  · rintro ⟨name, rest, hname, rfl, hrest⟩
    have hrun := run?_eq_some_iff.2 ⟨hname.1, hname.2, head_of_startsWithValue hrest, rfl⟩
    rw [startsWithTarget, hrun]
    exact hrest

theorem head_of_startsWithTarget {t : Text} (h : startsWithTarget t = true) :
    t.head?.any isBlank = false := by
  obtain ⟨name, rest, hname, rfl, -⟩ := startsWithTarget_iff.1 h
  exact hname.head_append rest

theorem startsWithBinding_iff {t : Text} : startsWithBinding t = true ↔
    ∃ b ∈ binders, ∃ gap rest, gap ≠ [] ∧ IsGap gap ∧ t = b ++ (gap ++ rest) ∧
      startsWithTarget rest = true := by
  simp only [startsWithBinding, List.any_eq_true]
  constructor
  · rintro ⟨b, hb, h⟩
    split at h
    · rename_i r hstrip
      rw [beq_iff_eq, Option.map_eq_some_iff] at h
      obtain ⟨⟨gap, rest⟩, hrun, htarget⟩ := h
      obtain ⟨hne, hgap, -, rfl⟩ := run?_eq_some_iff.1 hrun
      exact ⟨b, hb, gap, rest, hne, hgap, strip?_eq_some_iff.1 hstrip, htarget⟩
    · simp at h
  · rintro ⟨b, hb, gap, rest, hne, hgap, rfl, htarget⟩
    have hrun := run?_eq_some_iff.2 ⟨hne, hgap, head_of_startsWithTarget htarget, rfl⟩
    refine ⟨b, hb, ?_⟩
    rw [strip?_eq_some_iff.2 rfl]
    simp [hrun, htarget]

theorem startsWithTarget_iff_assignment {t : Text} : startsWithTarget t = true ↔
    ∃ name gap gap' f rest, IsWord name ∧ IsGap gap ∧ IsGap gap' ∧ f ∈ functions ∧
      t = name ++ (gap ++ '=' :: (gap' ++ f ++ '(' :: rest)) := by
  constructor
  · intro h
    obtain ⟨name, _, hname, rfl, hvalue⟩ := startsWithTarget_iff.1 h
    obtain ⟨gap, _, hgap, rfl, hcall⟩ := startsWithValue_iff.1 hvalue
    obtain ⟨gap', f, rest, hgap', hf, rfl⟩ := startsWithCall_iff.1 hcall
    exact ⟨name, gap, gap', f, rest, hname, hgap, hgap', hf, rfl⟩
  · rintro ⟨name, gap, gap', f, rest, hname, hgap, hgap', hf, rfl⟩
    have hcall := startsWithCall_iff.2 ⟨gap', f, rest, hgap', hf, rfl⟩
    exact startsWithTarget_iff.2
      ⟨name, _, hname, rfl, startsWithValue_iff.2 ⟨gap, _, hgap, rfl, hcall⟩⟩

theorem head_of_mem_binders {b : Text} (hb : b ∈ binders) (s : Text) :
    (b ++ s).head?.any isBlank = false := by
  have hall : ∀ b ∈ binders, ∀ s : Text, (b ++ s).head?.any isBlank = false := by
    simp only [binders, List.forall_mem_cons]
    exact ⟨fun _ => rfl, fun _ => rfl, fun _ => rfl, by simp⟩
  exact hall b hb s

theorem hasCallShape_iff {line : Text} :
    hasCallShape line = true ↔ ∃ m, CallShape m ∧ m <+: line := by
  obtain ⟨gap, t, rfl, hgap, ht⟩ := exists_run isBlank line
  simp only [hasCallShape, dropWhile_append_rest hgap ht, Bool.or_eq_true]
  constructor
  · rintro ((h | h) | h)
    · obtain ⟨gap', f, rest, hgap', hf, rfl⟩ := startsWithCall_iff.1 h
      exact ⟨_, .call (IsGap.append hgap hgap') hf, rest, by simp⟩
    · obtain ⟨name, gap', gap'', f, rest, hname, hgap', hgap'', hf, rfl⟩ :=
        startsWithTarget_iff_assignment.1 h
      exact ⟨_, .assigned hgap (Or.inl rfl) hname hgap' hgap'' hf, rest, by simp⟩
    · obtain ⟨b, hb, g, _, hg, hgGap, rfl, htarget⟩ := startsWithBinding_iff.1 h
      obtain ⟨name, gap', gap'', f, rest, hname, hgap', hgap'', hf, rfl⟩ :=
        startsWithTarget_iff_assignment.1 htarget
      have hlead : IsLead (b ++ g) := Or.inr ⟨b, hb, g, hg, hgGap, rfl⟩
      exact ⟨_, .assigned hgap hlead hname hgap' hgap'' hf, rest, by simp⟩
  · rintro ⟨m, hm, rest, heq⟩
    cases hm with
    | @call gap' f hgap' hf =>
      obtain ⟨c, r, rfl, -, hc⟩ := head_of_mem_functions hf
      have hstart : (c :: r ++ '(' :: rest).head?.any isBlank = false := by simpa using hc
      have hrest := rest_eq_of_append_eq hgap' hstart hgap ht (by simpa using heq)
      rw [← hrest]
      exact Or.inl (Or.inl (startsWithCall_iff.2 ⟨[], _, rest, isGap_nil, hf, rfl⟩))
    | @assigned gap₁ lead name gap' gap'' f hgap₁ hlead hname hgap' hgap'' hf =>
      have htarget := startsWithTarget_iff_assignment.2
        ⟨name, gap', gap'', f, rest, hname, hgap', hgap'', hf, rfl⟩
      have hline : gap₁ ++ (lead ++ (name ++ (gap' ++ '=' :: (gap'' ++ f ++ '(' :: rest)))) =
          gap ++ t := by simpa using heq
      cases hlead with
      | inl heq =>
        subst heq
        rw [← rest_eq_of_append_eq hgap₁ (head_of_startsWithTarget htarget) hgap ht hline]
        exact Or.inl (Or.inr htarget)
      | inr hbinder =>
        obtain ⟨b, hb, g, hg, hgGap, rfl⟩ := hbinder
        rw [List.append_assoc b] at hline
        rw [← rest_eq_of_append_eq hgap₁ (head_of_mem_binders hb _) hgap ht hline]
        exact Or.inr (startsWithBinding_iff.2 ⟨b, hb, g, _, hg, hgGap, rfl, htarget⟩)

end Reading

section Awaiting

theorem CallShape.exists_call {m : Text} (h : CallShape m) :
    ∃ s f, m = s ++ f ++ ['('] ∧ f ∈ functions ∧ startsName s.getLast? = true := by
  have hblank {gap : Text} (hgap : IsGap gap) (hne : gap ≠ []) (s : Text) :
      startsName (s ++ gap).getLast? = true := by
    obtain ⟨g, c, rfl⟩ := (List.eq_nil_or_concat gap).resolve_left hne
    have hc : isBlank c = true := hgap c (by simp)
    have hdot : c ≠ '.' := by rintro rfl; exact absurd hc (by decide)
    have hdollar : c ≠ '$' := by rintro rfl; exact absurd hc (by decide)
    simp [startsName, isWordChar_eq_false_of_isBlank hc, hdot, hdollar]
  cases h with
  | @call gap f hgap hf =>
    refine ⟨gap, f, rfl, hf, ?_⟩
    by_cases hne : gap = []
    · rw [hne]
      rfl
    · exact hblank hgap hne []
  | @assigned gap lead name gap' gap'' f _ _ _ _ hgap'' hf =>
    refine ⟨gap ++ lead ++ name ++ gap' ++ '=' :: gap'', f, by simp, hf, ?_⟩
    by_cases hne : gap'' = []
    · rw [hne, List.getLast?_append]
      rfl
    · rw [← List.singleton_append, ← List.append_assoc]
      exact hblank hgap'' hne _

theorem callee?_eq_some {t f : Text} (h : callee? t = some f) :
    f ∈ functions ∧ f ≠ [] ∧ f <+: t := by
  have hmem := List.mem_of_find?_eq_some h
  have hpre := List.find?_some h
  rw [List.isPrefixOf_iff_prefix] at hpre
  obtain ⟨c, r, rfl, -⟩ := head_of_mem_functions hmem
  exact ⟨hmem, by simp, (List.prefix_append _ _).trans hpre⟩

theorem awaiting_eq_some {before : Option Char} {t : Text} {e : Edit}
    (h : awaiting before t = some e) :
    ∃ f ∈ functions, e = ⟨f, awaitWord ++ ' ' :: f⟩ ∧ f ≠ [] ∧ f <+: t := by
  unfold awaiting at h
  split at h
  · obtain ⟨f, hf, rfl⟩ := Option.map_eq_some_iff.1 h
    obtain ⟨hmem, hne, hpre⟩ := callee?_eq_some hf
    exact ⟨f, hmem, rfl, hne, hpre⟩
  · simp at h

theorem lawful_awaiting : awaiting.Lawful := by
  intro before t e h
  obtain ⟨f, -, rfl, hne, hpre⟩ := awaiting_eq_some h
  exact ⟨hne, hpre⟩

theorem occurs_awaitWord_apply {line : Text} (h : hasCallShape line = true) :
    awaitWord <:+: awaiting.apply line := by
  obtain ⟨m, hm, rest, rfl⟩ := hasCallShape_iff.1 h
  obtain ⟨s, f, rfl, hf, hname⟩ := hm.exists_call
  rcases Rule.quiet_or_exists_writes lawful_awaiting none (s ++ f ++ ['('] ++ rest) with
    hquiet | ⟨before, v, e, he, hwrites⟩
  · have hnone := hquiet s (f ++ ['('] ++ rest) (by simp)
    have hcallee : (callee? (f ++ ['('] ++ rest)).isSome = true :=
      callee?_isSome_iff.2 ⟨f, hf, rest, by simp⟩
    rw [Option.or_none, awaiting, if_pos hname, Option.map_eq_none_iff] at hnone
    rw [hnone] at hcallee
    exact absurd hcallee (by decide)
  · obtain ⟨f, -, rfl, -⟩ := awaiting_eq_some he
    exact List.IsInfix.trans (List.infix_append_left) hwrites

end Awaiting

section Blocking

theorem isWordChar_of_mem_functions {f : Text} (hf : f ∈ functions) :
    ∀ c ∈ f, isWordChar c = true := by
  have hall : ∀ f ∈ functions, f.all isWordChar = true := by decide
  exact List.all_eq_true.1 (hall f hf)

theorem isWordChar_of_mem_binders {b : Text} (hb : b ∈ binders) :
    ∀ c ∈ b, isWordChar c = true := by
  have hall : ∀ b ∈ binders, b.all isWordChar = true := by decide
  exact List.all_eq_true.1 (hall b hb)

theorem CallShape.wordCount_le {m : Text} (h : CallShape m) : wordCount m ≤ 3 := by
  have hcall {gap f : Text} (hgap : IsGap gap) (hf : f ∈ functions) :
      wordCount (gap ++ (f ++ ['('])) ≤ 1 := by
    rw [wordCount_gap hgap, wordCount_append rfl]
    exact wordCount_word (isWordChar_of_mem_functions hf)
  cases h with
  | @call gap f hgap hf =>
    have := hcall hgap hf
    rw [List.append_assoc]
    omega
  | @assigned gap lead name gap' gap'' f hgap hlead hname hgap' hgap'' hf =>
    have hvalue : wordCount (gap' ++ '=' :: (gap'' ++ (f ++ ['(']))) ≤ 1 := by
      rw [wordCount_gap hgap', wordCount_cons rfl]
      exact hcall hgap'' hf
    have htarget : wordCount (name ++ (gap' ++ '=' :: (gap'' ++ (f ++ ['('])))) ≤ 2 := by
      rw [wordCount_append (head_gap_append hgap' rfl)]
      have := wordCount_word hname.2
      omega
    simp only [List.append_assoc]
    rw [wordCount_gap hgap]
    cases hlead with
    | inl heq =>
      subst heq
      rw [List.nil_append]
      omega
    | inr hbinder =>
      obtain ⟨b, hb, g, hg, hgGap, rfl⟩ := hbinder
      obtain ⟨c, g, rfl⟩ := List.exists_cons_of_ne_nil hg
      have hhead (s : Text) : (c :: g ++ s).head?.any isWordChar = false := by
        simpa using isWordChar_eq_false_of_isBlank (hgGap c (by simp))
      rw [List.append_assoc, wordCount_append (hhead _), wordCount_gap hgGap]
      have := wordCount_word (isWordChar_of_mem_binders hb)
      omega

theorem CallShape.concat {m : Text} (h : CallShape m) : ∃ s, m = s ++ ['('] := by
  cases h with
  | call hgap hf => exact ⟨_, rfl⟩
  | assigned => exact ⟨_, by simp only [← List.append_assoc, ← List.cons_append]; rfl⟩

/-- A part with too many words keeps a qualifying beginning from reaching into it. -/
theorem CallShape.blocks_of_wordCount {m w : Text} (h : CallShape m) (hw : '(' ∉ w)
    (hcount : 3 < wordCount w) : Blocks m w := by
  refine blocks_of_ends fun x q y hm hne hpre => ?_
  have hmem : '(' ∈ q := by
    obtain ⟨s, hs⟩ := h.concat
    obtain ⟨q, c, rfl⟩ := (List.eq_nil_or_concat q).resolve_left hne
    rw [hm, List.concat_eq_append, ← List.append_assoc] at hs
    have hc := List.singleton_inj.1 (List.append_inj' hs rfl).2
    simp [hc]
  cases prefix_append_cases hpre with
  | inl hw' => exact absurd (hw'.mem hmem) hw
  | inr hlonger =>
    obtain ⟨s, -, rfl, -⟩ := hlonger
    have hle := h.wordCount_le
    have hleft := wordCount_le_append_left x (w ++ s)
    have hright := wordCount_le_append_right w s
    rw [← hm] at hleft
    omega

theorem blocks_of_notMem {m s : Text} {z : Char} (hz : z ∉ m) : Blocks m (z :: s) := by
  refine blocks_of_ends fun x q y hm hne hpre => ?_
  obtain ⟨c, q, rfl⟩ := List.exists_cons_of_ne_nil hne
  have hc : c = z := (List.cons_prefix_cons.1 hpre).1
  simp [hm, hc] at hz

theorem CallShape.notMem {m : Text} (h : CallShape m) {z : Char} (hblank : isBlank z = false)
    (hword : isWordChar z = false) (hequals : z ≠ '=') (hparen : z ≠ '(') : z ∉ m := by
  have hwords {w : Text} (hw : ∀ c ∈ w, isWordChar c = true) : z ∉ w := by
    intro hmem
    rw [hw z hmem] at hword
    exact absurd hword (by decide)
  cases h with
  | call hgap hf =>
    simp [hgap.notMem hblank, hwords (isWordChar_of_mem_functions hf), hparen]
  | @assigned _ lead _ _ _ _ hgap hlead hname hgap' hgap'' hf =>
    have hlead : z ∉ lead := by
      cases hlead with
      | inl heq =>
        subst heq
        simp
      | inr hbinder =>
        obtain ⟨b, hb, g, -, hg, rfl⟩ := hbinder
        simp [hwords (isWordChar_of_mem_binders hb), hg.notMem hblank]
    simp [hgap.notMem hblank, hlead, hname.notMem hword, hgap'.notMem hblank, hequals,
      hgap''.notMem hblank, hwords (isWordChar_of_mem_functions hf), hparen]

end Blocking

section Texts

def AllAwaited (t : Text) : Prop :=
  ∀ line ∈ lines t, hasCallShape line = true → awaitWord <:+: line

theorem needsAwait_eq_false_iff {line : Text} :
    needsAwait line = false ↔ (hasCallShape line = true → awaitWord <:+: line) := by
  rw [← includes_iff, needsAwait]
  cases includes awaitWord line <;> simp

theorem await_eq_self {t : Text} (h : AllAwaited t) : await t = t := by
  refine mapLines_eq_self fun line hline => ?_
  rw [awaitLine, needsAwait_eq_false_iff.2 (h line hline)]
  rfl

def Awaits (a w : Text) : Prop := a ∈ functions ∧ w = awaitWord ++ ' ' :: a

theorem patchedBy_awaitLine (line : Text) : PatchedBy Awaits line (awaitLine line) := by
  unfold awaitLine
  split
  · refine (Rule.patched_apply lawful_awaiting line).patchedBy.mono ?_
    rintro a w ⟨before, t, h⟩
    obtain ⟨f, hf, he, -⟩ := awaiting_eq_some h
    obtain ⟨rfl, rfl⟩ := Edit.mk.inj he
    exact ⟨hf, rfl⟩
  · exact .refl line

theorem patchedBy_await (t : Text) : PatchedBy Awaits t (await t) :=
  .of_lines patchedBy_awaitLine t

theorem Awaits.lineFeed_notMem (a w : Text) (h : Awaits a w) : '\n' ∉ w := by
  obtain ⟨ha, rfl⟩ := h
  have hall : ∀ f ∈ functions, '\n' ∉ awaitWord ++ ' ' :: f := by decide
  exact hall a ha

theorem lines_await (t : Text) : lines (await t) = (lines t).map awaitLine :=
  lines_mapLines (fun line h hmem =>
    h ((patchedBy_awaitLine line).mem_of_mem Awaits.lineFeed_notMem hmem)) t

theorem allAwaited_await (t : Text) : AllAwaited (await t) := by
  intro line hline
  rw [lines_await] at hline
  obtain ⟨l, -, rfl⟩ := List.mem_map.1 hline
  unfold awaitLine
  split
  · rename_i hneeds
    intro _
    exact occurs_awaitWord_apply (Bool.and_eq_true_iff.1 hneeds).2
  · rename_i hneeds
    exact needsAwait_eq_false_iff.1 (by simpa using hneeds)

variable {patch : Text → Text → Prop} {t t' : Text}

/-- Replacements keep all lines awaited if they write no line feed, no qualifying beginning reaches
into what they write, and they keep the word. A line of the new text starts where one of the old text
does, and it holds all words of the old line even if it goes on with further lines. -/
theorem AllAwaited.patched (hnl : ∀ a w, patch a w → '\n' ∉ w)
    (hblocks : ∀ a w, patch a w → ∀ m, CallShape m → Blocks m w)
    (hkept : ∀ a w, patch a w → Kept awaitWord a w) (h : AllAwaited t)
    (hpatched : PatchedBy patch t t') : AllAwaited t' := by
  have hline {v v' : Text} (hv : PatchedBy patch v v') (hmem : firstLine v ∈ lines t)
      (hshape : hasCallShape (firstLine v') = true) : awaitWord <:+: firstLine v' := by
    obtain ⟨m, hm, hpre⟩ := hasCallShape_iff.1 hshape
    -- The beginning of the new line is copied, so the old line qualified and had the word.
    have hfeed : '\n' ∉ m := fun hc => lineFeed_notMem_firstLine v' (hpre.mem hc)
    have hbegins : m <+: v :=
      hv.begins (fun a w part => hblocks a w part m hm) (hpre.trans (firstLine_isPrefix v'))
    have hold := hasCallShape_iff.2 ⟨m, hm, prefix_firstLine hfeed hbegins⟩
    exact hv.occurs_firstLine hkept (by decide) hnl (h _ hmem hold)
  intro line hmem
  cases mem_lines_iff.1 hmem with
  | inl heq =>
    subst heq
    exact hline hpatched (mem_lines_iff.2 (Or.inl rfl))
  | inr hlater =>
    obtain ⟨u', v', ht', rfl⟩ := hlater
    obtain ⟨u, v, rfl, -, hv⟩ := hpatched.exists_append_cons hnl ht'
    exact hline hv (mem_lines_iff.2 (Or.inr ⟨u, v, rfl, rfl⟩))

end Texts

end QueryMigration.DataCall
