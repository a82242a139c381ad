import QueryMigration.Text.Basic

/-! Lines by their places, and runs of characters at the front of a text. -/

namespace QueryMigration.Text

theorem splitOnP_eq_cons (p : Char → Bool) (t : Text) :
    ∃ rest, t.splitOnP p = t.takeWhile (!p ·) :: rest ∧
      ∀ s, s ∈ rest ↔ ∃ u c v, t = u ++ c :: v ∧ p c = true ∧ s = v.takeWhile (!p ·) := by
  induction t with
  | nil => exact ⟨[], by simp, by simp⟩
  | cons c t ih =>
    obtain ⟨rest, hsplit, hrest⟩ := ih
    by_cases hc : p c = true
    · refine ⟨t.takeWhile (!p ·) :: rest, ?_, fun s => ?_⟩
      · simp [List.splitOnP_cons_eq_if_modifyHead, hc, hsplit]
      rw [List.mem_cons, hrest]
      constructor
      · rintro (rfl | ⟨u, d, v, rfl, hd, rfl⟩)
        · exact ⟨[], c, t, rfl, hc, rfl⟩
        · exact ⟨c :: u, d, v, rfl, hd, rfl⟩
      · rintro ⟨u, d, v, h, hd, rfl⟩
        cases List.cons_eq_append_iff.1 h with
        | inl hhere =>
          obtain ⟨rfl, hv⟩ := hhere
          exact Or.inl (by rw [(List.cons.inj hv).2])
        | inr hlater =>
          obtain ⟨u, rfl, rfl⟩ := hlater
          exact Or.inr ⟨u, d, v, rfl, hd, rfl⟩
    · refine ⟨rest, ?_, fun s => ?_⟩
      · simp [List.splitOnP_cons_eq_if_modifyHead, hc, hsplit]
      rw [hrest]
      constructor
      · rintro ⟨u, d, v, rfl, hd, rfl⟩
        exact ⟨c :: u, d, v, rfl, hd, rfl⟩
      · rintro ⟨u, d, v, h, hd, rfl⟩
        cases List.cons_eq_append_iff.1 h with
        | inl hhere =>
          obtain ⟨rfl, hv⟩ := hhere
          exact absurd ((List.cons.inj hv).1 ▸ hd) hc
        | inr hlater =>
          obtain ⟨u, rfl, rfl⟩ := hlater
          exact ⟨u, d, v, rfl, hd, rfl⟩

theorem dropWhile_append_cons {p : Char → Bool} {c : Char} (hc : p c = false) (s t : Text) :
    (s ++ c :: t).dropWhile p = s.dropWhile p ++ c :: t := by
  induction s with
  | nil => simp [hc]
  | cons d s ih => by_cases hd : p d = true <;> simp [hd, ih]

theorem exists_run (p : Char → Bool) (t : Text) :
    ∃ run rest, t = run ++ rest ∧ (∀ c ∈ run, p c = true) ∧ rest.head?.any p = false := by
  refine ⟨t.takeWhile p, t.dropWhile p, List.takeWhile_append_dropWhile.symm, ?_, ?_⟩
  · exact List.all_eq_true.1 List.all_takeWhile
  · have hhead := List.head?_dropWhile_not p t
    cases hd : (t.dropWhile p).head? with
    | none => rfl
    | some c => simpa [hd] using hhead

theorem takeWhile_append_rest {p : Char → Bool} {run rest : Text} (hrun : ∀ c ∈ run, p c = true)
    (hrest : rest.head?.any p = false) : (run ++ rest).takeWhile p = run := by
  rw [List.takeWhile_append_of_pos hrun]
  cases rest with
  | nil => simp
  | cons c rest =>
    have hc : p c = false := by simpa using hrest
    simp [hc]

theorem dropWhile_append_rest {p : Char → Bool} {run rest : Text} (hrun : ∀ c ∈ run, p c = true)
    (hrest : rest.head?.any p = false) : (run ++ rest).dropWhile p = rest := by
  rw [List.dropWhile_append_of_pos hrun]
  cases rest with
  | nil => simp
  | cons c rest =>
    have hc : p c = false := by simpa using hrest
    simp [hc]

theorem rest_eq_of_append_eq {p : Char → Bool} {run rest run' rest' : Text}
    (hrun : ∀ c ∈ run, p c = true) (hrest : rest.head?.any p = false)
    (hrun' : ∀ c ∈ run', p c = true) (hrest' : rest'.head?.any p = false)
    (h : run ++ rest = run' ++ rest') : rest = rest' := by
  rw [← dropWhile_append_rest hrun hrest, h, dropWhile_append_rest hrun' hrest']

theorem run?_eq_some_iff {p : Char → Bool} {t run rest : Text} : run? p t = some (run, rest) ↔
    run ≠ [] ∧ (∀ c ∈ run, p c = true) ∧ rest.head?.any p = false ∧ t = run ++ rest := by
  constructor
  · intro h
    obtain ⟨s, r, rfl, hs, hr⟩ := exists_run p t
    unfold run? at h
    rw [takeWhile_append_rest hs hr, dropWhile_append_rest hs hr] at h
    split at h
    · simp at h
    · rename_i hne
      simp only [Option.some.injEq, Prod.mk.injEq] at h
      obtain ⟨rfl, rfl⟩ := h
      exact ⟨hne, hs, hr, rfl⟩
  · rintro ⟨hne, hrun, hrest, rfl⟩
    obtain ⟨c, s, rfl⟩ := List.exists_cons_of_ne_nil hne
    rw [run?, takeWhile_append_rest hrun hrest, dropWhile_append_rest hrun hrest]

theorem prefix_append_cases {p x y : Text} (h : p <+: x ++ y) :
    p <+: x ∨ ∃ q, q ≠ [] ∧ p = x ++ q ∧ q <+: y := by
  cases List.prefix_or_prefix_of_prefix h (List.prefix_append x y) with
  | inl hx => exact Or.inl hx
  | inr hlonger =>
    obtain ⟨q, rfl⟩ := hlonger
    by_cases hq : q = []
    · exact Or.inl (by simp [hq])
    · exact Or.inr ⟨q, hq, rfl, (List.prefix_append_right_inj x).1 h⟩

def IsGap (t : Text) : Prop := ∀ c ∈ t, isBlank c = true

theorem isGap_nil : IsGap [] := by simp [IsGap]

theorem IsGap.append {s t : Text} (hs : IsGap s) (ht : IsGap t) : IsGap (s ++ t) := by
  intro c hc
  cases List.mem_append.1 hc with
  | inl hc => exact hs c hc
  | inr hc => exact ht c hc

theorem IsGap.notMem {t : Text} (h : IsGap t) {c : Char} (hc : isBlank c = false) : c ∉ t := by
  intro hmem
  rw [h c hmem] at hc
  exact absurd hc (by decide)

section Lines

def firstLine (t : Text) : Text := t.takeWhile (· != '\n')

theorem firstLine_cons {c : Char} (h : c ≠ '\n') (t : Text) :
    firstLine (c :: t) = c :: firstLine t := by
  simp [firstLine, h]

theorem firstLine_append {s : Text} (h : '\n' ∉ s) (t : Text) :
    firstLine (s ++ t) = s ++ firstLine t := by
  induction s with
  | nil => rfl
  | cons c s ih =>
    simp only [List.mem_cons, not_or] at h
    rw [List.cons_append, firstLine_cons (Ne.symm h.1), ih h.2, List.cons_append]

theorem firstLine_append_of_mem {s : Text} (h : '\n' ∈ s) (t : Text) :
    firstLine (s ++ t) = firstLine s := by
  induction s with
  | nil => simp at h
  | cons c s ih =>
    by_cases hc : c = '\n'
    · subst hc
      rfl
    · have hs : '\n' ∈ s := by simpa [Ne.symm hc] using h
      rw [List.cons_append, firstLine_cons hc, firstLine_cons hc, ih hs]

theorem firstLine_isPrefix (t : Text) : firstLine t <+: t := List.takeWhile_prefix _

theorem prefix_firstLine {m t : Text} (hm : '\n' ∉ m) (h : m <+: t) : m <+: firstLine t := by
  obtain ⟨r, rfl⟩ := h
  rw [firstLine_append hm]
  exact List.prefix_append m (firstLine r)

theorem lineFeed_notMem_firstLine (t : Text) : '\n' ∉ firstLine t := by
  intro h
  simpa using List.all_eq_true.1 List.all_takeWhile _ h

theorem mem_lines_iff {t line : Text} : line ∈ lines t ↔
    line = firstLine t ∨ ∃ u v, t = u ++ '\n' :: v ∧ line = firstLine v := by
  obtain ⟨rest, hsplit, hrest⟩ := splitOnP_eq_cons (· == '\n') t
  have hlines : lines t = firstLine t :: rest := hsplit
  rw [hlines, List.mem_cons, hrest]
  constructor
  · rintro (rfl | ⟨u, c, v, rfl, hc, rfl⟩)
    · exact Or.inl rfl
    · exact Or.inr ⟨u, v, by rw [eq_of_beq hc], rfl⟩
  · rintro (rfl | ⟨u, v, rfl, rfl⟩)
    · exact Or.inl rfl
    · exact Or.inr ⟨u, '\n', v, rfl, rfl, rfl⟩

theorem lineFeed_notMem_of_mem_lines {t line : Text} (h : line ∈ lines t) : '\n' ∉ line := by
  cases mem_lines_iff.1 h with
  | inl heq =>
    subst heq
    exact lineFeed_notMem_firstLine t
  | inr hlater =>
    obtain ⟨_, v, _, rfl⟩ := hlater
    exact lineFeed_notMem_firstLine v

theorem infix_of_mem_lines {t line : Text} (h : line ∈ lines t) : line <:+: t := by
  cases mem_lines_iff.1 h with
  | inl hfirst =>
    rw [hfirst]
    exact (firstLine_isPrefix t).isInfix
  | inr hlater =>
    obtain ⟨u, v, rfl, rfl⟩ := hlater
    exact (firstLine_isPrefix v).isInfix.trans ⟨u ++ ['\n'], [], by simp⟩

theorem mem_of_mem_lines {c : Char} {l t : Text} (hl : l ∈ lines t) (hc : c ∈ l) : c ∈ t :=
  (infix_of_mem_lines hl).mem hc

theorem mem_of_mem_intercalate {c sep : Char} {parts : List Text}
    (h : c ∈ [sep].intercalate parts) : c = sep ∨ ∃ p ∈ parts, c ∈ p := by
  induction parts with
  | nil => simp at h
  | cons p parts ih =>
    cases parts with
    | nil => exact Or.inr ⟨p, List.mem_cons_self, by simpa using h⟩
    | cons p' parts =>
      rw [List.intercalate_cons_cons, List.mem_append, List.mem_append, List.mem_singleton] at h
      rcases h with (h | h) | h
      · exact Or.inr ⟨p, List.mem_cons_self, h⟩
      · exact Or.inl h
      · cases ih h with
        | inl h => exact Or.inl h
        | inr h =>
          obtain ⟨m, hm, hc⟩ := h
          exact Or.inr ⟨m, List.mem_cons_of_mem _ hm, hc⟩

theorem mem_intercalate_of_mem {c sep : Char} {p : Text} {parts : List Text} (hp : p ∈ parts)
    (hc : c ∈ p) : c ∈ [sep].intercalate parts := by
  induction parts with
  | nil => simp at hp
  | cons q parts ih =>
    cases parts with
    | nil => simpa [List.mem_singleton.1 hp] using hc
    | cons q' parts =>
      rw [List.intercalate_cons_cons, List.append_assoc, List.mem_append, List.mem_append]
      cases List.mem_cons.1 hp with
      | inl heq => exact Or.inl (heq ▸ hc)
      | inr hp => exact Or.inr (Or.inr (ih hp))

theorem mem_of_mem_splitOn {c sep : Char} {p t : Text} (hp : p ∈ t.splitOn sep) (hc : c ∈ p) :
    c ∈ t := by
  have hjoined : [sep].intercalate (t.splitOn sep) = t := List.intercalate_splitOn sep
  rw [← hjoined]
  exact mem_intercalate_of_mem hp hc

theorem lines_ne_nil (t : Text) : lines t ≠ [] := List.splitOn_ne_nil '\n' t

theorem lines_unlines {ls : List Text} (hne : ls ≠ []) (h : ∀ line ∈ ls, '\n' ∉ line) :
    lines (unlines ls) = ls :=
  List.splitOn_intercalate '\n' h hne

theorem lines_cons_lineFeed (t : Text) : lines ('\n' :: t) = [] :: lines t := by
  simp [lines, List.splitOn, List.splitOnP_cons_eq_if_modifyHead]

theorem lines_cons_of_ne {c : Char} (hc : c ≠ '\n') (t : Text) :
    lines (c :: t) = (lines t).modifyHead (c :: ·) := by
  simp [lines, List.splitOn, List.splitOnP_cons_eq_if_modifyHead, hc]

theorem lines_append {s : Text} (hs : '\n' ∉ s) (t : Text) :
    lines (s ++ t) = (lines t).modifyHead (s ++ ·) := by
  induction s with
  | nil =>
    obtain ⟨l, ls, hlines⟩ := List.exists_cons_of_ne_nil (lines_ne_nil t)
    simp [hlines]
  | cons c s ih =>
    simp only [List.mem_cons, not_or] at hs
    rw [List.cons_append, lines_cons_of_ne (Ne.symm hs.1), ih hs.2, List.modifyHead_modifyHead]
    rfl

theorem lines_of_notMem {t : Text} (h : '\n' ∉ t) : lines t = [t] := by
  have hlines := lines_unlines (List.cons_ne_nil t []) (by simpa using h)
  simpa [unlines] using hlines

theorem lines_injective {s t : Text} (h : lines s = lines t) : s = t := by
  rw [← unlines_lines s, h, unlines_lines]

theorem lines_mapLines {f : Text → Text} (hf : ∀ line, '\n' ∉ line → '\n' ∉ f line) (t : Text) :
    lines (mapLines f t) = (lines t).map f := by
  apply lines_unlines
  · simpa using lines_ne_nil t
  · intro line h
    obtain ⟨l, hl, rfl⟩ := List.mem_map.1 h
    exact hf l (lineFeed_notMem_of_mem_lines hl)

theorem mapLines_eq_self {f : Text → Text} {t : Text} (h : ∀ line ∈ lines t, f line = line) :
    mapLines f t = t := by
  rw [mapLines, List.map_congr_left h, List.map_id', unlines_lines]

theorem mapLines_eq_self_iff {f : Text → Text} (hf : ∀ line, '\n' ∉ line → '\n' ∉ f line)
    {t : Text} : mapLines f t = t ↔ ∀ line ∈ lines t, f line = line := by
  refine ⟨fun h => ?_, mapLines_eq_self⟩
  have hmap : (lines t).map f = (lines t).map id := by rw [← lines_mapLines hf, h, List.map_id]
  exact List.map_inj_left.1 hmap

end Lines

end QueryMigration.Text
