import QueryMigration.Proofs.Text.Occurrence
import QueryMigration.Proofs.Text.Word

/-! Readers, rules and functions on lines that do not depend on a carriage return before each line
feed. -/

namespace QueryMigration.Text

/-- The text with a carriage return before each line feed. -/
def crlf (t : Text) : Text := t.flatMap fun c => if c = '\n' then ['\r', '\n'] else [c]

section Basic

@[simp] theorem crlf_nil : crlf [] = [] := rfl

theorem crlf_lineFeed (t : Text) : crlf ('\n' :: t) = '\r' :: '\n' :: crlf t := rfl

theorem crlf_cons {c : Char} (h : c ≠ '\n') (t : Text) : crlf (c :: t) = c :: crlf t := by
  simp [crlf, h]

theorem crlf_append (s t : Text) : crlf (s ++ t) = crlf s ++ crlf t := by
  simp [crlf]

theorem crlf_eq_self {t : Text} (h : '\n' ∉ t) : crlf t = t := by
  induction t with
  | nil => rfl
  | cons c t ih =>
    simp only [List.mem_cons, not_or] at h
    rw [crlf_cons (Ne.symm h.1), ih h.2]

theorem crlf_ne_nil {t : Text} (h : t ≠ []) : crlf t ≠ [] := by
  obtain ⟨c, t, rfl⟩ := List.exists_cons_of_ne_nil h
  by_cases hc : c = '\n'
  · subst hc
    simp [crlf_lineFeed]
  · simp [crlf_cons hc]

theorem getLast?_crlf (t : Text) : (crlf t).getLast? = t.getLast? := by
  induction t with
  | nil => rfl
  | cons c t ih =>
    by_cases hc : c = '\n'
    · subst hc
      rw [crlf_lineFeed, List.getLast?_cons, List.getLast?_cons, List.getLast?_cons, ih]
      rfl
    · rw [crlf_cons hc, List.getLast?_cons, List.getLast?_cons, ih]

end Basic

section Readers

variable {p : Char → Bool} {w : Text}

theorem head?_crlf (hp : p '\r' = p '\n') (t : Text) :
    (crlf t).head?.any p = t.head?.any p := by
  cases t with
  | nil => rfl
  | cons c t =>
    by_cases hc : c = '\n'
    · subst hc
      simpa [crlf_lineFeed] using hp
    · rw [crlf_cons hc]
      rfl

theorem takeWhile_crlf (hp : p '\r' = p '\n') (t : Text) :
    (crlf t).takeWhile p = crlf (t.takeWhile p) := by
  induction t with
  | nil => rfl
  | cons c t ih =>
    by_cases hc : c = '\n'
    · subst hc
      cases hfeed : p '\n' <;> simp [crlf_lineFeed, hp, hfeed, ih]
    · cases hpc : p c <;> simp [crlf_cons hc, hpc, ih]

theorem dropWhile_crlf (hp : p '\r' = p '\n') (t : Text) :
    (crlf t).dropWhile p = crlf (t.dropWhile p) := by
  induction t with
  | nil => rfl
  | cons c t ih =>
    by_cases hc : c = '\n'
    · subst hc
      cases hfeed : p '\n' <;> simp [crlf_lineFeed, hp, hfeed, ih]
    · cases hpc : p c <;> simp [crlf_cons hc, hpc, ih]

theorem append_of_crlf_eq (hw : '\r' ∉ w ∧ '\n' ∉ w) {t r' : Text} (h : crlf t = w ++ r') :
    ∃ r, t = w ++ r ∧ r' = crlf r := by
  induction w generalizing t with
  | nil => exact ⟨t, rfl, h.symm⟩
  | cons c w ih =>
    simp only [List.mem_cons, not_or] at hw
    cases t with
    | nil => simp at h
    | cons d t =>
      by_cases hd : d = '\n'
      · subst hd
        rw [crlf_lineFeed] at h
        exact absurd (List.cons.inj h).1 hw.1.1
      · rw [crlf_cons hd] at h
        obtain ⟨rfl, hrest⟩ := List.cons.inj h
        obtain ⟨r, rfl, hr⟩ := ih ⟨hw.1.2, hw.2.2⟩ hrest
        exact ⟨r, rfl, hr⟩

theorem strip?_crlf (hw : '\r' ∉ w ∧ '\n' ∉ w) (t : Text) :
    strip? w (crlf t) = (strip? w t).map crlf := by
  ext r'
  rw [Option.map_eq_some_iff]
  simp only [strip?_eq_some_iff]
  constructor
  · intro h
    obtain ⟨r, rfl, rfl⟩ := append_of_crlf_eq hw h
    exact ⟨r, rfl, rfl⟩
  · intro h
    obtain ⟨r, rfl, rfl⟩ := h
    rw [crlf_append, crlf_eq_self hw.2]

theorem isPrefixOf_crlf (hw : '\r' ∉ w ∧ '\n' ∉ w) (t : Text) :
    w.isPrefixOf (crlf t) = w.isPrefixOf t := by
  have hsome (s : Text) : (strip? w s).isSome = w.isPrefixOf s := by
    unfold strip?
    cases w.isPrefixOf s <;> rfl
  rw [← hsome, strip?_crlf hw, Option.isSome_map, hsome]

theorem run?_crlf (hp : p '\r' = p '\n') (t : Text) :
    run? p (crlf t) = (run? p t).map (Prod.map crlf crlf) := by
  unfold run?
  rw [takeWhile_crlf hp, dropWhile_crlf hp]
  cases hrun : t.takeWhile p with
  | nil => rfl
  | cons c run =>
    obtain ⟨d, s, hs⟩ := List.exists_cons_of_ne_nil (crlf_ne_nil (List.cons_ne_nil c run))
    simp [hs]

theorem includes_crlf (hw : '\r' ∉ w ∧ '\n' ∉ w) (hne : w ≠ []) (t : Text) :
    includes w (crlf t) = includes w t := by
  obtain ⟨d, w, rfl⟩ := List.exists_cons_of_ne_nil hne
  induction t with
  | nil => rfl
  | cons c t ih =>
    by_cases hc : c = '\n'
    · subst hc
      simp only [List.mem_cons, not_or] at hw
      have hreturn : (d == '\r') = false := beq_false_of_ne (Ne.symm hw.1.1)
      have hlineFeed : (d == '\n') = false := beq_false_of_ne (Ne.symm hw.2.1)
      simp [crlf_lineFeed, includes, List.isPrefixOf, hreturn, hlineFeed, ih]
    · have hfront := isPrefixOf_crlf hw (c :: t)
      rw [crlf_cons hc] at hfront ⊢
      rw [includes, includes, hfront, ih]

section Continuing

variable {α β : Type} {f : α → α} {k : β → β}

theorem strip?_bind_crlf (hw : '\r' ∉ w ∧ '\n' ∉ w) {rest' rest : Text → Option β}
    (h : ∀ r, rest' (crlf r) = (rest r).map k) (t : Text) :
    (strip? w (crlf t)).bind rest' = ((strip? w t).bind rest).map k := by
  rw [strip?_crlf hw]
  cases strip? w t with
  | none => rfl
  | some r => exact h r

theorem bind_crlf {read? : Text → Option (α × Text)}
    (hread : ∀ t, read? (crlf t) = (read? t).map (Prod.map f crlf))
    {rest' rest : α × Text → Option β} (h : ∀ a r, rest' (f a, crlf r) = (rest (a, r)).map k)
    (t : Text) : (read? (crlf t)).bind rest' = ((read? t).bind rest).map k := by
  rw [hread]
  cases read? t with
  | none => rfl
  | some part => exact h part.1 part.2

end Continuing

end Readers

section Rules

variable {rule : Rule}

def Edit.crlf (e : Edit) : Edit := ⟨Text.crlf e.reads, Text.crlf e.writes⟩

/-- A rule that makes the same edits whatever the line ends are. -/
structure Rule.Neutral (rule : Rule) : Prop where
  lawful : rule.Lawful
  passes_return : ∀ before t, rule before ('\r' :: t) = none
  map_crlf : ∀ before t, rule before (Text.crlf t) = (rule before t).map Edit.crlf

theorem Rule.Neutral.passes_lineFeed (h : rule.Neutral) (before : Option Char) (t : Text) :
    rule before ('\n' :: t) = none := by
  have hmap := h.map_crlf before ('\n' :: t)
  rw [crlf_lineFeed, h.passes_return] at hmap
  exact Option.map_eq_none_iff.1 hmap.symm

theorem Rule.Neutral.apply_crlf (h : rule.Neutral) (t : Text) :
    rule.apply (Text.crlf t) = Text.crlf (rule.apply t) := by
  refine Rule.scan_induction
    (motive := fun before t t' => rule.scan 0 before (Text.crlf t) = Text.crlf t') h.lawful
    ?_ ?_ ?_ none t
  · intro before
    simp [Rule.scan]
  · intro before c r hnone ih
    by_cases hc : c = '\n'
    · subst hc
      rw [crlf_lineFeed, crlf_lineFeed, Rule.scan_of_none (h.passes_return before _),
        Rule.scan_of_none (h.passes_lineFeed _ _), ih]
    · have hmap := h.map_crlf before (c :: r)
      rw [hnone, crlf_cons hc] at hmap
      rw [crlf_cons hc, crlf_cons hc, Rule.scan_of_none hmap, ih]
  · intro before e r hsome ih
    have hmap := h.map_crlf before (e.reads ++ r)
    have hne := crlf_ne_nil (h.lawful before _ e hsome).1
    rw [hsome, crlf_append] at hmap
    -- The edit ends with the same character, so the scan goes on behind the same one.
    have hscan := Rule.scan_of_some (e := e.crlf) hne hmap
    rw [crlf_append, crlf_append, ← ih, ← getLast?_crlf e.reads]
    exact hscan

theorem Rule.apply_concat (hrule : rule.Lawful) {c : Char}
    (hc : ∀ before t, rule before (t ++ [c]) = rule before t) (t : Text) :
    rule.apply (t ++ [c]) = rule.apply t ++ [c] := by
  refine Rule.scan_induction
    (motive := fun before t t' => rule.scan 0 before (t ++ [c]) = t' ++ [c]) hrule ?_ ?_ ?_ none t
  · intro before
    have hnone : rule before [c] = none := (hc before []).trans (hrule.nil before)
    rw [List.nil_append, Rule.scan_of_none hnone]
    simp [Rule.scan]
  · intro before d r hnone ih
    have hnone' : rule before (d :: (r ++ [c])) = none := (hc before (d :: r)).trans hnone
    rw [List.cons_append, Rule.scan_of_none hnone', ih, List.cons_append]
  · intro before e r hsome ih
    have hsome' := (hc before (e.reads ++ r)).trans hsome
    rw [List.append_assoc] at hsome'
    rw [List.append_assoc, Rule.scan_of_some (hrule before _ e hsome).1 hsome', ih,
      List.append_assoc]

end Rules

section Lines

theorem prefix_concat_iff_of_ne {c l : Char} (h : l ≠ c) (s t : Text) :
    s ++ [l] <+: t ++ [c] ↔ s ++ [l] <+: t := by
  rw [List.prefix_concat_iff]
  refine ⟨fun hpre => hpre.resolve_left fun heq => ?_, Or.inr⟩
  exact h (List.singleton_inj.1 (List.append_inj' heq rfl).2)

def returned : List Text → List Text
  | [] => []
  | [l] => [l]
  | l :: l' :: ls => (l ++ ['\r']) :: returned (l' :: ls)

theorem returned_ne_nil {ls : List Text} (h : ls ≠ []) : returned ls ≠ [] := by
  cases ls with
  | nil => exact absurd rfl h
  | cons l ls => cases ls <;> simp [returned]

theorem lineFeed_notMem_returned {ls : List Text} (h : ∀ line ∈ ls, '\n' ∉ line) :
    ∀ line ∈ returned ls, '\n' ∉ line := by
  induction ls with
  | nil => simp [returned]
  | cons l ls ih =>
    cases ls with
    | nil => exact h
    | cons l' ls =>
      rw [List.forall_mem_cons] at h
      rw [returned, List.forall_mem_cons]
      exact ⟨by simp [h.1], ih h.2⟩

theorem unlines_returned {ls : List Text} (h : ∀ line ∈ ls, '\n' ∉ line) :
    unlines (returned ls) = crlf (unlines ls) := by
  induction ls with
  | nil => rfl
  | cons l ls ih =>
    rw [List.forall_mem_cons] at h
    cases ls with
    | nil => simp [returned, unlines, crlf_eq_self h.1]
    | cons l' ls =>
      obtain ⟨m, ms, hms⟩ := List.exists_cons_of_ne_nil (returned_ne_nil (List.cons_ne_nil l' ls))
      have hrest := ih h.2
      rw [hms] at hrest
      rw [returned, hms, unlines_cons_cons, unlines_cons_cons, crlf_append, crlf_eq_self h.1,
        crlf_lineFeed, hrest, List.append_assoc]
      rfl

theorem lines_crlf (t : Text) : lines (crlf t) = returned (lines t) := by
  have hfeed : ∀ line ∈ lines t, '\n' ∉ line := fun _ => lineFeed_notMem_of_mem_lines
  have ht : crlf t = unlines (returned (lines t)) := by rw [unlines_returned hfeed, unlines_lines]
  rw [ht, lines_unlines (returned_ne_nil (lines_ne_nil t)) (lineFeed_notMem_returned hfeed)]

theorem map_returned {f : Text → Text} (hf : ∀ line, f (line ++ ['\r']) = f line ++ ['\r'])
    (ls : List Text) : (returned ls).map f = returned (ls.map f) := by
  induction ls with
  | nil => rfl
  | cons l ls ih =>
    cases ls with
    | nil => rfl
    | cons l' ls =>
      rw [returned, List.map_cons, hf, ih]
      rfl

theorem mapLines_crlf {f : Text → Text} (hfeed : ∀ line, '\n' ∉ line → '\n' ∉ f line)
    (hf : ∀ line, f (line ++ ['\r']) = f line ++ ['\r']) (t : Text) :
    mapLines f (crlf t) = crlf (mapLines f t) := by
  have hlines : ∀ line ∈ (lines t).map f, '\n' ∉ line := by
    intro line hmem
    obtain ⟨l, hl, rfl⟩ := List.mem_map.1 hmem
    exact hfeed l (lineFeed_notMem_of_mem_lines hl)
  rw [mapLines, lines_crlf, map_returned hf, unlines_returned hlines, mapLines]

end Lines

end QueryMigration.Text
