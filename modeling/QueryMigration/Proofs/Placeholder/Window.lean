import QueryMigration.Placeholder.Ternary
import QueryMigration.Proofs.Text.Word

/-! The text up to the first colon decides whether a question mark belongs to a conditional
expression. -/

namespace QueryMigration.Placeholder

open Text

structure Conditional (between : Text) : Prop where
  colon_notMem : ':' ∉ between
  length_lt : between.length < 49
  length_trimmed_lt : (between.dropWhile isBlank).length < 20
  clauseWord_notMem : ∀ w ∈ clauseWords, w ∉ words between

theorem head_lookahead (t : Text) : head lookahead t = t.take 49 := rfl

theorem head_colonWindow (t : Text) : head colonWindow t = t.take 20 := rfl

theorem dropEndWhile_append_cons {p : Char → Bool} {c : Char} (hc : p c = false) (s t : Text) :
    dropEndWhile p (s ++ c :: t) = s ++ c :: dropEndWhile p t := by
  simp [dropEndWhile, dropWhile_append_cons hc]

theorem trim_append_colon (s t : Text) :
    trim (s ++ ':' :: t) = s.dropWhile isBlank ++ ':' :: dropEndWhile isBlank t := by
  have hc : isBlank ':' = false := by decide
  rw [trim, trimWhile, dropWhile_append_cons hc, dropEndWhile_append_cons hc]

theorem take_append_colon {s t : Text} {n : Nat} (h : s.length < n) :
    (s ++ ':' :: t).take n = s ++ ':' :: t.take (n - s.length - 1) := by
  rw [List.take_append, List.take_of_length_le (Nat.le_of_lt h)]
  obtain ⟨k, hk⟩ : ∃ k, n - s.length = k + 1 := ⟨n - s.length - 1, by omega⟩
  simp [hk]

theorem contains_take_append_colon {s t : Text} (hs : ':' ∉ s) (n : Nat) :
    ((s ++ ':' :: t).take n).contains ':' = decide (s.length < n) := by
  by_cases h : s.length < n
  · simp [take_append_colon h, h]
  · have hn : n ≤ s.length := by omega
    rw [List.take_append_of_le_length hn]
    simpa [h] using fun hmem => hs (List.mem_of_mem_take hmem)

theorem mem_words_dropWhile_isBlank {w : Text} (hw : w ≠ []) (t : Text) :
    w ∈ words (t.dropWhile isBlank) ↔ w ∈ words t := by
  induction t with
  | nil => rfl
  | cons c t ih =>
    by_cases hc : isBlank c = true
    · simp [hc, ih, words_cons (isWordChar_eq_false_of_isBlank hc), hw]
    · simp [hc]

/-- The text behind a mark, cut at its first colon, decides about the mark. -/
theorem isTernary_append_colon {between : Text} (hcolon : ':' ∉ between)
    (hlen : between.length < 49) (t : Text) :
    isTernary (between ++ ':' :: t) = true ↔ Conditional between := by
  have hshort : ':' ∉ between.dropWhile isBlank :=
    fun h => hcolon (List.dropWhile_sublist _ |>.mem h)
  have hbefore (s : Text) :
      (between.dropWhile isBlank ++ ':' :: s).takeWhile (· != ':') = between.dropWhile isBlank := by
    refine (takeWhile_eq_append_iff fun c hc => ?_).2 ⟨':' :: s, rfl, rfl⟩
    exact bne_iff_ne.2 fun h => hshort (h ▸ hc)
  have hne : ∀ w ∈ clauseWords, w ≠ [] := by decide
  simp only [isTernary, head_lookahead, head_colonWindow, take_append_colon hlen,
    trim_append_colon, contains_take_append_colon hshort, hbefore, Bool.and_eq_true,
    decide_eq_true_eq, Bool.not_eq_true', List.any_eq_false, List.contains_iff_mem]
  constructor
  · rintro ⟨htrim, hwords⟩
    refine ⟨hcolon, hlen, htrim, fun w hw hmem => ?_⟩
    exact hwords w ((mem_words_dropWhile_isBlank (hne w hw) between).2 hmem) hw
  · rintro ⟨-, -, htrim, hwords⟩
    refine ⟨htrim, fun w hmem hw => ?_⟩
    exact hwords w hw ((mem_words_dropWhile_isBlank (hne w hw) between).1 hmem)

theorem isTernary_iff {rest : Text} : isTernary rest = true ↔
    ∃ between after, rest = between ++ ':' :: after ∧ Conditional between := by
  constructor
  · intro h
    have hmem : ':' ∈ rest.take 49 := by
      simp only [isTernary, Bool.and_eq_true, head_lookahead, List.contains_iff_mem] at h
      have htrim := List.mem_of_mem_take h.1
      rw [trim, trimWhile, dropEndWhile, List.mem_reverse] at htrim
      have hdrop := List.mem_reverse.1 ((List.dropWhile_sublist _).mem htrim)
      exact (List.dropWhile_sublist _).mem hdrop
    obtain ⟨u, v, huv, hu⟩ := List.eq_append_cons_of_mem hmem
    have hrest : rest = u ++ ':' :: (v ++ rest.drop 49) := by
      calc rest = rest.take 49 ++ rest.drop 49 := (List.take_append_drop 49 rest).symm
        _ = u ++ ':' :: (v ++ rest.drop 49) := by rw [huv]; simp
    have hlen : u.length < 49 := by
      have := congrArg List.length huv
      simp at this
      omega
    rw [hrest, isTernary_append_colon hu hlen] at h
    exact ⟨u, v ++ rest.drop 49, hrest, h⟩
  · rintro ⟨between, after, rfl, h⟩
    exact (isTernary_append_colon h.colon_notMem h.length_lt after).2 h

theorem Conditional.of_append {c : Char} (hblank : isBlank c = false) (hword : isWordChar c = false)
    {s t : Text} (h : Conditional (s ++ c :: t)) : Conditional t where
  colon_notMem := fun hmem => h.colon_notMem (by simp [hmem])
  length_lt := by
    have := h.length_lt
    simp at this
    omega
  length_trimmed_lt := by
    have hlen := h.length_trimmed_lt
    rw [dropWhile_append_cons hblank] at hlen
    have hle : (t.dropWhile isBlank).length ≤ t.length := (List.dropWhile_sublist _).length_le
    simp at hlen
    omega
  clauseWord_notMem := fun w hw hmem =>
    h.clauseWord_notMem w hw (by simp [words_append_cons hword, hmem])

section Lookahead

/-- What shows a mark to be a conditional's: a colon is among the 49 characters behind it, and fewer
than 20 characters and no clause word stand between the leading blanks and that colon. -/
structure ColonInSight (rest : Text) : Prop where
  seen : ':' ∈ rest.take 49
  near : rest.idxOf ':' < (rest.takeWhile isBlank).length + 20
  clauseless : ∀ w ∈ clauseWords,
    ¬ WholeWord w ((rest.take (rest.idxOf ':')).drop (rest.takeWhile isBlank).length)

theorem mem_words_iff_of_mem_clauseWords {w : Text} (hw : w ∈ clauseWords) (t : Text) :
    w ∈ words t ↔ WholeWord w t := by
  have hletters : ∀ w ∈ clauseWords, w.all isWordChar = true := by decide +kernel
  exact mem_words_iff (List.all_eq_true.1 (hletters w hw))

theorem idxOf_append_colon {between : Text} (hcolon : ':' ∉ between) (after : Text) :
    (between ++ ':' :: after).idxOf ':' = between.length := by
  rw [List.idxOf_append, if_neg hcolon, List.idxOf_cons_self, Nat.zero_add]

theorem colonInSight_append_colon {between : Text} (hcolon : ':' ∉ between) (after : Text) :
    ColonInSight (between ++ ':' :: after) ↔ Conditional between := by
  have hindex := idxOf_append_colon hcolon after
  have htake : (between ++ ':' :: after).take between.length = between := List.take_left
  have hseen := contains_take_append_colon (t := after) hcolon 49
  rw [Bool.eq_iff_iff, List.contains_iff_mem, decide_eq_true_eq] at hseen
  obtain ⟨gap, core, rfl, hgap, hcore⟩ := exists_run isBlank between
  have hdrop : (gap ++ core).dropWhile isBlank = core := dropWhile_append_rest hgap hcore
  have hblanks : (gap ++ core ++ ':' :: after).takeWhile isBlank = gap := by
    rw [List.append_assoc]
    refine takeWhile_append_rest hgap ?_
    have hc : isBlank ':' = false := by decide
    cases core with
    | nil => exact hc
    | cons c core => exact hcore
  have hwords (w : Text) (hw : w ∈ clauseWords) : w ∈ words (gap ++ core) ↔ WholeWord w core := by
    have hne : ∀ w ∈ clauseWords, w ≠ [] := by decide
    rw [← mem_words_dropWhile_isBlank (hne w hw), hdrop, mem_words_iff_of_mem_clauseWords hw]
  constructor
  · intro h
    refine ⟨hcolon, hseen.1 h.seen, ?_, fun w hw hmem => h.clauseless w hw ?_⟩
    · have hnear := h.near
      rw [hindex, hblanks, List.length_append] at hnear
      rw [hdrop]
      omega
    · rw [hindex, hblanks, htake, List.drop_left]
      exact (hwords w hw).1 hmem
  · intro h
    refine ⟨hseen.2 h.length_lt, ?_, fun w hw hwhole => h.clauseWord_notMem w hw ?_⟩
    · have hshort := h.length_trimmed_lt
      rw [hdrop] at hshort
      rw [hindex, hblanks, List.length_append]
      omega
    · rw [hindex, hblanks, htake, List.drop_left] at hwhole
      exact (hwords w hw).2 hwhole

/-- A mark belongs to a conditional exactly if its colon is in sight. Where it does, only the text
up to that colon matters, and in every case only the first 49 characters do. -/
theorem isTernary_iff_colonInSight (rest : Text) :
    (isTernary rest = true ↔ ColonInSight rest) ∧
      (isTernary rest = true → ∀ other, rest.take (rest.idxOf ':' + 1) <+: other →
        isTernary other = true) ∧
      ∀ other, other.take 49 = rest.take 49 → isTernary other = isTernary rest := by
  refine ⟨⟨fun h => ?_, fun h => ?_⟩, fun h other hother => ?_, fun other hother => ?_⟩
  · obtain ⟨between, after, rfl, hbetween⟩ := isTernary_iff.1 h
    exact (colonInSight_append_colon hbetween.colon_notMem after).2 hbetween
  · obtain ⟨between, after, rfl, hcolon⟩ := List.eq_append_cons_of_mem (List.mem_of_mem_take h.seen)
    exact isTernary_iff.2 ⟨between, after, rfl, (colonInSight_append_colon hcolon after).1 h⟩
  · obtain ⟨between, after, rfl, hbetween⟩ := isTernary_iff.1 h
    rw [idxOf_append_colon hbetween.colon_notMem, take_append_colon (Nat.lt_succ_self _)] at hother
    obtain ⟨later, rfl⟩ := hother
    exact isTernary_iff.2 ⟨between, later, by simp, hbetween⟩
  · rw [isTernary, isTernary, head_lookahead, head_lookahead, hother]

def lastInSight : Text :=
  List.replicate 29 '\u3000' ++ "FROMAGE été vu, ici".toList ++ ":0".toList

/-- What follows the colon does not matter, and one more blank puts it out of sight. -/
theorem isTernary_iff_colonInSight_lastInSight :
    isTernary lastInSight = true ∧ ColonInSight lastInSight ∧
      isTernary (lastInSight.take 49 ++ "SELECT".toList) = true ∧
      ¬ ColonInSight (' ' :: lastInSight) := by
  have hternary : isTernary lastInSight = true := by decide +kernel
  obtain ⟨hiff, hprefix, -⟩ := isTernary_iff_colonInSight lastInSight
  refine ⟨hternary, hiff.1 hternary, hprefix hternary _ ?_, fun h => ?_⟩
  · have hcolon : lastInSight.idxOf ':' + 1 = 49 := by decide +kernel
    rw [hcolon]
    exact List.prefix_append _ _
  · have hblind := (isTernary_iff_colonInSight (' ' :: lastInSight)).1.2 h
    exact absurd hblind (by decide +kernel)

end Lookahead

end QueryMigration.Placeholder
