import QueryMigration.Proofs.Text.Split

/-! Whole words of a text by their places, and how many there are. -/

namespace QueryMigration.Text

def IsWord (w : Text) : Prop := w ≠ [] ∧ ∀ c ∈ w, isWordChar c = true

theorem isWord_of_all {w : Text} (hne : w ≠ []) (h : w.all isWordChar = true) : IsWord w :=
  ⟨hne, List.all_eq_true.1 h⟩

theorem IsWord.head_append {w : Text} (h : IsWord w) (t : Text) :
    (w ++ t).head?.any isBlank = false := by
  obtain ⟨c, w, rfl⟩ := List.exists_cons_of_ne_nil h.1
  rw [Bool.eq_false_iff]
  intro hblank
  have hc := isWordChar_eq_false_of_isBlank (by simpa using hblank)
  simp [h.2 c (by simp)] at hc

theorem IsWord.notMem {w : Text} (h : IsWord w) {c : Char} (hc : isWordChar c = false) : c ∉ w := by
  intro hmem
  rw [h.2 c hmem] at hc
  exact absurd hc (by decide)

theorem head_gap_append {gap t : Text} (hgap : IsGap gap) (ht : t.head?.any isWordChar = false) :
    (gap ++ t).head?.any isWordChar = false := by
  cases gap with
  | nil => exact ht
  | cons c gap => simpa using isWordChar_eq_false_of_isBlank (hgap c (by simp))

section Places

/-- Whether `w` stands in a text with no word character next to it on either side. -/
def WholeWord (w t : Text) : Prop :=
  ∃ u v, t = u ++ w ++ v ∧ u.getLast?.any isWordChar = false ∧ v.head?.any isWordChar = false

theorem takeWhile_eq_append_iff {p : Char → Bool} {t w : Text} (hw : ∀ c ∈ w, p c = true) :
    t.takeWhile p = w ↔ ∃ v, t = w ++ v ∧ v.head?.any p = false := by
  constructor
  · intro h
    obtain ⟨run, rest, rfl, hrun, hrest⟩ := exists_run p t
    rw [takeWhile_append_rest hrun hrest] at h
    exact ⟨rest, by rw [h], hrest⟩
  · rintro ⟨v, rfl, hv⟩
    exact takeWhile_append_rest hw hv

/-- The words that are cut out are the whole words that consist of word characters. -/
theorem mem_words_iff {t w : Text} (hw : ∀ c ∈ w, isWordChar c = true) :
    w ∈ words t ↔ WholeWord w t := by
  obtain ⟨rest, hsplit, hrest⟩ := splitOnP_eq_cons (!isWordChar ·) t
  simp only [Bool.not_not, Bool.not_eq_true'] at hsplit hrest
  have hwords : words t = t.takeWhile isWordChar :: rest := hsplit
  rw [hwords, List.mem_cons, hrest, eq_comm, takeWhile_eq_append_iff hw]
  constructor
  · rintro (⟨v, rfl, hv⟩ | ⟨u, c, v, rfl, hc, h⟩)
    · exact ⟨[], v, rfl, rfl, hv⟩
    · obtain ⟨v', rfl, hv⟩ := (takeWhile_eq_append_iff hw).1 h.symm
      exact ⟨u ++ [c], v', by simp, by simpa using hc, hv⟩
  · rintro ⟨u, v, rfl, hu, hv⟩
    cases List.eq_nil_or_concat u with
    | inl heq =>
      subst heq
      exact Or.inl ⟨v, rfl, hv⟩
    | inr hconcat =>
      obtain ⟨u, c, rfl⟩ := hconcat
      refine Or.inr ⟨u, c, w ++ v, by simp, by simpa using hu, ?_⟩
      exact ((takeWhile_eq_append_iff hw).2 ⟨v, rfl, hv⟩).symm

theorem words_append_cons {c : Char} (hc : isWordChar c = false) (s t : Text) :
    words (s ++ c :: t) = words s ++ words t :=
  List.splitOnP_append_cons s t (by simp [hc])

theorem words_cons {c : Char} (hc : isWordChar c = false) (t : Text) :
    words (c :: t) = [] :: words t :=
  words_append_cons hc [] t

end Places

section Counting

def wordCount : Text → Nat
  | [] => 0
  | c :: r => wordCount r + if isWordChar c && !r.head?.any isWordChar then 1 else 0

theorem wordCount_cons {c : Char} (hc : isWordChar c = false) (t : Text) :
    wordCount (c :: t) = wordCount t := by
  simp [wordCount, hc]

theorem wordCount_gap {gap : Text} (hgap : IsGap gap) (t : Text) :
    wordCount (gap ++ t) = wordCount t := by
  induction gap with
  | nil => rfl
  | cons c gap ih =>
    rw [List.cons_append, wordCount_cons (isWordChar_eq_false_of_isBlank (hgap c (by simp)))]
    exact ih fun d hd => hgap d (List.mem_cons_of_mem c hd)

theorem wordCount_append {t : Text} (ht : t.head?.any isWordChar = false) (s : Text) :
    wordCount (s ++ t) = wordCount s + wordCount t := by
  induction s with
  | nil => simp [wordCount]
  | cons c s ih =>
    have hhead : (s ++ t).head?.any isWordChar = s.head?.any isWordChar := by
      cases s with
      | nil => simpa using ht
      | cons d s => rfl
    rw [List.cons_append, wordCount, wordCount, ih, hhead]
    omega

theorem wordCount_word {w : Text} (hw : ∀ c ∈ w, isWordChar c = true) : wordCount w ≤ 1 := by
  induction w with
  | nil => simp [wordCount]
  | cons c w ih =>
    have hrest := ih fun d hd => hw d (List.mem_cons_of_mem c hd)
    cases w with
    | nil => rw [wordCount]; split <;> simp [wordCount]
    | cons d w =>
      have hd : isWordChar d = true := hw d (by simp)
      rw [wordCount]
      simpa [hd] using hrest

theorem wordCount_pos {t : Text} (h : t.head?.any isWordChar = true) : 0 < wordCount t := by
  induction t with
  | nil => simp at h
  | cons c t ih =>
    have hc : isWordChar c = true := by simpa using h
    rw [wordCount]
    by_cases ht : t.head?.any isWordChar = true
    · have := ih ht
      omega
    · simp [hc, ht]

theorem wordCount_le_append_left (s t : Text) : wordCount t ≤ wordCount (s ++ t) := by
  induction s with
  | nil => exact Nat.le_refl _
  | cons c s ih =>
    rw [List.cons_append, wordCount]
    omega

theorem wordCount_le_append_right (s t : Text) : wordCount s ≤ wordCount (s ++ t) := by
  induction s with
  | nil => simp [wordCount]
  | cons c s ih =>
    cases s with
    | nil =>
      by_cases hc : isWordChar c = true
      · have hpos : 0 < wordCount (c :: t) := wordCount_pos (by simpa using hc)
        have hone := wordCount_word (w := [c]) (by simpa using hc)
        rw [List.singleton_append]
        omega
      · simp [wordCount, hc]
    | cons d s =>
      rw [wordCount, List.cons_append, wordCount]
      exact Nat.add_le_add_right ih _

theorem wordCount_append_cons {c : Char} (hc : isWordChar c = false) (s t : Text) :
    wordCount (s ++ c :: t) = wordCount s + wordCount t := by
  rw [wordCount_append (by simpa using hc), wordCount_cons hc]

theorem IsWord.wordCount_pos {w : Text} (h : IsWord w) : 0 < wordCount w := by
  obtain ⟨c, w, rfl⟩ := List.exists_cons_of_ne_nil h.1
  exact Text.wordCount_pos (by simpa using h.2 c (by simp))

end Counting

end QueryMigration.Text
