import QueryMigration.Placeholder.Numbering
import QueryMigration.Proofs.Text.Patched
import QueryMigration.Proofs.Text.Word

/-! Numbering by place: what the scan of a line writes, said without its state and its counter. -/

namespace QueryMigration.Placeholder

open Text

/-- Whether the place behind `s` lies in a literal: an odd number of delimiters opens one. -/
def isInside (s : Text) : Bool := s.count delimiter % 2 == 1

def isPlaceholder (t : Text) (i : Nat) : Bool :=
  t[i]? == some marker && isInside (t.take i) && !isTernary (t.drop (i + 1))

def ordinal (line : Text) (i : Nat) : Nat := (List.range (i + 1)).countP (isPlaceholder line)

def writtenAt (line : Text) (c : Char) (i : Nat) : Text :=
  if isPlaceholder line i then '$' :: Nat.toDigits 10 (ordinal line i) else [c]

def numbered (line : Text) : Text := line.zipIdx.flatMap fun (c, i) => writtenAt line c i

def HasQueryWord (line : Text) : Prop := ∃ w, w.map lowerLetter ∈ queryWords ∧ WholeWord w line

theorem isWordChar_of_letter {c : Char}
    (h : 0x41 ≤ c.toNat ∧ c.toNat ≤ 0x5a ∨ 0x61 ≤ c.toNat ∧ c.toNat ≤ 0x7a) :
    isWordChar c = true := by
  have htable : wordRanges =
      (0x30, 0x39) :: (0x41, 0x5a) :: (0x5f, 0x5f) :: (0x61, 0x7a) :: wordRanges.drop 4 := rfl
  rw [isWordChar, htable]
  simp only [inRanges]
  split
  · omega
  · split
    · omega
    · split
      · simp; omega
      · split
        · simp; omega
        · simp; omega

theorem isWordChar_of_lowerLetter {c : Char}
    (h : 0x61 ≤ (lowerLetter c).toNat ∧ (lowerLetter c).toNat ≤ 0x7a) : isWordChar c = true := by
  unfold lowerLetter at h
  split at h
  · rename_i hc
    rw [eq_of_beq hc]
    decide
  · split at h
    · rename_i hc
      rw [eq_of_beq hc]
      decide +kernel
    · apply isWordChar_of_letter
      by_cases hc : c.val ≥ 'A'.val ∧ c.val ≤ 'Z'.val
      · exact Or.inl hc
      · have hlower : c.toLower = c := dif_neg hc
        rw [hlower] at h
        exact Or.inr h

theorem any_words_iff (line : Text) :
    (words line).any (fun w => queryWords.contains (w.map lowerLetter)) = true ↔
      HasQueryWord line := by
  have hletters : ∀ w ∈ queryWords,
      (w.all fun c => 0x61 ≤ c.toNat ∧ c.toNat ≤ 0x7a) = true := by decide
  have hword {w : Text} (h : w.map lowerLetter ∈ queryWords) : ∀ c ∈ w, isWordChar c = true := by
    intro c hc
    have hlower := List.all_eq_true.1 (hletters _ h) _ (List.mem_map_of_mem hc)
    exact isWordChar_of_lowerLetter (of_decide_eq_true hlower)
  simp only [List.any_eq_true, List.contains_iff_mem, HasQueryWord]
  constructor
  · rintro ⟨w, hmem, hw⟩
    exact ⟨w, hw, (mem_words_iff (hword hw)).1 hmem⟩
  · rintro ⟨w, hw, hmem⟩
    exact ⟨w, (mem_words_iff (hword hw)).2 hmem, hw⟩

instance (line : Text) : Decidable (HasQueryWord line) := decidable_of_iff _ (any_words_iff line)

theorem isQueryLine_iff (line : Text) :
    isQueryLine line = true ↔ HasQueryWord line ∧ delimiter ∈ line ∧ marker ∈ line := by
  rw [isQueryLine, Bool.and_eq_true, Bool.and_eq_true, any_words_iff, List.contains_iff_mem,
    List.contains_iff_mem, and_assoc]

theorem isInside_delimiter (s : Text) : isInside (s ++ [delimiter]) = !isInside s := by
  have h := Nat.mod_two_eq_zero_or_one (s.count delimiter)
  rcases h with h | h <;> simp [isInside, Nat.add_mod, h]

theorem isInside_of_ne {c : Char} (h : c ≠ delimiter) (s : Text) :
    isInside (s ++ [c]) = isInside s := by
  simp [isInside, List.count_cons_of_ne h]

theorem isPlaceholder_append (s : Text) (c : Char) (r : Text) :
    isPlaceholder (s ++ c :: r) s.length = (c == marker && isInside s && !isTernary r) := by
  have hget : (s ++ c :: r)[s.length]? = some c := by simp
  have hdrop : (s ++ c :: r).drop (s.length + 1) = r := by simp [List.drop_append]
  rw [isPlaceholder, hget, hdrop, List.take_left]
  rfl

def nextNumber (line : Text) (i : Nat) : Nat := 1 + (List.range i).countP (isPlaceholder line)

theorem nextNumber_succ (line : Text) (i : Nat) :
    nextNumber line (i + 1) = nextNumber line i + if isPlaceholder line i then 1 else 0 := by
  simp [nextNumber, List.range_succ, Nat.add_assoc]

theorem ordinal_eq_nextNumber {line : Text} {i : Nat} (h : isPlaceholder line i = true) :
    ordinal line i = nextNumber line i := by
  simp [ordinal, nextNumber, List.range_succ, h, Nat.add_comm]

/-- The scan of the rest `r` of a line behind `s` writes what the places of `r` call for. -/
theorem numberFrom_eq_flatMap (s r : Text) :
    numberFrom (isInside s) (nextNumber (s ++ r) s.length) r =
      (r.zipIdx s.length).flatMap fun (c, i) => writtenAt (s ++ r) c i := by
  induction r generalizing s with
  | nil => rfl
  | cons c r ih =>
    have hrest := ih (s ++ [c])
    rw [List.append_assoc, List.cons_append, List.nil_append, List.length_append,
      List.length_singleton, nextNumber_succ] at hrest
    rw [List.zipIdx_cons, List.flatMap_cons, ← hrest, numberFrom]
    have hplace : isPlaceholder (s ++ c :: r) s.length =
        (decide (c = marker) && isInside s && !isTernary r) := isPlaceholder_append s c r
    by_cases hd : c = delimiter
    · have hnot : isPlaceholder (s ++ c :: r) s.length = false := by
        rw [hplace, hd]
        rfl
      simp [hd ▸ hnot, hd, writtenAt, isInside_delimiter]
    · rw [if_neg hd, isInside_of_ne hd, ← hplace]
      by_cases hp : isPlaceholder (s ++ c :: r) s.length = true
      · simp [hp, writtenAt, ordinal_eq_nextNumber hp]
      · simp [hp, writtenAt]

theorem numberFrom_eq_numbered (line : Text) : numberFrom false 1 line = numbered line := by
  simpa [isInside, nextNumber, numbered] using numberFrom_eq_flatMap [] line

theorem notMem_toDigits {c : Char} (hc : c.isDigit = false) (n : Nat) : c ∉ Nat.toDigits 10 n := by
  intro h
  rw [Nat.isDigit_of_mem_toDigits (by decide) (by decide) h] at hc
  exact absurd hc (by decide)

def Numbers (a w : Text) : Prop := a = [marker] ∧ ∃ n, w = '$' :: Nat.toDigits 10 n

theorem patchedBy_numberFrom (inside : Bool) (n : Nat) (t : Text) :
    PatchedBy Numbers t (numberFrom inside n t) := by
  induction t generalizing inside n with
  | nil => exact .nil
  | cons c t ih =>
    rw [numberFrom]
    split
    · exact .copy trivial (ih (!inside) n)
    · split
      · rename_i hplace
        have hc : c = marker := by simpa using (Bool.and_eq_true_iff.1
          (Bool.and_eq_true_iff.1 hplace).1).1
        rw [← List.singleton_append, ← List.cons_append]
        exact .edit ⟨by rw [hc], n, rfl⟩ (ih inside (n + 1))
      · exact .copy trivial (ih inside n)

theorem patchedBy_numberLine (line : Text) : PatchedBy Numbers line (numberLine line) := by
  unfold numberLine
  split
  · exact patchedBy_numberFrom false 1 line
  · exact .refl line

theorem patchedBy_number (t : Text) : PatchedBy Numbers t (number t) :=
  .of_lines patchedBy_numberLine t

theorem Numbers.notMem {c : Char} (hdollar : c ≠ '$') (hdigit : c.isDigit = false) (a w : Text)
    (h : Numbers a w) : c ∉ w := by
  obtain ⟨-, n, rfl⟩ := h
  simp [hdollar, notMem_toDigits hdigit]

theorem lineFeed_notMem_numberLine (line : Text) (h : '\n' ∉ line) : '\n' ∉ numberLine line :=
  fun hmem => h ((patchedBy_numberLine line).mem_of_mem
    (Numbers.notMem (by decide) (by decide)) hmem)

theorem lines_number (t : Text) : lines (number t) = (lines t).map numberLine :=
  lines_mapLines lineFeed_notMem_numberLine t

/-- Numbering keeps the lines apart: a line with a query word, a delimiter and a marker has its
placeholders numbered by place, and any other line stays as it is. -/
theorem lines_number_eq_map (t : Text) :
    lines (number t) = (lines t).map fun line =>
      if HasQueryWord line ∧ delimiter ∈ line ∧ marker ∈ line then numbered line else line := by
  rw [lines_number]
  refine List.map_congr_left fun line _ => ?_
  rw [numberLine, numberFrom_eq_numbered]
  by_cases h : isQueryLine line = true
  · rw [if_pos h, if_pos ((isQueryLine_iff line).1 h)]
  · rw [if_neg h, if_neg fun hgate => h ((isQueryLine_iff line).2 hgate)]

example : numbered "`b ? 1 : 2, c = ?` ? `d = ?`".toList =
    "`b ? 1 : 2, c = $1` ? `d = $2`".toList := by
  decide +kernel

end QueryMigration.Placeholder
