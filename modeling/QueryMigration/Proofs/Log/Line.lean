import QueryMigration.Log
import QueryMigration.Proofs.Text.Written
import Mathlib.Data.List.Chain

/-! A record is written on one line, which ends in a quote mark only if its last field is a text. -/

namespace QueryMigration.Log

open Text Quoted

structure Unquoted (t : Text) : Prop where
  within : t.IsChain fun a b => a = doubleQuote → b ≠ '\n'
  last : t.getLast? ≠ some doubleQuote

section Texts

variable {s t : Text}

theorem unquoted_of_notMem (h : doubleQuote ∉ t) : Unquoted t where
  within := by
    refine (List.pairwise_of_forall_mem_list fun a ha b _ hquote => ?_).isChain
    exact absurd (hquote ▸ ha) h
  last := fun hlast => h (List.mem_of_getLast? hlast)

theorem Unquoted.append (hs : Unquoted s) (ht : Unquoted t) : Unquoted (s ++ t) where
  within := by
    refine List.isChain_append.2 ⟨hs.within, ht.within, fun a ha b _ hquote => ?_⟩
    exact absurd (hquote ▸ ha) hs.last
  last := by
    rw [List.getLast?_append]
    cases hlast : t.getLast? with
    | none => simpa using hs.last
    | some c => simpa [hlast] using ht.last

theorem unquoted_line (hline : '\n' ∉ t) (hlast : t.getLast? ≠ some doubleQuote) :
    Unquoted (t ++ ['\n']) where
  within := by
    have hchain : t.IsChain fun a b => a = doubleQuote → b ≠ '\n' := by
      refine (List.pairwise_of_forall_mem_list fun a _ b hb _ hfeed => ?_).isChain
      exact hline (hfeed ▸ hb)
    refine List.isChain_append.2 ⟨hchain, List.isChain_singleton '\n', fun a ha b _ hquote => ?_⟩
    exact absurd (hquote ▸ ha) hlast
  last := by
    rw [List.getLast?_concat]
    decide

theorem Unquoted.not_infix (h : Unquoted t) : ¬ [doubleQuote, '\n'] <:+: t := by
  intro hinfix
  have hpair := h.within.infix hinfix
  rw [List.isChain_cons_cons] at hpair
  exact hpair.1 rfl rfl

end Texts

section Records

theorem lineFeed_notMem_word (t : List Rune) : '\n' ∉ word t := by
  unfold word
  split
  · exact Rune.lineFeed_notMem_quote t
  · rename_i hplain
    intro h
    obtain ⟨r, hr, hfeed⟩ := List.mem_map.1 h
    have hquoted : t.any (forcesQuotes ·.shown) = true :=
      List.any_eq_true.2 ⟨r, hr, by rw [hfeed]; decide⟩
    simp [hquoted] at hplain

theorem Value.lineFeed_notMem_written (v : Value) : '\n' ∉ v.written := by
  cases v with
  | text s => exact lineFeed_notMem_word (Rune.ofString s)
  | runes t => exact lineFeed_notMem_word t
  | int i => exact notMem_repr (by decide) (by decide) i
  | bool b => cases b <;> decide
  | null => decide

theorem Field.lineFeed_notMem_written (f : Field) : '\n' ∉ f.written := by
  unfold Field.written
  split
  · exact List.not_mem_nil
  · simp [lineFeed_notMem_word, Value.lineFeed_notMem_written]

def Record.start (r : Record) : Text :=
  "level=".toList ++ r.level.name.toList ++ " msg=".toList ++ word (Rune.ofString r.message) ++
    r.fields.flatMap Field.written

theorem Record.line_append (level : Level) (message : String) (fields : List Field) (f : Field) :
    Record.line ⟨level, message, fields ++ [f]⟩ =
      Record.start ⟨level, message, fields⟩ ++ f.written ++ ['\n'] := by
  have hassoc (a b c d : Text) : a ++ (b ++ c) ++ d = a ++ b ++ c ++ d := by
    simp only [List.append_assoc]
  dsimp only [Record.line, Record.start]
  rw [List.flatMap_append, List.flatMap_singleton, hassoc]

theorem Record.lineFeed_notMem_start (r : Record) : '\n' ∉ r.start := by
  have hlevel : '\n' ∉ r.level.name.toList := by cases r.level <;> decide
  have hfields : '\n' ∉ r.fields.flatMap Field.written := by
    simp [Field.lineFeed_notMem_written]
  intro h
  rcases List.mem_append.1 h with h | h
  · rcases List.mem_append.1 h with h | h
    · rcases List.mem_append.1 h with h | h
      · rcases List.mem_append.1 h with h | h
        · exact absurd h (by decide)
        · exact hlevel h
      · exact absurd h (by decide)
    · exact lineFeed_notMem_word _ h
  · exact hfields h

/-- A record whose last field is no text is written on a line that ends in no quote mark. -/
theorem Record.unquoted_line (level : Level) (message : String) (fields : List Field) {f : Field}
    (hkey : f.key ≠ "") (hvalue : doubleQuote ∉ f.value.written) :
    Unquoted (Record.line ⟨level, message, fields ++ [f]⟩) := by
  have hwritten : f.written = ' ' :: (word (Rune.ofString f.key) ++ '=' :: f.value.written) := by
    rw [Field.written, if_neg]
    intro h
    exact hkey (by rw [h])
  rw [Record.line_append]
  refine Log.unquoted_line ?_ ?_
  · rw [List.mem_append, not_or]
    exact ⟨Record.lineFeed_notMem_start _, f.lineFeed_notMem_written⟩
  · rw [hwritten, ← List.cons_append, ← List.append_assoc, List.getLast?_append_cons]
    intro hlast
    cases List.mem_cons.1 (List.mem_of_getLast? hlast) with
    | inl h => exact absurd h (by decide)
    | inr h => exact hvalue h

/-- A record whose last field must be quoted is written on a line that ends in a quote mark. -/
theorem Record.quote_suffix_line (level : Level) (message : String) (fields : List Field)
    (key : String) {t : List Rune} (ht : t.any (forcesQuotes ·.shown) = true) :
    [doubleQuote, '\n'] <:+ Record.line ⟨level, message, fields ++ [⟨key, .runes t⟩]⟩ := by
  have hword : [doubleQuote] <:+ word t := by
    simp only [word, ht, Bool.or_true, if_true, Rune.quote]
    exact (List.suffix_append _ _).trans (List.suffix_cons _ _)
  have hfield : [doubleQuote] <:+ Field.written ⟨key, .runes t⟩ := by
    rw [Field.written, if_neg (by simp)]
    exact hword.trans ((List.suffix_cons '=' _).trans ((List.suffix_append _ _).trans
      (List.suffix_cons ' ' _)))
  obtain ⟨front, hfront⟩ := hfield
  rw [Record.line_append, ← hfront, List.append_assoc, List.append_assoc]
  exact (List.suffix_append _ _).trans (List.suffix_append _ _)

theorem Logger.unquoted_write {records : List Record} (h : ∀ r ∈ records, Unquoted r.line)
    (logger : Logger) : Unquoted (logger.write records) := by
  have hlines : Unquoted (records.flatMap Record.line) := by
    induction records with
    | nil => exact unquoted_of_notMem List.not_mem_nil
    | cons r records ih =>
      rw [List.forall_mem_cons] at h
      exact h.1.append (ih h.2)
  unfold Logger.write
  split
  · exact hlines
  · exact unquoted_of_notMem List.not_mem_nil

end Records

end QueryMigration.Log
