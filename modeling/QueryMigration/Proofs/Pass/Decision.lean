import QueryMigration.Proofs.BooleanLiteral.Simultaneous
import QueryMigration.Proofs.Pass.Migrated
import QueryMigration.Proofs.Placeholder.Positional
import QueryMigration.Proofs.Text.Tally

/-! Two words decide which texts have their functions made asynchronous, and both can be read off
the source. -/

namespace QueryMigration.Pass

open Text Placeholder BooleanLiteral DataCall Declaration

section Words

def signals : List Text := [awaitWord, asyncWord]

variable {m : Text}

theorem severs_cons (hm : m ∈ signals) {z : Char} (hz : z ∉ m) {s : Text} (hs : 'a' ∉ s) :
    Severs m (z :: s) := by
  simp only [signals, List.mem_cons, List.not_mem_nil, or_false] at hm
  cases hm with
  | inl hawait =>
    subst hawait
    exact severs_of_cut (p := []) (b := "awai".toList) (l := 't') (by decide) hz (by simp) hs
  | inr hasync =>
    subst hasync
    exact severs_of_cut (p := []) (b := "asyn".toList) (l := 'c') (by decide) hz (by simp) hs

theorem severs_concat (hm : m ∈ signals) {z : Char} (hz : z ∉ m) {p : Text}
    (hp : 't' ∉ p ∧ 'c' ∉ p) : Severs m (p ++ [z]) := by
  simp only [signals, List.mem_cons, List.not_mem_nil, or_false] at hm
  cases hm with
  | inl hawait =>
    subst hawait
    exact severs_of_cut (s := []) (b := "awai".toList) (by decide) hz hp.1 (by simp)
  | inr hasync =>
    subst hasync
    exact severs_of_cut (s := []) (b := "asyn".toList) (by decide) hz hp.2 (by simp)

theorem severs_of_numbers (hm : m ∈ signals) (a w : Text) (h : Numbers a w) :
    Severs m a ∧ Severs m w := by
  have hforeign : ∀ m ∈ signals, marker ∉ m ∧ '$' ∉ m := by decide
  obtain ⟨rfl, n, rfl⟩ := h
  exact ⟨severs_cons hm (hforeign m hm).1 (by simp),
    severs_cons hm (hforeign m hm).2 (notMem_toDigits (by decide) n)⟩

theorem severs_of_flag (hm : m ∈ signals) {k : Kind} {e : Edit} {rest : Text}
    (h : Flag k e rest) : Severs m e.reads ∧ Severs m e.writes := by
  have hforeign : ∀ m ∈ signals, '=' ∉ m ∧ '?' ∉ m ∧ 'e' ∉ m := by decide
  obtain ⟨hequals, hquestion, he⟩ := hforeign m hm
  have ha : isBlank 'a' = false := by decide
  cases h with
  | @compared value gap _ hgap _ =>
    have hnumeral : 'a' ≠ numeral value := by cases value <;> decide
    refine ⟨severs_cons hm hequals (by simp [hgap.notMem ha, hnumeral]), ?_⟩
    cases value with
    | true => exact severs_cons hm hequals (by decide)
    | false => exact severs_concat (p := "= fals".toList) hm he (by decide)
  | @chosen gap₁ gap₂ gap₃ _ h₁ h₂ h₃ =>
    refine ⟨severs_cons hm hquestion (by simp [h₁.notMem ha, h₂.notMem ha, h₃.notMem ha]), ?_⟩
    have hone : Severs m "? true : ".toList := severs_cons hm hquestion (by decide)
    have hzero : Severs m ("fals".toList ++ ['e']) := severs_concat hm he (by decide)
    exact hone.append hzero

theorem severs_asyncWord_of_awaits (a w : Text) (h : Awaits a w) :
    Severs asyncWord a ∧ Severs asyncWord w := by
  obtain ⟨ha, rfl⟩ := h
  have hasync : asyncWord ∈ signals := by decide
  have hnames : ∀ f ∈ functions, 'a' ∉ f := by decide
  have hread : ∀ f ∈ functions, Severs asyncWord f := by
    simp only [functions, List.forall_mem_cons]
    exact ⟨severs_cons (z := 'g') hasync (by decide) (by decide),
      severs_cons (z := 'g') hasync (by decide) (by decide),
      severs_cons (z := 'r') hasync (by decide) (by decide), by simp⟩
  refine ⟨hread a ha, ?_⟩
  exact severs_of_cut (b := "asyn".toList) (l := 'c') (by decide) (by decide) (by decide)
    (hnames a ha)

end Words

section Passes

variable {m : Text}

theorem occurrences_number (hm : m ∈ signals) (t : Text) :
    occurrences m (number t) = occurrences m t :=
  (patchedBy_number t).occurrences_eq (severs_of_numbers hm)

theorem occurrences_apply_rule (hm : m ∈ signals) (k : Kind) (t : Text) :
    occurrences m (k.rule.apply t) = occurrences m t := by
  refine (Rule.patched_apply k.lawful_rule t).occurrences_eq ?_
  intro a w hwrites
  obtain ⟨before, s, hrule⟩ := hwrites
  obtain ⟨rest, hflag, -⟩ := Kind.rule_eq_some_iff.1 hrule
  exact severs_of_flag hm hflag

theorem occurrences_normalize (hm : m ∈ signals) (t : Text) :
    occurrences m (normalize t) = occurrences m t := by
  have hrules (kinds : List Kind) (t : Text) : occurrences m
      ((kinds.map Kind.rule).foldl (fun t rule => rule.apply t) t) = occurrences m t := by
    induction kinds generalizing t with
    | nil => rfl
    | cons k kinds ih => exact (ih (k.rule.apply t)).trans (occurrences_apply_rule hm k t)
  exact hrules Kind.all t

theorem occurrences_asyncWord_await (t : Text) :
    occurrences asyncWord (DataCall.await t) = occurrences asyncWord t :=
  (patchedBy_await t).occurrences_eq severs_asyncWord_of_awaits

/-- Awaiting brings the word into a text exactly where a line begins with a call. -/
theorem awaitWord_infix_await_iff {t : Text} : awaitWord <:+: DataCall.await t ↔
    awaitWord <:+: t ∨ ∃ line ∈ lines t, ∃ m, CallShape m ∧ m <+: line := by
  constructor
  · intro h
    by_cases hshape : ∃ line ∈ lines t, ∃ m, CallShape m ∧ m <+: line
    · exact Or.inr hshape
    · have hquiet : AllAwaited t := by
        intro line hline hcall
        exact absurd ⟨line, hline, hasCallShape_iff.1 hcall⟩ hshape
      rw [await_eq_self hquiet] at h
      exact Or.inl h
  · intro h
    cases h with
    | inl hword =>
      refine (patchedBy_await t).occurs ?_ hword
      intro a w hawaits x y _
      obtain ⟨-, rfl⟩ := hawaits
      exact Or.inr (Or.inl (List.infix_append_left))
    | inr hshape =>
      obtain ⟨line, hline, hshape⟩ := hshape
      have hmem : awaitLine line ∈ lines (DataCall.await t) := by
        rw [lines_await]
        exact List.mem_map_of_mem hline
      have hword : awaitWord <:+: awaitLine line := by
        unfold awaitLine
        split
        · exact occurs_awaitWord_apply (hasCallShape_iff.2 hshape)
        · rename_i hneeds
          exact needsAwait_eq_false_iff.1 (by simpa using hneeds) (hasCallShape_iff.2 hshape)
      exact hword.trans (infix_of_mem_lines hmem)

end Passes

section Decision

def earlier : List Pass := [placeholders, booleans, await]

theorem infix_iff_of_occurrences_eq {m s t : Text} (hm : m ≠ [])
    (h : occurrences m s = occurrences m t) : m <:+: s ↔ m <:+: t := by
  rw [← occurrences_pos_iff hm, h, occurrences_pos_iff hm]

/-- The decision is read off the source: the text that the last pass gets needs it exactly if the
source does not have the word `async` and has the word `await` or, its placeholders numbered and its
flags replaced, a line that begins with a call. For the passes before the last neither bring in nor
take away one of the words, but for the `await` of such a line. -/
theorem needsAsync_earlier_iff (t : Text) :
    output migration t = promote (output earlier t) ∧
    (needsAsync (output earlier t) = true ↔ ¬ asyncWord <:+: t ∧
      (awaitWord <:+: t ∨
        ∃ line ∈ lines (normalize (number t)), ∃ m, CallShape m ∧ m <+: line)) ∧
    (∀ m ∈ signals, ∀ s, occurrences m (number s) = occurrences m s ∧
      occurrences m (normalize s) = occurrences m s) ∧
    ∀ s, occurrences asyncWord (DataCall.await s) = occurrences asyncWord s := by
  refine ⟨output_migration t, ?_, ?_, occurrences_asyncWord_await⟩
  · have hawait : awaitWord <:+: normalize (number t) ↔ awaitWord <:+: t :=
      infix_iff_of_occurrences_eq (by decide)
        ((occurrences_normalize (by decide) _).trans (occurrences_number (by decide) t))
    have hasync : asyncWord <:+: DataCall.await (normalize (number t)) ↔ asyncWord <:+: t :=
      infix_iff_of_occurrences_eq (by decide) ((occurrences_asyncWord_await _).trans
        ((occurrences_normalize (by decide) _).trans (occurrences_number (by decide) t)))
    have hearlier : output earlier t = DataCall.await (normalize (number t)) := rfl
    rw [hearlier, needsAsync_eq_true_iff, awaitWord_infix_await_iff, hawait, hasync, and_comm]
  · intro m hm s
    exact ⟨occurrences_number hm s, occurrences_normalize hm s⟩

end Decision

end QueryMigration.Pass
