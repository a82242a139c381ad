import QueryMigration.Settings.Sources
import QueryMigration.Disk.Basic

/-! Settings among the statements. The last one visited counts, so the order matters where two
disagree. -/

namespace QueryMigration.Settings.Sources

open Text

section LastStatement

/-- What a statement says about a setting. Where its name leads below the setting, that is off. -/
inductive Says (k : Key) : Text × Text → Bool → Prop
  | value {name value : Text} (hname : name.map Char.toLower = k.name) :
      Says k (statementStem ++ name, value) (isTrue (String.ofList value))
  | below {name value : Text} (hname : k.name ++ ['.'] <+: name.map Char.toLower) :
      Says k (statementStem ++ name, value) false

def said (k : Key) (statement : Text × Text) : Option Bool := applyStatement k none statement

theorem applyStatement_eq_or (k : Key) (current : Option Bool) (statement : Text × Text) :
    applyStatement k current statement = (said k statement).or current := by
  unfold said applyStatement
  cases strip? statementStem statement.1 with
  | none => rfl
  | some name =>
    dsimp only
    split
    · rfl
    · split <;> rfl

theorem said_eq_some_iff {k : Key} {statement : Text × Text} {b : Bool} :
    said k statement = some b ↔ Says k statement b := by
  obtain ⟨full, value⟩ := statement
  constructor
  · intro h
    unfold said applyStatement at h
    split at h
    · cases h
    · rename_i name hstrip
      obtain rfl := strip?_eq_some_iff.1 hstrip
      dsimp only at h
      split at h
      · rename_i hname
        cases h
        exact .value hname
      · split at h
        · rename_i hbelow
          cases h
          exact .below (List.isPrefixOf_iff_prefix.1 hbelow)
        · cases h
  · intro h
    cases h with
    | @value name _ hname =>
      simp [said, applyStatement, strip?_eq_some_iff.2 rfl, hname]
    | @below name _ hname =>
      have hne : name.map Char.toLower ≠ k.name := by
        intro heq
        have hlen := hname.length_le
        rw [heq, List.length_append, List.length_singleton] at hlen
        omega
      simp [said, applyStatement, strip?_eq_some_iff.2 rfl, hne, List.isPrefixOf_iff_prefix.2 hname]

theorem said_eq_none_iff {k : Key} {statement : Text × Text} :
    said k statement = none ↔ ∀ b, ¬ Says k statement b := by
  simp only [← said_eq_some_iff, Option.eq_none_iff_forall_ne_some, ne_eq]

theorem foldl_applyStatement (k : Key) (statements : List (Text × Text)) (current : Option Bool) :
    statements.foldl (applyStatement k) current =
      (statements.reverse.findSome? (said k)).or current := by
  induction statements generalizing current with
  | nil => rfl
  | cons statement statements ih =>
    rw [List.foldl_cons, ih, applyStatement_eq_or, List.reverse_cons, List.findSome?_append,
      Option.or_assoc]
    simp

def LastSays (k : Key) (statements : List (Text × Text)) (b : Bool) : Prop :=
  ∃ before last after, statements = before ++ last :: after ∧ Says k last b ∧
    ∀ later ∈ after, ∀ c, ¬ Says k later c

/-- Of the statements about a setting the last one counts. -/
theorem ofStatements_eq_some_iff {s : Sources} {k : Key} {b : Bool} :
    s.ofStatements k = some b ↔ LastSays k s.statements b := by
  rw [ofStatements, foldl_applyStatement, Option.or_none, List.findSome?_eq_some_iff]
  constructor
  · intro h
    obtain ⟨after, last, before, hsplit, hlast, hafter⟩ := h
    refine ⟨before.reverse, last, after.reverse, ?_, said_eq_some_iff.1 hlast, ?_⟩
    · simpa using congrArg List.reverse hsplit
    · intro later hlater
      exact said_eq_none_iff.1 (hafter later (List.mem_reverse.1 hlater))
  · intro h
    obtain ⟨before, last, after, hsplit, hlast, hafter⟩ := h
    refine ⟨after.reverse, last, before.reverse, ?_, said_eq_some_iff.2 hlast, ?_⟩
    · simp [hsplit]
    · intro later hlater
      exact said_eq_none_iff.2 (hafter later (List.mem_reverse.1 hlater))

theorem ofStatements_eq_none_iff {s : Sources} {k : Key} :
    s.ofStatements k = none ↔ ∀ statement ∈ s.statements, ∀ b, ¬ Says k statement b := by
  rw [ofStatements, foldl_applyStatement, Option.or_none, List.findSome?_eq_none_iff]
  simp only [List.mem_reverse, said_eq_none_iff]

end LastStatement

section Order

/-- Whether the settings are the same in whatever order the statements are visited. -/
def OrderFree (s : Sources) : Prop :=
  ∀ visited, s.statements.Perm visited →
    Settings.ofSources { s with statements := visited } = Settings.ofSources s

def mentioned (s : Sources) (k : Key) : Option Bool :=
  ((s.ofLine k).or (s.ofEnvironment k)).or (s.ofDocument k)

theorem resolve_eq (s : Sources) (k : Key) :
    s.resolve k = ((s.mentioned k).or (s.ofStatements k)).getD false := by
  rw [resolve, mentioned, ← Option.or_assoc]

/-- Whether no two statements say different things about a setting. -/
def Unanimous (k : Key) (statements : List (Text × Text)) : Prop :=
  ∀ first ∈ statements, ∀ second ∈ statements, ∀ b c, Says k first b → Says k second c → b = c

theorem ofSources_eq_iff {s₁ s₂ : Sources} :
    Settings.ofSources s₁ = Settings.ofSources s₂ ↔ ∀ k, s₁.resolve k = s₂.resolve k := by
  rw [Settings.ofSources, Settings.ofSources, Settings.mk.injEq]
  constructor
  · intro h k
    cases k with
    | debug => exact h.1
    | noColor => exact h.2.1
    | summary => exact h.2.2
  · intro h
    exact ⟨h .debug, h .noColor, h .summary⟩

theorem ofStatements_eq_some_iff_of_unanimous {s : Sources} {k : Key}
    (h : Unanimous k s.statements) {b : Bool} :
    s.ofStatements k = some b ↔ ∃ statement ∈ s.statements, Says k statement b := by
  constructor
  · intro hsome
    obtain ⟨before, last, after, hsplit, hlast, -⟩ := ofStatements_eq_some_iff.1 hsome
    exact ⟨last, by simp [hsplit], hlast⟩
  · intro htold
    obtain ⟨statement, hmem, htold⟩ := htold
    cases hof : s.ofStatements k with
    | none => exact absurd htold (ofStatements_eq_none_iff.1 hof statement hmem b)
    | some c =>
      obtain ⟨before, last, after, hsplit, hlast, -⟩ := ofStatements_eq_some_iff.1 hof
      rw [h last (by simp [hsplit]) statement hmem c b hlast htold]

theorem ofStatements_eq_of_perm {s : Sources} {k : Key} (h : Unanimous k s.statements)
    {visited : Entries Text Text} (hperm : s.statements.Perm visited) :
    { s with statements := visited }.ofStatements k = s.ofStatements k := by
  have hvisited : Unanimous k visited := fun first hfirst second hsecond =>
    h first (hperm.mem_iff.2 hfirst) second (hperm.mem_iff.2 hsecond)
  refine Option.ext fun b => ?_
  rw [ofStatements_eq_some_iff_of_unanimous hvisited, ofStatements_eq_some_iff_of_unanimous h]
  simp only [hperm.mem_iff]

/-- Where the order is free, every statement about a setting that is left to them has its way: it
can be the last one visited. -/
theorem OrderFree.resolve_eq {s : Sources} {k : Key} (hfree : OrderFree s)
    (hleft : s.mentioned k = none) {statement : Text × Text} (hmem : statement ∈ s.statements)
    {b : Bool} (htold : Says k statement b) : s.resolve k = b := by
  obtain ⟨before, after, hsplit⟩ := List.append_of_mem hmem
  have hperm : s.statements.Perm (before ++ (after ++ [statement])) := by
    rw [hsplit]
    exact (List.perm_append_singleton statement after).symm.append_left before
  have hlast : { s with statements := before ++ (after ++ [statement]) }.ofStatements k = some b :=
    ofStatements_eq_some_iff.2 ⟨before ++ after, statement, [], by simp, htold, by simp⟩
  have hsame : { s with statements := before ++ (after ++ [statement]) }.mentioned k =
      s.mentioned k := rfl
  rw [← ofSources_eq_iff.1 (hfree _ hperm) k, Sources.resolve_eq, hsame, hleft, hlast]
  rfl

/-- The order in which statements are visited does not matter exactly if all statements about a
setting that is left to them say the same. -/
theorem orderFree_iff_unanimous (s : Sources) :
    OrderFree s ↔ ∀ k, s.mentioned k = none → Unanimous k s.statements := by
  constructor
  · intro hfree k hleft first hfirst second hsecond b c hb hc
    rw [← hfree.resolve_eq hleft hfirst hb, hfree.resolve_eq hleft hsecond hc]
  · intro h visited hperm
    refine ofSources_eq_iff.2 fun k => ?_
    have hsame : { s with statements := visited }.mentioned k = s.mentioned k := rfl
    rw [resolve_eq, resolve_eq, hsame]
    cases hleft : s.mentioned k with
    | none => rw [ofStatements_eq_of_perm (h k hleft) hperm]
    | some b => rfl

def twoSpellings : Text := "FIXSQL_SUMMARY=true\nFIXSQL_summary=false\n".toList

/-- The statements of this file have names of their own, and still their order decides about the
setting. -/
theorem not_orderFree_twoSpellings :
    ∃ statements, (DotEnv.parse (File.encode twoSpellings)).toOption = some statements ∧
      (statements.map Prod.fst).Nodup ∧ ¬ OrderFree ⟨⟨[], []⟩, [], [], statements⟩ := by
  refine ⟨[("FIXSQL_SUMMARY".toList, "true".toList), ("FIXSQL_summary".toList, "false".toList)],
    by decide +kernel, by decide, fun hfree => ?_⟩
  have hreversed := hfree _ (List.Perm.swap _ _ [])
  exact absurd hreversed (by decide +kernel)

end Order

end QueryMigration.Settings.Sources
