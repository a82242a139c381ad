import QueryMigration.Proofs.DataCall.Shape

/-! Where the word `await` is put, by the places of a line. No call starts within a name. -/

namespace QueryMigration.DataCall

open Text

section Places

/-- Whether a direct call starts at a place of a line: the name of a data-access function and a
parenthesis follow, and no word character, point or dollar sign stands before it. -/
def IsCallPlace (line : Text) (i : Nat) : Prop :=
  (∃ f ∈ functions, f ++ ['('] <+: line.drop i) ∧
    ∀ c ∈ (line.take i).getLast?, isWordChar c = false ∧ c ≠ '.' ∧ c ≠ '$'

instance (line : Text) (i : Nat) : Decidable (IsCallPlace line i) :=
  @instDecidableAnd _ _ (List.decidableBEx _ functions) (Option.decidableForallMem _)

def writtenAt (line : Text) (c : Char) (i : Nat) : Text :=
  if IsCallPlace line i then awaitWord ++ [' ', c] else [c]

def writtenFrom (line : Text) (n : Nat) (part : Text) : Text :=
  (part.zipIdx n).flatMap fun (c, i) => writtenAt line c i

def awaited (line : Text) : Text := writtenFrom line 0 line

/-- A line whose calls are to be awaited: it does not have the word and begins with a call, alone or
assigned to a name. -/
structure Qualifies (line : Text) : Prop where
  unawaited : ¬ awaitWord <:+: line
  shape : ∃ m, CallShape m ∧ m <+: line

theorem needsAwait_iff_qualifies {line : Text} : needsAwait line = true ↔ Qualifies line := by
  rw [needsAwait, Bool.and_eq_true, Bool.not_eq_true', Bool.eq_false_iff, hasCallShape_iff, Ne,
    includes_iff]
  exact ⟨fun h => ⟨h.1, h.2⟩, fun h => ⟨h.unawaited, h.shape⟩⟩

instance (line : Text) : Decidable (Qualifies line) := decidable_of_iff _ needsAwait_iff_qualifies

theorem startsName_iff {before : Option Char} : startsName before = true ↔
    ∀ c ∈ before, isWordChar c = false ∧ c ≠ '.' ∧ c ≠ '$' := by
  cases before with
  | none => simp [startsName]
  | some c => simp [startsName, and_assoc]

theorem isCallPlace_append {s r : Text} :
    IsCallPlace (s ++ r) s.length ↔ startsName s.getLast? = true ∧ (callee? r).isSome = true := by
  rw [IsCallPlace, List.drop_left, List.take_left, ← startsName_iff, callee?_isSome_iff, and_comm]
  refine and_congr_right fun _ => exists_congr fun f => and_congr_right fun _ => ?_
  exact exists_congr fun rest => by simp [eq_comm]

theorem awaiting_eq_none_iff {s r : Text} :
    awaiting s.getLast? r = none ↔ ¬ IsCallPlace (s ++ r) s.length := by
  rw [isCallPlace_append, awaiting]
  by_cases hname : startsName s.getLast? = true
  · simp [hname]
  · simp [hname]

end Places

section Scan

theorem writtenFrom_cons (line : Text) (n : Nat) (c : Char) (r : Text) :
    writtenFrom line n (c :: r) = writtenAt line c n ++ writtenFrom line (n + 1) r := by
  rw [writtenFrom, List.zipIdx_cons, List.flatMap_cons]
  rfl

theorem writtenFrom_append (line : Text) (n : Nat) (x y : Text) :
    writtenFrom line n (x ++ y) = writtenFrom line n x ++ writtenFrom line (n + x.length) y := by
  rw [writtenFrom, List.zipIdx_append, List.flatMap_append]
  rfl

theorem writtenFrom_name {s f : Text} (hs : s.getLast?.any isWordChar = true)
    (hf : ∀ c ∈ f, isWordChar c = true) (r : Text) :
    writtenFrom (s ++ (f ++ r)) s.length f = f := by
  induction f generalizing s with
  | nil => rfl
  | cons c f ih =>
    have hplace : ¬ IsCallPlace (s ++ (c :: f ++ r)) s.length := by
      rw [isCallPlace_append]
      intro hcall
      cases hlast : s.getLast? with
      | none => simp [hlast] at hs
      | some b =>
        have hb : isWordChar b = true := by simpa [hlast] using hs
        simp [hlast, startsName, hb] at hcall
    have hrest := ih (s := s ++ [c]) (by simpa using hf c (by simp))
      (fun d hd => hf d (List.mem_cons_of_mem c hd))
    rw [List.append_assoc, List.length_append, List.length_singleton] at hrest
    rw [writtenFrom_cons, writtenAt, if_neg hplace]
    exact congrArg (c :: ·) hrest

/-- The scan of the rest `r` of a line behind `s` writes what the places of `r` call for. -/
theorem awaiting_scan_eq_writtenFrom (s r : Text) :
    awaiting.scan 0 s.getLast? r = writtenFrom (s ++ r) s.length r := by
  refine Rule.scan_induction (motive := fun before r r' => ∀ s : Text, s.getLast? = before →
    r' = writtenFrom (s ++ r) s.length r) lawful_awaiting ?nil ?copy ?edit s.getLast? r s rfl
  case nil =>
    intro _ s _
    rfl
  case copy =>
    intro before c r hnone ih s hs
    subst hs
    have hrest := ih (s ++ [c]) (by simp)
    rw [List.append_assoc, List.length_append, List.length_singleton] at hrest
    rw [writtenFrom_cons, writtenAt, if_neg (awaiting_eq_none_iff.1 hnone), hrest]
    rfl
  case edit =>
    intro before e r hsome ih s hs
    subst hs
    obtain ⟨f, hf, rfl, hne, -⟩ := awaiting_eq_some hsome
    have hplace : IsCallPlace (s ++ (f ++ r)) s.length := by
      by_cases hcall : IsCallPlace (s ++ (f ++ r)) s.length
      · exact hcall
      · rw [awaiting_eq_none_iff.2 hcall] at hsome
        cases hsome
    have hrest := ih (s ++ f) List.getLast?_append
    have hword := isWordChar_of_mem_functions hf
    obtain ⟨c, f, rfl⟩ := List.exists_cons_of_ne_nil hne
    have hname := writtenFrom_name (s := s ++ [c]) (by simpa using hword c (by simp))
      (fun d hd => hword d (List.mem_cons_of_mem c hd)) r
    rw [List.append_assoc, List.length_append, List.length_singleton] at hname
    rw [List.append_assoc, List.length_append] at hrest
    rw [hrest, writtenFrom_append, writtenFrom_cons, writtenAt, if_pos hplace]
    have hcopied : writtenFrom (s ++ (c :: f ++ r)) (s.length + 1) f = f := hname
    rw [hcopied, List.append_assoc]
    simp

theorem awaiting_apply (line : Text) : awaiting.apply line = awaited line :=
  awaiting_scan_eq_writtenFrom [] line

theorem Qualifies.exists_isCallPlace {line : Text} (h : Qualifies line) :
    ∃ i, IsCallPlace line i := by
  obtain ⟨m, hm, rest, rfl⟩ := h.shape
  obtain ⟨s, f, rfl, hf, hname⟩ := hm.exists_call
  refine ⟨s.length, ?_⟩
  rw [List.append_assoc, List.append_assoc, isCallPlace_append]
  exact ⟨hname, callee?_isSome_iff.2 ⟨f, hf, rest, by simp⟩⟩

end Scan

/-- Awaiting keeps the lines apart. A line that qualifies has the word before each direct call and
nowhere else, and it has such a call; any other line stays as it is. -/
theorem lines_await_eq_map (t : Text) :
    (lines (await t) = (lines t).map fun line =>
      if Qualifies line then awaited line else line) ∧
    ∀ line, Qualifies line → ∃ i, IsCallPlace line i := by
  refine ⟨?_, fun line hline => hline.exists_isCallPlace⟩
  rw [lines_await]
  refine List.map_congr_left fun line _ => ?_
  rw [awaitLine, awaiting_apply]
  by_cases h : Qualifies line
  · rw [if_pos h, if_pos (needsAwait_iff_qualifies.2 h)]
  · rw [if_neg h, if_neg fun hneeds => h (needsAwait_iff_qualifies.1 hneeds)]

def nestedCalls : Text := "x = getOne(db.getAll(q), runQuery(r))".toList

theorem lines_await_nestedCalls :
    Qualifies nestedCalls ∧ (∃ i, IsCallPlace nestedCalls i) ∧
    lines (await nestedCalls) = ["x = await getOne(db.getAll(q), await runQuery(r))".toList] := by
  have hqualifies : Qualifies nestedCalls := by decide +kernel
  have hline : lines nestedCalls = [nestedCalls] := by decide
  have hawaited : awaited nestedCalls =
    "x = await getOne(db.getAll(q), await runQuery(r))".toList := by decide +kernel
  obtain ⟨hlines, hcalls⟩ := lines_await_eq_map nestedCalls
  refine ⟨hqualifies, hcalls nestedCalls hqualifies, ?_⟩
  rw [hlines, hline, List.map_singleton, if_pos hqualifies, hawaited]

end QueryMigration.DataCall
