import QueryMigration.Pass
import QueryMigration.Proofs.Text.Split
import Mathlib.Algebra.BigOperators.Fin
import Mathlib.InformationTheory.Hamming

/-! Changed lines are a metric on texts, so the stages of a run bound what it changes as a whole. -/

namespace QueryMigration.Pass

open Text

section Distance

theorem differing_nil (before : List Text) : differing before [] = before.length := by
  cases before with
  | nil => rfl
  | cons a before => rfl

theorem differing_eq_add (before after : List Text) : differing before after =
    (if before.head? = after.head? then 0 else 1) + differing before.tail after.tail := by
  cases before with
  | nil =>
    cases after with
    | nil => rfl
    | cons b after => simp [differing, Nat.add_comm]
  | cons a before =>
    cases after with
    | nil => simp [differing, differing_nil, Nat.add_comm]
    | cons b after => simp [differing]

theorem hammingDist_succ {α : Type} [DecidableEq α] {n : Nat} (x y : Fin (n + 1) → α) :
    hammingDist x y = (if x 0 = y 0 then 0 else 1) +
      hammingDist (fun i => x (Fin.succ i)) (fun i => y (Fin.succ i)) := by
  simp only [hammingDist, Finset.card_filter, Fin.sum_univ_succ, ne_eq, ite_not]

def places (n : Nat) (ls : List Text) (i : Fin n) : Option Text := ls[i.val]?

theorem differing_eq_hammingDist {before after : List Text} {n : Nat} (hbefore : before.length ≤ n)
    (hafter : after.length ≤ n) :
    differing before after = hammingDist (places n before) (places n after) := by
  induction n generalizing before after with
  | zero =>
    obtain rfl := List.length_eq_zero_iff.1 (Nat.le_zero.1 hbefore)
    obtain rfl := List.length_eq_zero_iff.1 (Nat.le_zero.1 hafter)
    simp [differing]
  | succ n ih =>
    have htail (ls : List Text) (h : ls.length ≤ n + 1) : ls.tail.length ≤ n := by
      rw [List.length_tail]
      omega
    have hplaces (ls : List Text) :
        (fun i : Fin n => places (n + 1) ls i.succ) = places n ls.tail := by
      funext i
      simp [places, List.getElem?_tail]
    rw [hammingDist_succ, hplaces, hplaces, ← ih (htail before hbefore) (htail after hafter),
      differing_eq_add, List.head?_eq_getElem?, List.head?_eq_getElem?]
    rfl

theorem differing_eq_zero_iff (before after : List Text) :
    differing before after = 0 ↔ before = after := by
  induction before generalizing after with
  | nil => simp [differing, eq_comm]
  | cons a before ih =>
    cases after with
    | nil => simp [differing]
    | cons b after =>
      rw [differing, Nat.add_eq_zero_iff, ih, List.cons.injEq]
      by_cases hab : a = b <;> simp [hab]

theorem changedLines_eq_zero_iff (before after : Text) :
    changedLines before after = 0 ↔ after = before := by
  rw [changedLines, differing_eq_zero_iff]
  constructor
  · intro h
    exact (lines_injective h).symm
  · intro h
    rw [h]

theorem changedLines_eq_hammingDist {a b : Text} {n : Nat} (ha : (lines a).length ≤ n)
    (hb : (lines b).length ≤ n) :
    changedLines a b = hammingDist (places n (lines a)) (places n (lines b)) :=
  differing_eq_hammingDist ha hb

theorem changedLines_comm (a b : Text) : changedLines a b = changedLines b a := by
  have ha := Nat.le_max_left (lines a).length (lines b).length
  have hb := Nat.le_max_right (lines a).length (lines b).length
  rw [changedLines_eq_hammingDist ha hb, hammingDist_comm, ← changedLines_eq_hammingDist hb ha]

theorem changedLines_triangle (a b c : Text) :
    changedLines a c ≤ changedLines a b + changedLines b c := by
  -- One bound for all three texts, so that the three counts are about the same places.
  obtain ⟨n, ha, hb, hc⟩ : ∃ n, (lines a).length ≤ n ∧ (lines b).length ≤ n ∧
      (lines c).length ≤ n :=
    ⟨(lines a).length + (lines b).length + (lines c).length, by omega, by omega, by omega⟩
  rw [changedLines_eq_hammingDist ha hc, changedLines_eq_hammingDist ha hb,
    changedLines_eq_hammingDist hb hc]
  exact hammingDist_triangle _ _ _

structure IsMetric (distance : Text → Text → Nat) : Prop where
  eq_zero_iff : ∀ a b, distance a b = 0 ↔ a = b
  comm : ∀ a b, distance a b = distance b a
  triangle : ∀ a b c, distance a c ≤ distance a b + distance b c

theorem isMetric_changedLines : IsMetric changedLines where
  eq_zero_iff := fun a b => (changedLines_eq_zero_iff a b).trans eq_comm
  comm := changedLines_comm
  triangle := changedLines_triangle

end Distance

section Reports

def textBefore (passes : List Pass) (t : Text) (i : Nat) : Text := output (passes.take i) t

theorem getElem?_stages (passes : List Pass) (t : Text) (i : Nat) :
    (stages passes t)[i]? = passes[i]?.map fun p =>
      (⟨p.name, changedLines (textBefore passes t i) (p.apply (textBefore passes t i)),
        p.apply (textBefore passes t i)⟩ : Stage) := by
  induction passes generalizing t i with
  | nil => simp [stages]
  | cons p passes ih =>
    cases i with
    | zero => rfl
    | succ i =>
      rw [stages, List.getElem?_cons_succ, ih, List.getElem?_cons_succ]
      rfl

theorem changedLines_output_le (passes : List Pass) (t : Text) :
    changedLines t (output passes t) ≤ ((stages passes t).map Stage.changed).sum := by
  induction passes generalizing t with
  | nil =>
    rw [output, List.foldl_nil, (changedLines_eq_zero_iff t t).2 rfl]
    exact Nat.zero_le _
  | cons p passes ih =>
    calc changedLines t (output (p :: passes) t)
        ≤ changedLines t (p.apply t) + changedLines (p.apply t) (output passes (p.apply t)) :=
          changedLines_triangle _ _ _
      _ ≤ changedLines t (p.apply t) + ((stages passes (p.apply t)).map Stage.changed).sum :=
          Nat.add_le_add_left (ih (p.apply t)) _
      _ = ((stages (p :: passes) t).map Stage.changed).sum := rfl

/-- What the stages of a run report: a stage for each pass in its order, which counts the lines that
differ between what the pass is given and what it makes of it. Together they count no fewer than
differ between what the run is given and what it makes of it. -/
structure Accounted (passes : List Pass) (t : Text) : Prop where
  length : (stages passes t).length = passes.length
  stage : ∀ i, (stages passes t)[i]? = passes[i]?.map fun p =>
    (⟨p.name, changedLines (textBefore passes t i) (p.apply (textBefore passes t i)),
      p.apply (textBefore passes t i)⟩ : Stage)
  total : changedLines t (output passes t) ≤ ((stages passes t).map Stage.changed).sum

/-- Changed lines are the places at which two texts differ. They are a metric on texts, and the
stages of every run bound by it what the run changes. -/
theorem changedLines_metric_accounts_for_runs :
    (∀ a b, changedLines a b = hammingDist
      (places (max (lines a).length (lines b).length) (lines a))
      (places (max (lines a).length (lines b).length) (lines b))) ∧
    IsMetric changedLines ∧ ∀ passes t, Accounted passes t := by
  refine ⟨fun a b => ?_, isMetric_changedLines, fun passes t => ?_⟩
  · exact changedLines_eq_hammingDist (Nat.le_max_left _ _) (Nat.le_max_right _ _)
  · exact ⟨length_stages passes t, getElem?_stages passes t, changedLines_output_le passes t⟩

end Reports

end QueryMigration.Pass
