import QueryMigration.Pass
import QueryMigration.Proofs.Declaration.Promotion

/-! The form that the passes behind the numbering bring a text into. No later pass spoils what an
earlier one has reached. -/

namespace QueryMigration.Pass

open Text BooleanLiteral DataCall Declaration

/-- Whether nothing is left to do for the passes behind the numbering: no flag is kept as a number,
every data-access call is awaited and every exported function that has to be is asynchronous. -/
structure Migrated (t : Text) : Prop where
  normal : IsNormal t
  awaited : AllAwaited t
  promoted : IsPromoted t

theorem awaits_spanFree (a w : Text) (h : Awaits a w) : SpanFree w := by
  obtain ⟨ha, rfl⟩ := h
  have hplain : ∀ f ∈ functions, '=' ∉ "wait ".toList ++ f ∧ '?' ∉ "wait ".toList ++ f := by decide
  exact spanFree_of_cut (p := []) (z := 'a') (s := "wait ".toList ++ a) (by decide) (by simp)
    (hplain a ha)

theorem isNormal_promote_await {t : Text} (h : IsNormal t) : IsNormal (promote (DataCall.await t)) := by
  obtain ⟨s, harrow, hfunction⟩ := patchedBy_promote (DataCall.await t)
  have hawait : IsNormal (DataCall.await t) := h.patched awaits_spanFree (patchedBy_await t)
  have hs : IsNormal s := hawait.patched Promotes.spanFree harrow
  exact hs.patched Promotes.spanFree hfunction

theorem allAwaited_promote {t : Text} (h : AllAwaited t) : AllAwaited (promote t) := by
  obtain ⟨s, harrow, hfunction⟩ := patchedBy_promote t
  have hkept := Promotes.kept (m := awaitWord) (Or.inl rfl)
  have hs : AllAwaited s := h.patched Promotes.lineFeed_notMem Promotes.blocks hkept harrow
  exact hs.patched Promotes.lineFeed_notMem Promotes.blocks hkept hfunction

theorem output_migration (t : Text) :
    output migration t = promote (DataCall.await (normalize (Placeholder.number t))) := by
  simp only [output, migration, List.foldl_cons, List.foldl_nil, placeholders, booleans, await,
    async]

theorem migrated_output (t : Text) : Migrated (output migration t) := by
  rw [output_migration]
  exact
    { normal := isNormal_promote_await (isNormal_normalize (Placeholder.number t))
      awaited := allAwaited_promote (allAwaited_await (normalize (Placeholder.number t)))
      promoted := isPromoted_promote (DataCall.await (normalize (Placeholder.number t))) }

def later : List Pass := [booleans, await, async]

theorem Migrated.apply_eq_self {t : Text} (h : Migrated t) {p : Pass} (hp : p ∈ later) :
    p.apply t = t := by
  simp only [later, List.mem_cons, List.not_mem_nil, or_false] at hp
  obtain rfl | rfl | rfl := hp
  · exact normalize_eq_self h.normal
  · exact await_eq_self h.awaited
  · exact promote_eq_self h.promoted

/-- What a migration leaves is migrated, and each pass behind the numbering leaves it alone. -/
theorem output_fixed_by_later_passes (t : Text) :
    Migrated (output migration t) ∧ normalize (output migration t) = output migration t ∧
      DataCall.await (output migration t) = output migration t ∧
      promote (output migration t) = output migration t := by
  have h := migrated_output t
  exact ⟨h, normalize_eq_self h.normal, await_eq_self h.awaited, promote_eq_self h.promoted⟩

/-- Each pass behind the numbering reaches its own form on any text, and does nothing more on what it
has left. -/
theorem later_passes_idempotent (t : Text) :
    (IsNormal (normalize t) ∧ normalize (normalize t) = normalize t) ∧
      (AllAwaited (DataCall.await t) ∧ DataCall.await (DataCall.await t) = DataCall.await t) ∧
      IsPromoted (promote t) ∧ promote (promote t) = promote t := by
  have hnormal := isNormal_normalize t
  have hawaited := allAwaited_await t
  have hpromoted := isPromoted_promote t
  exact ⟨⟨hnormal, normalize_eq_self hnormal⟩, ⟨hawaited, await_eq_self hawaited⟩, hpromoted,
    promote_eq_self hpromoted⟩

end QueryMigration.Pass
