import QueryMigration.Proofs.Terminal.Painted
import Mathlib.Algebra.Order.BigOperators.Group.List
import Mathlib.Algebra.Order.Group.Nat

/-! The messages that painting leaves as they are: without colours, those on lines of one width. -/

namespace QueryMigration.Terminal

open Text

/-- Whether painting without colours finds nothing to do on a message. -/
structure Even (t : Text) : Prop where
  tab_notMem : '\t' ∉ t
  return_free : ¬ ['\r', '\n'] <:+: t
  one_width : ∀ l ∈ lines t, ∀ m ∈ lines t, columns l = columns m

section Settling

theorem return_prefix_iff {c : Char} {t : Text} :
    ['\r', '\n'] <+: c :: t ↔ c = '\r' ∧ ∃ r, t = '\n' :: r := by
  constructor
  · rintro ⟨r, hr⟩
    obtain ⟨rfl, rfl⟩ := List.cons.inj hr
    exact ⟨rfl, r, rfl⟩
  · rintro ⟨rfl, r, rfl⟩
    exact List.prefix_append ['\r', '\n'] r

theorem settle_cons {c : Char} (htab : c ≠ '\t') {t : Text} (h : ¬ ['\r', '\n'] <+: c :: t) :
    settle (c :: t) = c :: settle t := by
  rw [settle]
  · rw [if_neg htab]
  · intro r hc ht
    exact h (return_prefix_iff.2 ⟨hc, r, ht⟩)

theorem settle_eq_self {t : Text} (htab : '\t' ∉ t) (hreturn : ¬ ['\r', '\n'] <:+: t) :
    settle t = t := by
  induction t with
  | nil => rfl
  | cons c t ih =>
    simp only [List.mem_cons, not_or] at htab
    rw [settle_cons (Ne.symm htab.1) fun h => hreturn h.isInfix,
      ih htab.2 fun h => hreturn (List.infix_cons h)]

theorem settle_concat {c : Char} (htab : c ≠ '\t') (hfeed : c ≠ '\n') (t : Text) :
    settle (t ++ [c]) = settle t ++ [c] := by
  fun_induction settle t with
  | case1 => exact settle_cons htab fun h => by simp at h
  | case2 r ih => simp [settle, ih]
  | case3 r _ ih => simp [settle, ih]
  | case4 d r hne hd ih =>
    have hend : ¬ ['\r', '\n'] <+: d :: (r ++ [c]) := by
      intro h
      obtain ⟨hreturn, s, hs⟩ := return_prefix_iff.1 h
      cases r with
      | nil => exact hfeed (List.cons.inj hs).1
      | cons e r => exact hne r hreturn (by rw [(List.cons.inj hs).1])
    rw [List.cons_append, settle_cons hd hend, ih, List.cons_append]

theorem tab_notMem_settle (t : Text) : '\t' ∉ settle t := by
  fun_induction settle t with
  | case1 => simp
  | case2 r ih => simp [ih]
  | case3 r _ ih => simp [ih]
  | case4 c r _ hc ih => simp [ih, Ne.symm hc]

theorem count_settle {c : Char} (hspace : c ≠ ' ') (htab : c ≠ '\t') (hreturn : c ≠ '\r')
    (t : Text) : (settle t).count c = t.count c := by
  fun_induction settle t with
  | case1 => rfl
  | case2 r ih => simp [List.count_cons, ih, Ne.symm hreturn]
  | case3 r _ ih => simp [ih, Ne.symm htab, Ne.symm hspace]
  | case4 d r _ hd ih => simp [List.count_cons, ih]

theorem count_return_settle_le (t : Text) : (settle t).count '\r' ≤ t.count '\r' := by
  fun_induction settle t with
  | case1 => rfl
  | case2 r ih =>
    simp
    omega
  | case3 r _ ih => simpa [List.count_cons] using ih
  | case4 c r _ hc ih =>
    simp only [List.count_cons]
    omega

theorem count_return_settle_lt {t : Text} (h : ['\r', '\n'] <:+: t) :
    (settle t).count '\r' < t.count '\r' := by
  fun_induction settle t with
  | case1 => simp at h
  | case2 r ih =>
    have hle := count_return_settle_le r
    simp
    omega
  | case3 r hne ih =>
    rw [List.infix_cons_iff, return_prefix_iff] at h
    simpa [List.count_cons] using ih (h.resolve_left (by simp))
  | case4 c r hne hc ih =>
    rw [List.infix_cons_iff, return_prefix_iff] at h
    have hlt := ih (h.resolve_left fun ⟨hreturn, s, hs⟩ => hne s hreturn hs)
    simp only [List.count_cons]
    omega

end Settling

section Painting

def widest (ls : List Text) : Nat := (ls.map columns).foldl max 0

theorem foldl_max_le_iff {xs : List Nat} {a b : Nat} :
    xs.foldl max a ≤ b ↔ a ≤ b ∧ ∀ x ∈ xs, x ≤ b := by
  induction xs generalizing a with
  | nil => simp
  | cons x xs ih => simp [ih, and_assoc]

theorem widest_le_iff {ls : List Text} {b : Nat} : widest ls ≤ b ↔ ∀ l ∈ ls, columns l ≤ b := by
  simp [widest, foldl_max_le_iff]

theorem even_of_line {t : Text} (htab : '\t' ∉ t) (hline : '\n' ∉ t) : Even t where
  tab_notMem := htab
  return_free := fun h => hline (h.mem (by simp))
  one_width := by simp [lines_of_notMem hline]

variable {style : Style} {tone : Tone} {t : Text}

theorem paint_line (hplain : style.plain = false) (hline : '\n' ∉ t) :
    style.paint tone t = style.profile.colour tone (settle t) := by
  have hsettled : '\n' ∉ settle t := fun h =>
    (mem_of_mem_settle h).elim (by decide) hline
  simp [Style.paint, hplain, lines_of_notMem hsettled, padding, unlines]

theorem paint_eq_mapLines (hplain : style.plain = false) :
    style.paint tone t = mapLines (fun l => style.profile.colour tone l ++
      padding (widest ((lines (settle t)).map (style.profile.colour tone)))
        (columns (style.profile.colour tone l))) (settle t) := by
  simp only [Style.paint, hplain, Bool.false_eq_true, if_false, mapLines, widest, List.map_map]
  rfl

theorem paint_ascii (hplain : style.plain = false) (hascii : style.profile = .ascii) :
    style.paint tone t =
      mapLines (fun l => l ++ padding (widest (lines (settle t))) (columns l)) (settle t) := by
  have hcolour : Profile.ascii.colour tone = id := rfl
  simp only [paint_eq_mapLines hplain, hascii, hcolour, List.map_id, id]

theorem exists_codes {profile : Profile} (h : profile ≠ .ascii) (tone : Tone) :
    ∃ codes, profile.codes? tone = some codes := by
  cases profile with
  | ascii => exact absurd rfl h
  | ansi => cases tone <;> exact ⟨_, rfl⟩
  | ansi256 => cases tone <;> exact ⟨_, rfl⟩
  | trueColor => cases tone <;> exact ⟨_, rfl⟩

theorem paint_ne_of_coloured (hplain : style.plain = false) (hcolour : style.profile ≠ .ascii) :
    style.paint tone t ≠ t := by
  obtain ⟨codes, hcodes⟩ := exists_codes hcolour tone
  have hlt : t.count escapeChar < (style.paint tone t).count escapeChar := by
    rw [paint_eq_mapLines hplain, ← count_settle (by decide) (by decide) (by decide) t, mapLines,
      count_unlines (by decide), ← count_lines (by decide) (settle t), List.count_flatten,
      List.count_flatten, List.map_map]
    refine List.sum_lt_sum_of_ne_nil (lines_ne_nil _) _ _ fun l _ => ?_
    have hescape : 0 < (sequence codes).count escapeChar := by simp [sequence]
    simp only [Profile.colour, hcodes, Function.comp_apply, List.count_append]
    omega
  intro h
  rw [h] at hlt
  exact Nat.lt_irrefl _ hlt

theorem mapLines_padding_eq_self_iff {full : Nat} :
    mapLines (fun l => l ++ padding full (columns l)) t = t ↔
      ∀ l ∈ lines t, full ≤ columns l := by
  rw [mapLines_eq_self_iff]
  · simp [padding, Nat.sub_eq_zero_iff_le]
  · intro l hl
    simp [padding, hl]

theorem count_mapLines_padding {c : Char} (hspace : c ≠ ' ') (hfeed : c ≠ '\n') (full : Nat) :
    (mapLines (fun l => l ++ padding full (columns l)) t).count c = t.count c := by
  rw [mapLines, count_unlines hfeed, ← count_lines hfeed t, List.count_flatten, List.count_flatten,
    List.map_map]
  congr 1
  refine List.map_congr_left fun l _ => ?_
  simp [padding, List.count_replicate, Ne.symm hspace]

/-- Painting leaves a message as it is exactly if there are no colours and the message is even. -/
theorem paint_eq_self_iff (hplain : style.plain = false) :
    style.paint tone t = t ↔ style.profile = .ascii ∧ Even t := by
  constructor
  · intro h
    have hascii : style.profile = .ascii := by
      by_contra hcolour
      exact paint_ne_of_coloured hplain hcolour h
    rw [paint_ascii hplain hascii] at h
    have htab : '\t' ∉ t := by
      rw [← List.count_eq_zero, ← h, count_mapLines_padding (by decide) (by decide),
        List.count_eq_zero]
      exact tab_notMem_settle t
    have hreturn : ¬ ['\r', '\n'] <:+: t := by
      intro hinfix
      have hlt := count_return_settle_lt hinfix
      rw [← count_mapLines_padding (by decide) (by decide), h] at hlt
      exact Nat.lt_irrefl _ hlt
    rw [settle_eq_self htab hreturn, mapLines_padding_eq_self_iff] at h
    have hwidest := widest_le_iff.1 (Nat.le_refl (widest (lines t)))
    refine ⟨hascii, htab, hreturn, fun l hl m hm => ?_⟩
    exact Nat.le_antisymm ((hwidest l hl).trans (h m hm)) ((hwidest m hm).trans (h l hl))
  · rintro ⟨hascii, heven⟩
    rw [paint_ascii hplain hascii, settle_eq_self heven.tab_notMem heven.return_free,
      mapLines_padding_eq_self_iff]
    intro l hl
    exact widest_le_iff.2 fun m hm => (heven.one_width m hm l hl).le

end Painting

end QueryMigration.Terminal
