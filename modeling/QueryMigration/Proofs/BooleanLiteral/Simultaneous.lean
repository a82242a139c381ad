import QueryMigration.Proofs.BooleanLiteral.Spans
import Mathlib.Data.List.Perm.Basic

/-! The boolean rules at one stroke: none makes or spoils a flag of another kind, so their order
does not matter. -/

namespace QueryMigration.BooleanLiteral

open Text

section Flags

inductive Kind where
  | compared (value : Bool)
  | chosen
deriving DecidableEq

def numeral : Bool → Char
  | true => '1'
  | false => '0'

def literal : Bool → Text
  | true => "true".toList
  | false => "false".toList

def ConditionEnds (rest : Text) : Prop :=
  IsGap rest ∨ ∃ gap closer, IsGap gap ∧ closer ∈ closers ∧ gap ++ closer <+: rest

/-- A flag of a text: the part that keeps it with what is due in its place, and the text behind. -/
inductive Flag : Kind → Edit → Text → Prop
  | compared {value : Bool} {gap rest : Text} (hgap : IsGap gap) (hends : ConditionEnds rest) :
      Flag (.compared value) ⟨'=' :: (gap ++ [numeral value]), '=' :: ' ' :: literal value⟩ rest
  | chosen {gap₁ gap₂ gap₃ rest : Text} (h₁ : IsGap gap₁) (h₂ : IsGap gap₂) (h₃ : IsGap gap₃) :
      Flag .chosen ⟨'?' :: (gap₁ ++ '1' :: (gap₂ ++ ':' :: (gap₃ ++ ['0']))),
        "? true : false".toList⟩ rest

def Kind.rule : Kind → Rule
  | .compared value => comparison (numeral value) (literal value)
  | .chosen => choice

def Kind.all : List Kind := [.compared true, .compared false, .chosen]

theorem Kind.mem_all (k : Kind) : k ∈ Kind.all := by
  cases k with
  | compared value => cases value <;> decide
  | chosen => decide

theorem endsCondition_iff_conditionEnds {rest : Text} :
    endsCondition rest = true ↔ ConditionEnds rest := by
  simp only [endsCondition_iff, ConditionEnds, List.IsPrefix, eq_comm (b := rest)]
  tauto

theorem isBlank_numeral (value : Bool) : isBlank (numeral value) = false := by
  cases value <;> decide

theorem Kind.rule_eq_some_iff {k : Kind} {before : Option Char} {t : Text} {e : Edit} :
    k.rule before t = some e ↔ ∃ rest, Flag k e rest ∧ t = e.reads ++ rest := by
  cases k with
  | compared value =>
    rw [Kind.rule, comparison_eq_some_iff (isBlank_numeral value)]
    constructor
    · intro h
      obtain ⟨gap, rest, rfl, hgap, hends, rfl⟩ := h
      exact ⟨rest, .compared hgap (endsCondition_iff_conditionEnds.1 hends), by simp⟩
    · intro h
      obtain ⟨rest, hflag, rfl⟩ := h
      cases hflag with
      | @compared _ gap _ hgap hends =>
        exact ⟨gap, rest, by simp, hgap, endsCondition_iff_conditionEnds.2 hends, rfl⟩
  | chosen =>
    rw [Kind.rule, choice_eq_some_iff]
    constructor
    · intro h
      obtain ⟨gap₁, gap₂, gap₃, rest, h₁, h₂, h₃, rfl, rfl⟩ := h
      refine ⟨rest, ?_, by simp⟩
      simpa using (Flag.chosen h₁ h₂ h₃ : Flag .chosen _ rest)
    · intro h
      obtain ⟨rest, hflag, rfl⟩ := h
      cases hflag with
      | @chosen gap₁ gap₂ gap₃ _ h₁ h₂ h₃ =>
        exact ⟨gap₁, gap₂, gap₃, rest, h₁, h₂, h₃, by simp, by simp⟩

theorem Kind.lawful_rule (k : Kind) : k.rule.Lawful := by
  cases k with
  | compared value => cases value with
    | true => exact spansOf_one.lawful
    | false => exact spansOf_zero.lawful
  | chosen => exact spansOf_choice.lawful

def Unsigned (t : Text) : Prop := '=' ∉ t ∧ '?' ∉ t

instance (t : Text) : Decidable (Unsigned t) := inferInstanceAs (Decidable ('=' ∉ t ∧ '?' ∉ t))

theorem unsigned_cons {c : Char} {t : Text} :
    Unsigned (c :: t) ↔ (c ≠ '=' ∧ c ≠ '?') ∧ Unsigned t := by
  simp only [Unsigned, List.mem_cons, not_or, ne_eq, eq_comm]
  tauto

theorem unsigned_append {s t : Text} : Unsigned (s ++ t) ↔ Unsigned s ∧ Unsigned t := by
  simp only [Unsigned, List.mem_append, not_or]
  tauto

theorem unsigned_of_isGap {gap : Text} (h : IsGap gap) : Unsigned gap :=
  ⟨h.notMem (by decide), h.notMem (by decide)⟩

theorem Flag.exists_sign {k : Kind} {e : Edit} {rest : Text} (h : Flag k e rest) :
    ∃ c r w, (c = '=' ∨ c = '?') ∧ e.reads = c :: r ∧ Unsigned r ∧ e.writes = c :: w ∧
      Unsigned w := by
  cases h with
  | @compared value gap _ hgap _ =>
    refine ⟨'=', _, _, Or.inl rfl, rfl, ?_, rfl, ?_⟩
    · refine unsigned_append.2 ⟨unsigned_of_isGap hgap, ?_⟩
      cases value <;> decide
    · cases value <;> decide
  | @chosen gap₁ gap₂ gap₃ _ h₁ h₂ h₃ =>
    refine ⟨'?', _, " true : false".toList, Or.inr rfl, rfl, ?_, rfl, by decide⟩
    simp only [unsigned_append, unsigned_cons, unsigned_of_isGap h₁, unsigned_of_isGap h₂,
      unsigned_of_isGap h₃]
    decide

theorem gap_append_cons_inj {gap gap' rest rest' : Text} {c c' : Char} (hgap : IsGap gap)
    (hgap' : IsGap gap') (hc : isBlank c = false) (hc' : isBlank c' = false)
    (h : gap ++ c :: rest = gap' ++ c' :: rest') : gap = gap' ∧ c = c' ∧ rest = rest' := by
  have hrest : c :: rest = c' :: rest' :=
    rest_eq_of_append_eq hgap (by simpa using hc) hgap' (by simpa using hc') h
  obtain ⟨rfl, rfl⟩ := List.cons.inj hrest
  exact ⟨List.append_cancel_right h, rfl, rfl⟩

theorem numeral_inj {a b : Bool} (h : numeral a = numeral b) : a = b := by
  cases a <;> cases b <;> simp_all [numeral]

theorem Flag.unique {k k' : Kind} {e e' : Edit} {rest rest' : Text} (h : Flag k e rest)
    (h' : Flag k' e' rest') (heq : e.reads ++ rest = e'.reads ++ rest') :
    k = k' ∧ e = e' ∧ rest = rest' := by
  have hone : isBlank '1' = false := by decide
  have hcolon : isBlank ':' = false := by decide
  have hzero : isBlank '0' = false := by decide
  cases h with
  | @compared value gap _ hgap _ =>
    cases h' with
    | @compared value' gap' _ hgap' _ =>
      simp only [List.cons_append, List.append_assoc, List.nil_append, List.cons.injEq,
        true_and] at heq
      obtain ⟨rfl, hnumeral, rfl⟩ :=
        gap_append_cons_inj hgap hgap' (isBlank_numeral value) (isBlank_numeral value') heq
      obtain rfl := numeral_inj hnumeral
      exact ⟨rfl, rfl, rfl⟩
    | chosen => simp at heq
  | @chosen gap₁ gap₂ gap₃ _ h₁ h₂ h₃ =>
    cases h' with
    | compared => simp at heq
    | @chosen gap₁' gap₂' gap₃' _ h₁' h₂' h₃' =>
      simp only [List.cons_append, List.append_assoc, List.nil_append, List.cons.injEq,
        true_and] at heq
      obtain ⟨rfl, -, heq⟩ := gap_append_cons_inj h₁ h₁' hone hone heq
      obtain ⟨rfl, -, heq⟩ := gap_append_cons_inj h₂ h₂' hcolon hcolon heq
      obtain ⟨rfl, -, rfl⟩ := gap_append_cons_inj h₃ h₃' hzero hzero heq
      exact ⟨rfl, rfl, rfl⟩

theorem Flag.writes_ne {k k' : Kind} {e e' : Edit} {rest rest' : Text} (h : Flag k e rest)
    (h' : Flag k' e' rest') (after : Text) : e'.writes ++ after ≠ e.reads ++ rest := by
  have hwrites : ∃ c d w, e'.writes = c :: ([' '] ++ d :: w) ∧ isBlank d = false ∧
      ∀ value, d ≠ numeral value := by
    cases h' with
    | @compared value' =>
      cases value' with
      | true => exact ⟨'=', 't', "rue".toList, rfl, by decide, by decide⟩
      | false => exact ⟨'=', 'f', "alse".toList, rfl, by decide, by decide⟩
    | chosen => exact ⟨'?', 't', "rue : false".toList, rfl, by decide, by decide⟩
  have hreads : ∃ c gap value r, e.reads = c :: (gap ++ numeral value :: r) ∧ IsGap gap := by
    cases h with
    | @compared value gap _ hgap => exact ⟨'=', gap, value, [], rfl, hgap⟩
    | @chosen gap _ _ _ hgap => exact ⟨'?', gap, true, _, rfl, hgap⟩
  obtain ⟨c, d, w, hwrites, hd, hne⟩ := hwrites
  obtain ⟨c', gap, value, r, hreads, hgap⟩ := hreads
  intro heq
  simp only [hwrites, hreads, List.cons_append, List.append_assoc] at heq
  have hspace : IsGap [' '] := by simp [IsGap, isBlank]
  have hinj := gap_append_cons_inj hspace hgap hd (isBlank_numeral value) (List.cons.inj heq).2
  exact hne value hinj.2.1

theorem Flag.exists_append {k k' : Kind} {e e' : Edit} {s v v' : Text} (h : Flag k e v)
    (h' : Flag k' e' v') (heq : e.reads ++ v = s ++ (e'.reads ++ v')) (hs : s ≠ []) :
    ∃ between, s = e.reads ++ between ∧ v = between ++ (e'.reads ++ v') := by
  obtain ⟨c, r, -, -, hreads, hr, -, -⟩ := h.exists_sign
  obtain ⟨c', r', -, hc', hreads', -, -, -⟩ := h'.exists_sign
  cases List.append_eq_append_iff.1 heq with
  | inl hbehind => exact hbehind
  | inr hwithin =>
    obtain ⟨part, hpart, hrest⟩ := hwithin
    cases part with
    | nil => exact ⟨[], by simpa using hpart.symm, by simpa using hrest.symm⟩
    | cons d part =>
      -- The sign of the second flag would stand among the other characters of the first.
      obtain ⟨b, s, rfl⟩ := List.exists_cons_of_ne_nil hs
      rw [hreads, List.cons_append] at hpart
      rw [hreads', List.cons_append, List.cons_append] at hrest
      have hd : d = c' := ((List.cons.inj hrest).1).symm
      rw [(List.cons.inj hpart).2, unsigned_append, unsigned_cons, hd] at hr
      cases hc' with
      | inl hequals => exact absurd hequals hr.2.1.1
      | inr hquestion => exact absurd hquestion hr.2.1.2

theorem Flag.disjoint {k k' : Kind} {e e' : Edit} {u u' v v' : Text} (h : Flag k e v)
    (h' : Flag k' e' v') (heq : u ++ (e.reads ++ v) = u' ++ (e'.reads ++ v'))
    (hlt : u.length < u'.length) : u.length + e.reads.length ≤ u'.length := by
  cases List.append_eq_append_iff.1 heq with
  | inl hbehind =>
    obtain ⟨s, rfl, hs⟩ := hbehind
    have hne : s ≠ [] := by
      intro hnil
      simp [hnil] at hlt
    obtain ⟨between, rfl, -⟩ := h.exists_append h' hs hne
    simp only [List.length_append]
    omega
  | inr hbefore =>
    obtain ⟨s, rfl, -⟩ := hbefore
    simp only [List.length_append] at hlt
    omega

end Flags

section Replacing

def Begins (kinds : List Kind) (t : Text) : Prop :=
  ∃ k ∈ kinds, ∃ e rest, Flag k e rest ∧ t = e.reads ++ rest

/-- The second text is the first with all flags of some kinds replaced. -/
inductive Normalized (kinds : List Kind) : Text → Text → Prop
  | nil : Normalized kinds [] []
  | copy {c : Char} {r r' : Text} (here : ¬ Begins kinds (c :: r)) (rest : Normalized kinds r r') :
      Normalized kinds (c :: r) (c :: r')
  | flag {k : Kind} {e : Edit} {r r' : Text} (hk : k ∈ kinds) (here : Flag k e r)
      (rest : Normalized kinds r r') : Normalized kinds (e.reads ++ r) (e.writes ++ r')

variable {kinds : List Kind} {k : Kind} {e : Edit} {t t' : Text}

theorem normalized_nil (t : Text) : Normalized [] t t := by
  induction t with
  | nil => exact .nil
  | cons c t ih => exact .copy (by simp [Begins]) ih

theorem Normalized.unique {s s' : Text} (h : Normalized kinds t s) (h' : Normalized kinds t s') :
    s = s' := by
  induction h generalizing s' with
  | nil =>
    generalize ht : ([] : Text) = t at h'
    cases h' with
    | nil => rfl
    | copy => simp at ht
    | flag _ here =>
      obtain ⟨c, r, -, -, hreads, -⟩ := here.exists_sign
      simp [hreads] at ht
  | @copy c r r' here rest ih =>
    generalize ht : c :: r = t at h'
    cases h' with
    | nil => simp at ht
    | copy _ rest' =>
      obtain ⟨rfl, rfl⟩ := List.cons.inj ht
      rw [ih rest']
    | flag hk flag => exact absurd ⟨_, hk, _, _, flag, ht⟩ here
  | @flag k e r r' hk here rest ih =>
    generalize ht : e.reads ++ r = t at h'
    cases h' with
    | nil =>
      obtain ⟨c, r, -, -, hreads, -⟩ := here.exists_sign
      simp [hreads] at ht
    | copy hnone => exact absurd ⟨_, hk, _, _, here, ht.symm⟩ hnone
    | flag hk' here' rest' =>
      obtain ⟨rfl, rfl, rfl⟩ := here.unique here' ht
      rw [ih rest']

theorem Normalized.eq_nil_iff (h : Normalized kinds t t') : t = [] ↔ t' = [] := by
  cases h with
  | nil => simp
  | copy => simp
  | flag _ here =>
    obtain ⟨c, r, w, -, hreads, -, hwrites, -⟩ := here.exists_sign
    simp [hreads, hwrites]

theorem Normalized.exists_unsigned_append {p : Text} (hp : Unsigned p) (h : Normalized kinds t t')
    (hbegins : p <+: t ∨ p <+: t') :
    ∃ r r', t = p ++ r ∧ t' = p ++ r' ∧ Normalized kinds r r' := by
  induction p generalizing t t' with
  | nil => exact ⟨t, t', rfl, rfl, h⟩
  | cons c p ih =>
    obtain ⟨hc, hp⟩ := unsigned_cons.1 hp
    cases h with
    | nil => simp at hbegins
    | copy _ rest =>
      simp only [List.cons_prefix_cons, ← and_or_left] at hbegins
      obtain ⟨rfl, hbegins⟩ := hbegins
      obtain ⟨r, r', rfl, rfl, hr⟩ := ih hp rest hbegins
      exact ⟨r, r', rfl, rfl, hr⟩
    | flag _ here =>
      obtain ⟨d, s, w, hd, hreads, -, hwrites, -⟩ := here.exists_sign
      simp only [hreads, hwrites, List.cons_append, List.cons_prefix_cons, ← and_or_left] at hbegins
      obtain ⟨rfl, -⟩ := hbegins
      simp [hc] at hd

theorem Normalized.prefix_iff {p : Text} (hp : Unsigned p) (h : Normalized kinds t t') :
    p <+: t ↔ p <+: t' := by
  constructor
  · intro hbegins
    obtain ⟨r, r', -, rfl, -⟩ := h.exists_unsigned_append hp (Or.inl hbegins)
    exact List.prefix_append p r'
  · intro hbegins
    obtain ⟨r, r', rfl, -, -⟩ := h.exists_unsigned_append hp (Or.inr hbegins)
    exact List.prefix_append p r

theorem Normalized.isGap_iff (h : Normalized kinds t t') : IsGap t ↔ IsGap t' := by
  constructor
  · intro hgap
    obtain ⟨r, r', ht, rfl, hr⟩ :=
      h.exists_unsigned_append (unsigned_of_isGap hgap) (Or.inl (List.prefix_refl t))
    rw [hr.eq_nil_iff.1 (by simpa using ht), List.append_nil]
    exact hgap
  · intro hgap
    obtain ⟨r, r', rfl, ht', hr⟩ :=
      h.exists_unsigned_append (unsigned_of_isGap hgap) (Or.inr (List.prefix_refl t'))
    rw [hr.eq_nil_iff.2 (by simpa using ht'), List.append_nil]
    exact hgap

theorem Normalized.conditionEnds_iff (h : Normalized kinds t t') :
    ConditionEnds t ↔ ConditionEnds t' := by
  have hclosers : ∀ closer ∈ closers, Unsigned closer := by decide
  refine or_congr h.isGap_iff (exists_congr fun gap => exists_congr fun closer => ?_)
  refine and_congr_right fun hgap => and_congr_right fun hcloser => ?_
  exact h.prefix_iff (unsigned_append.2 ⟨unsigned_of_isGap hgap, hclosers closer hcloser⟩)

theorem Flag.congr {r r' : Text} (h : Flag k e r) (hends : ConditionEnds r → ConditionEnds r') :
    Flag k e r' := by
  cases h with
  | compared hgap hr => exact .compared hgap (hends hr)
  | chosen h₁ h₂ h₃ => exact .chosen h₁ h₂ h₃

/-- A flag of a kind that is not replaced stands in both texts or in none. -/
theorem Normalized.exists_flag {s : Text} (h : Normalized kinds t t') (hk : k ∉ kinds)
    (hflag : Flag k e s) (hbegins : t = e.reads ++ s ∨ t' = e.reads ++ s) :
    ∃ r r', t = e.reads ++ r ∧ t' = e.reads ++ r' ∧ Flag k e r ∧ Flag k e r' ∧
      Normalized kinds r r' := by
  obtain ⟨c, part, -, -, hreads, hpart, -⟩ := hflag.exists_sign
  cases h with
  | nil => simp [hreads] at hbegins
  | copy here rest =>
    simp only [hreads, List.cons_append, List.cons.injEq, ← and_or_left] at hbegins
    obtain ⟨rfl, hbegins⟩ := hbegins
    have hprefix := hbegins.imp (fun h => h ▸ List.prefix_append part s)
      (fun h => h ▸ List.prefix_append part s)
    obtain ⟨r, r', rfl, rfl, hr⟩ := rest.exists_unsigned_append hpart hprefix
    have hboth : Flag k e r ∧ Flag k e r' := by
      cases hbegins with
      | inl hold =>
        obtain rfl := List.append_cancel_left hold
        exact ⟨hflag, hflag.congr hr.conditionEnds_iff.1⟩
      | inr hnew =>
        obtain rfl := List.append_cancel_left hnew
        exact ⟨hflag.congr hr.conditionEnds_iff.2, hflag⟩
    exact ⟨r, r', by simp [hreads], by simp [hreads], hboth.1, hboth.2, hr⟩
  | @flag k' e' r r' hk' here rest =>
    cases hbegins with
    | inl hold =>
      obtain ⟨rfl, -⟩ := here.unique hflag hold
      exact absurd hk' hk
    | inr hnew => exact absurd hnew (hflag.writes_ne here r')

/-- Whether `out` is `t'` with the flags of a further kind replaced. The text `t'` may begin with the
rest `s` of a literal, which stays; what follows comes from some text whose flags of the earlier
kinds are replaced. -/
def Continues (kinds : List Kind) (k : Kind) (t' out : Text) : Prop :=
  ∀ s r r', t' = s ++ r' → Unsigned s → Normalized kinds r r' →
    ∃ out', out = s ++ out' ∧ Normalized (k :: kinds) r out'

theorem continues_nil : Continues kinds k [] [] := by
  intro s r r' hs hunsigned hr
  obtain ⟨rfl, rfl⟩ := List.append_eq_nil_iff.1 hs.symm
  obtain rfl := hr.eq_nil_iff.2 rfl
  exact ⟨[], rfl, .nil⟩

theorem Continues.copy {before : Option Char} {c : Char} {out : Text} (hk : k ∉ kinds)
    (hnone : k.rule before (c :: t') = none) (h : Continues kinds k t' out) :
    Continues kinds k (c :: t') (c :: out) := by
  intro s r r' hs hunsigned hr
  cases s with
  | cons d s =>
    obtain ⟨rfl, htail⟩ := List.cons.inj hs
    obtain ⟨out', rfl, hout'⟩ := h s r r' htail (unsigned_cons.1 hunsigned).2 hr
    exact ⟨out', rfl, hout'⟩
  | nil =>
    rw [List.nil_append] at hs
    subst hs
    have hpasses : ¬ Begins [k] r := by
      intro hbegins
      obtain ⟨_, hmem, e, q, hflag, hq⟩ := hbegins
      obtain rfl := List.mem_singleton.1 hmem
      obtain ⟨_, q', -, hq', -, hflag', -⟩ := hr.exists_flag hk hflag (Or.inl hq)
      rw [Kind.rule_eq_some_iff.2 ⟨q', hflag', hq'⟩] at hnone
      cases hnone
    generalize ht' : c :: t' = r' at hr
    cases hr with
    | nil => simp at ht'
    | @copy d q q' here rest =>
      obtain ⟨rfl, rfl⟩ := List.cons.inj ht'
      obtain ⟨_, rfl, hout⟩ := h [] q t' rfl (by decide) rest
      refine ⟨_, rfl, .copy ?_ hout⟩
      intro hbegins
      obtain ⟨k', hmem, hflag⟩ := hbegins
      cases List.mem_cons.1 hmem with
      | inl heq => exact hpasses ⟨k', by simp [heq], hflag⟩
      | inr hmem => exact here ⟨k', hmem, hflag⟩
    | @flag k' e q q' hk' here rest =>
      -- The scan goes on within the literal, which has no sign but its first.
      obtain ⟨d, -, w, -, -, -, hwrites, hw⟩ := here.exists_sign
      rw [hwrites] at ht'
      obtain ⟨rfl, rfl⟩ := List.cons.inj ht'
      obtain ⟨out', rfl, hout'⟩ := h w q q' rfl hw rest
      refine ⟨e.writes ++ out', ?_, .flag (List.mem_cons_of_mem k hk') here hout'⟩
      rw [hwrites]
      rfl

theorem Continues.edit {out : Text} (hk : k ∉ kinds) (hflag : Flag k e t')
    (h : Continues kinds k t' out) : Continues kinds k (e.reads ++ t') (e.writes ++ out) := by
  intro s r r' hs hunsigned hr
  obtain ⟨c, part, -, hc, hreads, -⟩ := hflag.exists_sign
  cases s with
  | cons d s =>
    rw [hreads] at hs
    obtain rfl := (List.cons.inj hs).1
    simp [(unsigned_cons.1 hunsigned).1] at hc
  | nil =>
    rw [List.nil_append] at hs
    obtain ⟨q, q', rfl, hq', hflagq, -, hq⟩ := hr.exists_flag hk hflag (Or.inr hs.symm)
    rw [← hs] at hq'
    obtain rfl := List.append_cancel_left hq'
    obtain ⟨_, rfl, hout⟩ := h [] q t' rfl (by decide) hq
    exact ⟨_, rfl, .flag List.mem_cons_self hflagq hout⟩

theorem Normalized.apply_rule (h : Normalized kinds t t') (hk : k ∉ kinds) :
    Normalized (k :: kinds) t (k.rule.apply t') := by
  have hscan : Continues kinds k t' (k.rule.scan 0 none t') := by
    refine Rule.scan_induction (motive := fun _ t' out => Continues kinds k t' out) k.lawful_rule
      ?nil ?copy ?edit none t'
    case nil =>
      intro before
      exact continues_nil
    case copy =>
      intro before c r hnone ih
      exact ih.copy hk hnone
    case edit =>
      intro before e r hsome ih
      obtain ⟨rest, hflag, hrest⟩ := Kind.rule_eq_some_iff.1 hsome
      obtain rfl := List.append_cancel_left hrest
      exact ih.edit hk hflag
  obtain ⟨out, hout, hnorm⟩ := hscan [] t t' rfl (by decide) h
  rw [Rule.apply, hout]
  exact hnorm

theorem Normalized.of_perm {kinds' : List Kind} (h : Normalized kinds t t')
    (hperm : kinds.Perm kinds') : Normalized kinds' t t' := by
  induction h with
  | nil => exact .nil
  | copy here _ ih =>
    refine .copy ?_ ih
    intro hbegins
    obtain ⟨k, hk, hflag⟩ := hbegins
    exact here ⟨k, hperm.mem_iff.2 hk, hflag⟩
  | flag hk here _ ih => exact .flag (hperm.mem_iff.1 hk) here ih

/-- Rules of different kinds, one after the other, replace the flags of all these kinds in the
original text. -/
theorem Normalized.foldl_rules (h : Normalized kinds t t') (order : List Kind)
    (hnodup : (order ++ kinds).Nodup) :
    Normalized (order ++ kinds) t
      ((order.map Kind.rule).foldl (fun t rule => rule.apply t) t') := by
  induction order generalizing kinds t' with
  | nil => exact h
  | cons k order ih =>
    have hmiddle : (order ++ k :: kinds).Perm (k :: order ++ kinds) := List.perm_middle
    have hk : k ∉ kinds := fun hmem =>
      (List.nodup_cons.1 hnodup).1 (List.mem_append_right order hmem)
    exact (ih (h.apply_rule hk) (hmiddle.nodup_iff.2 hnodup)).of_perm hmiddle

theorem normalized_foldl {order : List Rule} (horder : order.Perm rules) (t : Text) :
    Normalized Kind.all t (order.foldl (fun t rule => rule.apply t) t) := by
  have hkinds : Relation.Comp (· = List.map Kind.rule ·) List.Perm order Kind.all := by
    rw [List.eq_map_comp_perm]
    exact horder
  obtain ⟨kinds, rfl, hperm⟩ := hkinds
  rw [← List.append_nil kinds] at hperm
  have hnodup : (kinds ++ []).Nodup := hperm.nodup_iff.2 (by decide)
  exact ((normalized_nil t).foldl_rules kinds hnodup).of_perm hperm

end Replacing

section Pieces

def readBy (pieces : List Edit) : Text := pieces.flatMap Edit.reads

def writtenBy (pieces : List Edit) : Text := pieces.flatMap Edit.writes

/-- A text cut into pieces of which exactly its flags are replaced: any other piece stays as it is,
and each flag of the text is a piece. -/
structure CutAtFlags (t : Text) (pieces : List Edit) : Prop where
  whole : readBy pieces = t
  piece : ∀ before e after, pieces = before ++ e :: after →
    e.writes = e.reads ∨ ∃ k, Flag k e (readBy after)
  flag : ∀ u k e v, t = u ++ (e.reads ++ v) → Flag k e v →
    ∃ before after, pieces = before ++ e :: after ∧ readBy before = u ∧ readBy after = v

theorem CutAtFlags.nil : CutAtFlags [] [] where
  whole := rfl
  piece := by simp
  flag := by
    intro u k e v heq hflag
    obtain ⟨c, r, -, -, hreads, -⟩ := hflag.exists_sign
    simp [hreads] at heq

theorem CutAtFlags.copy {c : Char} {r : Text} {pieces : List Edit} (here : ¬ Begins Kind.all (c :: r))
    (h : CutAtFlags r pieces) : CutAtFlags (c :: r) (⟨[c], [c]⟩ :: pieces) where
  whole := by
    rw [← h.whole]
    rfl
  piece := by
    intro before e after heq
    cases before with
    | nil =>
      obtain ⟨rfl, rfl⟩ := List.cons.inj heq
      exact Or.inl rfl
    | cons d before => exact h.piece before e after (List.cons.inj heq).2
  flag := by
    intro u k e v heq hflag
    cases u with
    | nil => exact absurd ⟨k, k.mem_all, e, v, hflag, heq⟩ here
    | cons d u =>
      obtain ⟨rfl, htail⟩ := List.cons.inj heq
      obtain ⟨before, after, rfl, rfl, rfl⟩ := h.flag u k e v htail hflag
      exact ⟨⟨[c], [c]⟩ :: before, after, rfl, rfl, rfl⟩

theorem CutAtFlags.cons {k : Kind} {e : Edit} {r : Text} {pieces : List Edit} (here : Flag k e r)
    (h : CutAtFlags r pieces) : CutAtFlags (e.reads ++ r) (e :: pieces) where
  whole := by
    rw [← h.whole]
    rfl
  piece := by
    intro before e' after heq
    cases before with
    | nil =>
      obtain ⟨rfl, rfl⟩ := List.cons.inj heq
      exact Or.inr ⟨k, h.whole ▸ here⟩
    | cons d before => exact h.piece before e' after (List.cons.inj heq).2
  flag := by
    intro u k' e' v heq hflag
    by_cases hu : u = []
    · subst hu
      obtain ⟨-, rfl, rfl⟩ := here.unique hflag heq
      exact ⟨[], pieces, rfl, rfl, h.whole⟩
    · obtain ⟨between, rfl, hrest⟩ := here.exists_append hflag heq hu
      obtain ⟨before, after, rfl, rfl, rfl⟩ := h.flag between k' e' v hrest hflag
      exact ⟨e :: before, after, rfl, rfl, rfl⟩

theorem Normalized.exists_pieces {t t' : Text} (h : Normalized Kind.all t t') :
    ∃ pieces, CutAtFlags t pieces ∧ t' = writtenBy pieces := by
  induction h with
  | nil => exact ⟨[], .nil, rfl⟩
  | @copy c r r' here _ ih =>
    obtain ⟨pieces, hcut, rfl⟩ := ih
    exact ⟨⟨[c], [c]⟩ :: pieces, hcut.copy here, rfl⟩
  | @flag k e r r' _ here _ ih =>
    obtain ⟨pieces, hcut, rfl⟩ := ih
    exact ⟨e :: pieces, hcut.cons here, rfl⟩

/-- The boolean rules act at one stroke. In whatever order they are applied, the outcome is the text
with exactly its flags replaced, each by its literal. These are found on the original text and do not
overlap. -/
theorem normalize_at_one_stroke (t : Text) :
    (∀ order : List Rule, order.Perm rules →
      order.foldl (fun t rule => rule.apply t) t = normalize t) ∧
    (∃ pieces, CutAtFlags t pieces ∧ normalize t = writtenBy pieces) ∧
    (∀ u u' k k' e e' v v', t = u ++ (e.reads ++ v) → Flag k e v → t = u' ++ (e'.reads ++ v') →
      Flag k' e' v' → (u = u' ∧ e = e') ∨ u.length + e.reads.length ≤ u'.length ∨
        u'.length + e'.reads.length ≤ u.length) := by
  have hnormalize : Normalized Kind.all t (normalize t) := normalized_foldl (List.Perm.refl rules) t
  refine ⟨?_, hnormalize.exists_pieces, ?_⟩
  · intro order horder
    exact (normalized_foldl horder t).unique hnormalize
  · intro u u' k k' e e' v v' ht hflag ht' hflag'
    have heq := ht.symm.trans ht'
    rcases Nat.lt_trichotomy u.length u'.length with hlt | hlen | hlt
    · exact Or.inr (Or.inl (hflag.disjoint hflag' heq hlt))
    · obtain ⟨rfl, hrest⟩ := List.append_inj heq hlen
      obtain ⟨-, rfl, -⟩ := hflag.unique hflag' hrest
      exact Or.inl ⟨rfl, rfl⟩
    · exact Or.inr (Or.inr (hflag'.disjoint hflag heq.symm hlt))

def mixedFlags : Text := "a = 1 AND (b =\n0)\nc ? 1:0 = 1 ? 1 : 0".toList

theorem normalize_at_one_stroke_mixedFlags :
    rules.reverse.Perm rules ∧
      rules.reverse.foldl (fun t rule => rule.apply t) mixedFlags = normalize mixedFlags ∧
      normalize mixedFlags = "a = true AND (b = false)\nc ? true : false = 1 ? true : false".toList := by
  refine ⟨rules.reverse_perm, ?_, by decide +kernel⟩
  exact (normalize_at_one_stroke mixedFlags).1 rules.reverse rules.reverse_perm

end Pieces

end QueryMigration.BooleanLiteral
