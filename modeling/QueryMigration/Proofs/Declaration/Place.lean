import QueryMigration.Proofs.Declaration.Header
import QueryMigration.Proofs.Text.Edited

/-! The places of headers before and after promotion. What follows the closing parenthesis tells the
two apart. -/

namespace QueryMigration.Declaration

open Text

section Shape

/-- What plain and promoted headers have in common: how they begin, one closing parenthesis, and that
nothing behind it looks like a beginning. -/
structure Parenthesised (m front back : Text) : Prop where
  eq : m = front ++ ')' :: back
  start : ∃ r, front = 'e' :: 'x' :: r
  front_notMem : ')' ∉ front
  back_notMem : 'x' ∉ back
  back_last : back.getLast? ≠ some 'e'

variable {m w front front' back back' : Text}

theorem Parenthesised.exists_cons (h : Parenthesised m front back) : ∃ r, m = 'e' :: r := by
  obtain ⟨r, hr⟩ := h.start
  rw [h.eq, hr]
  exact ⟨_, rfl⟩

theorem append_ne_start {c p q y r : Text} (hx : 'x' ∉ c) (he : c.getLast? ≠ some 'e')
    (hc : c = p ++ q) (hne : q ≠ []) : q ++ y ≠ 'e' :: 'x' :: r := by
  subst hc
  intro heq
  obtain ⟨a, q, rfl⟩ := List.exists_cons_of_ne_nil hne
  obtain ⟨ha, htail⟩ := List.cons.inj heq
  cases q with
  | nil => simp [ha] at he
  | cons b q =>
    have hb : b = 'x' := (List.cons.inj htail).1
    simp [hb] at hx

theorem blocks_start {c : Text} (hx : 'x' ∉ c) (he : c.getLast? ≠ some 'e') (r : Text) :
    Blocks c ('e' :: 'x' :: r) := by
  refine blocks_of_ends fun x q y hc hne hpre => ?_
  obtain ⟨y', hq⟩ := hpre
  exact append_ne_start hx he hc hne hq

theorem prefix_cut {z : Char} {s s' r r' : Text} (hs : z ∉ s) (hs' : z ∉ s')
    (h : s ++ z :: r <+: s' ++ z :: r') : s = s' ∧ r <+: r' := by
  have hcut {p : Text} (hp : z ∉ p) (q : Text) : (p ++ z :: q).takeWhile (· != z) = p :=
    takeWhile_append_rest (fun c hc => bne_iff_ne.2 fun heq => hp (heq ▸ hc)) (by simp)
  obtain ⟨q, hq⟩ := h
  have hfront : s = s' := by
    rw [← hcut hs (r ++ q), ← hcut hs' r', ← hq]
    simp
  subst hfront
  rw [List.append_assoc] at hq
  exact ⟨rfl, q, (List.cons.inj (List.append_cancel_left hq)).2⟩

/-- Headers that differ behind their parentheses do not reach into each other. -/
theorem Parenthesised.blocks (h : Parenthesised m front back) (h' : Parenthesised w front' back')
    (hclash : ∀ y, ¬ back <+: back' ++ y) : Blocks m w := by
  intro x y hpre
  obtain ⟨r, hr⟩ := h'.start
  by_cases hx : ')' ∈ x
  · -- The parenthesis of `m` stands before `w`, which does not begin within what follows.
    obtain ⟨x₁, x₂, rfl, hx₁⟩ := List.eq_append_cons_of_mem hx
    rw [h.eq, List.append_assoc, List.append_assoc] at hpre
    obtain ⟨rfl, hback⟩ := prefix_cut h.front_notMem hx₁ hpre
    have hblocks : Blocks back front' := by
      rw [hr]
      exact blocks_start h.back_notMem h.back_last r
    have hbefore : back <+: x₂ ++ front' ++ (')' :: back' ++ y) := by
      simpa [h'.eq] using hback
    rw [h.eq, List.prefix_append_right_inj, List.cons_prefix_cons]
    exact ⟨rfl, hblocks x₂ _ hbefore⟩
  · -- It would be that of `w`, with the wrong text behind it.
    have hfront : ')' ∉ x ++ front' := by simp [hx, h'.front_notMem]
    rw [h.eq, h'.eq, ← List.append_assoc, List.append_assoc _ _ y] at hpre
    exact absurd (prefix_cut h.front_notMem hfront hpre).2 (hclash y)

/-- No header begins within one that differs from it behind the parenthesis. -/
theorem Parenthesised.not_within (h : Parenthesised m front back)
    (h' : Parenthesised w front' back') (hclash : ∀ y, ¬ back <+: back' ++ y) {w₁ w₂ : Text}
    (hw : w = w₁ ++ w₂) (hne : w₂ ≠ []) (y : Text) : ¬ m <+: w₂ ++ y := by
  intro hpre
  rw [h'.eq] at hw
  cases List.append_eq_append_iff.1 hw with
  | inl hbehind =>
    obtain ⟨s, -, hs⟩ := hbehind
    obtain ⟨r, hr⟩ := h.start
    obtain ⟨y', hy'⟩ := hpre
    rw [h.eq, hr] at hy'
    cases s with
    | nil =>
      rw [List.nil_append] at hs
      simp [← hs] at hy'
    | cons a s =>
      exact append_ne_start h'.back_notMem h'.back_last (List.cons.inj hs).2 hne hy'.symm
  | inr hwithin =>
    obtain ⟨s, hs, rfl⟩ := hwithin
    have hfront : ')' ∉ s := fun hmem => h'.front_notMem (by simp [hs, hmem])
    rw [h.eq, List.append_assoc] at hpre
    exact hclash y (prefix_cut h.front_notMem hfront hpre).2

def IsPlain (m : Text) : Prop :=
  ∃ front back, Parenthesised m front back ∧
    ∃ gap r, ∃ type : ReturnType, IsGap gap ∧ back = ':' :: (gap ++ (type.text ++ r))

def IsPromised (w : Text) : Prop :=
  ∃ front back, Parenthesised w front back ∧ ∃ r, back = ':' :: ' ' :: 'P' :: r

theorem type_ne_promise {gap : Text} (hgap : IsGap gap) (type : ReturnType) (r r' : Text) :
    ':' :: (gap ++ (type.text ++ r)) ≠ ':' :: ' ' :: 'P' :: r' := by
  intro heq
  have hspace : IsGap [' '] := by simp [IsGap, isBlank]
  have hrest : type.text ++ r = 'P' :: r' :=
    rest_eq_of_append_eq hgap ((isWord_text type).head_append r) hspace rfl (List.cons.inj heq).2
  cases type with
  | void => exact absurd (List.cons.inj hrest).1 (by decide)
  | response => exact absurd (List.cons.inj hrest).1 (by decide)

theorem not_prefix_promise {gap : Text} (hgap : IsGap gap) (type : ReturnType) (r r' y : Text) :
    ¬ ':' :: (gap ++ (type.text ++ r)) <+: ':' :: ' ' :: 'P' :: r' ++ y := by
  intro hpre
  obtain ⟨s, hs⟩ := hpre
  exact type_ne_promise hgap type (r ++ s) (r' ++ y) (by simpa using hs)

theorem IsPlain.blocks (h : IsPlain m) (h' : IsPromised w) : Blocks m w ∧ Blocks w m := by
  obtain ⟨front, _, hm, gap, r, type, hgap, rfl⟩ := h
  obtain ⟨front', _, hw, r', rfl⟩ := h'
  constructor
  · exact hm.blocks hw (not_prefix_promise hgap type r r')
  · refine hw.blocks hm fun y hpre => ?_
    obtain ⟨s, hs⟩ := hpre
    exact type_ne_promise hgap type (r ++ y) (r' ++ s) (by simpa using hs.symm)

theorem IsPlain.not_within (h : IsPlain m) (h' : IsPromised w) {w₁ w₂ : Text} (hw : w = w₁ ++ w₂)
    (hne : w₂ ≠ []) (y : Text) : ¬ m <+: w₂ ++ y := by
  obtain ⟨front, _, hm, gap, r, type, hgap, rfl⟩ := h
  obtain ⟨front', _, hw', r', rfl⟩ := h'
  exact hm.not_within hw' (not_prefix_promise hgap type r r') hw hne y

theorem IsPlain.exists_cons (h : IsPlain m) : ∃ r, m = 'e' :: r := by
  obtain ⟨_, _, hm, -⟩ := h
  exact hm.exists_cons

theorem IsPromised.exists_cons (h : IsPromised w) : ∃ r, w = 'e' :: r := by
  obtain ⟨_, _, hw, -⟩ := h
  exact hw.exists_cons

end Shape

section Headers

theorem notMem_type (type : ReturnType) : 'x' ∉ type.text := by
  cases type <;> decide

theorem Arrow.WellFormed.isPlain {h : Arrow} (wf : h.WellFormed) : IsPlain h.written := by
  have hx : isBlank 'x' = false := by decide
  have hparen := wf.notMem (z := ')') (by decide) (by decide) (by decide)
  refine ⟨h.opening ++ h.params, h.closing, ⟨?_, ⟨_, rfl⟩, ?_, ?_, ?_⟩, h.beforeType,
    h.afterType ++ arrowSign, h.type, wf.beforeType, by simp [Arrow.closing]⟩
  · simp [h.written_eq]
  · simp [hparen.1, wf.params]
  · simp [Arrow.closing, wf.beforeType.notMem hx, notMem_type, wf.afterType.notMem hx, arrowSign]
  · have hlast : h.closing.getLast? = some '>' := by
      rw [Arrow.closing, ← List.cons_append, List.getLast?_append]
      rfl
    simp [hlast]

theorem Function.WellFormed.isPlain {h : Function} (wf : h.WellFormed) : IsPlain h.written := by
  have hx : isBlank 'x' = false := by decide
  have hparen := wf.notMem (z := ')') (by decide) (by decide) (by decide)
  refine ⟨h.opening ++ h.params, h.closing, ⟨?_, ⟨_, rfl⟩, ?_, ?_, ?_⟩, h.beforeType,
    [], .void, wf.beforeType, by simp [Function.closing]⟩
  · simp [h.written_eq]
  · simp [hparen.1, wf.params]
  · simp [Function.closing, wf.beforeType.notMem hx, notMem_type]
  · have hlast : h.closing.getLast? = some 'd' := by
      rw [Function.closing, ← List.cons_append, List.getLast?_append]
      rfl
    simp [hlast]

theorem Arrow.WellFormed.isPromised {h : Arrow} (wf : h.WellFormed) : IsPromised h.promoted := by
  refine ⟨"export const ".toList ++ h.name ++ " = async (".toList ++ h.params,
    ": Promise<".toList ++ h.type.text ++ "> =>".toList, ⟨?_, ⟨_, rfl⟩, ?_, ?_, ?_⟩, _, rfl⟩
  · have hsplit : h.promoted = "export const ".toList ++ h.name ++ " = async (".toList ++
      h.params ++ ([')'] ++ ": Promise<".toList) ++ h.type.text ++ "> =>".toList := rfl
    simp [hsplit]
  · simp [wf.name.notMem (show isWordChar ')' = false by decide), wf.params]
  · simp [notMem_type]
  · rw [List.getLast?_append]
    exact fun h => absurd (Option.some.inj h) (by decide)

theorem Function.WellFormed.isPromised {h : Function} (wf : h.WellFormed) :
    IsPromised h.promoted := by
  refine ⟨"export async function ".toList ++ h.name ++ '(' :: h.params,
    ": Promise<void>".toList, ⟨?_, ⟨_, rfl⟩, ?_, by decide, by decide⟩, _, rfl⟩
  · have hsplit : h.promoted = "export async function ".toList ++ h.name ++ '(' :: h.params ++
      ([')'] ++ ": Promise<".toList) ++ ReturnType.void.text ++ ['>'] := rfl
    have hvoid : ": Promise<void>".toList = ": Promise<".toList ++ ReturnType.void.text ++ ['>'] :=
      rfl
    simp [hsplit, hvoid]
  · simp [wf.name.notMem (show isWordChar ')' = false by decide), wf.params]

theorem Arrow.getLast?_promoted (h : Arrow) : h.promoted.getLast? = h.written.getLast? := by
  have hpromoted : h.promoted = "export const ".toList ++ h.name ++ " = async (".toList ++ h.params ++
    "): Promise<".toList ++ h.type.text ++ "> =>".toList := rfl
  have hend : arrowSign.getLast? = some '>' := by decide
  have hend' : "> =>".toList.getLast? = some '>' := by decide
  have hlast : h.written.getLast? = some '>' := by
    rw [Arrow.written, List.getLast?_append, hend, Option.some_or]
  rw [hlast, hpromoted, List.getLast?_append, hend', Option.some_or]

end Headers

section Forms

inductive Form where
  | arrow
  | function

def Form.rule : Form → Rule
  | .arrow => promoteArrow
  | .function => promoteFunction

/-- A header of a text with what is due in its place, the character before it and the text behind it:
its first word does not continue another one, and the return type of a function ends with the word. -/
inductive HeaderAt : Form → Option Char → Edit → Text → Prop
  | arrow {before : Option Char} {h : Arrow} {rest : Text}
      (hbefore : before.any isWordChar = false) (wf : h.WellFormed) :
      HeaderAt .arrow before ⟨h.written, h.promoted⟩ rest
  | function {before : Option Char} {h : Function} {rest : Text}
      (hbefore : before.any isWordChar = false) (wf : h.WellFormed)
      (hrest : rest.head?.any isWordChar = false) :
      HeaderAt .function before ⟨h.written, h.promoted⟩ rest

variable {f g : Form} {before : Option Char} {e : Edit} {t rest : Text}

theorem Form.rule_eq_some_iff :
    f.rule before t = some e ↔ ∃ rest, HeaderAt f before e rest ∧ t = e.reads ++ rest := by
  cases f with
  | arrow =>
    simp only [Form.rule, promoteArrow]
    constructor
    · intro h
      split at h
      · cases h
      · rename_i hbefore
        obtain ⟨⟨header, rest⟩, hread, rfl⟩ := Option.map_eq_some_iff.1 h
        obtain ⟨wf, hwritten⟩ := Arrow.read?_eq_some_iff.1 hread
        exact ⟨rest, .arrow (by simpa using hbefore) wf, hwritten⟩
    · intro h
      obtain ⟨rest, hheader, rfl⟩ := h
      cases hheader with
      | arrow hbefore wf => simp [hbefore, Arrow.read?_written_append wf]
  | function =>
    simp only [Form.rule, promoteFunction]
    constructor
    · intro h
      split at h
      · cases h
      · rename_i hbefore
        obtain ⟨⟨header, rest⟩, hread, rfl⟩ := Option.map_eq_some_iff.1 h
        obtain ⟨wf, hrest, hwritten⟩ := Function.read?_eq_some_iff.1 hread
        exact ⟨rest, .function (by simpa using hbefore) wf hrest, hwritten⟩
    · intro h
      obtain ⟨rest, hheader, rfl⟩ := h
      cases hheader with
      | function hbefore wf hrest => simp [hbefore, Function.read?_written_append wf hrest]

theorem HeaderAt.isPlain (h : HeaderAt f before e rest) : IsPlain e.reads := by
  cases h with
  | arrow _ wf => exact wf.isPlain
  | function _ wf => exact wf.isPlain

theorem HeaderAt.isPromised (h : HeaderAt f before e rest) : IsPromised e.writes := by
  cases h with
  | arrow _ wf => exact wf.isPromised
  | function _ wf => exact wf.isPromised

theorem HeaderAt.reads_ne (h : HeaderAt f before e rest) : e.reads ≠ [] := by
  obtain ⟨r, hr⟩ := h.isPlain.exists_cons
  simp [hr]

theorem Form.lawful_rule (f : Form) : f.rule.Lawful := by
  intro before t e h
  obtain ⟨rest, hheader, rfl⟩ := Form.rule_eq_some_iff.1 h
  exact ⟨hheader.reads_ne, List.prefix_append e.reads rest⟩

theorem Form.edited (f : Form) (before : Option Char) (t : Text) :
    Edited (HeaderAt f) before t (f.rule.scan 0 before t) := by
  refine (Rule.edited f.lawful_rule before t).mono fun before e r here => ?_
  obtain ⟨rest, hheader, hrest⟩ := Form.rule_eq_some_iff.1 here
  exact List.append_cancel_left hrest ▸ hheader

theorem head?_of_edited {r r' : Text} (h : Edited (HeaderAt f) before r r')
    (hr' : r'.head?.any isWordChar = false) : r.head?.any isWordChar = false := by
  cases h with
  | nil => rfl
  | copy => simpa using hr'
  | edit here =>
    obtain ⟨w, hw⟩ := here.isPromised.exists_cons
    have he : isWordChar 'e' = true := by decide
    simp [hw, he] at hr'

theorem HeaderAt.of_edited {after : Option Char} {rest' : Text} (h : HeaderAt g before e rest')
    (hedited : Edited (HeaderAt f) after rest rest') : HeaderAt g before e rest := by
  cases h with
  | arrow hbefore wf => exact .arrow hbefore wf
  | function hbefore wf hrest => exact .function hbefore wf (head?_of_edited hedited hrest)

/-- A header at the front of an edited text was there before. -/
theorem HeaderAt.exists_front {before' : Option Char} {v' : Text} (h : HeaderAt g before' e v')
    (hedited : Edited (HeaderAt f) before t (e.reads ++ v')) :
    ∃ v, t = e.reads ++ v ∧ HeaderAt g before' e v := by
  obtain ⟨v, ht, hrest⟩ := hedited.exists_of_writes fun _ _ _ here =>
    (h.isPlain.blocks here.isPromised).1
  exact ⟨v, ht, h.of_edited hrest⟩

theorem HeaderAt.seam (h : HeaderAt f before e rest) :
    e.writes.getLast? = e.reads.getLast? ∨ rest.head?.any isWordChar = false := by
  cases h with
  | @arrow _ h _ _ wf =>
    exact Or.inl h.getLast?_promoted
  | function _ _ hrest => exact Or.inr hrest

end Forms

end QueryMigration.Declaration
