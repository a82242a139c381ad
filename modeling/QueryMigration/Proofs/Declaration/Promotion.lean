import QueryMigration.Proofs.BooleanLiteral.Spans
import QueryMigration.Proofs.DataCall.Shape
import QueryMigration.Proofs.Declaration.Header

/-! Promotion part by part: a header's parameters are copied, whatever they are, and no earlier pass
is undone. -/

namespace QueryMigration.Declaration

open Text DataCall BooleanLiteral

section Parts

inductive Promotes : Text → Text → Prop
  | arrowStart {e c name n q : Text} (he : IsGap e) (hc : IsGap c) (hname : IsWord name)
      (hn : IsGap n) (hq : IsGap q) :
      Promotes (exportWord ++ e ++ constWord ++ c ++ name ++ n ++ ['='] ++ q)
        ("export const ".toList ++ name ++ " = async ".toList)
  | arrowEnd {g g' : Text} (hg : IsGap g) (type : ReturnType) (hg' : IsGap g') :
      Promotes (':' :: (g ++ type.text ++ g' ++ arrowSign))
        (": Promise<".toList ++ type.text ++ "> =>".toList)
  | functionStart {e f name n : Text} (he : IsGap e) (hf : IsGap f) (hname : IsWord name)
      (hn : IsGap n) :
      Promotes (exportWord ++ e ++ functionWord ++ f ++ name ++ n ++ ['('])
        ("export async function ".toList ++ name ++ ['('])
  | functionEnd {g : Text} (hg : IsGap g) :
      Promotes (':' :: (g ++ ReturnType.void.text)) (": Promise<void>".toList)

theorem patchedBy_arrow {h : Arrow} (wf : h.WellFormed) {r r' : Text}
    (rest : PatchedBy Promotes r r') : PatchedBy Promotes (h.written ++ r) (h.promoted ++ r') := by
  have hstart := Promotes.arrowStart wf.afterExport.2 wf.afterConst.2 wf.name wf.afterName
    wf.afterEquals
  have hend := Promotes.arrowEnd wf.beforeType h.type wf.afterType
  have hpatched := Patched.edit hstart
    (PatchedBy.copies (['('] ++ h.params ++ [')']) (Patched.edit hend rest))
  have hwritten : h.written ++ r = exportWord ++ h.afterExport ++ constWord ++ h.afterConst ++
      h.name ++ h.afterName ++ ['='] ++ h.afterEquals ++ (['('] ++ h.params ++ [')'] ++
        (':' :: (h.beforeType ++ h.type.text ++ h.afterType ++ arrowSign) ++ r)) := by
    simp [Arrow.written, paramsEnd]
  have hpromoted : h.promoted ++ r' = "export const ".toList ++ h.name ++ " = async ".toList ++
      (['('] ++ h.params ++ [')'] ++ (": Promise<".toList ++ h.type.text ++ "> =>".toList ++ r')) := by
    have hsplit : h.promoted = "export const ".toList ++ h.name ++ (" = async ".toList ++ ['(']) ++
      h.params ++ ([')'] ++ ": Promise<".toList) ++ h.type.text ++ "> =>".toList := rfl
    simp only [hsplit, List.append_assoc]
  rw [hwritten, hpromoted]
  exact hpatched

theorem patchedBy_function {h : Function} (wf : h.WellFormed) {r r' : Text}
    (rest : PatchedBy Promotes r r') : PatchedBy Promotes (h.written ++ r) (h.promoted ++ r') := by
  have hstart := Promotes.functionStart wf.afterExport.2 wf.afterFunction.2 wf.name wf.afterName
  have hend := Promotes.functionEnd wf.beforeType
  have hpatched := Patched.edit hstart
    (PatchedBy.copies (h.params ++ [')']) (Patched.edit hend rest))
  have hwritten : h.written ++ r = exportWord ++ h.afterExport ++ functionWord ++ h.afterFunction ++
      h.name ++ h.afterName ++ ['('] ++ (h.params ++ [')'] ++
        (':' :: (h.beforeType ++ ReturnType.void.text) ++ r)) := by
    simp [Function.written, paramsEnd]
  have hpromoted : h.promoted ++ r' = "export async function ".toList ++ h.name ++ ['('] ++
      (h.params ++ [')'] ++ (": Promise<void>".toList ++ r')) := by
    have hsplit : h.promoted = "export async function ".toList ++ h.name ++ (['('] ++ h.params) ++
      ([')'] ++ ": Promise<".toList) ++ ReturnType.void.text ++ ['>'] := rfl
    have hvoid : ": Promise<void>".toList = ": Promise<".toList ++ ReturnType.void.text ++ ['>'] :=
      rfl
    simp only [hsplit, hvoid, List.append_assoc]
  rw [hwritten, hpromoted]
  exact hpatched

theorem Arrow.marked (h : Arrow) : asyncWord <:+: h.promoted := by
  have hsplit : h.promoted = "export const ".toList ++ h.name ++ (" = ".toList ++ asyncWord ++
    " (".toList) ++ h.params ++ "): Promise<".toList ++ h.type.text ++ "> =>".toList := rfl
  rw [hsplit]
  exact ⟨"export const ".toList ++ h.name ++ " = ".toList, _, by simp only [List.append_assoc]; rfl⟩

theorem Function.marked (h : Function) : asyncWord <:+: h.promoted :=
  ⟨"export ".toList, " function ".toList ++ h.name ++ '(' :: h.params ++ "): Promise<".toList ++
    ReturnType.void.text ++ ['>'], rfl⟩

end Parts

section Rules

/-- What the rules that promote headers have in common: where they apply, of what their edits are
put together, and that they leave a mark. -/
structure Promoting (rule : Rule) (header : Text → Prop) : Prop where
  lawful : rule.Lawful
  applies_iff : ∀ before t, rule before t ≠ none ↔ before.any isWordChar = false ∧ header t
  parts : ∀ before t e, rule before t = some e → ∀ r r', PatchedBy Promotes r r' →
    PatchedBy Promotes (e.reads ++ r) (e.writes ++ r')
  marks : ∀ before t e, rule before t = some e → asyncWord <:+: e.writes

variable {rule : Rule} {header : Text → Prop}

theorem Promoting.patchedBy_apply (h : Promoting rule header) (t : Text) :
    PatchedBy Promotes t (rule.apply t) :=
  Rule.patched h.lawful h.parts (fun _ _ _ => trivial) t

theorem Promoting.quiet_or_marked (h : Promoting rule header) (t : Text) :
    rule.Quiet none t ∨ asyncWord <:+: rule.apply t := by
  cases Rule.quiet_or_exists_writes h.lawful none t with
  | inl hquiet => exact Or.inl hquiet
  | inr hwrites =>
    obtain ⟨before, v, e, he, hin⟩ := hwrites
    exact Or.inr ((h.marks before v e he).trans hin)

def headerRule {H : Type} (read? : Text → Option (H × Text)) (written promoted : H → Text) : Rule :=
  fun before t =>
    if before.any isWordChar then none
    else (read? t).map fun (h, _) => ⟨written h, promoted h⟩

theorem promoting_headerRule {H : Type} {read? : Text → Option (H × Text)}
    {written promoted : H → Text} (hne : ∀ h, written h ≠ [])
    (happend : ∀ t h rest, read? t = some (h, rest) → written h ++ rest = t)
    (hparts : ∀ t h rest, read? t = some (h, rest) → ∀ r r', PatchedBy Promotes r r' →
      PatchedBy Promotes (written h ++ r) (promoted h ++ r'))
    (hmarks : ∀ h, asyncWord <:+: promoted h) :
    Promoting (headerRule read? written promoted) (fun t => ∃ h rest, read? t = some (h, rest)) := by
  have hedit (before : Option Char) (t : Text) (e : Edit)
      (he : headerRule read? written promoted before t = some e) :
      ∃ h rest, read? t = some (h, rest) ∧ e = ⟨written h, promoted h⟩ := by
    unfold headerRule at he
    split at he
    · simp at he
    · obtain ⟨⟨h, rest⟩, hread, heq⟩ := Option.map_eq_some_iff.1 he
      exact ⟨h, rest, hread, heq.symm⟩
  constructor
  case lawful =>
    intro before t e he
    obtain ⟨h, rest, hread, rfl⟩ := hedit before t e he
    exact ⟨hne h, rest, happend t h rest hread⟩
  case applies_iff =>
    intro before t
    unfold headerRule
    split
    · simp [*]
    · simp [*, Option.ne_none_iff_exists']
  case parts =>
    intro before t e he
    obtain ⟨h, rest, hread, rfl⟩ := hedit before t e he
    exact hparts t h rest hread
  case marks =>
    intro before t e he
    obtain ⟨h, rest, -, rfl⟩ := hedit before t e he
    exact hmarks h

theorem promoting_arrow :
    Promoting promoteArrow (fun t => ∃ h rest, Arrow.read? t = some (h, rest)) := by
  have hparts (t : Text) (h : Arrow) (rest : Text) (hread : Arrow.read? t = some (h, rest)) :
      ∀ r r', PatchedBy Promotes r r' → PatchedBy Promotes (h.written ++ r) (h.promoted ++ r') :=
    fun _ _ => patchedBy_arrow (Arrow.wellFormed_of_read? hread)
  exact promoting_headerRule (fun h => by simp [Arrow.written])
    (fun _ _ _ => Arrow.append_of_read?) hparts Arrow.marked

theorem promoting_function :
    Promoting promoteFunction (fun t => ∃ h rest, Function.read? t = some (h, rest)) := by
  have hparts (t : Text) (h : Function) (rest : Text) (hread : Function.read? t = some (h, rest)) :
      ∀ r r', PatchedBy Promotes r r' → PatchedBy Promotes (h.written ++ r) (h.promoted ++ r') :=
    fun _ _ => patchedBy_function (Function.wellFormed_of_read? hread).1
  exact promoting_headerRule (fun h => by simp [Function.written])
    (fun _ _ _ => Function.append_of_read?) hparts Function.marked

end Rules

section Effects

theorem Promotes.lineFeed_notMem (a w : Text) (h : Promotes a w) : '\n' ∉ w := by
  have hfeed : isWordChar '\n' = false := by decide
  cases h with
  | arrowStart _ _ hname => simp [hname.notMem hfeed]
  | arrowEnd _ type => simp [(isWord_text type).notMem hfeed]
  | functionStart _ _ hname => simp [hname.notMem hfeed]
  | functionEnd => decide

theorem Promotes.spanFree (a w : Text) (h : Promotes a w) : SpanFree w := by
  have hequals : isWordChar '=' = false := by decide
  have hquestion : isWordChar '?' = false := by decide
  cases h with
  | @arrowStart _ _ name _ _ _ _ hname =>
    have hwords : SpanFree ([] ++ 'e' :: ("xport const ".toList ++ name ++ [' '])) := by
      refine spanFree_of_cut (by decide) (by simp) ?_
      simp [hname.notMem hequals, hname.notMem hquestion]
    have hsign : SpanFree (['=', ' '] ++ 'a' :: "sync ".toList) :=
      spanFree_of_cut (by decide) (by simp) (by decide)
    simpa using hwords.append hsign
  | @arrowEnd _ _ _ type =>
    have htype : SpanFree ([':', ' '] ++ 'P' :: ("romise<".toList ++ type.text ++
        ['>', ' '])) := by
      refine spanFree_of_cut (by decide) (by simp) ?_
      cases type <;> decide
    have hsign : SpanFree (['='] ++ '>' :: []) :=
      spanFree_of_cut (by decide) (by simp) (by decide)
    simpa using htype.append hsign
  | @functionStart _ _ name _ _ _ hname =>
    have hwords : SpanFree
        ([] ++ 'e' :: ("xport async function ".toList ++ name ++ ['('])) := by
      refine spanFree_of_cut (by decide) (by simp) ?_
      simp [hname.notMem hequals, hname.notMem hquestion]
    simpa using hwords
  | functionEnd =>
    exact spanFree_of_cut (p := [':', ' ']) (z := 'P') (s := "romise<void>".toList)
      (by decide) (by simp) (by decide)

/-- An occurrence of a word that reaches into a header's beginning lies within the name: it holds
neither `z` nor `z'`, begins in none of the words before the name and ends in no blank. -/
theorem kept_of_name {m m' p name s q w : Text} {c l z z' : Char} (hlast : c :: m = m' ++ [l])
    (hz : z ∉ c :: m) (hz' : z' ∉ c :: m) (hp : c ∉ p) (hs : l ∉ s) (hq : c ∉ q)
    (hname : name <:+: w) : Kept (c :: m) (z :: (p ++ name ++ s ++ z' :: q)) w := by
  intro x y h
  have hcut : x ++ z :: (p ++ name ++ s ++ z' :: q) ++ y =
      x ++ z :: ((p ++ (name ++ s)) ++ z' :: (q ++ y)) := by simp
  rw [hcut, ← found_false_iff] at h
  cases found_append_cons hz h with
  | inl hbefore =>
    obtain ⟨-, hx⟩ := hbefore
    exact Or.inl (found_false_iff.1 hx)
  | inr h =>
    cases found_append_cons hz' h with
    | inl hbefore =>
      obtain ⟨-, h⟩ := hbefore
      have hin := found_of_head hp h
      rw [hlast] at hin ⊢
      exact Or.inr (Or.inl ((found_false_iff.1 (found_of_last hs hin)).trans hname))
    | inr h => exact Or.inr (Or.inr (found_false_iff.1 (found_of_head hq h)))

theorem exists_concat_of_marker {m : Text} (hm : m = awaitWord ∨ m = asyncWord) :
    ∃ r m' l, m = 'a' :: r ∧ m = m' ++ [l] ∧ isBlank l = false ∧
      'e' ∉ m ∧ ':' ∉ m ∧ '=' ∉ m ∧ '(' ∉ m := by
  cases hm with
  | inl heq =>
    subst heq
    exact ⟨"wait".toList, "awai".toList, 't', by decide⟩
  | inr heq =>
    subst heq
    exact ⟨"sync".toList, "asyn".toList, 'c', by decide⟩

theorem Promotes.kept {m : Text} (hm : m = awaitWord ∨ m = asyncWord) (a w : Text)
    (h : Promotes a w) : Kept m a w := by
  obtain ⟨r, m', l, rfl, hlast, hl, he, hcolon, hequals, hparen⟩ := exists_concat_of_marker hm
  have ha : isBlank 'a' = false := by decide
  have htype (type : ReturnType) : 'a' ∉ type.text := by cases type <;> decide
  have hconst : 'a' ∉ constWord := by decide
  have hfunction : 'a' ∉ functionWord := by decide
  -- A return type holds no beginning of the words.
  have hend {s w : Text} (hs : 'a' ∉ s) : Kept ('a' :: r) (':' :: s) w :=
    kept_of_isolated (isolated_of_cut (p := []) hcolon (fun _ => ⟨l, m', hlast, by simp⟩) hs)
  cases h with
  | @arrowStart e c name n q hge hgc hname hn hq =>
    have hparts : exportWord ++ e ++ constWord ++ c ++ name ++ n ++ ['='] ++ q =
        'e' :: ("xport".toList ++ e ++ constWord ++ c ++ name ++ n ++ '=' :: q) := by
      rw [List.append_assoc _ ['='] q]
      rfl
    rw [hparts]
    exact kept_of_name hlast he hequals (by simp [hconst, hge.notMem ha, hgc.notMem ha])
      (hn.notMem hl) (hq.notMem ha) (List.infix_append _ _ _)
  | @arrowEnd g g' hg type hg' =>
    exact hend (by simp [hg.notMem ha, htype type, hg'.notMem ha, arrowSign])
  | @functionStart e f name n hge hgf hname hn =>
    have hparts : exportWord ++ e ++ functionWord ++ f ++ name ++ n ++ ['('] =
        'e' :: ("xport".toList ++ e ++ functionWord ++ f ++ name ++ n ++ '(' :: []) :=
      rfl
    rw [hparts]
    exact kept_of_name hlast he hparen (by simp [hfunction, hge.notMem ha, hgf.notMem ha])
      (hn.notMem hl) (by simp) (List.infix_append _ _ _)
  | @functionEnd g hg =>
    exact hend (by simp [hg.notMem ha, htype])

/-- A header's beginning has more words than a line that calls for the word `await` can start with. -/
theorem Promotes.blocks (a w : Text) (h : Promotes a w) (m : Text) (hm : CallShape m) :
    Blocks m w := by
  have hparen : isWordChar '(' = false := by decide
  have hcolon : ':' ∉ m := hm.notMem (by decide) (by decide) (by decide) (by decide)
  have hspace : isWordChar ' ' = false := by decide
  have hexport : wordCount exportWord = 1 := by decide
  cases h with
  | @arrowStart _ _ name _ _ _ _ hname =>
    refine hm.blocks_of_wordCount (by simp [hname.notMem hparen]) ?_
    have hwords : "export const ".toList ++ name ++ " = async ".toList =
        exportWord ++ ' ' :: (constWord ++ ' ' :: (name ++ ' ' :: "= async ".toList)) := rfl
    have hconst : wordCount constWord = 1 := by decide
    have hasync : wordCount "= async ".toList = 1 := by decide
    have hpos := hname.wordCount_pos
    rw [hwords, wordCount_append_cons hspace, wordCount_append_cons hspace,
      wordCount_append_cons hspace]
    omega
  | arrowEnd => exact blocks_of_notMem hcolon
  | @functionStart _ _ name _ _ _ hname =>
    refine Blocks.append (hm.blocks_of_wordCount (by simp [hname.notMem hparen]) ?_) _
    have hwords : "export async function ".toList ++ name =
        exportWord ++ ' ' :: (asyncWord ++ ' ' :: (functionWord ++ ' ' :: name)) := rfl
    have hasync : wordCount asyncWord = 1 := by decide
    have hfunction : wordCount functionWord = 1 := by decide
    have hpos := hname.wordCount_pos
    rw [hwords, wordCount_append_cons hspace, wordCount_append_cons hspace,
      wordCount_append_cons hspace]
    omega
  | functionEnd => exact blocks_of_notMem hcolon

end Effects

section Texts

/-- Whether a text that awaits something is marked or has no header to promote. -/
def IsPromoted (t : Text) : Prop :=
  needsAsync t = true → promoteArrow.Quiet none t ∧ promoteFunction.Quiet none t

theorem needsAsync_eq_true_iff {t : Text} :
    needsAsync t = true ↔ awaitWord <:+: t ∧ ¬ asyncWord <:+: t := by
  rw [← includes_iff, ← includes_iff, needsAsync, Bool.and_eq_true, Bool.not_eq_true',
    Bool.not_eq_true]

theorem promote_eq_self {t : Text} (h : IsPromoted t) : promote t = t := by
  unfold promote
  split
  · rename_i hneeds
    obtain ⟨harrow, hfunction⟩ := h hneeds
    have hsame : promoteArrow.apply t = t := Rule.scan_eq_self harrow
    rw [hsame]
    exact Rule.scan_eq_self hfunction
  · rfl

theorem patchedBy_promote (t : Text) :
    ∃ s, PatchedBy Promotes t s ∧ PatchedBy Promotes s (promote t) := by
  unfold promote
  split
  · exact ⟨_, promoting_arrow.patchedBy_apply t, promoting_function.patchedBy_apply _⟩
  · exact ⟨t, .refl t, .refl t⟩

/-- Promotion marks the text, or it found no header and changed nothing. -/
theorem isPromoted_promote (t : Text) : IsPromoted (promote t) := by
  intro hneeds
  have hunmarked := (needsAsync_eq_true_iff.1 hneeds).2
  unfold promote at hneeds hunmarked ⊢
  split at hneeds
  · rename_i hbefore
    rw [if_pos hbefore] at hunmarked ⊢
    -- The second rule keeps the mark that the first one may have set.
    cases promoting_arrow.quiet_or_marked t with
    | inr hmarked =>
      have hkept := (promoting_function.patchedBy_apply _).occurs (Promotes.kept (Or.inr rfl)) hmarked
      exact absurd hkept hunmarked
    | inl harrow =>
      have hsame : promoteArrow.apply t = t := Rule.scan_eq_self harrow
      rw [hsame] at hunmarked ⊢
      cases promoting_function.quiet_or_marked t with
      | inr hmarked => exact absurd hmarked hunmarked
      | inl hfunction =>
        have hsame' : promoteFunction.apply t = t := Rule.scan_eq_self hfunction
        rw [hsame']
        exact ⟨harrow, hfunction⟩
  · rename_i hbefore
    exact absurd hneeds hbefore

end Texts

end QueryMigration.Declaration
