import QueryMigration.Proofs.Pass.Migrated
import QueryMigration.Proofs.Placeholder.Positional
import QueryMigration.Proofs.Placeholder.Window
import QueryMigration.Proofs.Text.LineEnd

/-! Passes do the same whatever the line ends are: a carriage return is one blank more wherever they
look. -/

namespace QueryMigration.Placeholder

open Text

theorem isTernary_iff_prefix {rest : Text} :
    isTernary rest = true ↔ ∃ between, between ++ [':'] <+: rest ∧ Conditional between := by
  rw [isTernary_iff]
  constructor
  · intro h
    obtain ⟨between, after, rfl, hbetween⟩ := h
    exact ⟨between, ⟨after, by simp⟩, hbetween⟩
  · intro h
    obtain ⟨between, ⟨after, rfl⟩, hbetween⟩ := h
    exact ⟨between, after, by simp, hbetween⟩

theorem isTernary_return (rest : Text) : isTernary (rest ++ ['\r']) = isTernary rest := by
  rw [Bool.eq_iff_iff, isTernary_iff_prefix, isTernary_iff_prefix]
  exact exists_congr fun between =>
    and_congr_left fun _ => prefix_concat_iff_of_ne (by decide) between rest

theorem isQueryLine_return (line : Text) : isQueryLine (line ++ ['\r']) = isQueryLine line := by
  have hwords : words (line ++ ['\r']) = words line ++ words [] :=
    words_append_cons (by decide) line []
  have hnone : (words []).any (fun w => queryWords.contains (w.map lowerLetter)) = false := by decide
  have hcontains {c : Char} (hc : c ≠ '\r') : (line ++ ['\r']).contains c = line.contains c := by
    simp [hc]
  rw [isQueryLine, isQueryLine, hwords, List.any_append, hnone, Bool.or_false,
    hcontains (by decide), hcontains (by decide)]

theorem numberFrom_return (inside : Bool) (n : Nat) (t : Text) :
    numberFrom inside n (t ++ ['\r']) = numberFrom inside n t ++ ['\r'] := by
  induction t generalizing inside n with
  | nil => rfl
  | cons c t ih =>
    rw [List.cons_append, numberFrom, numberFrom, isTernary_return]
    split
    · rw [ih, List.cons_append]
    · split
      · rw [ih, List.cons_append, List.append_assoc]
      · rw [ih, List.cons_append]

theorem numberLine_return (line : Text) : numberLine (line ++ ['\r']) = numberLine line ++ ['\r'] := by
  rw [numberLine, numberLine, isQueryLine_return, numberFrom_return]
  split
  · rfl
  · rfl

theorem number_crlf (t : Text) : number (crlf t) = crlf (number t) :=
  mapLines_crlf lineFeed_notMem_numberLine numberLine_return t

end QueryMigration.Placeholder

namespace QueryMigration.BooleanLiteral

open Text

theorem gapThen?_crlf {c : Char} (hc : isBlank c = false) (t : Text) :
    gapThen? c (crlf t) = (gapThen? c t).map (Prod.map crlf crlf) := by
  have hne {d : Char} (hd : isBlank d = true) : d ≠ c := by
    intro heq
    rw [heq, hc] at hd
    exact absurd hd (by decide)
  -- Return and line feed are both blanks: a gap takes both or neither.
  unfold gapThen?
  rw [takeWhile_crlf (by decide), dropWhile_crlf (by decide)]
  cases t.dropWhile isBlank with
  | nil => rfl
  | cons d rest =>
    by_cases hd : d = '\n'
    · subst hd
      simp [crlf_lineFeed, hne (d := '\n') (by decide), hne (d := '\r') (by decide)]
    · rw [crlf_cons hd]
      by_cases hdc : d = c
      · simp [hdc, crlf_append, crlf_cons (hdc ▸ hd)]
      · simp [hdc]

theorem endsCondition_crlf (t : Text) : endsCondition (crlf t) = endsCondition t := by
  have hempty (s : Text) : (crlf s).isEmpty = s.isEmpty := by
    cases s with
    | nil => rfl
    | cons c s => simpa using crlf_ne_nil (List.cons_ne_nil c s)
  simp only [endsCondition, dropWhile_crlf (p := isBlank) (by decide), hempty, List.any_cons,
    List.any_nil, isPrefixOf_crlf (w := "AND".toList) (by decide),
    isPrefixOf_crlf (w := "OR".toList) (by decide), isPrefixOf_crlf (w := [')']) (by decide),
    isPrefixOf_crlf (w := [';']) (by decide)]

theorem comparison_eq_bind (digit : Char) (word : Text) (before : Option Char) (t : Text) :
    comparison digit word before t = (strip? ['='] t).bind fun r =>
      (gapThen? digit r).bind fun (part, after) =>
        if endsCondition after then some ⟨'=' :: part, '=' :: ' ' :: word⟩ else none := by
  unfold comparison
  split
  · rename_i r
    have hstrip : strip? ['='] ('=' :: r) = some r := strip?_eq_some_iff.2 rfl
    rw [hstrip, Option.bind_some, gapThen?]
    split
    · rename_i d after _
      by_cases hd : d = digit <;> simp [hd]
    · rfl
  · rename_i hne
    have hstrip : strip? ['='] t = none := by
      rw [Option.eq_none_iff_forall_ne_some]
      intro r hr
      exact hne r (strip?_eq_some_iff.1 hr)
    rw [hstrip]
    rfl

theorem neutral_comparison {digit : Char} {word : Text} (hlawful : (comparison digit word).Lawful)
    (hdigit : isBlank digit = false) (hword : '\n' ∉ word) : (comparison digit word).Neutral where
  lawful := hlawful
  passes_return := fun _ _ => rfl
  map_crlf := by
    intro before t
    rw [comparison_eq_bind, comparison_eq_bind]
    refine strip?_bind_crlf (by decide) (fun r => ?_) t
    refine bind_crlf (gapThen?_crlf hdigit) (fun part after => ?_) r
    simp only [endsCondition_crlf]
    split
    · have hwrites : crlf ('=' :: ' ' :: word) = '=' :: ' ' :: word := crlf_eq_self (by simp [hword])
      simp [Edit.crlf, crlf_cons, hwrites]
    · rfl

theorem neutral_choice : choice.Neutral where
  lawful := spansOf_choice.lawful
  passes_return := fun _ _ => rfl
  map_crlf := by
    intro before t
    unfold choice
    refine strip?_bind_crlf (by decide) (fun r => ?_) t
    refine bind_crlf (gapThen?_crlf (by decide)) (fun one r => ?_) r
    refine bind_crlf (gapThen?_crlf (by decide)) (fun colon r => ?_) r
    refine bind_crlf (gapThen?_crlf (by decide)) (fun zero r => ?_) r
    simp [Edit.crlf, crlf_append, crlf_cons]

theorem normalize_crlf (t : Text) : normalize (crlf t) = crlf (normalize t) := by
  have hone := neutral_comparison spansOf_one.lawful (by decide) (by decide)
  have hzero := neutral_comparison spansOf_zero.lawful (by decide) (by decide)
  rw [normalize, normalize, rules]
  simp only [List.foldl_cons, List.foldl_nil]
  rw [hone.apply_crlf, hzero.apply_crlf, neutral_choice.apply_crlf]

end QueryMigration.BooleanLiteral

namespace QueryMigration.DataCall

open Text

theorem hasCallShape_return (line : Text) : hasCallShape (line ++ ['\r']) = hasCallShape line := by
  rw [Bool.eq_iff_iff, hasCallShape_iff, hasCallShape_iff]
  refine exists_congr fun m => and_congr_right fun hm => ?_
  -- Every beginning of a call ends with a parenthesis, so no return at the end of a line is in it.
  obtain ⟨s, rfl⟩ := hm.concat
  exact prefix_concat_iff_of_ne (by decide) s line

theorem includes_awaitWord_return (line : Text) :
    includes awaitWord (line ++ ['\r']) = includes awaitWord line := by
  rw [Bool.eq_iff_iff, includes_iff, includes_iff]
  constructor
  · intro h
    exact found_false_iff.1 (found_of_last (m := "awai".toList) (c := 't') (by decide)
      (found_false_iff.2 h))
  · intro h
    exact h.trans (List.prefix_append line ['\r']).isInfix

theorem callee?_return (t : Text) : callee? (t ++ ['\r']) = callee? t := by
  have hcall (f : Text) : (f ++ ['(']).isPrefixOf (t ++ ['\r']) = (f ++ ['(']).isPrefixOf t := by
    rw [Bool.eq_iff_iff, List.isPrefixOf_iff_prefix, List.isPrefixOf_iff_prefix]
    exact prefix_concat_iff_of_ne (by decide) f t
  simp only [callee?, hcall]

theorem awaiting_return (before : Option Char) (t : Text) :
    awaiting before (t ++ ['\r']) = awaiting before t := by
  rw [awaiting, awaiting, callee?_return]

theorem awaitLine_return (line : Text) : awaitLine (line ++ ['\r']) = awaitLine line ++ ['\r'] := by
  have hneeds : needsAwait (line ++ ['\r']) = needsAwait line := by
    rw [needsAwait, needsAwait, includes_awaitWord_return, hasCallShape_return]
  rw [awaitLine, awaitLine, hneeds, Rule.apply_concat lawful_awaiting awaiting_return]
  split
  · rfl
  · rfl

theorem lineFeed_notMem_awaitLine (line : Text) (h : '\n' ∉ line) : '\n' ∉ awaitLine line :=
  fun hmem => h ((patchedBy_awaitLine line).mem_of_mem Awaits.lineFeed_notMem hmem)

theorem await_crlf (t : Text) : await (crlf t) = crlf (await t) :=
  mapLines_crlf lineFeed_notMem_awaitLine awaitLine_return t

end QueryMigration.DataCall

namespace QueryMigration.Declaration

open Text

theorem split_crlf {p : Char → Bool} (hp : p '\r' = p '\n') (t : Text) :
    split p (crlf t) = Prod.map crlf crlf (split p t) := by
  rw [split, takeWhile_crlf hp, dropWhile_crlf hp]
  rfl

theorem params?_crlf (t : Text) : params? (crlf t) = (params? t).map (Prod.map crlf crlf) := by
  unfold params?
  refine strip?_bind_crlf (by decide) (fun t => ?_) t
  rw [split_crlf (by decide)]
  exact strip?_bind_crlf (by decide) (fun t => rfl) _

theorem ReturnType.read?_crlf (t : Text) :
    ReturnType.read? (crlf t) = (ReturnType.read? t).map (Prod.map id crlf) := by
  unfold ReturnType.read?
  rw [strip?_crlf (by decide), strip?_crlf (by decide)]
  cases strip? ReturnType.void.text t with
  | some rest => rfl
  | none => cases strip? ReturnType.response.text t <;> rfl

def Arrow.crlf (h : Arrow) : Arrow where
  afterExport := Text.crlf h.afterExport
  afterConst := Text.crlf h.afterConst
  name := Text.crlf h.name
  afterName := Text.crlf h.afterName
  afterEquals := Text.crlf h.afterEquals
  params := Text.crlf h.params
  beforeType := Text.crlf h.beforeType
  type := h.type
  afterType := Text.crlf h.afterType

theorem Arrow.read?_crlf (t : Text) :
    Arrow.read? (Text.crlf t) = (Arrow.read? t).map (Prod.map Arrow.crlf Text.crlf) := by
  unfold Arrow.read?
  refine strip?_bind_crlf (by decide) (fun t => ?_) t
  refine bind_crlf (run?_crlf (by decide)) (fun afterExport t => ?_) t
  refine strip?_bind_crlf (by decide) (fun t => ?_) t
  refine bind_crlf (run?_crlf (by decide)) (fun afterConst t => ?_) t
  refine bind_crlf (run?_crlf (by decide)) (fun name t => ?_) t
  -- From here on the gaps may be empty and are cut off without a test.
  dsimp only
  rw [split_crlf (by decide)]
  refine strip?_bind_crlf (by decide) (fun t => ?_) _
  rw [split_crlf (by decide)]
  refine bind_crlf params?_crlf (fun params t => ?_) _
  dsimp only
  rw [split_crlf (by decide)]
  refine bind_crlf ReturnType.read?_crlf (fun type t => ?_) _
  dsimp only
  rw [split_crlf (by decide)]
  exact strip?_bind_crlf (by decide) (fun t => rfl) _

def Function.crlf (h : Function) : Function where
  afterExport := Text.crlf h.afterExport
  afterFunction := Text.crlf h.afterFunction
  name := Text.crlf h.name
  afterName := Text.crlf h.afterName
  params := Text.crlf h.params
  beforeType := Text.crlf h.beforeType

theorem Function.read?_crlf (t : Text) :
    Function.read? (Text.crlf t) = (Function.read? t).map (Prod.map Function.crlf Text.crlf) := by
  unfold Function.read?
  refine strip?_bind_crlf (by decide) (fun t => ?_) t
  refine bind_crlf (run?_crlf (by decide)) (fun afterExport t => ?_) t
  refine strip?_bind_crlf (by decide) (fun t => ?_) t
  refine bind_crlf (run?_crlf (by decide)) (fun afterFunction t => ?_) t
  refine bind_crlf (run?_crlf (by decide)) (fun name t => ?_) t
  dsimp only
  rw [split_crlf (by decide)]
  refine bind_crlf params?_crlf (fun params t => ?_) _
  dsimp only
  rw [split_crlf (by decide)]
  refine strip?_bind_crlf (by decide) (fun t => ?_) _
  rw [head?_crlf (by decide)]
  split
  · rfl
  · rfl

theorem ReturnType.crlf_text (type : ReturnType) : Text.crlf type.text = type.text := by
  cases type with
  | void => rfl
  | response => rfl

theorem Arrow.written_crlf (h : Arrow) : h.crlf.written = Text.crlf h.written := by
  -- The words of a header have no line feed, which the discharger sees; its other parts change.
  simp (disch := decide) only [Arrow.written, Arrow.crlf, crlf_append, crlf_eq_self,
    ReturnType.crlf_text]

theorem Arrow.promoted_crlf (h : Arrow) : h.crlf.promoted = Text.crlf h.promoted := by
  have hstart : Text.crlf "export const ".toList = "export const ".toList := crlf_eq_self (by decide)
  have hasync : Text.crlf " = async (".toList = " = async (".toList := crlf_eq_self (by decide)
  have hpromise : Text.crlf "): Promise<".toList = "): Promise<".toList := crlf_eq_self (by decide)
  have hsign : Text.crlf "> =>".toList = "> =>".toList := crlf_eq_self (by decide)
  unfold Arrow.promoted
  rw [crlf_append, crlf_append, crlf_append, crlf_append, crlf_append, crlf_append, hstart, hasync,
    hpromise, hsign, ReturnType.crlf_text]
  rfl

theorem Function.written_crlf (h : Function) : h.crlf.written = Text.crlf h.written := by
  simp (disch := decide) only [Function.written, Function.crlf, crlf_append, crlf_eq_self]

theorem Function.promoted_crlf (h : Function) : h.crlf.promoted = Text.crlf h.promoted := by
  have hstart : Text.crlf "export async function ".toList = "export async function ".toList :=
    crlf_eq_self (by decide)
  have hpromise : Text.crlf "): Promise<".toList = "): Promise<".toList := crlf_eq_self (by decide)
  unfold Function.promoted
  rw [crlf_append, crlf_append, crlf_append, crlf_append, crlf_append, crlf_cons (by decide), hstart,
    hpromise, ReturnType.crlf_text]
  rfl

theorem neutral_headerRule {H : Type} {read? : Text → Option (H × Text)}
    {written promoted : H → Text} (hlawful : (headerRule read? written promoted).Lawful)
    {change : H → H} (hread : ∀ t, read? (crlf t) = (read? t).map (Prod.map change crlf))
    (hwritten : ∀ h, written (change h) = crlf (written h))
    (hpromoted : ∀ h, promoted (change h) = crlf (promoted h))
    (hreturn : ∀ t, read? ('\r' :: t) = none) : (headerRule read? written promoted).Neutral where
  lawful := hlawful
  passes_return := by
    intro before t
    rw [headerRule, hreturn]
    split
    · rfl
    · rfl
  map_crlf := by
    intro before t
    rw [headerRule, headerRule, hread]
    split
    · rfl
    · rw [Option.map_map, Option.map_map]
      congr 1
      funext (h, rest)
      simp [Edit.crlf, hwritten, hpromoted]

theorem needsAsync_crlf (t : Text) : needsAsync (crlf t) = needsAsync t := by
  rw [needsAsync, needsAsync, includes_crlf (by decide) (by decide),
    includes_crlf (by decide) (by decide)]

theorem promote_crlf (t : Text) : promote (crlf t) = crlf (promote t) := by
  have harrow : promoteArrow.Neutral := neutral_headerRule promoting_arrow.lawful Arrow.read?_crlf
    Arrow.written_crlf Arrow.promoted_crlf fun _ => rfl
  have hfunction : promoteFunction.Neutral := neutral_headerRule promoting_function.lawful
    Function.read?_crlf Function.written_crlf Function.promoted_crlf fun _ => rfl
  rw [promote, promote, needsAsync_crlf]
  split
  · rw [harrow.apply_crlf, hfunction.apply_crlf]
  · rfl

end QueryMigration.Declaration

namespace QueryMigration.Pass

open Text

theorem apply_crlf {p : Pass} (hp : p ∈ migration) (t : Text) :
    p.apply (crlf t) = crlf (p.apply t) := by
  simp only [migration, List.mem_cons, List.not_mem_nil, or_false] at hp
  obtain rfl | rfl | rfl | rfl := hp
  · exact Placeholder.number_crlf t
  · exact BooleanLiteral.normalize_crlf t
  · exact DataCall.await_crlf t
  · exact Declaration.promote_crlf t

theorem output_crlf {passes : List Pass} (h : ∀ p ∈ passes, p ∈ migration) (t : Text) :
    output passes (crlf t) = crlf (output passes t) := by
  induction passes generalizing t with
  | nil => rfl
  | cons p passes ih =>
    rw [List.forall_mem_cons] at h
    have hrest := ih h.2 (p.apply t)
    rw [← apply_crlf h.1] at hrest
    exact hrest

/-- Each pass does the same whatever the line ends of a text are, and so does every sequence of
passes. -/
theorem passes_neutral {passes : List Pass} (h : ∀ p ∈ passes, p ∈ migration) (t : Text) :
    (∀ p ∈ migration, p.apply (crlf t) = crlf (p.apply t)) ∧
      output passes (crlf t) = crlf (output passes t) :=
  ⟨fun _ hp => apply_crlf hp t, output_crlf h t⟩

def flagOverLines : Text := "a =\n1 AND\nb".toList

theorem passes_neutral_reverse :
    (∀ p ∈ migration.reverse, p ∈ migration) ∧
      output migration.reverse (crlf flagOverLines) = "a = true AND\r\nb".toList ∧
      (∀ p ∈ migration, p.apply (crlf flagOverLines) = crlf (p.apply flagOverLines)) ∧
      output migration.reverse (crlf flagOverLines) =
        crlf (output migration.reverse flagOverLines) := by
  have hpasses : ∀ p ∈ migration.reverse, p ∈ migration := fun _ => List.mem_reverse.1
  exact ⟨hpasses, by decide +kernel, passes_neutral hpasses flagOverLines⟩

end QueryMigration.Pass
