import QueryMigration.Declaration
import QueryMigration.Proofs.Text.Word

/-! Headers of exported functions are read exactly where they are written. -/

namespace QueryMigration.Declaration

open Text

section Pieces

theorem strip?_append (w t : Text) : strip? w (w ++ t) = some t := strip?_eq_some_iff.2 rfl

theorem run?_append {p : Char → Bool} {run rest : Text} (hrun : run ≠ [] ∧ ∀ c ∈ run, p c = true)
    (hrest : rest.head?.any p = false) : run? p (run ++ rest) = some (run, rest) :=
  run?_eq_some_iff.2 ⟨hrun.1, hrun.2, hrest, rfl⟩

theorem split_run_append {p : Char → Bool} {run rest : Text} (hrun : ∀ c ∈ run, p c = true)
    (hrest : rest.head?.any p = false) : split p (run ++ rest) = (run, rest) := by
  rw [split, takeWhile_append_rest hrun hrest, dropWhile_append_rest hrun hrest]

theorem params?_append {params : Text} (h : ')' ∉ params) (rest : Text) :
    params? (['('] ++ (params ++ (paramsEnd ++ rest))) = some (params, rest) := by
  have hsplit : split (· != ')') (params ++ (paramsEnd ++ rest)) = (params, paramsEnd ++ rest) :=
    split_run_append (fun c hc => bne_iff_ne.2 fun hparen => h (hparen ▸ hc)) rfl
  simp only [params?, bind, strip?_append, Option.bind_some, hsplit]
  rfl

theorem notMem_of_params? {t params rest : Text} (h : params? t = some (params, rest)) :
    ')' ∉ params := by
  simp only [params?, bind, Option.bind_eq_some_iff] at h
  obtain ⟨u, -, v, -, h⟩ := h
  simp only [pure, Option.some.injEq, Prod.mk.injEq] at h
  obtain ⟨rfl, rfl⟩ := h
  intro hmem
  simpa using List.all_eq_true.1 List.all_takeWhile _ hmem

theorem ReturnType.read?_append (type : ReturnType) (rest : Text) :
    ReturnType.read? (type.text ++ rest) = some (type, rest) := by
  cases type with
  | void => rw [ReturnType.read?, strip?_append]
  | response =>
    have hvoid : strip? ReturnType.void.text (ReturnType.response.text ++ rest) = none := rfl
    rw [ReturnType.read?, hvoid, strip?_append]
    rfl

def IsSpace (t : Text) : Prop := t ≠ [] ∧ IsGap t

theorem isWord_exportWord : IsWord exportWord := isWord_of_all (by decide) (by decide)

theorem isWord_constWord : IsWord constWord := isWord_of_all (by decide) (by decide)

theorem isWord_functionWord : IsWord functionWord := isWord_of_all (by decide) (by decide)

theorem isWord_text (type : ReturnType) : IsWord type.text := by
  cases type with
  | void => exact isWord_of_all (by decide) (by decide)
  | response => exact isWord_of_all (by decide) (by decide)

end Pieces

section Headers

structure Arrow.WellFormed (h : Arrow) : Prop where
  afterExport : IsSpace h.afterExport
  afterConst : IsSpace h.afterConst
  name : IsWord h.name
  afterName : IsGap h.afterName
  afterEquals : IsGap h.afterEquals
  params : ')' ∉ h.params
  beforeType : IsGap h.beforeType
  afterType : IsGap h.afterType

structure Function.WellFormed (h : Function) : Prop where
  afterExport : IsSpace h.afterExport
  afterFunction : IsSpace h.afterFunction
  name : IsWord h.name
  afterName : IsGap h.afterName
  params : ')' ∉ h.params
  beforeType : IsGap h.beforeType

def Arrow.opening (h : Arrow) : Text :=
  exportWord ++ h.afterExport ++ constWord ++ h.afterConst ++ h.name ++ h.afterName ++ ['='] ++
    h.afterEquals ++ ['(']

def Arrow.closing (h : Arrow) : Text := ':' :: (h.beforeType ++ h.type.text ++ h.afterType ++ arrowSign)

def Function.opening (h : Function) : Text :=
  exportWord ++ h.afterExport ++ functionWord ++ h.afterFunction ++ h.name ++ h.afterName ++ ['(']

def Function.closing (h : Function) : Text := ':' :: (h.beforeType ++ ReturnType.void.text)

theorem Arrow.written_eq (h : Arrow) : h.written = h.opening ++ (h.params ++ ')' :: h.closing) := by
  have hend : paramsEnd = [')', ':'] := rfl
  simp [Arrow.written, Arrow.opening, Arrow.closing, hend]

theorem Function.written_eq (h : Function) :
    h.written = h.opening ++ (h.params ++ ')' :: h.closing) := by
  have hend : paramsEnd = [')', ':'] := rfl
  simp [Function.written, Function.opening, Function.closing, hend]

theorem Arrow.WellFormed.notMem {h : Arrow} (wf : h.WellFormed) {z : Char}
    (hblank : isBlank z = false) (hword : isWordChar z = false) (hsign : z ∉ "=(:>".toList) :
    z ∉ h.opening ∧ z ∉ h.closing := by
  have hsigns : z ∉ ['=', '(', ':', '>'] := hsign
  simp only [List.mem_cons, List.not_mem_nil, or_false, not_or] at hsigns
  obtain ⟨hequals, hparen, hcolon, hgreater⟩ := hsigns
  have harrow : arrowSign = ['=', '>'] := rfl
  simp [Arrow.opening, Arrow.closing, isWord_exportWord.notMem hword,
    wf.afterExport.2.notMem hblank, isWord_constWord.notMem hword, wf.afterConst.2.notMem hblank,
    wf.name.notMem hword, wf.afterName.notMem hblank, wf.afterEquals.notMem hblank,
    wf.beforeType.notMem hblank, (isWord_text h.type).notMem hword, wf.afterType.notMem hblank,
    harrow, hequals, hparen, hcolon, hgreater]

theorem Function.WellFormed.notMem {h : Function} (wf : h.WellFormed) {z : Char}
    (hblank : isBlank z = false) (hword : isWordChar z = false) (hsign : z ∉ "(:".toList) :
    z ∉ h.opening ∧ z ∉ h.closing := by
  have hsigns : z ∉ ['(', ':'] := hsign
  simp only [List.mem_cons, List.not_mem_nil, or_false, not_or] at hsigns
  obtain ⟨hparen, hcolon⟩ := hsigns
  simp [Function.opening, Function.closing, isWord_exportWord.notMem hword,
    wf.afterExport.2.notMem hblank, isWord_functionWord.notMem hword,
    wf.afterFunction.2.notMem hblank, wf.name.notMem hword, wf.afterName.notMem hblank,
    wf.beforeType.notMem hblank, (isWord_text .void).notMem hword, hparen, hcolon]

theorem Arrow.wellFormed_of_read? {t rest : Text} {h : Arrow}
    (read : Arrow.read? t = some (h, rest)) : h.WellFormed := by
  unfold Arrow.read? at read
  obtain ⟨t₁, -, read⟩ := Option.bind_eq_some_iff.1 read
  obtain ⟨⟨_, t₂⟩, h₂, read⟩ := Option.bind_eq_some_iff.1 read
  obtain ⟨t₃, -, read⟩ := Option.bind_eq_some_iff.1 read
  obtain ⟨⟨_, t₄⟩, h₄, read⟩ := Option.bind_eq_some_iff.1 read
  obtain ⟨⟨_, t₅⟩, h₅, read⟩ := Option.bind_eq_some_iff.1 read
  obtain ⟨t₆, -, read⟩ := Option.bind_eq_some_iff.1 read
  obtain ⟨⟨_, t₇⟩, h₇, read⟩ := Option.bind_eq_some_iff.1 read
  obtain ⟨⟨_, t₈⟩, -, read⟩ := Option.bind_eq_some_iff.1 read
  obtain ⟨t₉, -, read⟩ := Option.bind_eq_some_iff.1 read
  obtain ⟨hne₂, hgap₂, -⟩ := run?_eq_some_iff.1 h₂
  obtain ⟨hne₄, hgap₄, -⟩ := run?_eq_some_iff.1 h₄
  obtain ⟨hne₅, hname, -⟩ := run?_eq_some_iff.1 h₅
  cases read
  have hblank (s : Text) : IsGap (s.takeWhile isBlank) := List.all_eq_true.1 List.all_takeWhile
  exact ⟨⟨hne₂, hgap₂⟩, ⟨hne₄, hgap₄⟩, ⟨hne₅, hname⟩, hblank _, hblank _, notMem_of_params? h₇,
    hblank _, hblank _⟩

theorem Arrow.read?_written_append {h : Arrow} (wf : h.WellFormed) (rest : Text) :
    Arrow.read? (h.written ++ rest) = some (h, rest) := by
  have hequals (s : Text) : (['='] ++ s).head?.any isWordChar = false := rfl
  have hequals' (s : Text) : (['='] ++ s).head?.any isBlank = false := rfl
  have hparen (s : Text) : (['('] ++ s).head?.any isBlank = false := rfl
  have hsign (s : Text) : (arrowSign ++ s).head?.any isBlank = false := rfl
  simp only [Arrow.written, List.append_assoc]
  simp only [Arrow.read?, bind, Option.bind_some, strip?_append,
    run?_append wf.afterExport (isWord_constWord.head_append _),
    run?_append wf.afterConst (wf.name.head_append _),
    run?_append wf.name (head_gap_append wf.afterName (hequals _)),
    split_run_append wf.afterName (hequals' _), split_run_append wf.afterEquals (hparen _),
    params?_append wf.params, split_run_append wf.beforeType ((isWord_text _).head_append _),
    ReturnType.read?_append, split_run_append wf.afterType (hsign _)]
  rfl

theorem Arrow.read?_eq_some_iff {t rest : Text} {h : Arrow} :
    Arrow.read? t = some (h, rest) ↔ h.WellFormed ∧ t = h.written ++ rest := by
  constructor
  · intro read
    exact ⟨Arrow.wellFormed_of_read? read, (Arrow.append_of_read? read).symm⟩
  · intro written
    rw [written.2]
    exact Arrow.read?_written_append written.1 rest

theorem Function.wellFormed_of_read? {t rest : Text} {h : Function}
    (read : Function.read? t = some (h, rest)) :
    h.WellFormed ∧ rest.head?.any isWordChar = false := by
  unfold Function.read? at read
  obtain ⟨t₁, -, read⟩ := Option.bind_eq_some_iff.1 read
  obtain ⟨⟨_, t₂⟩, h₂, read⟩ := Option.bind_eq_some_iff.1 read
  obtain ⟨t₃, -, read⟩ := Option.bind_eq_some_iff.1 read
  obtain ⟨⟨_, t₄⟩, h₄, read⟩ := Option.bind_eq_some_iff.1 read
  obtain ⟨⟨_, t₅⟩, h₅, read⟩ := Option.bind_eq_some_iff.1 read
  obtain ⟨⟨_, t₆⟩, h₆, read⟩ := Option.bind_eq_some_iff.1 read
  obtain ⟨t₇, -, read⟩ := Option.bind_eq_some_iff.1 read
  obtain ⟨hne₂, hgap₂, -⟩ := run?_eq_some_iff.1 h₂
  obtain ⟨hne₄, hgap₄, -⟩ := run?_eq_some_iff.1 h₄
  obtain ⟨hne₅, hname, -⟩ := run?_eq_some_iff.1 h₅
  split at read
  · simp at read
  · rename_i hend
    cases read
    have hblank (s : Text) : IsGap (s.takeWhile isBlank) := List.all_eq_true.1 List.all_takeWhile
    exact ⟨⟨⟨hne₂, hgap₂⟩, ⟨hne₄, hgap₄⟩, ⟨hne₅, hname⟩, hblank _, notMem_of_params? h₆,
      hblank _⟩, by simpa using hend⟩

theorem Function.read?_written_append {h : Function} (wf : h.WellFormed) {rest : Text}
    (hrest : rest.head?.any isWordChar = false) :
    Function.read? (h.written ++ rest) = some (h, rest) := by
  have hparen (s : Text) : (['('] ++ s).head?.any isWordChar = false := rfl
  have hparen' (s : Text) : (['('] ++ s).head?.any isBlank = false := rfl
  simp only [Function.written, List.append_assoc]
  simp only [Function.read?, bind, Option.bind_some, strip?_append,
    run?_append wf.afterExport (isWord_functionWord.head_append _),
    run?_append wf.afterFunction (wf.name.head_append _),
    run?_append wf.name (head_gap_append wf.afterName (hparen _)),
    split_run_append wf.afterName (hparen' _), params?_append wf.params,
    split_run_append wf.beforeType ((isWord_text .void).head_append _), hrest]
  rfl

theorem Function.read?_eq_some_iff {t rest : Text} {h : Function} :
    Function.read? t = some (h, rest) ↔
      h.WellFormed ∧ rest.head?.any isWordChar = false ∧ t = h.written ++ rest := by
  constructor
  · intro read
    obtain ⟨wf, hrest⟩ := Function.wellFormed_of_read? read
    exact ⟨wf, hrest, (Function.append_of_read? read).symm⟩
  · intro written
    rw [written.2.2]
    exact Function.read?_written_append written.1 written.2.1

end Headers

end QueryMigration.Declaration
