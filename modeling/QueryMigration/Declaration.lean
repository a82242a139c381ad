import QueryMigration.DataCall

/-! Making exported functions asynchronous, where their text awaits something and nothing in it is
marked so. -/

namespace QueryMigration.Declaration

open Text

def asyncWord : Text := "async".toList

def exportWord : Text := "export".toList

def constWord : Text := "const".toList

def functionWord : Text := "function".toList

def arrowSign : Text := "=>".toList

def paramsEnd : Text := "):".toList

inductive ReturnType where
  | void
  | response
deriving DecidableEq, Repr

def ReturnType.text : ReturnType → Text
  | .void => "void".toList
  | .response => "Response".toList

def ReturnType.read? (t : Text) : Option (ReturnType × Text) :=
  match strip? ReturnType.void.text t with
  | some rest => some (.void, rest)
  | none => (strip? ReturnType.response.text t).map fun rest => (.response, rest)

def split (p : Char → Bool) (t : Text) : Text × Text := (t.takeWhile p, t.dropWhile p)

@[simp] theorem split_append (p : Char → Bool) (t : Text) : (split p t).1 ++ (split p t).2 = t :=
  List.takeWhile_append_dropWhile

theorem ReturnType.append_of_read? {t rest : Text} {type : ReturnType}
    (h : ReturnType.read? t = some (type, rest)) : type.text ++ rest = t := by
  unfold ReturnType.read? at h
  split at h
  · rename_i h'
    simp only [Option.some.injEq, Prod.mk.injEq] at h
    obtain ⟨rfl, rfl⟩ := h
    exact (strip?_eq_some_iff.1 h').symm
  · obtain ⟨r, hr, h⟩ := Option.map_eq_some_iff.1 h
    simp only [Prod.mk.injEq] at h
    obtain ⟨rfl, rfl⟩ := h
    exact (strip?_eq_some_iff.1 hr).symm

/-- A parenthesised parameter list and the colon behind it. The list ends at the first closing
parenthesis. -/
def params? (t : Text) : Option (Text × Text) := do
  let t ← strip? ['('] t
  let (params, t) := split (· != ')') t
  let t ← strip? paramsEnd t
  return (params, t)

theorem append_of_params? {t params rest : Text} (h : params? t = some (params, rest)) :
    ['('] ++ (params ++ (paramsEnd ++ rest)) = t := by
  simp only [params?, bind, Option.bind_eq_some_iff] at h
  obtain ⟨u, hu, v, hv, h⟩ := h
  simp only [pure, Option.some.injEq, Prod.mk.injEq] at h
  obtain ⟨rfl, rfl⟩ := h
  rw [← strip?_eq_some_iff.1 hv, split_append]
  exact (strip?_eq_some_iff.1 hu).symm

/-- The header of an exported arrow function, `export const NAME = (PARAMS): TYPE =>`, with the
blanks between its parts. -/
structure Arrow where
  afterExport : Text
  afterConst : Text
  name : Text
  afterName : Text
  afterEquals : Text
  params : Text
  beforeType : Text
  type : ReturnType
  afterType : Text

def Arrow.written (h : Arrow) : Text :=
  exportWord ++ h.afterExport ++ constWord ++ h.afterConst ++ h.name ++ h.afterName ++ ['='] ++
    h.afterEquals ++ ['('] ++ h.params ++ paramsEnd ++ h.beforeType ++ h.type.text ++
    h.afterType ++ arrowSign

def Arrow.promoted (h : Arrow) : Text :=
  "export const ".toList ++ h.name ++ " = async (".toList ++ h.params ++ "): Promise<".toList ++
    h.type.text ++ "> =>".toList

def Arrow.read? (t : Text) : Option (Arrow × Text) := do
  let t ← strip? exportWord t
  let (afterExport, t) ← run? isBlank t
  let t ← strip? constWord t
  let (afterConst, t) ← run? isBlank t
  let (name, t) ← run? isWordChar t
  let (afterName, t) := split isBlank t
  let t ← strip? ['='] t
  let (afterEquals, t) := split isBlank t
  let (params, t) ← params? t
  let (beforeType, t) := split isBlank t
  let (type, t) ← ReturnType.read? t
  let (afterType, t) := split isBlank t
  let t ← strip? arrowSign t
  return (⟨afterExport, afterConst, name, afterName, afterEquals, params, beforeType, type,
    afterType⟩, t)

theorem Arrow.append_of_read? {t rest : Text} {h : Arrow} (read : Arrow.read? t = some (h, rest)) :
    h.written ++ rest = t := by
  unfold Arrow.read? at read
  obtain ⟨t₁, h₁, read⟩ := Option.bind_eq_some_iff.1 read
  obtain ⟨⟨_, t₂⟩, h₂, read⟩ := Option.bind_eq_some_iff.1 read
  obtain ⟨t₃, h₃, read⟩ := Option.bind_eq_some_iff.1 read
  obtain ⟨⟨_, t₄⟩, h₄, read⟩ := Option.bind_eq_some_iff.1 read
  obtain ⟨⟨_, t₅⟩, h₅, read⟩ := Option.bind_eq_some_iff.1 read
  obtain ⟨t₆, h₆, read⟩ := Option.bind_eq_some_iff.1 read
  obtain ⟨⟨_, t₇⟩, h₇, read⟩ := Option.bind_eq_some_iff.1 read
  obtain ⟨⟨_, t₈⟩, h₈, read⟩ := Option.bind_eq_some_iff.1 read
  obtain ⟨t₉, h₉, read⟩ := Option.bind_eq_some_iff.1 read
  cases read
  have h₆' := strip?_eq_some_iff.1 h₆
  have h₉' := strip?_eq_some_iff.1 h₉
  simp only [Arrow.written, List.append_assoc]
  rw [← h₉', List.takeWhile_append_dropWhile, ReturnType.append_of_read? h₈,
    List.takeWhile_append_dropWhile, append_of_params? h₇, List.takeWhile_append_dropWhile, ← h₆',
    List.takeWhile_append_dropWhile, (append_of_run? h₅).2, (append_of_run? h₄).2,
    ← strip?_eq_some_iff.1 h₃, (append_of_run? h₂).2, ← strip?_eq_some_iff.1 h₁]

/-- The header of an exported function, `export function NAME(PARAMS): void`, with the blanks
between its parts. -/
structure Function where
  afterExport : Text
  afterFunction : Text
  name : Text
  afterName : Text
  params : Text
  beforeType : Text

def Function.written (h : Function) : Text :=
  exportWord ++ h.afterExport ++ functionWord ++ h.afterFunction ++ h.name ++ h.afterName ++
    ['('] ++ h.params ++ paramsEnd ++ h.beforeType ++ ReturnType.void.text

def Function.promoted (h : Function) : Text :=
  "export async function ".toList ++ h.name ++ '(' :: h.params ++ "): Promise<".toList ++
    ReturnType.void.text ++ ['>']

def Function.read? (t : Text) : Option (Function × Text) := do
  let t ← strip? exportWord t
  let (afterExport, t) ← run? isBlank t
  let t ← strip? functionWord t
  let (afterFunction, t) ← run? isBlank t
  let (name, t) ← run? isWordChar t
  let (afterName, t) := split isBlank t
  let (params, t) ← params? t
  let (beforeType, t) := split isBlank t
  let t ← strip? ReturnType.void.text t
  if t.head?.any isWordChar then none
  else return (⟨afterExport, afterFunction, name, afterName, params, beforeType⟩, t)

theorem Function.append_of_read? {t rest : Text} {h : Function}
    (read : Function.read? t = some (h, rest)) : h.written ++ rest = t := by
  unfold Function.read? at read
  obtain ⟨t₁, h₁, read⟩ := Option.bind_eq_some_iff.1 read
  obtain ⟨⟨_, t₂⟩, h₂, read⟩ := Option.bind_eq_some_iff.1 read
  obtain ⟨t₃, h₃, read⟩ := Option.bind_eq_some_iff.1 read
  obtain ⟨⟨_, t₄⟩, h₄, read⟩ := Option.bind_eq_some_iff.1 read
  obtain ⟨⟨_, t₅⟩, h₅, read⟩ := Option.bind_eq_some_iff.1 read
  obtain ⟨⟨_, t₆⟩, h₆, read⟩ := Option.bind_eq_some_iff.1 read
  obtain ⟨t₇, h₇, read⟩ := Option.bind_eq_some_iff.1 read
  split at read
  · simp at read
  · cases read
    have h₇' := strip?_eq_some_iff.1 h₇
    simp only [Function.written, List.append_assoc]
    rw [← h₇', List.takeWhile_append_dropWhile, append_of_params? h₆,
      List.takeWhile_append_dropWhile, (append_of_run? h₅).2, (append_of_run? h₄).2,
      ← strip?_eq_some_iff.1 h₃, (append_of_run? h₂).2, ← strip?_eq_some_iff.1 h₁]

def promoteArrow : Rule := fun before t =>
  if before.any isWordChar then none
  else (Arrow.read? t).map fun (h, _) => ⟨h.written, h.promoted⟩

def promoteFunction : Rule := fun before t =>
  if before.any isWordChar then none
  else (Function.read? t).map fun (h, _) => ⟨h.written, h.promoted⟩

def needsAsync (t : Text) : Bool := includes DataCall.awaitWord t && !includes asyncWord t

def promote (t : Text) : Text :=
  if needsAsync t then promoteFunction.apply (promoteArrow.apply t) else t

end QueryMigration.Declaration
