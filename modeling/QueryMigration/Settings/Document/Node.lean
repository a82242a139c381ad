import QueryMigration.Settings.Document.Token

/-! The nodes of a settings document, read from its tokens. -/

namespace QueryMigration.Settings.Document

open Text

def Placed.line (t : Placed) : Nat := t.mark.line + 1

/-- A node and the line where it starts. An alias has the node that an anchor names, unless it stands
inside that node; it is endless then, and of the node only its kind is known. -/
inductive Node where
  | scalar (line : Nat) (tag : String) (raw : Text)
  | list (line : Nat) (tag : String) (items : List Node)
  | mapping (line : Nat) (tag : String) (entries : List (Node × Node))
  | alias (line : Nat) (name : Text) (target : Node)
  | endless (line : Nat) (name : Text) (ofMapping : Bool)

namespace Node

def tagStem : Text := "tag:yaml.org,2002:".toList

def shortTag (t : Text) : String :=
  match strip? tagStem t with
  | some rest => "!!" ++ String.ofList rest
  | none => String.ofList t

def mergeWord : Text := "<<".toList

def mergeTag : String := "!!merge"

def listTag : String := "!!seq"

def mappingTag : String := "!!map"

-- A tag that is only an exclamation mark is none.
def tagOr (own : String) (tag : Option Text) : String :=
  match tag with
  | none => own
  | some t => if t = ['!'] then own else shortTag t

def ownTag (style : ScalarStyle) (raw : Text) : String :=
  if style != .plain then "!!str"
  else if raw = mergeWord then mergeTag
  else (Scalar.ofPlain raw).tag

def ofScalar (line : Nat) (tag : Option Text) (style : ScalarStyle) (raw : Text) : Node :=
  .scalar line (tagOr (ownTag style raw) tag) raw

def empty (line : Nat) : Node := ofScalar line none .plain []

end Node

inductive Anchored where
  | reading (ofMapping : Bool)
  | read (n : Node)

structure Reading where
  tokens : Tokens
  handles : List (Text × Text)
  anchors : List (Text × Anchored)

abbrev Read := StateT Reading (Except Error)

namespace Read

def peek : Read Placed := do
  let r ← get
  let (t, tokens) ← r.tokens.next
  set { r with tokens := tokens }
  return t

def drop : Read Unit := modify fun r => { r with tokens := r.tokens.drop }

def dropIf (t : Token) : Read Bool := do
  if (← peek).token = t then
    drop
    return true
  else return false

def fail {α : Type} (start : Mark) (found : Placed) (p : Problem) : Read α :=
  throw (.malformed (if start.line != 0 then start.line else found.mark.line) p)

def fullTag (start : Mark) (found : Placed) (t : TagText) : Read Text := do
  if t.handle.isEmpty then return t.name
  else
    match (← get).handles.lookup t.handle with
    | some stem =>
      if (stem ++ t.name).isEmpty then fail start found .handleUnknown else return stem ++ t.name
    | none => fail start found .handleUnknown

def anchor? : Read (Option Text) := do
  match (← peek).token with
  | .anchor name =>
    drop
    return some name
  | _ => return none

def tag? (start : Mark) : Read (Option Text) := do
  let t ← peek
  match t.token with
  | .tag text =>
    drop
    return some (← fullTag start t text)
  | _ => return none

def properties (start : Mark) : Read (Option Text × Option Text) := do
  match ← anchor? with
  | some name => return (some name, ← tag? start)
  | none =>
    match ← tag? start with
    | some t => return (← anchor?, some t)
    | none => return (none, none)

def openAnchor (name : Option Text) (ofMapping : Bool) : Read Nat := do
  let r ← get
  match name with
  | some name => set { r with anchors := (name, .reading ofMapping) :: r.anchors }
  | none => pure ()
  return r.anchors.length

def closeAnchor (name : Option Text) (before : Nat) (n : Node) : Read Unit :=
  match name with
  | some name =>
    modify fun r =>
      let newer := r.anchors.length - before - 1
      { r with anchors := r.anchors.take newer ++ (name, .read n) :: r.anchors.drop (newer + 1) }
  | none => pure ()

def named (line : Nat) (name : Text) : Read Node := do
  match (← get).anchors.lookup name with
  | some (.read n) => return .alias line name n
  | some (.reading ofMapping) => return .endless line name ofMapping
  | none => throw (.unknownAnchor name)

mutual

/-- Reads a node. In block context it may be a block, and beside a key (`besideKey`) a list that is
indented like the key. -/
def node : Nat → (inBlock besideKey : Bool) → Read Node
  | 0, _, _ => do fail ⟨0, 0, 0⟩ (← peek) .noContent
  | limit + 1, inBlock, besideKey => do
    let start ← peek
    match start.token with
    | .alias name =>
      drop
      named start.line name
    | _ =>
      let (anchor, tag) ← properties start.mark
      let t ← peek
      let before ← openAnchor anchor (t.token = .openMapping || t.token = .blockMapping)
      let list (items : List Node) : Node := .list start.line (Node.tagOr Node.listTag tag) items
      let mapping (entries : List (Node × Node)) : Node :=
        .mapping start.line (Node.tagOr Node.mappingTag tag) entries
      let n ← match t.token with
        | .scalar raw style => do
          drop
          pure (Node.ofScalar start.line tag style raw)
        | .openList => do
          drop
          list <$> flowItems limit start.mark true []
        | .openMapping => do
          drop
          mapping <$> flowEntries limit start.mark true []
        | other =>
          if other = .dash && besideKey then list <$> besideItems limit []
          else if other = .blockList && inBlock then do
            drop
            list <$> blockItems limit start.mark []
          else if other = .blockMapping && inBlock then do
            drop
            mapping <$> blockEntries limit start.mark []
          else if anchor.isSome || tag.isSome then pure (Node.ofScalar start.line tag .plain [])
          else fail start.mark t .noContent
      closeAnchor anchor before n
      return n

def nodeUnless : Nat → (line : Nat) → (stops : List Token) → (inBlock besideKey : Bool) → Read Node
  | 0, _, _, _, _ => do fail ⟨0, 0, 0⟩ (← peek) .noContent
  | limit + 1, line, stops, inBlock, besideKey => do
    if stops.contains (← peek).token then return .empty line else node limit inBlock besideKey

def blockItems : Nat → Mark → List Node → Read (List Node)
  | 0, start, _ => do fail start (← peek) .noDash
  | limit + 1, start, items => do
    let t ← peek
    if ← dropIf .dash then
      let item ← nodeUnless limit t.line [.dash, .blockEnd] true false
      blockItems limit start (item :: items)
    else if ← dropIf .blockEnd then return items.reverse
    else fail start t .noDash

def besideItems : Nat → List Node → Read (List Node)
  | 0, items => return items.reverse
  | limit + 1, items => do
    let t ← peek
    if ← dropIf .dash then
      let item ← nodeUnless limit t.line [.dash, .key, .value, .blockEnd] true false
      besideItems limit (item :: items)
    else return items.reverse

def blockEntries : Nat → Mark → List (Node × Node) → Read (List (Node × Node))
  | 0, start, _ => do fail start (← peek) .noKey
  | limit + 1, start, entries => do
    let t ← peek
    if ← dropIf .key then
      let key ← nodeUnless limit t.line [.key, .value, .blockEnd] true true
      let t ← peek
      let value ←
        if ← dropIf .value then nodeUnless limit t.line [.key, .value, .blockEnd] true true
        else pure (.empty t.line)
      blockEntries limit start ((key, value) :: entries)
    else if ← dropIf .blockEnd then return entries.reverse
    else fail start t .noKey

def flowItems : Nat → Mark → (first : Bool) → List Node → Read (List Node)
  | 0, start, _, _ => do fail start (← peek) .listEnd
  | limit + 1, start, first, items => do
    if ← dropIf .closeList then return items.reverse
    if !first then
      if !(← dropIf .comma) then fail start (← peek) .listEnd
    if ← dropIf .closeList then return items.reverse
    let t ← peek
    let item ← if ← dropIf .key then flowPair limit t.line else node limit false false
    flowItems limit start false (item :: items)

/-- Reads an entry of a mapping that is an item of a flow list. The token that stands where its key
is missing goes with the key. -/
def flowPair : Nat → (line : Nat) → Read Node
  | 0, _ => do fail ⟨0, 0, 0⟩ (← peek) .noContent
  | limit + 1, line => do
    let t ← peek
    let key ←
      if [Token.value, .comma, .closeList].contains t.token then do
        drop
        pure (.empty t.line)
      else node limit false false
    let value ← flowValue limit [.comma, .closeList]
    return .mapping line Node.mappingTag [(key, value)]

def flowValue : Nat → (stops : List Token) → Read Node
  | 0, _ => do fail ⟨0, 0, 0⟩ (← peek) .noContent
  | limit + 1, stops => do
    let t ← peek
    if ← dropIf .value then nodeUnless limit t.line stops false false else return .empty t.line

def flowEntries : Nat → Mark → (first : Bool) → List (Node × Node) → Read (List (Node × Node))
  | 0, start, _, _ => do fail start (← peek) .mappingEnd
  | limit + 1, start, first, entries => do
    if ← dropIf .closeMapping then return entries.reverse
    if !first then
      if !(← dropIf .comma) then fail start (← peek) .mappingEnd
    if ← dropIf .closeMapping then return entries.reverse
    let entry ←
      if ← dropIf .key then do
        let key ← nodeUnless limit (← peek).line [.value, .comma, .closeMapping] false false
        let value ← flowValue limit [.comma, .closeMapping]
        pure (key, value)
      else do
        let key ← node limit false false
        pure (key, .empty (← peek).line)
    flowEntries limit start false (entry :: entries)

end

def commonHandles : List (Text × Text) := [(['!'], ['!']), (['!', '!'], Node.tagStem)]

def directives : Nat → (versioned : Bool) → Read Unit
  | 0, _ => pure ()
  | limit + 1, versioned => do
    let t ← peek
    match t.token with
    | .directive (.version major minor) =>
      if versioned then fail t.mark t .versionTwice
      else if major != 1 || minor != 1 then fail t.mark t .versionOther
      else
        drop
        directives limit true
    | .directive (.handle handle stem) =>
      let r ← get
      if (r.handles.lookup handle).isSome then fail t.mark t .handleTwice
      else
        set { r with handles := (handle, stem) :: r.handles }
        drop
        directives limit versioned
    | _ => modify fun r => { r with handles := r.handles ++ commonHandles }

def endsDocument : Token → Bool
  | .textEnd | .directive _ | .documentStart | .documentEnd => true
  | _ => false

/-- Reads the first document of a text, if there is one. Of what follows it only the next tokens are
looked at. -/
def document (limit : Nat) : Read (Option Node) := do
  let t ← peek
  match t.token with
  | .textEnd => return none
  | .directive _ | .documentStart =>
    directives limit false
    if !(← dropIf .documentStart) then fail t.mark (← peek) .noDocument
    let t ← peek
    let n ← if endsDocument t.token then pure (.empty t.line) else node limit true false
    let _ ← peek
    return some n
  | _ =>
    modify fun r => { r with handles := commonHandles }
    let n ← node limit true false
    let _ ← peek
    return some n

end Read

end QueryMigration.Settings.Document
