import QueryMigration.Entries
import QueryMigration.Text.Rune
import QueryMigration.Settings.Document.Node

/-! The fields of a settings document, with those that the key `<<` merges in. -/

namespace QueryMigration.Settings.Document

open Text

structure Key where
  isText : Bool
  text : Text
deriving DecidableEq, Repr

def Scalar.ofTagged (wanted : String) (raw : Text) : Except Error Scalar :=
  match ofTagged? wanted raw with
  | some value => .ok value
  | none =>
    .error (if wanted = "!!binary" then .badBase64 else .badTag raw (formed wanted raw).tag wanted)

namespace Node

def scalar? : Node → Option Scalar
  | .scalar _ tag raw => Scalar.ofTagged? tag raw
  | .alias _ _ target => target.scalar?
  | _ => none

def isNull (n : Node) : Bool := n.scalar? = some .null

def isOn (n : Node) : Bool := n.scalar?.any Scalar.isOn

def isMerge : Node → Bool
  | .scalar _ tag raw => raw = mergeWord && tag = mergeTag
  | _ => false

def isMergeable : Node → Bool
  | .mapping .. => true
  | .alias _ _ (.mapping ..) => true
  | .endless _ _ ofMapping => ofMapping
  | _ => false

def isTextKey : Node → Bool
  | .scalar _ tag _ | .list _ tag _ | .mapping _ tag _ => tag = "!!str" || tag = mergeTag
  | .alias _ _ target => target.isTextKey
  | .endless .. => false

def line : Node → Nat
  | .scalar line .. | .list line .. | .mapping line .. | .alias line .. | .endless line .. => line

def raw : Node → Text
  | .scalar _ _ raw => raw
  | .alias _ name _ | .endless _ name _ => name
  | _ => []

-- Keys that are lists or mappings are told apart by their kind alone.
def sameKey : Node → Node → Bool
  | .scalar _ _ a, .scalar _ _ b => a = b
  | .list .., .list .. => true
  | .mapping .., .mapping .. => true
  | .alias _ a _, n | .endless _ a _, n =>
    match n with
    | .alias _ b _ | .endless _ b _ => a = b
    | _ => false
  | _, _ => false

def duplicates : List (Node × Node) → List Misfit
  | [] => []
  | (key, _) :: rest =>
    ((rest.filter fun e => key.sameKey e.1).map fun e => .duplicate e.1.line e.1.raw key.line) ++
      duplicates rest

/-- The key that a node is. Where all keys are texts (`texts`), every scalar counts as one, and null
is no key. -/
def key? (texts : Bool) : Node → Option Key
  | .scalar _ tag raw =>
    match Scalar.ofTagged? tag raw with
    | some .null => if texts then none else some ⟨false, raw⟩
    | some (.text t) => some ⟨true, t⟩
    | some (.int n) => some (if texts then ⟨true, raw⟩ else ⟨false, n.repr.toList⟩)
    | some _ => some ⟨texts, raw⟩
    | none => none
  | .alias _ _ target => target.key? texts
  | _ => none

mutual

/-- How a message shows a node. Keys that are all texts are put in order. Fractions and points in time
are shown as they are written. -/
def shown : Node → Text
  | .scalar _ tag raw =>
    match Scalar.ofTagged? tag raw with
    | some .null => "interface \x7b\x7d(nil)".toList
    | some (.bool b) => (toString b).toList
    | some (.int n) => n.repr.toList
    | some (.text t) => Quoted.quote t
    | _ => raw
  | .list _ _ items =>
    "[]interface \x7b\x7d\x7b".toList ++ ", ".toList.intercalate (shownItems items) ++ ['\x7d']
  | .mapping _ _ entries =>
    let texts := entries.all (·.1.isTextKey)
    let parts := shownEntries entries
    let parts := if texts then parts.mergeSort fun a b => a.1 ≤ b.1 else parts
    (if texts then "map[string]" else "map[interface \x7b\x7d]").toList ++
      "interface \x7b\x7d\x7b".toList ++ ", ".toList.intercalate (parts.map (·.2)) ++ ['\x7d']
  | .alias _ _ target => target.shown
  | .endless .. => []

def shownItems : List Node → List Text
  | [] => []
  | n :: rest => n.shown :: shownItems rest

def shownEntries : List (Node × Node) → List (Text × Text)
  | [] => []
  | (key, value) :: rest =>
    (((key.key? true).map Key.text).getD [], key.shown ++ ':' :: value.shown) :: shownEntries rest

end

structure Found where
  fields : Entries Key Node
  settled : Option (List Key)

def Found.start : Found := ⟨[], none⟩

def Found.add (f : Found) (k : Key) (n : Node) : Found :=
  ⟨Entries.set k n f.fields, f.settled.map (k :: ·)⟩

inductive Target where
  | any
  | text
  | fields (texts : Bool) (found : Found)

def Target.name : Target → String
  | .any => "interface \x7b\x7d"
  | .text => "string"
  | .fields texts _ =>
    "map[" ++ (if texts then "string" else "interface \x7b\x7d") ++ "]interface \x7b\x7d"

def Target.found : Target → Found
  | .fields _ found => found
  | _ => .start

/-- What was decoded so far: how many nodes, how many of them inside an alias, how many aliases are
open, and what did not fit. -/
structure Progress where
  decoded : Nat
  aliased : Nat
  depth : Nat
  misfits : List Misfit

abbrev Decode := StateT Progress (Except Error)

/-- Whether too many nodes were decoded inside aliases: more than 99 of 100, in large documents fewer
and down to 10 of 100. -/
def Progress.isExcessive (p : Progress) : Bool :=
  let low := 400000
  let high := 4000000
  100 < p.aliased && 1000 < p.decoded &&
    if p.decoded ≤ low then 99 * p.decoded < 100 * p.aliased
    else if high ≤ p.decoded then p.decoded < 10 * p.aliased
    else
      (99 * (high - low) - 89 * (p.decoded - low)) * p.decoded < 100 * (high - low) * p.aliased

def enter : Decode Unit := do
  let p ← get
  let p := { p with
    decoded := p.decoded + 1
    aliased := if p.depth = 0 then p.aliased else p.aliased + 1 }
  set p
  if p.isExcessive then throw .excessiveAliases

def note (misfits : List Misfit) : Decode Unit :=
  modify fun p => { p with misfits := p.misfits ++ misfits }

-- A long text is cut within its bytes, and what is left of a character there is stray.
def shortened (raw : Text) : String :=
  let bytes := (String.ofList raw).toUTF8
  let cut := ((Rune.ofBytes (bytes.extract 0 7)).map Rune.shown ++ "...".toList)
  " `" ++ String.ofList (if bytes.size > 10 then cut else raw) ++ "`"

def misfit (n : Node) (tag : String) (target : Target) : Decode (Option Found) := do
  let found := tag ++
    if tag = listTag || tag = mappingTag then String.ofList n.raw else shortened n.raw
  note [.kind n.line found target.name]
  return none

mutual

def decode : Node → Target → Decode (Option Found)
  | .scalar line tag raw, target => do
    enter
    match target, ← Scalar.ofTagged tag raw with
    | .fields .., .null => return some .start
    | .fields .., _ => misfit (.scalar line tag raw) tag target
    | .text, .null => return none
    | _, _ => return some .start
  | .list line tag items, target => do
    enter
    match target with
    | .any =>
      decodeItems items
      return some .start
    | _ => misfit (.list line tag []) tag target
  | .mapping line tag entries, target => do
    enter
    let twice := duplicates entries
    note twice
    if !twice.isEmpty then return none
    else
      match target with
      | .text => misfit (.mapping line tag []) tag target
      | _ =>
        let texts := match target with
          | .fields texts _ => texts
          | _ => entries.all (·.1.isTextKey)
        let found ← own texts entries target.found
        if entries.any (·.1.isMerge) then
          let settled ← match found.settled with
            | some keys => pure keys
            | none => ownKeys entries
          let merged ← merged texts entries { found with settled := some settled }
          return some (if found.settled.isNone then { merged with settled := none } else merged)
        else return some found
  | .alias _ _ target, into => do
    enter
    modify fun p => { p with depth := p.depth + 1 }
    let found ← target.decode into
    modify fun p => { p with depth := p.depth - 1 }
    return found
  | .endless _ name _, _ => do
    enter
    throw (.endlessAnchor name)

def decodeItems : List Node → Decode Unit
  | [] => return ()
  | n :: rest => do
    let _ ← n.decode .any
    decodeItems rest

def own (texts : Bool) : List (Node × Node) → Found → Decode Found
  | [], f => return f
  | (key, value) :: rest, f => do
    if key.isMerge then own texts rest f
    else
      let fits ← key.decode (if texts then .text else .any)
      match key.key? texts with
      | none =>
        if fits.isSome then throw (.badKey key.shown)
        own texts rest f
      | some k =>
        if f.settled.any (·.contains k) then own texts rest f
        else
          let _ ← value.decode .any
          own texts rest (f.add k value)

def ownKeys : List (Node × Node) → Decode (List Key)
  | [] => return []
  | (key, _) :: rest => do
    let fits ← key.decode .any
    match key.key? false with
    | none =>
      if fits.isSome then throw (.badKey key.shown)
      ownKeys rest
    | some k => return k :: (← ownKeys rest)

def merged (texts : Bool) : List (Node × Node) → Found → Decode Found
  | [], f => return f
  | (key, value) :: rest, f =>
    if !key.isMerge then merged texts rest f
    else
      match value with
      | .list _ _ items => mergeItems texts items f
      | value => do
        if !value.isMergeable then throw .badMerge
        return (← value.decode (.fields texts f)).getD f

def mergeItems (texts : Bool) : List Node → Found → Decode Found
  | [], f => return f
  | n :: rest, f => do
    if !n.isMergeable then throw .badMerge
    mergeItems texts rest ((← n.decode (.fields texts f)).getD f)

end

def fields (root : Node) : Except Error (List (Text × Node)) := do
  -- The document itself counts as a node.
  let (found, progress) ← (root.decode (.fields true .start)).run ⟨1, 0, 0, []⟩
  if progress.misfits.isEmpty then return (found.getD .start).fields.map fun (k, n) => (k.text, n)
  else throw (.misfits progress.misfits)

end Node

end QueryMigration.Settings.Document
