import QueryMigration.Text.Basic

/-! Paths by their parts, without those that lead nowhere. A path from the root differs from one
without it. -/

namespace QueryMigration

open Text

structure Path where
  rooted : Bool
  parts : List Text
deriving DecidableEq, Repr

namespace Path

def follow (rooted : Bool) (walked : List Text) (part : Text) : List Text :=
  if part = [] || part = ['.'] then walked
  else if part = ['.', '.'] then
    match walked with
    | [] => if rooted then [] else [part]
    | last :: rest => if last = ['.', '.'] then part :: walked else rest
  else part :: walked

def root : Path := ⟨true, []⟩

/-- The path with the parts walked, last first. The working directory and the one above it are the
root. -/
def ofWalked (rooted : Bool) (walked : List Text) : Path :=
  if walked = [] || walked = [['.', '.']] then root else ⟨rooted, walked.reverse⟩

def ofString (s : String) : Path :=
  let rooted := ['/'].isPrefixOf s.toList
  ofWalked rooted ((s.toList.splitOn '/').foldl (follow rooted) [])

def foldersAround (rooted : Bool) : List Text → List Path
  | [] => [root]
  | _ :: before => ofWalked rooted before :: foldersAround rooted before

def folders (p : Path) : List Path := foldersAround p.rooted p.parts.reverse

def toString (p : Path) : String :=
  String.ofList ((if p.rooted then ['/'] else []) ++ ['/'].intercalate p.parts)

end Path

end QueryMigration
