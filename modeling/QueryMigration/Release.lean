import QueryMigration.Text.Basic

/-! What a build says of itself: a version, and the revision that it was built from. -/

namespace QueryMigration

/-- What was recorded when the program was built: the version of the main module and further
settings, of which the last of a name counts. -/
structure Build where
  main : String
  settings : List (String × String)

structure Release where
  version : String
  revision : String
  time : String
  modified : Bool
deriving DecidableEq, Repr

namespace Release

def unstamped : String := "dev"

/-- The first `n` bytes of a text. Each byte of a character that is cut in two leaves the
replacement character. -/
def takeBytes : Nat → Text → Text
  | _, [] => []
  | n, c :: r =>
    if c.utf8Size ≤ n then c :: takeBytes (n - c.utf8Size) r else List.replicate n '\ufffd'

def shorten (revision : String) : String := String.ofList (takeBytes 12 revision.toList)

def withSetting (r : Release) : String × String → Release
  | ("vcs.revision", v) => { r with revision := shorten v }
  | ("vcs.time", v) => { r with time := v }
  | ("vcs.modified", v) => { r with modified := v == "true" }
  | _ => r

def chooseVersion (stamped main : String) : String :=
  if stamped == unstamped && main != "" && main != "(devel)" then main else stamped

def ofBuild (stamped : String) : Option Build → Release
  | none => ⟨stamped, "", "", false⟩
  | some b => b.settings.foldl withSetting ⟨chooseVersion stamped b.main, "", "", false⟩

def describe (r : Release) : String :=
  if r.revision == "" then r.version
  else
    let revision := if r.modified then r.revision ++ "-dirty" else r.revision
    if r.time == "" then r.version ++ " (" ++ revision ++ ")"
    else r.version ++ " (" ++ revision ++ ", " ++ r.time ++ ")"

def current : Release := ofBuild unstamped none

end Release

end QueryMigration
