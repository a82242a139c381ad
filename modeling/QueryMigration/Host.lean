import QueryMigration.Settings.Load

/-! What the command leaves to its host: requests of shells, and the order in which statements are
visited. -/

namespace QueryMigration.Command

open Settings

/-- Whether an argument takes the next one along. No switch does, but switches with a letter and those
of help and version are not known yet. -/
def takesNext (argument : String) : Bool :=
  let t := argument.toList
  let name := t.drop 2
  !t.contains '=' &&
    ("--".toList.isPrefixOf t && !Switch.settings.any (·.name.toList = name) ||
      t.head? = some '-' && argument.utf8ByteSize = 2)

def firstWord? : List String → Option String
  | [] => none
  | argument :: rest =>
    if argument = "--" then none
    else if takesNext argument then
      match rest with
      | _ :: next :: later => firstWord? (next :: later)
      | _ => none
    else if argument = "" || argument.toList.head? = some '-' then firstWord? rest
    else some argument

def completionWords : List String := ["__complete", "__completeNoDesc"]

def scriptWord : String := "completion"

/-- Whether a call is a request of a shell, which never reaches the command. -/
def isRequest (arguments : List String) : Bool :=
  (firstWord? arguments).any fun word => word = scriptWord || completionWords.contains word

structure Reply where
  stdout : Text
  stderr : Text
  error? : Option String

structure Host where
  reply : List String → Environment → Reply
  visit : Visiting

def offerFiles : Reply :=
  ⟨":0\n".toList, "Completion ended with directive: ShellCompDirectiveDefault\n".toList, none⟩

/-- A host that visits statements as they are written. It knows no scripts and no completions of
switches, and answers every request as one for a file. -/
def Host.standard : Host := ⟨fun _ _ => offerFiles, .asWritten⟩

end QueryMigration.Command
