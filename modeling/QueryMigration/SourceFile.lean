import QueryMigration.Pass
import QueryMigration.Disk.Basic
import QueryMigration.Log

/-! Migrating one source file in place. It is written back also where nothing changed. -/

namespace QueryMigration.SourceFile

structure Change where
  pass : String
  lines : Nat
deriving DecidableEq, Repr

structure Report where
  path : String
  changes : List Change
deriving DecidableEq, Repr

def Report.changed (r : Report) : Bool := r.changes.any (0 < ·.lines)

inductive Failure where
  | stat (path : String) (cause : DiskError)
  | read (path : String) (cause : DiskError)
  | decode (path : String)
  | write (path : String) (cause : DiskError)
deriving DecidableEq, Repr

def Failure.message : Failure → String
  | .stat path cause => "failed to stat " ++ path ++ ": " ++ cause.message
  | .read path cause => "failed to read " ++ path ++ ": " ++ cause.message
  | .decode path => "failed to decode " ++ path ++ ": file is not valid UTF-8"
  | .write path cause => "failed to write " ++ path ++ ": " ++ cause.message

structure Outcome where
  disk : Disk
  records : List Log.Record
  result : Except Failure Report

def Change.ofStage (s : Pass.Stage) : Change := ⟨s.name, s.changed⟩

def transferRecord (message path : String) (size : Nat) : Log.Record :=
  ⟨.debug, message, [⟨"path", .text path⟩, ⟨"bytes", .int size⟩]⟩

def passRecord (c : Change) : Log.Record :=
  ⟨.debug, "pass applied", [⟨"pass", .text c.pass⟩, ⟨"changed_lines", .int c.lines⟩]⟩

def migrate (d : Disk) (path : String) : Outcome :=
  match d.stat path with
  | .error e => ⟨d, [], .error (.stat path e)⟩
  | .ok found =>
    match d.read path with
    | .error e => ⟨d, [], .error (.read path e)⟩
    | .ok f =>
      match f.text? with
      | none => ⟨d, [], .error (.decode path)⟩
      | some t =>
        let bytes := File.encode (Pass.output Pass.migration t)
        let changes := (Pass.stages Pass.migration t).map Change.ofStage
        let records := transferRecord "read source" path f.bytes.size :: changes.map passRecord
        match d.write path bytes found.mode with
        | .error e => ⟨d, records, .error (.write path e)⟩
        | .ok d' =>
          ⟨d', records ++ [transferRecord "wrote source" path bytes.size], .ok ⟨path, changes⟩⟩

end QueryMigration.SourceFile
