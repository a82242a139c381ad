import QueryMigration.Command

/-! The program around the command: what it copies into a disk, and what it writes back. -/

namespace QueryMigration

def snapshot (paths : List String) : IO Disk := do
  let mut disk : Disk := ⟨[], none⟩
  for path in paths do
    try
      disk := disk.put path ⟨← IO.FS.readBinFile path, 0o644, false⟩
    catch e =>
      match e with
      | .permissionDenied .. =>
        disk := { disk with fault := some ⟨.read, path⟩ }.put path ⟨.empty, 0, false⟩
      | _ => pure ()
  return disk

def settingVariables : IO Settings.Environment := do
  let keys : List Settings.Key := [.debug, .noColor, .summary]
  keys.filterMapM fun k => do
    return (← IO.getEnv k.variableName).map fun v => (k.variableName, v)

def writeBack (before after : Disk) : IO Unit := do
  for (path, file) in after.files do
    unless (Entries.get? path before.files).any (·.bytes == file.bytes) do
      IO.FS.writeBinFile path.toString file.bytes

end QueryMigration

open QueryMigration in
def main (arguments : List String) : IO UInt32 := do
  let home := (← IO.getEnv "HOME").getD "/"
  let place : Settings.Place := ⟨toString (← IO.currentDir), home⟩
  let disk ← snapshot (Settings.documentPaths place ++ Settings.statementsPath :: arguments)
  let state : Command.State := ⟨disk, .off, ⟨false, .ascii⟩⟩
  let (after, output) := Command.run place state ⟨arguments, ← settingVariables, true⟩
  writeBack disk after.disk
  IO.print (String.ofList output.stdout)
  IO.eprint (String.ofList output.stderr)
  return output.exitCode.toUInt32
