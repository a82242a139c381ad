import QueryMigration.Disk.Path
import QueryMigration.Entries

/-! Files by path, and at most one access that is denied to a spelling of a path. A folder is a file
too. -/

namespace QueryMigration

structure File where
  bytes : ByteArray
  mode : Nat
  folder : Bool

namespace File

def newFolder : File := ⟨.empty, 0, true⟩

def permissions (mode : Nat) : Nat := mode % 0o1000

def text? (f : File) : Option Text := (String.fromUTF8? f.bytes).map String.toList

def encode (t : Text) : ByteArray := (String.ofList t).toUTF8

end File

inductive Access where
  | stat
  | read
  | write
deriving DecidableEq, Repr

def Access.name : Access → String
  | .stat => "stat"
  | .read => "read"
  | .write => "write"

structure Fault where
  access : Access
  path : String
deriving DecidableEq, Repr

inductive DiskError where
  | missing (verb : String) (path : Path)
  | denied (access : Access) (path : String)
deriving DecidableEq, Repr

def DiskError.message : DiskError → String
  | .missing verb path => verb ++ " " ++ path.toString ++ ": file does not exist"
  | .denied access path => access.name ++ " " ++ path ++ ": permission denied"

structure Disk where
  files : Entries Path File
  fault : Option Fault

namespace Disk

def empty : Disk := ⟨[(Path.root, ⟨.empty, 0o755, true⟩)], none⟩

def file? (d : Disk) (path : String) : Option File := Entries.get? (Path.ofString path) d.files

def put (d : Disk) (path : String) (f : File) : Disk :=
  { d with files := Entries.set (Path.ofString path) f d.files }

/-- Makes the missing ones of a chain of folders, up to the first that exists. That one is a folder
from then on. -/
def makeFolders : List Path → Entries Path File → Entries Path File
  | [], files => files
  | path :: above, files =>
    match Entries.get? path files with
    | some f => Entries.set path { f with folder := true } files
    | none => Entries.set path File.newFolder (makeFolders above files)

def create (d : Disk) (path : String) (f : File) : Disk :=
  let added := d.put path f
  { added with files := makeFolders (Path.ofString path).folders added.files }

/-- Stores bytes at a path. A file that is there keeps its permission bits; a new one gets the
given ones. -/
def store (d : Disk) (path : String) (bytes : ByteArray) (mode : Nat) : Disk :=
  match d.file? path with
  | some f => d.put path { f with bytes := bytes }
  | none => d.create path ⟨bytes, File.permissions mode, false⟩

def fetch (d : Disk) (verb path : String) : Except DiskError File :=
  match d.file? path with
  | some f => .ok f
  | none => .error (.missing verb (Path.ofString path))

def remove (d : Disk) (path : String) : Except DiskError Disk := do
  let _ ← d.fetch "remove" path
  return { d with files := Entries.remove (Path.ofString path) d.files }

def permit (d : Disk) (access : Access) (path : String) : Except DiskError Unit :=
  if d.fault = some ⟨access, path⟩ then .error (.denied access path) else .ok ()

def stat (d : Disk) (path : String) : Except DiskError File := do
  d.permit .stat path
  d.fetch "open" path

def read (d : Disk) (path : String) : Except DiskError File := do
  d.permit .read path
  d.fetch "open" path

def write (d : Disk) (path : String) (bytes : ByteArray) (mode : Nat) : Except DiskError Disk := do
  d.permit .write path
  return d.store path bytes mode

end Disk

end QueryMigration
