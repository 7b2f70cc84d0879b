import Mathlib.Logic.Function.Basic
import OpenFrag.Library.Within

-- The files that exports and derivatives are made of, and the operations that make them.
namespace Clips

-- A path is the list of its components. The first one of an absolute path is the root.
abbrev FilePath := List String

namespace FilePath

def components (text : String) : FilePath :=
  let parts := (text.toList.splitOn '/').filter fun part => part ≠ [] ∧ part ≠ ['.']
  (if text.toList.head? = some '/' then ["/"] else []) ++ parts.map String.ofList

def join (path : FilePath) (text : String) : FilePath :=
  if text.toList.head? = some '/' then components text else path ++ components text

def fileName (path : FilePath) : Option String :=
  path.getLast?.filter fun name => name ≠ "/" ∧ name ≠ ".."

def parent (path : FilePath) : Option FilePath :=
  if path = [] ∨ path = ["/"] then none else some path.dropLast

end FilePath

inductive IoErrorKind
  | notFound
  | alreadyExists
  | other
  deriving DecidableEq, Repr

structure IoError where
  kind : IoErrorKind
  text : String
  deriving DecidableEq, Repr

-- A regular file, or something else that has the name.
inductive Entry
  | file (content : List UInt8)
  | other
  deriving DecidableEq, Repr

abbrev Files := FilePath → Option Entry

structure Disk (W : Type) where
  files : Files
  world : W

inductive FileStep
  | createDirectory
  | open
  | create
  | write
  | sync
  | link
  | metadata
  | read
  | remove
  deriving DecidableEq, Repr

-- Any step may fail in the world, for a reason that it tells. A write that fails may have written a
-- part. A name is made unique by the process and by a count.
structure DiskPorts (W : Type) where
  fault     : FileStep → W → Option String × W
  written   : W → Nat
  processId : Nat
  nextId    : W → Nat × W

abbrev DiskOp (W α : Type) := EStateM IoError (Disk W) α

def missing : IoError := ⟨.notFound, "No such file or directory (os error 2)"⟩

def taken : IoError := ⟨.alreadyExists, "File exists (os error 17)"⟩

namespace Disk

variable {W α ε : Type} (ports : DiskPorts W)

def setFile (path : FilePath) (entry : Option Entry) : DiskOp W Unit :=
  modify fun disk => { disk with files := Function.update disk.files path entry }

def attempt (step : FileStep) : DiskOp W Unit := fun disk =>
  match ports.fault step disk.world with
  | (none, world)      => .ok () { disk with world }
  | (some text, world) => .error ⟨.other, text⟩ { disk with world }

-- The content of a file that is opened, or read, or asked for its size.
def contentOf (step : FileStep) (path : FilePath) : DiskOp W (List UInt8) := do
  attempt ports step
  match (← get).files path with
  | some (.file content) => return content
  | some .other          => throw ⟨.other, "Is a directory (os error 21)"⟩
  | none                 => throw missing

def createNew (path : FilePath) : DiskOp W Unit := do
  attempt ports .create
  match (← get).files path with
  | none   => setFile path (some (.file []))
  | some _ => throw taken

def write (path : FilePath) (content : List UInt8) : DiskOp W Unit := fun disk =>
  match ports.fault .write disk.world with
  | (none, world)      =>
    .ok () ⟨Function.update disk.files path (some (.file content)), world⟩
  | (some text, world) =>
    .error ⟨.other, text⟩
      ⟨Function.update disk.files path (some (.file (content.take (ports.written world)))), world⟩

def hardLink (path path' : FilePath) : DiskOp W Unit := do
  attempt ports .link
  match (← get).files path, (← get).files path' with
  | none, _              => throw missing
  | some _, some _       => throw taken
  | some entry, none     => setFile path' (some entry)

def removeFile (path : FilePath) : DiskOp W Unit := do
  attempt ports .remove
  match (← get).files path with
  | none   => throw missing
  | some _ => setFile path none

-- The result of the removal does not matter.
def discard (path : FilePath) (disk : Disk W) : Disk W :=
  (removeFile ports path disk).state

-- The file is removed when the computation fails.
def orDiscard (path : FilePath) (x : EStateM ε (Disk W) α) : EStateM ε (Disk W) α := fun disk =>
  match x disk with
  | .ok a disk    => .ok a disk
  | .error e disk => .error e (discard ports path disk)

-- The file is removed in any case.
def thenDiscard (path : FilePath) (x : EStateM ε (Disk W) α) : EStateM ε (Disk W) α := fun disk =>
  match x disk with
  | .ok a disk    => .ok a (discard ports path disk)
  | .error e disk => .error e (discard ports path disk)

end Disk

end Clips
