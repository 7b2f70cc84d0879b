import OpenFrag.Clips.Files
import OpenFrag.Clips.Model
import OpenFrag.Library.Slug

-- The export of a reviewed clip to a directory, under a name made of its title.
namespace Clips

open EStateM (adaptExcept)

-- The characters so far, and whether others have been skipped since.
def sanitizeChar (sanitized : List Char) (pendingSeparator : Bool) (character : Char) :
    List Char × Bool :=
  if character.isAlphanum then
    let separator := if pendingSeparator ∧ sanitized ≠ [] then ['-'] else []
    (sanitized ++ separator ++ [character.toLower], false)
  else
    (sanitized, true)

def sanitizeFilenameComponent (value fallback : String) : String :=
  let (sanitized, _) := value.toList.foldl
    (fun (sanitized, pendingSeparator) => sanitizeChar sanitized pendingSeparator) ([], false)
  if sanitized = [] then fallback else .ofList sanitized

def sanitizeExportFilename (title : String) (clipId : ClipId) : String :=
  sanitizeFilenameComponent title "clip" ++ "-" ++ sanitizeFilenameComponent clipId.value "id" ++
    ".mp4"

def stripMp4 (filename : String) : String :=
  match ".mp4".toList.isSuffixOf? filename.toList with
  | some stem => .ofList stem
  | none      => filename

-- The names that are tried: the file name, and then the stem with a number.
def candidate (filename : String) (collisionIndex : Nat) : String :=
  if collisionIndex = 1 then filename
  else stripMp4 filename ++ "-" ++ toString collisionIndex ++ ".mp4"

-- The first name that an attempt does not find taken. The index of a collision is an integer of 32
-- bits; the remaining ones are counted down.
def tryCandidates {ε σ α : Type} (attempt : String → EStateM ε σ (Option α)) (filename : String) :
    (remaining collisionIndex : Nat) → EStateM ε σ (Option α)
  | 0, _                              => return none
  | remaining + 1, collisionIndex => do
    match ← attempt (candidate filename collisionIndex) with
    | some a => return some a
    | none   => tryCandidates attempt filename remaining (collisionIndex + 1)

def maxCollisionIndex : Nat :=
  2 ^ 32 - 1

inductive FileOperationError
  | destinationExists
  | sourceMissing
  | io (text : String)
  deriving DecidableEq, Repr

structure LocalFileSystem (σ : Type) where
  atomicCopy (source destination : FilePath) : EStateM FileOperationError σ Nat

def mapSourceError (error : IoError) : FileOperationError :=
  if error.kind = .notFound then .sourceMissing else .io error.text

def mapDestinationError (error : IoError) : FileOperationError :=
  if error.kind = .alreadyExists then .destinationExists else .io error.text

def mapIoError (error : IoError) : FileOperationError :=
  .io error.text

section

variable {W : Type} (ports : DiskPorts W)

def required {α σ : Type} (what : String) : Option α → EStateM FileOperationError σ α
  | some a => return a
  | none   => throw (.io what)

def temporaryPath (directory : FilePath) (destinationName : String) :
    EStateM FileOperationError (Disk W) FilePath := fun disk =>
  let (id, world) := ports.nextId disk.world
  .ok (directory.join ("." ++ destinationName ++ ".openfrag-tmp-" ++ toString ports.processId ++
    "-" ++ toString id)) { disk with world }

-- The copy is complete when it gets its name.
def atomicCopy (source destination : FilePath) : EStateM FileOperationError (Disk W) Nat := do
  let content ← adaptExcept mapSourceError (Disk.contentOf ports .open source)
  let destinationName ← required "destination has no file name" destination.fileName
  let destinationDirectory ← required "destination has no parent directory" destination.parent
  let temporary ← temporaryPath ports destinationDirectory destinationName
  adaptExcept mapIoError (Disk.createNew ports temporary)
  adaptExcept mapIoError (Disk.orDiscard ports temporary (Disk.write ports temporary content))
  adaptExcept mapIoError (Disk.orDiscard ports temporary (Disk.attempt ports .sync))
  adaptExcept mapDestinationError
    (Disk.thenDiscard ports temporary (Disk.hardLink ports temporary destination))
  return content.length

def stdLocalFileSystem : LocalFileSystem (Disk W) where
  atomicCopy := atomicCopy ports

end

inductive ExportError
  | notReviewed
  | nameSpaceExhausted
  | file (error : FileOperationError)
  deriving DecidableEq, Repr

structure ExportReceipt where
  clip            : Clip
  destinationPath : FilePath
  bytes           : Nat
  deriving DecidableEq

section

variable {σ : Type} (fileSystem : LocalFileSystem σ)

-- The name is taken when the destination exists.
def copyTo (source destinationDirectory : FilePath) (name : String) :
    EStateM ExportError σ (Option (FilePath × Nat)) := fun s =>
  match fileSystem.atomicCopy source (destinationDirectory.join name) s with
  | .ok bytes s                 => .ok (some (destinationDirectory.join name, bytes)) s
  | .error .destinationExists s => .ok none s
  | .error error s              => .error (.file error) s

def Clip.exported (clip : Clip) : ArtifactProvenance :=
  match clip.snapshot.derivative with
  | some derivative => derivative.artifact
  | none            => clip.snapshot.sourceCapture

def exportClip (clip : Clip) (destinationDirectory : FilePath) :
    EStateM ExportError σ ExportReceipt :=
  match clip.snapshot.reviewState with
  | .reviewed _ => do
    let filename := sanitizeExportFilename clip.snapshot.title clip.snapshot.id
    match ← tryCandidates
      (copyTo fileSystem (.components clip.exported.path) destinationDirectory)
      filename maxCollisionIndex 1 with
    | some (destinationPath, bytes) => return { clip, destinationPath, bytes }
    | none                          => throw .nameSpaceExhausted
  | _           => throw .notReviewed

-- The same file system, which keeps a log of the destinations of its copies.
def LocalFileSystem.logged : LocalFileSystem (σ × List FilePath) where
  atomicCopy source destination := fun (s, tried) =>
    match fileSystem.atomicCopy source destination s with
    | .ok bytes s    => .ok bytes (s, tried ++ [destination])
    | .error error s => .error error (s, tried ++ [destination])

end

end Clips
