import OpenFrag.Library.Machine
import OpenFrag.Storage.Deletions
import OpenFrag.Storage.Import
import OpenFrag.Storage.Recovery

open Table MachineInt

-- The artifacts of a store, from their staging to their removal, where each step may fail and the
-- process may end between any two of them. There are no symbolic links.
namespace Storage

-- The steps that may fail on their own. What is not undone is as if the process ended there.
inductive ArtifactStep
  | createStaged
  | stagedPermissions
  | readSource
  | syncStaged
  | createDirectory
  | lookAtTarget
  | metadata
  | removeStaged
  | rename
  | permissions
  | syncTarget
  | updateRow
  | moveBack
  deriving DecidableEq, Repr

-- A store, and the staged artifacts that it has handed out.
structure Depot where
  store  : Store
  issued : List StagedArtifact
  deriving DecidableEq

namespace Depot

-- A generated name is used once.
def stagedName (d : Depot) : Nat :=
  fresh (d.issued.map (·.name) ++ d.store.staging.map (·.name))

def withStaged (d : Depot) (content : Content) : Depot :=
  { d with store := { d.store with staging := ⟨d.stagedName, content⟩ :: d.store.staging } }

end Depot

def demand (c : Prop) [Decidable c] (error : Error) : Action Unit :=
  if c then pure () else throw error

def StagedArtifact.targetPath (staged : StagedArtifact) (extension : String) : ArtifactPath :=
  .committed staged.sha256 (extension.toList.dropWhile (· = '.'))

def ArtifactPath.quarantineNumber : ArtifactPath → Nat
  | .quarantined _ file => file
  | _                   => 0

section

variable (fails : ArtifactStep → Bool)

-- A reader that fails leaves what was written before.
def stageFromReader (hash : Content → Digest) (content : Content) (written : Nat) :
    EStateM Error Depot StagedArtifact := fun d =>
  if fails .createStaged then .error (.io "create staged file") d
  else if fails .stagedPermissions then .error (.io "staged file permissions") (d.withStaged [])
  else if fails .readSource then
    .error (.io "reader") (d.withStaged (content.take written))
  else if ¬Unsigned 64 content.length then
    .error (.invalid "artifact too large") (d.withStaged (content.take written))
  else if fails .syncStaged then .error (.io "sync staged file") (d.withStaged content)
  else
    let staged := ⟨hash content, content.length, d.stagedName⟩
    .ok staged { d.withStaged content with issued := staged :: d.issued }

def attemptStep (step : ArtifactStep) : Action Unit :=
  demand (¬fails step) (.io "step of an artifact")

def stagedFile (name : Nat) : Action StagedFile := do
  match (← get).staging.find? (·.name = name) with
  | none        => throw (.io "staged artifact")
  | some staged => return staged

namespace Store

def unstage (s : Store) (staged : StagedFile) : Store :=
  { s with staging := s.staging.filter (·.name ≠ staged.name) }

-- A target that is there has the content of its name, and the staged file is dropped.
def placeArtifact (name : Nat) (target : ArtifactPath) : Action Unit := do
  attemptStep fails .createDirectory
  let s ← get
  if ¬fails .lookAtTarget ∧ (fileAt s.files target).isSome then
    attemptStep fails .metadata
    attemptStep fails .removeStaged
    let staged ← stagedFile name
    modify (·.unstage staged)
  else
    attemptStep fails .rename
    let staged ← stagedFile name
    modify (·.promote staged target)
    attemptStep fails .permissions
    attemptStep fails .syncTarget

def commitArtifact (staged : StagedArtifact) (extension : String) (mediaType : Option String)
    (now : Int) : Action Digest := do
  demand ('/' ∉ extension.toList ∧ '\\' ∉ extension.toList) (.invalid "unsafe extension")
  placeArtifact fails staged.name (staged.targetPath extension)
  demand (Signed 64 staged.byteLength) (.invalid "artifact too large")
  attemptStep fails .updateRow
  fun s =>
    match Storage.commitArtifact staged.sha256 staged.byteLength extension mediaType now s.db with
    | .ok (sha256, db) => .ok sha256 { s with db }
    | .error e         => .error e s

-- A generated number of a file in the quarantine.
def quarantineNumber (s : Store) : Nat :=
  fresh ((s.files.map (·.path) ++ s.db.artifacts.filterMap (·.relativePath)).map
    ArtifactPath.quarantineNumber)

def moveFile (s : Store) (file : File) (path : ArtifactPath) : Store :=
  { s with files := ⟨path, file.content⟩ :: s.files.filter (·.path ≠ file.path) }

-- The file is moved back when the row is not updated. What the move reports is lost.
def quarantineArtifact (sha256 : Digest) (reason : String) : Action ArtifactPath := fun s =>
  match Storage.quarantineArtifact sha256 reason s.quarantineNumber s.db with
  | .error e              => .error e s
  | .ok (destination, db) =>
    let path? := (s.db.artifacts.find? (·.sha256 = sha256)).bind (·.relativePath)
    match path?.bind (fileAt s.files) with
    | none      => .error (.io "artifact file") s
    | some file =>
      let moved := s.moveFile file destination
      if fails .metadata ∨ fails .rename then .error (.io "quarantine") s
      else if fails .updateRow then
        .error (.io "artifact row") (if fails .moveBack then moved else s)
      else if fails .syncTarget then .error (.io "quarantine directory") { moved with db }
      else .ok destination { moved with db }

end Store

end

def expectArtifact (sha256 : Digest) (byteLength : Int) (mediaType : Option String) (now : Int) :
    Statement Unit := fun db => do
  ensure (0 ≤ byteLength) (.invalid "expected artifact")
  ensure (¬hasArtifact db sha256) (.conflict "expected artifact")
  return ((), { db with
    artifacts := {
      sha256
      relativePath  := none
      byteLength
      mediaType
      availability  := .expected
      createdAtMs   := now
      missingReason := none } :: db.artifacts })

-- Where a recovery ends that does not come to its end: when it has gone through some of the rows,
-- some of the staged files, or some of the files of the tree.
inductive RecoveryStop
  | marking (rows : List Digest)
  | clearing (names : List Nat)
  | walking (paths : List ArtifactPath)
  deriving DecidableEq, Repr

def Store.markMissingAmong (s : Store) (rows : List Digest) : Store :=
  s.withArtifacts (update (fun row => row.sha256 ∈ rows && s.lacksFile row)
    (fun row => { row with availability := .missing, missingReason := some "file_missing" })
    s.db.artifacts)

section

variable (hash : Content → Digest) (now : Int)

def recoverUntil : RecoveryStop → Recovery Unit
  | .marking rows   => modify (·.markMissingAmong rows)
  | .clearing names => do
    modify Store.markMissing
    modify fun s => { s with staging := s.staging.filter (·.name ∉ names) }
  | .walking paths  => do
    let s ← get
    modify Store.markMissing
    recoverStaging
    recoverFiles hash now (s.files.filter (·.path ∈ paths))

end

-- The calls. The last one stands for the statements that do not write the artifacts.
inductive DepotCall
  | stage (fails : ArtifactStep → Bool) (content : Content) (written : Nat)
  | commit (fails : ArtifactStep → Bool) (staged : StagedArtifact) (extension : String)
      (mediaType : Option String) (now : Int)
  | commitDerivative (fails : DerivativeStep → Bool) (request : DerivativeClipCommit)
      (clock : DerivativeClock)
  | quarantine (fails : ArtifactStep → Bool) (sha256 : Digest) (reason : String)
  | expect (sha256 : Digest) (byteLength : Int) (mediaType : Option String) (now : Int)
  | recoverStaging
  | recoverArtifacts (now : Int)
  | recoverUntil (stop : RecoveryStop) (now : Int)
  | clip (call : ClipCall)
  | other (change : Database → Database)

-- What happens to a store happens to the store of a depot.
def Depot.perform (d : Depot) (r : Except Error Unit × Store) : Except Error Unit × Depot :=
  (r.1, { d with store := r.2 })

namespace DepotCall

variable (hash : Content → Digest)

def serve : DepotCall → Depot → Except Error Unit × Depot
  | .stage fails content written, d =>
    match stageFromReader fails hash content written d with
    | .ok _ d    => (.ok (), d)
    | .error e d => (.error e, d)
  | .commit fails staged extension mediaType now, d =>
    d.perform ((Store.commitArtifact fails staged extension mediaType now).on d.store)
  | .commitDerivative fails request clock, d =>
    d.perform (Action.on (commitClipDerivative fails request clock) d.store)
  | .quarantine fails sha256 reason, d =>
    d.perform ((Store.quarantineArtifact fails sha256 reason).on d.store)
  | .expect sha256 byteLength mediaType now, d =>
    d.perform ((expectArtifact sha256 byteLength mediaType now).on d.store)
  | .recoverStaging, d             => d.perform (Action.on Storage.recoverStaging d.store)
  | .recoverArtifacts now, d       =>
    d.perform (Action.on (Storage.recoverArtifacts hash now) d.store)
  | .recoverUntil stop now, d      =>
    d.perform (Action.on (Storage.recoverUntil hash now stop) d.store)
  | .clip call, d                  => d.perform (call.serve d.store)
  | .other change, d               =>
    d.perform (.ok (), { d.store with db := change d.store.db })

end DepotCall

-- What recovery sees of the row of an artifact.
def ArtifactRow.entry (row : ArtifactRow) : Digest × Option ArtifactPath × Availability :=
  (row.sha256, row.relativePath, row.availability)

-- The staged artifact that a call commits.
def DepotCall.commits? : DepotCall → Option StagedArtifact
  | .commit _ staged ..                       => some staged
  | .commitDerivative _ request _             => some request.staged
  | .clip (.commitClipDerivative _ request _) => some request.staged
  | _                                         => none

-- What is committed has been staged, and the other statements leave the artifacts.
structure DepotCall.Fair (d : Depot) (call : DepotCall) : Prop where
  issued  : ∀ staged ∈ call.commits?, staged ∈ d.issued
  entries : ∀ change, call = .other change → (change d.store.db).artifacts.map ArtifactRow.entry =
    d.store.db.artifacts.map ArtifactRow.entry

-- A recovery clears the staging directory, unless it ends before.
def DepotCall.Clears (name : Nat) : DepotCall → Prop
  | .recoverStaging | .recoverArtifacts _ | .recoverUntil (.walking _) _ => True
  | .recoverUntil (.clearing names) _                                    => name ∈ names
  | _                                                                    => False

-- A deletion of a clip spares the artifacts that have another clip.
def SparedBy (clip : ClipId) (db : Database) (sha256 : Digest) : Prop :=
  ∀ row ∈ db.clips, isUndeleted clip row → row.artifactSha256 = sha256 →
    ∃ row' ∈ liveClips db sha256, row'.id ≠ clip

-- A derivative spares the artifacts that one of its two lookups finds.
def DerivativeClipCommit.Spares (fails : DerivativeStep → Bool) (request : DerivativeClipCommit)
    (sha256 : Digest) : Prop :=
  request.staged.sha256 = sha256 → ¬(fails .readArtifact ∧ fails .lookAtTarget)

-- The call does not take the artifact away: it is not put in quarantine, no file of it is removed
-- from outside, and its last clip is not deleted.
def DepotCall.Spares (d : Depot) (sha256 : Digest) : DepotCall → Prop
  | .quarantine _ digest _            => digest ≠ sha256
  | .clip (.removeFile path)          => path.digest? ≠ some sha256
  | .clip (.deleteClip _ id _ _)      => SparedBy id d.store.db sha256
  | .commitDerivative fails request _ => request.Spares fails sha256
  | _                                 => True

-- A file that is named by a digest has it.
def File.IsNamed (hash : Content → Digest) (file : File) : Prop :=
  ∀ sha256 ∈ file.path.digest?, hash file.content = sha256

-- A row that has the path of a file that is named by a digest has the digest for its key, and the
-- row of a present artifact has such a path.
structure ArtifactRow.IsNamed (row : ArtifactRow) : Prop where
  digest  : ∀ path ∈ row.relativePath, ∀ sha256 ∈ path.digest?, row.sha256 = sha256
  present : row.availability = .present → ∃ path ∈ row.relativePath, path.digest? = some row.sha256

-- The files are addressed by their content, and the rows by the files.
structure Catalogued (hash : Content → Digest) (s : Store) : Prop where
  keys  : (s.db.artifacts.map (·.sha256)).Nodup
  paths : (s.files.map (·.path)).Nodup
  files : ∀ file ∈ s.files, file.IsNamed hash
  rows  : ∀ row ∈ s.db.artifacts, row.IsNamed

-- A staged artifact is what its file has, if that is still there.
structure Depot.Sound (hash : Content → Digest) (d : Depot) : Prop where
  catalogued : Catalogued hash d.store
  staged     : ∀ staged ∈ d.issued, ∀ file ∈ d.store.staging, file.name = staged.name →
    hash file.content = staged.sha256

-- An artifact is present with a file that has its digest.
def Holds (hash : Content → Digest) (s : Store) (sha256 : Digest) : Prop :=
  ∃ row ∈ s.db.artifacts, row.sha256 = sha256 ∧ row.availability = .present ∧
    ∃ path file, row.relativePath = some path ∧ fileAt s.files path = some file ∧
      hash file.content = sha256

end Storage
