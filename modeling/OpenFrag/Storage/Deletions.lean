import OpenFrag.Storage.Derivatives
import OpenFrag.Storage.Saves

open Table

-- The deletion of clips, and the calls on the clips of a store under any order.
namespace Storage

-- The steps of the removal of a file.
inductive DeletionStep
  | remove
  | sync
  deriving DecidableEq, Repr

structure DeleteResult where
  clipDeleted     : Bool
  artifactDeleted : Bool
  deriving DecidableEq, Repr

-- Deletion goes by the time of deletion, and not by the disposition.
def isUndeleted (clip : ClipId) (row : ClipRow) : Bool :=
  row.id = clip && row.deletedAtMs = none

-- The clips of an artifact that are not deleted.
def liveClips (db : Database) (sha256 : Digest) : List ClipRow :=
  db.clips.filter fun row => row.artifactSha256 = sha256 && row.deletedAtMs = none

-- The file that goes with a clip: that of its artifact, when it has no other live clip.
def deletedFile (s : Store) (row : ClipRow) : Except Error (Option ArtifactPath) := do
  if (liveClips s.db row.artifactSha256).any (·.id ≠ row.id) then return none
  else
    let (info, _) ← artifact row.artifactSha256 s.db
    if info.availability ≠ .present then return none
    else
      match info.relativePath with
      | none              => throw (.invalid "artifact path")
      | some relativePath => do
        let path ← safeArtifactPath s.files row.artifactSha256 relativePath info.byteLength
        return some path

namespace Store

def deleteClipRow (s : Store) (clip : ClipId) (now : Int) : Store :=
  { s with db := { s.db with
    clips := update (isUndeleted clip)
      (fun row => { row with disposition := "deleted", deletedAtMs := some now }) s.db.clips } }

def deleteArtifactRow (s : Store) (sha256 : Digest) (now : Int) : Store :=
  { s with db := { s.db with
    artifacts := update (·.sha256 = sha256)
      (fun row => { row with availability := .deleted, deletedAtMs := some now }) s.db.artifacts } }

end Store

-- The removal of the file that goes with the clip, after the row of the clip is deleted.
def removeDeletedFile (fails : DeletionStep → Bool) : Option ArtifactPath → Action Unit
  | none      => pure ()
  | some path => do
    if fails .remove then throw (.io "remove file")
    modify (·.removeFile path)
    if fails .sync then throw (.io "sync directory")

def deleteClip (fails : DeletionStep → Bool) (clip : ClipId) (now now' : Int) :
    Action DeleteResult := fun s =>
  match s.db.clips.find? (isUndeleted clip) with
  | none     => .error (.notFound "live clip") s
  | some row =>
    match deletedFile s row with
    | .error e  => .error e s
    | .ok path? =>
      let marked := s.deleteClipRow clip now
      if liveClips marked.db row.artifactSha256 ≠ [] then .ok ⟨true, false⟩ marked
      else
        match removeDeletedFile fails path? marked with
        | .error e removed => .error e removed
        | .ok () removed   => .ok ⟨true, true⟩ (removed.deleteArtifactRow row.artifactSha256 now')

-- The calls. A commit of a derivative may fail to remove the file of a transaction that failed.
inductive ClipCall
  | save (call : SaveCall)
  | setClipReview (clip : ClipId) (disposition : ClipDisposition) (title : Option String)
      (favorite : Bool) (now : Int)
  | updateClipReview (clip : ClipId) (title note : Option String) (tags : List String)
      (decision : ClipReviewDecision) (favorite : Bool) (now : Int)
  | compareAndSwapClipReview (clip : ClipId) (expectedRevision : Nat) (title note : Option String)
      (tags : List String) (decision : ClipReviewDecision) (favorite : Bool) (now : Int)
  | commitClipDerivative (removalFails : Bool) (request : DerivativeClipCommit)
      (clock : DerivativeClock)
  | deleteClip (fails : DeletionStep → Bool) (clip : ClipId) (now now' : Int)
  -- a file is removed from outside
  | removeFile (path : ArtifactPath)

-- A statement on the database of a store. What it returns is left out.
def Statement.on {α : Type} (op : Statement α) (s : Store) : Except Error Unit × Store :=
  ((op.perform s.db).1.map fun _ => (), { s with db := (op.perform s.db).2 })

def Action.on {α : Type} (action : Action α) (s : Store) : Except Error Unit × Store :=
  match action s with
  | .ok _ s'    => (.ok (), s')
  | .error e s' => (.error e, s')

namespace ClipCall

def serve : ClipCall → Store → Except Error Unit × Store
  | .save call, s =>
    ((call.serve s.db).1.map fun _ => (), { s with db := (call.serve s.db).2 })
  | .setClipReview clip disposition title favorite now, s =>
    (Storage.setClipReview clip disposition title favorite now).on s
  | .updateClipReview clip title note tags decision favorite now, s =>
    (Storage.updateClipReview clip title note tags decision favorite now).on s
  | .compareAndSwapClipReview clip expectedRevision title note tags decision favorite now, s =>
    (Storage.compareAndSwapClipReview clip expectedRevision title note tags decision favorite
      now).on s
  | .commitClipDerivative removalFails request clock, s =>
    Action.on (Storage.commitClipDerivative (fun step => removalFails && step = .removeTarget)
      request clock) s
  | .deleteClip fails clip now now', s => Action.on (Storage.deleteClip fails clip now now') s
  | .removeFile path, s => (.ok (), s.removeFile path)

end ClipCall

abbrev ClipStep := Machine.Step ClipCall (Except Error Unit) Store

-- The files that were removed from outside.
def removedOutside (steps : List ClipStep) : List ArtifactPath :=
  steps.filterMap fun step =>
    match step.call with
    | .removeFile path => some path
    | _                => none

-- The file of an artifact is there, unless it was removed from outside.
def ArtifactRow.InPlace (gone : List ArtifactPath) (files : List File) (row : ArtifactRow) : Prop :=
  ∃ path, row.relativePath = some path ∧ (path ∈ gone ∨ (fileAt files path).isSome)

def ClipRow.isLive (row : ClipRow) : Bool :=
  row.disposition ≠ "deleted"

structure Kept (gone : List ArtifactPath) (s : Store) : Prop where
  marked : ∀ clip ∈ s.db.clips, clip.disposition = "deleted" ↔ clip.deletedAtMs.isSome
  held   : ∀ clip ∈ s.db.clips, clip.isLive → ∃ row ∈ s.db.artifacts,
    row.sha256 = clip.artifactSha256 ∧ row.availability = .present ∧ row.InPlace gone s.files

-- The artifact of the last live clip is deleted when that clip is.
def ClipStep.TakesArtifact (step : ClipStep) : Prop :=
  ∀ clip ∈ step.before.db.clips, clip.isLive →
    (∀ clip' ∈ step.after.db.clips, clip'.id = clip.id → ¬clip'.isLive) →
    (∀ other ∈ step.after.db.clips, other.artifactSha256 = clip.artifactSha256 → ¬other.isLive) →
      ∀ row ∈ step.after.db.artifacts, row.sha256 = clip.artifactSha256 →
        row.availability = .deleted

-- A deletion that fails leaves its clip live.
def ClipStep.SparesClip (step : ClipStep) : Prop :=
  match step.call, step.reply with
  | .deleteClip _ clip _ _, .error _ =>
    step.before.db.clips.any (isLive clip) → step.after.db.clips.any (isLive clip)
  | _, _ => True

structure Deletions (steps : List ClipStep) (s : Store) : Prop where
  kept   : Kept (removedOutside steps) s
  takes  : ∀ step ∈ steps, step.TakesArtifact
  spares : ∀ step ∈ steps, step.SparesClip

-- A store that has its keys, and whose present artifacts have their files.
structure ClipsSound (gone : List ArtifactPath) (s : Store) : Prop where
  clips     : (s.db.clips.map (·.id)).Nodup
  artifacts : (s.db.artifacts.map (·.sha256)).Nodup
  paths     : ∀ row ∈ s.db.artifacts, ∀ other ∈ s.db.artifacts, ∀ path ∈ row.relativePath,
    path ∈ other.relativePath → row.sha256 = other.sha256
  present   : ∀ row ∈ s.db.artifacts, row.availability = .present → row.InPlace gone s.files
  kept      : Kept gone s

-- The artifact of which a clip of an attempt is made.
def verifiedArtifact (db : Database) (attempt : SaveAttemptId) : Option Digest :=
  if db.saveAttemptClips.any (·.saveAttemptId = attempt) then none
  else do
    let row ← db.recorderSaveAttempts.find? fun row => row.id = attempt && row.status = .saved
    row.verifiedArtifactSha256

-- The deletion of a clip takes the file of a present artifact with it.
def TakesFile (s : Store) (clip : ClipId) : Prop :=
  ∃ row ∈ s.db.clips.find? (isUndeleted clip),
    (∀ other ∈ liveClips s.db row.artifactSha256, other.id = clip) ∧
    ∃ artifact ∈ artifactOf s.db row, artifact.availability = .present ∧
      ∃ path ∈ artifact.relativePath,
        safeArtifactPath s.files row.artifactSha256 path artifact.byteLength = .ok path

-- A review does not delete a live clip, a clip is not made of an artifact that is not present, and
-- the file of a deleted clip is removed.
def ClipCall.clean (s : Store) : ClipCall → Prop
  | .setClipReview clip .deleted _ _ now   => ¬(s.db.clips.any (isLive clip) ∧ 0 ≤ now)
  | .save (.createClip attempt provenance _) => provenance ∈ ["raw_auto", "raw_manual"] →
    ∀ sha256 ∈ verifiedArtifact s.db attempt, isPresent s.db sha256
  | .deleteClip fails clip _ _             => TakesFile s clip → ¬fails .remove ∧ ¬fails .sync
  | _                                      => True

end Storage
