import OpenFrag.Clips.Repository
import OpenFrag.Library.Machine

open Storage (ArtifactRow ClipDisposition ClipReviewDecision ClipRow DurableClipOriginInput File
  Statement Store clipTagsOf fileAt isLive)

-- One clip, under any order of the calls that write its review and its metadata.
namespace Clips

inductive ReviewCall
  | setClipReview (disposition : ClipDisposition) (title : Option String) (favorite : Bool)
      (now : Int)
  | updateClipReview (title note : Option String) (tags : List String)
      (decision : ClipReviewDecision) (favorite : Bool) (now : Int)
  | compareAndSwapClipReview (expectedRevision : Nat) (title note : Option String)
      (tags : List String) (decision : ClipReviewDecision) (favorite : Bool) (now : Int)
  | completeClipModelMetadata (durationMs : Nat) (origin : DurableClipOriginInput)
  deriving DecidableEq, Repr

-- A statement on the database of a store.
def onStore {α : Type} (op : Statement α) (s : Store) : Except Storage.Error Unit × Store :=
  ((op.perform s.db).1.map fun _ => (), { s with db := (op.perform s.db).2 })

variable (clip : Storage.ClipId)

namespace ReviewCall

def serve : ReviewCall → Store → Except Storage.Error Unit × Store
  | .setClipReview disposition title favorite now =>
    onStore (Storage.setClipReview clip disposition title favorite now)
  | .updateClipReview title note tags decision favorite now =>
    onStore (Storage.updateClipReview clip title note tags decision favorite now)
  | .compareAndSwapClipReview expectedRevision title note tags decision favorite now =>
    onStore (Storage.compareAndSwapClipReview clip expectedRevision title note tags decision
      favorite now)
  | .completeClipModelMetadata durationMs origin =>
    onStore (Storage.completeClipModelMetadata clip durationMs origin)

def isDeleting : ReviewCall → Bool
  | .setClipReview disposition .. => disposition = .deleted
  | _                             => false

-- A call that succeeds, and that does not delete the clip.
def Succeeds (s : Store) (call : ReviewCall) : Prop :=
  (call.serve clip s).1 = .ok () ∧ ¬call.isDeleting

end ReviewCall

-- The artifact is present, and its file is where a commit has put it.
structure InPlace (files : List File) (artifact : ArtifactRow) : Prop where
  present : artifact.availability = .present
  file    : ∃ extension file, artifact.relativePath = some (.committed artifact.sha256 extension) ∧
    fileAt files (.committed artifact.sha256 extension) = some file ∧
    (file.content.length : Int) = artifact.byteLength
  fits    : MachineInt.Signed 64 artifact.byteLength ∧ 0 ≤ artifact.byteLength

-- The metadata of a clip that is not deleted is complete.
def hasMetadata (row : ClipRow) : Bool :=
  isLive clip row && row.reviewRevision.isSome && row.originKind.isSome

-- What rehydration promises of the review of a clip; the other review states have a time.
structure Rehydrated (snapshot : DurableClipSnapshot) : Prop where
  provisional : snapshot.reviewState = .provisional ↔ snapshot.revision = 0
  clean       : snapshot.reviewState = .provisional →
    snapshot.note = "" ∧ snapshot.tags = ∅ ∧ snapshot.favorite = false

def Loads (s : Store) : Prop :=
  s.db.clips.any (hasMetadata clip) →
    ∃ loaded, loadDurable s clip = .ok loaded ∧ Rehydrated loaded.snapshot

-- A review without content, as a new clip has it.
def Unreviewed (s : Store) (row : ClipRow) : Prop :=
  row.reviewDecision = .pending ∧ row.note.getD "" = "" ∧ clipTagsOf s.db clip = [] ∧
  row.favorite = false

-- The metadata comes before any review, and a review that comes after it decides.
def ReviewCall.InOrder (s : Store) (call : ReviewCall) : Prop :=
  ∀ row ∈ s.db.clips, isLive clip row →
    match call with
    | .setClipReview disposition ..      =>
      ∀ revision ∈ row.reviewRevision, disposition = .kept ∧ revision < 2 ^ 63 - 1
    | .updateClipReview _ _ _ decision ..  =>
      ∀ revision ∈ row.reviewRevision, decision ≠ .pending ∧ revision < 2 ^ 63 - 1
    | .compareAndSwapClipReview _ _ _ _ decision .. => decision ≠ .pending
    | .completeClipModelMetadata ..      => row.reviewRevision = none → Unreviewed clip s row

end Clips
