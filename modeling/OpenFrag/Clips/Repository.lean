import Mathlib.Data.Finset.Sort
import Mathlib.Data.String.Basic
import OpenFrag.Clips.Model
import OpenFrag.Storage.Files

open Storage (ArtifactPath ClipDetailRecord ClipReviewDecision DurableClipModelRecord
  DurableClipOriginRecord File Store Statement hexText identifierText)

-- The repository of clips over the store.
namespace Clips

inductive StorageClipRepositoryError
  | notFound
  | unavailable (what : String)
  | conflict (what : String)
  | inconsistentModel (what : String)
  | model (error : ModelError)
  | rehydration (error : ClipRehydrationError)
  | derivedClipIdentityRequired
  | storage (error : Storage.Error)
  deriving DecidableEq, Repr

def storageError : Storage.Error → StorageClipRepositoryError
  | .notFound _       => .notFound
  | .unavailable what => .unavailable what
  | .conflict what    => .conflict what
  | other             => .storage other

-- The path of an artifact below the root of the store.
def relativeText : ArtifactPath → String
  | .committed sha256 extension           =>
    "artifacts/sha256/" ++ String.ofList ((hexText sha256).toList.take 2) ++ "/" ++ hexText sha256 ++
      "." ++ String.ofList extension
  | .quarantined sha256 file              =>
    "quarantine/" ++ hexText sha256 ++ "-" ++ identifierText file ++ ".dem"
  | .misplaced directory sha256 extension =>
    "artifacts/sha256/" ++ identifierText directory ++ "/" ++ hexText sha256 ++ "." ++
      String.ofList extension
  | .misnamed directory file              =>
    "artifacts/sha256/" ++ identifierText directory ++ "/" ++ identifierText file
  | .outside file                         => identifierText file

def originFromRecord : DurableClipOriginRecord → Except ModelError ClipOrigin
  | .auto triggerReceipts evidenceReceipts                   =>
    ClipOrigin.newAutoHighlight triggerReceipts.toFinset evidenceReceipts.toFinset
  | .manual flagReceiptId flagTimeMs overlappingAutoReceipts =>
    ClipOrigin.newManualFlag flagReceiptId flagTimeMs overlappingAutoReceipts.toFinset

def reviewTime : Option Nat → Except StorageClipRepositoryError Nat
  | some time => return time
  | none      => throw (.inconsistentModel "reviewed clip has no review time")

def reviewStateFromRecord (decision : ClipReviewDecision) (reviewedAtMs : Option Nat) :
    Except StorageClipRepositoryError ReviewState :=
  match decision with
  | .pending => return .provisional
  | .keep    => do return .reviewed (← reviewTime reviewedAtMs)
  | .reject  => do return .rejected (← reviewTime reviewedAtMs)

def clipFromRecord (root : String) (record : DurableClipModelRecord) :
    Except StorageClipRepositoryError Clip := do
  if record.artifact.byteLength < 0 then
    throw (.inconsistentModel "negative artifact byte length")
  let sourceCapture ← (ArtifactProvenance.new (hexText record.artifact.sha256)
    (root ++ "/" ++ relativeText record.artifact.path) (hexText record.artifact.sha256)
    record.durationMs record.artifact.byteLength.toNat).mapError .model
  let origin ← (originFromRecord record.origin).mapError .model
  let reviewState ← reviewStateFromRecord record.detail.reviewDecision record.reviewedAtMs
  let id ← (ClipId.new (identifierText record.detail.summary.id)).mapError .model
  (fromDurableSnapshot {
    id, sourceCapture, origin, reviewState
    revision         := record.revision
    captureSessionId := identifierText record.captureSessionId
    title            := record.detail.summary.title.getD ""
    note             := record.detail.note.getD ""
    tags             := record.detail.tags.toFinset
    favorite         := record.detail.favorite
    derivative       := none }).mapError .rehydration

def loadDurable (s : Store) (clip : Storage.ClipId) : Except StorageClipRepositoryError Clip := do
  let record ← (Storage.durableClipModel s clip).mapError storageError
  clipFromRecord s.root record

inductive DurableReviewDecision
  | keep
  | reject
  deriving DecidableEq, Repr

structure DurableReviewUpdate where
  title    : String
  note     : String
  tags     : List String
  favorite : Bool
  decision : DurableReviewDecision
  deriving DecidableEq, Repr

def DurableReviewDecision.review : DurableReviewDecision → ClipReviewDecision
  | .keep   => .keep
  | .reject => .reject

-- A statement on the database of the store.
def perform {α : Type} (op : Statement α) : EStateM StorageClipRepositoryError Store α := fun s =>
  match op s.db with
  | .ok (a, db)   => .ok a { s with db }
  | .error error' => .error (storageError error') s

-- The clip that an identifier names.
def clipNamed (id : ClipId) : Option Storage.ClipId :=
  Option.guard (identifierText · = id.value) (Nat.ofDigitChars 10 id.value.toList 0)

-- The part of `persist_review` that follows the load of the clip.
def persistLoaded (clip : Storage.ClipId) (current : Clip) (update : DurableReviewUpdate)
    (now : Int) : EStateM StorageClipRepositoryError Store ClipDetailRecord := do
  let _ ← perform (Storage.compareAndSwapClipReview clip current.snapshot.revision
    (some update.title) (some update.note) update.tags update.decision.review update.favorite now)
  perform fun db => do return (← Storage.clipDetail db clip, db)

def persistReview (clip : Storage.ClipId) (update : DurableReviewUpdate) (now : Int) :
    EStateM StorageClipRepositoryError Store ClipDetailRecord := do
  let current ← fun s =>
    match loadDurable s clip with
    | .ok current   => .ok current s
    | .error error' => .error error' s
  persistLoaded clip current update now

def ReviewState.decision : ReviewState → ClipReviewDecision
  | .provisional => .pending
  | .reviewed _  => .keep
  | .rejected _  => .reject

-- A set of tags, in their order.
def orderedTags (tags : Finset String) : List String :=
  tags.sort (· ≤ ·)

def compareAndSwapDurable (expectedRevision : Nat) (updated : Clip) (now : Int) :
    EStateM StorageClipRepositoryError Store Unit := do
  if updated.snapshot.derivative.isSome then
    throw .derivedClipIdentityRequired
  if updated.snapshot.revision ≠ MachineInt.saturatingAdd 64 expectedRevision 1 then
    throw (.inconsistentModel "updated clip revision is not the expected successor")
  match clipNamed updated.snapshot.id with
  | none      => throw .notFound
  | some clip => do
    let revision ← perform (Storage.compareAndSwapClipReview clip expectedRevision
      (some updated.snapshot.title) (some updated.snapshot.note)
      (orderedTags updated.snapshot.tags) updated.snapshot.reviewState.decision
      updated.snapshot.favorite now)
    if revision ≠ updated.snapshot.revision then
      throw (.inconsistentModel "storage committed an unexpected clip revision")

def storageRepository (now : Int) : ClipRepository Store where
  compareAndSwap expectedRevision updated :=
    EStateM.adaptExcept (fun e => ⟨reprStr e⟩) (compareAndSwapDurable expectedRevision updated now)

end Clips
