import Mathlib.Logic.Function.Basic
import OpenFrag.Clips.Repository
import OpenFrag.Library.Machine

open Storage (ArtifactRow ClipReviewDecision ClipRow Database Statement Store clipTagsOf
  hasText isAtRevision validateReviewMetadata)

-- The reviewers of a store, under any order of their calls.
namespace Clips

-- A clip that a reviewer has loaded, with the identifier that it was loaded by.
structure Held where
  clipId : Storage.ClipId
  clip   : Clip
  deriving DecidableEq

structure Desk where
  store : Store
  held  : Nat → Option Held

inductive ReviewerError
  | nothingHeld
  | review (error : ReviewError)
  | repository (error : StorageClipRepositoryError)
  deriving DecidableEq, Repr

namespace Desk

def hold (desk : Desk) (reviewer : Nat) (held : Held) : Desk :=
  { desk with held := Function.update desk.held reviewer (some held) }

def load (desk : Desk) (reviewer : Nat) (clip : Storage.ClipId) :
    Except ReviewerError Unit × Desk :=
  match loadDurable desk.store clip with
  | .ok loaded    => (.ok (), desk.hold reviewer ⟨clip, loaded⟩)
  | .error error' => (.error (.repository error'), desk)

-- A call about the clip that a reviewer holds. It leaves the reviewer with another one.
def write (desk : Desk) (reviewer : Nat) (op : Held → EStateM ReviewerError Store Held) :
    Except ReviewerError Unit × Desk :=
  match desk.held reviewer with
  | none      => (.error .nothingHeld, desk)
  | some held =>
    match op held desk.store with
    | .ok next store      => (.ok (), { desk with store }.hold reviewer next)
    | .error error' store => (.error error', { desk with store })

end Desk

-- What a reviewer is told of an operation of the repository, and the store after it.
def told {α : Type} : EStateM.Result StorageClipRepositoryError Store α →
    Except ReviewerError Unit × Store
  | .ok _ store         => (.ok (), store)
  | .error error' store => (.error (.repository error'), store)

-- `persist_review` loads the clip, and then writes with another lock. These are two calls.
inductive ReviewerCall
  | load (reviewer : Nat) (clip : Storage.ClipId)
  | review (reviewer : Nat) (edit : ReviewEdit) (reviewedAtMs : Nat) (now : Int)
  | reject (reviewer : Nat) (rejectedAtMs : Nat) (now : Int)
  | persist (reviewer : Nat) (update : DurableReviewUpdate) (now : Int)
  deriving DecidableEq

-- What a review stores.
structure ReviewContent where
  title    : String
  note     : String
  tags     : List String
  favorite : Bool
  decision : ClipReviewDecision
  deriving DecidableEq, Repr

-- A review of a clip, at the revision that its reviewer has seen.
structure Commit where
  clip     : Storage.ClipId
  revision : Nat
  content  : ReviewContent
  deriving DecidableEq, Repr

def ReviewEdit.content (edit : ReviewEdit) : ReviewContent :=
  ⟨edit.title, edit.note, orderedTags edit.tags, edit.favorite, .keep⟩

def Clip.rejection (clip : Clip) : ReviewContent :=
  ⟨clip.snapshot.title, clip.snapshot.note, orderedTags clip.snapshot.tags, clip.snapshot.favorite,
    .reject⟩

def DurableReviewUpdate.content (update : DurableReviewUpdate) : ReviewContent :=
  ⟨update.title, update.note, update.tags, update.favorite, update.decision.review⟩

namespace ReviewerCall

def reviewer : ReviewerCall → Nat
  | .load reviewer _ | .review reviewer .. | .reject reviewer .. | .persist reviewer .. => reviewer

def serve : ReviewerCall → Desk → Except ReviewerError Unit × Desk
  | .load reviewer clip, desk                        => desk.load reviewer clip
  | .review reviewer edit reviewedAtMs now, desk => desk.write reviewer fun held => do
    let clip ← EStateM.adaptExcept ReviewerError.review
      (reviewClip (storageRepository now) held.clip edit reviewedAtMs)
    return { held with clip }
  | .reject reviewer rejectedAtMs now, desk      => desk.write reviewer fun held => do
    let clip ← EStateM.adaptExcept ReviewerError.review
      (rejectClip (storageRepository now) held.clip rejectedAtMs)
    return { held with clip }
  | .persist reviewer update now, desk           => desk.write reviewer fun held => do
    let _ ← EStateM.adaptExcept ReviewerError.repository
      (persistLoaded held.clipId held.clip update now)
    return held

-- The two calls of a `persist_review` that no other call comes between.
def persistReview (reviewer : Nat) (clip : Storage.ClipId) (update : DurableReviewUpdate)
    (now : Int) (desk : Desk) : Except ReviewerError Unit × Desk :=
  match (ReviewerCall.load reviewer clip).serve desk with
  | (.ok (), loaded)   => (ReviewerCall.persist reviewer update now).serve loaded
  | (.error e, loaded) => (.error e, loaded)

-- What a call asks the store to hold of a clip.
def content (clip : Clip) : ReviewerCall → Option ReviewContent
  | .load ..           => none
  | .review _ edit ..  => some edit.content
  | .reject ..         => some clip.rejection
  | .persist _ update _ => some update.content

def commit (desk : Desk) (call : ReviewerCall) : Option Commit := do
  let held ← desk.held call.reviewer
  let content ← call.content held.clip
  return ⟨held.clipId, held.clip.snapshot.revision, content⟩

-- A review that keeps a clip whose decision is to reject it, and that nothing else refuses.
def Revives (desk : Desk) : ReviewerCall → Prop
  | .persist reviewer update now => update.decision = .keep ∧ ∃ held ∈ desk.held reviewer,
    (validateReviewMetadata (some update.title) (some update.note) update.tags = .ok () ∧
      MachineInt.Signed 64 (held.clip.snapshot.revision + 1) ∧ 0 ≤ now ∧
      ∀ tag ∈ update.tags, hasText tag) ∧
    ∃ row ∈ desk.store.db.clips,
      isAtRevision held.clipId held.clip.snapshot.revision row ∧ row.reviewDecision = .reject
  | _                            => False

end ReviewerCall

abbrev ReviewerStep := Machine.Step ReviewerCall (Except ReviewerError Unit) Desk

def ReviewerStep.commit (step : ReviewerStep) : Option Commit :=
  match step.reply with
  | .ok ()   => step.call.commit step.before
  | .error _ => none

-- A review has gone through: the clip, and no other, is at the next revision with its content.
structure Commit.Stores (commit : Commit) (db db' : Database) : Prop where
  seen   : ∃ row ∈ db.clips, row.id = commit.clip ∧ row.reviewRevision = some (commit.revision : Int)
  stored : ∃ row ∈ db'.clips, row.id = commit.clip ∧
    row.reviewRevision = some (commit.revision + 1 : Int) ∧ row.title = some commit.content.title ∧
    row.note = some commit.content.note ∧ row.favorite = commit.content.favorite ∧
    row.reviewDecision = commit.content.decision
  tags   : clipTagsOf db' commit.clip = commit.content.tags
  others : ∀ row : ClipRow, row.id ≠ commit.clip → (row ∈ db'.clips ↔ row ∈ db.clips)
  spared : ∀ clip, clip ≠ commit.clip → clipTagsOf db' clip = clipTagsOf db clip

-- A clip whose decision is to reject it stays rejected.
def ReviewerStep.KeepsRejected (step : ReviewerStep) : Prop :=
  ∀ row ∈ step.before.store.db.clips, row.reviewDecision = .reject →
    ∀ row' ∈ step.after.store.db.clips, row'.id = row.id → row'.reviewDecision = .reject

structure Optimistic (steps : List ReviewerStep) : Prop where
  stores   : ∀ step ∈ steps, ∀ commit ∈ ReviewerStep.commit step,
    commit.Stores step.before.store.db step.after.store.db
  failed   : ∀ step ∈ steps, ∀ error, step.reply = .error error →
    step.after.store = step.before.store
  once     : steps.Pairwise fun first later => ∀ commit ∈ ReviewerStep.commit first,
    ∀ commit' ∈ ReviewerStep.commit later, commit'.clip = commit.clip →
      commit'.revision ≠ commit.revision
  rejected : ∀ step ∈ steps, ReviewerStep.KeepsRejected step

-- The keys of a database that has clips: a clip refers to its artifact.
structure Keyed (db : Database) : Prop where
  clips     : (db.clips.map (·.id)).Nodup
  artifacts : ∀ row ∈ db.clips, ∃ artifact ∈ db.artifacts, artifact.sha256 = row.artifactSha256

end Clips
