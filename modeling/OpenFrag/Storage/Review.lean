import OpenFrag.Storage.Live

open Table MachineInt

-- The statements of clip review. They take the reading of the wall clock that they make.
namespace Storage

inductive ClipDisposition
  | saved
  | inReview
  | kept
  | deleted
  deriving DecidableEq, Repr

def ClipDisposition.asStr : ClipDisposition → String
  | .saved    => "saved"
  | .inReview => "in_review"
  | .kept     => "kept"
  | .deleted  => "deleted"

-- An integer that overflows becomes the floating-point number `2 ^ 63`, and stays that number.
def nextRevision (revision : Int) : Int :=
  min (revision + 1) (2 ^ 63)

def setClipReview (clip : ClipId) (disposition : ClipDisposition) (title : Option String)
    (favorite : Bool) (now : Int) : Statement Unit := fun db => do
  let reviewDecision := if disposition = .kept then .keep else .pending
  ensure (db.clips.any (isLive clip)) (.illegalTransition "clip missing or deleted")
  ensure (0 ≤ now) (.database (.check "reviewed_at_ms >= 0"))
  return ((), { db with
    clips := update (isLive clip)
      (fun row => { row with
        title, favorite, reviewDecision
        disposition    := disposition.asStr
        reviewRevision := row.reviewRevision.map nextRevision
        reviewedAtMs   := some now }) db.clips })

def validateReviewMetadata (title note : Option String) (tags : List String) :
    Except Error Unit := do
  ensure ((∀ t ∈ title, t.utf8ByteSize ≤ 200) ∧ (∀ n ∈ note, n.utf8ByteSize ≤ 4000) ∧
    tags.length ≤ 32) (.invalid "clip review metadata limits")
  ensure ((∀ tag ∈ tags, ¬isBlank tag ∧ tag.utf8ByteSize ≤ 64) ∧ tags.Nodup) (.invalid "clip tags")

def tagRows (clip : ClipId) (tags : List String) : List ClipTagRow :=
  tags.zipIdx.map fun (tag, position) => ⟨clip, position, tag⟩

def retagged (clip : ClipId) (tags : List String) (rows : List ClipTagRow) : List ClipTagRow :=
  tagRows clip tags ++ rows.filter (·.clipId ≠ clip)

def replaceClipTags (clip : ClipId) (tags : List String) : Statement Unit := fun db => do
  ensure (∀ tag ∈ tags, hasText tag) (.database (.check "length(trim(tag)) > 0"))
  return ((), { db with clipTags := retagged clip tags db.clipTags })

def reviewDisposition : ClipReviewDecision → ClipDisposition
  | .keep              => .kept
  | .pending | .reject => .inReview

-- What the two writers of a review store of it.
def reviewed (title note : Option String) (decision : ClipReviewDecision) (favorite : Bool)
    (revision : Option Int) (now : Int) (row : ClipRow) : ClipRow :=
  { row with
    disposition    := (reviewDisposition decision).asStr
    title, note, favorite
    reviewDecision := decision
    reviewRevision := revision
    reviewedAtMs   := some now }

-- One transaction.
def updateClipReview (clip : ClipId) (title note : Option String) (tags : List String)
    (decision : ClipReviewDecision) (favorite : Bool) (now : Int) : Statement Unit := fun db => do
  validateReviewMetadata title note tags
  ensure (db.clips.any (isLive clip)) (.notFound "live clip")
  ensure (0 ≤ now) (.database (.check "reviewed_at_ms >= 0"))
  replaceClipTags clip tags { db with
    clips := update (isLive clip)
      (fun row => reviewed title note decision favorite (row.reviewRevision.map nextRevision) now row)
      db.clips }

-- The reading of a column of integers fails on a floating-point number.
def readInteger (value : Int) : Except Error Int := do
  ensure (Signed 64 value) (.database (.check "INTEGER"))
  return value

def isAtRevision (clip : ClipId) (expected : Int) (row : ClipRow) : Bool :=
  isLive clip row && row.reviewRevision = some expected

-- One transaction.
def compareAndSwapClipReview (clip : ClipId) (expectedRevision : Nat) (title note : Option String)
    (tags : List String) (decision : ClipReviewDecision) (favorite : Bool) (now : Int) :
    Statement Nat := fun db => do
  validateReviewMetadata title note tags
  ensure (Signed 64 (expectedRevision + 1)) (.invalid "clip review revision")
  if db.clips.any (isAtRevision clip expectedRevision) then
    ensure (0 ≤ now) (.database (.check "reviewed_at_ms >= 0"))
    let (_, db) ← replaceClipTags clip tags { db with
      clips := update (isAtRevision clip expectedRevision)
        (reviewed title note decision favorite (some (expectedRevision + 1)) now) db.clips }
    return (expectedRevision + 1, db)
  else
    match db.clips.find? (isLive clip) with
    | none     => throw (.notFound "live clip")
    | some row =>
      match row.reviewRevision with
      | none          => throw (.unavailable "clip review revision")
      | some revision => do
        let _ ← readInteger revision
        throw (.conflict "clip review revision")

end Storage
