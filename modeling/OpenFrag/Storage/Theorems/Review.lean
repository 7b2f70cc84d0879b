import OpenFrag.Storage.Review
import OpenFrag.Storage.Theorems.Live

open Except Table MachineInt

namespace Storage

variable {db : Database} {clip : ClipId} {title note : Option String} {tags : List String}
variable {favorite : Bool} {decision : ClipReviewDecision} {now : Int}

theorem isLive_iff {row : ClipRow} :
    isLive clip row ↔ row.id = clip ∧ row.disposition ≠ "deleted" := by
  simp [isLive]

theorem isAtRevision_iff {expected : Int} {row : ClipRow} :
    isAtRevision clip expected row ↔ isLive clip row ∧ row.reviewRevision = some expected := by
  simp [isAtRevision]

def setReview (disposition : ClipDisposition) (title : Option String) (favorite : Bool) (now : Int)
    (row : ClipRow) : ClipRow :=
  { row with
    title, favorite
    reviewDecision := if disposition = .kept then .keep else .pending
    disposition    := disposition.asStr
    reviewRevision := row.reviewRevision.map nextRevision
    reviewedAtMs   := some now }

theorem setClipReview_eq_ok_iff {disposition : ClipDisposition} {r : Unit × Database} :
    setClipReview clip disposition title favorite now db = .ok r ↔
      db.clips.any (isLive clip) ∧ 0 ≤ now ∧ ((), { db with
        clips := update (isLive clip) (setReview disposition title favorite now) db.clips }) = r := by
  simp only [setClipReview, bind_eq_ok_iff, ensure_eq_ok_iff, exists_const, pure_eq_ok_iff]
  rfl

def updatedReview (title note : Option String) (decision : ClipReviewDecision) (favorite : Bool)
    (now : Int) (row : ClipRow) : ClipRow :=
  reviewed title note decision favorite (row.reviewRevision.map nextRevision) now row

theorem replaceClipTags_eq_ok_iff {r : Unit × Database} :
    replaceClipTags clip tags db = .ok r ↔ (∀ tag ∈ tags, hasText tag) ∧
      ((), { db with clipTags := retagged clip tags db.clipTags }) = r := by
  simp only [replaceClipTags, bind_eq_ok_iff, ensure_eq_ok_iff, exists_const, pure_eq_ok_iff]

theorem updateClipReview_eq_ok_iff {r : Unit × Database} :
    updateClipReview clip title note tags decision favorite now db = .ok r ↔
      validateReviewMetadata title note tags = .ok () ∧ db.clips.any (isLive clip) ∧ 0 ≤ now ∧
      (∀ tag ∈ tags, hasText tag) ∧ ((), { db with
        clips    := update (isLive clip) (updatedReview title note decision favorite now) db.clips
        clipTags := retagged clip tags db.clipTags }) = r := by
  simp only [updateClipReview, bind_eq_ok_iff, ensure_eq_ok_iff, exists_const,
    replaceClipTags_eq_ok_iff]
  simp only [Unique.exists_iff]
  rfl

theorem compareAndSwapClipReview_eq_ok_iff {expectedRevision : Nat} {r : Nat × Database} :
    compareAndSwapClipReview clip expectedRevision title note tags decision favorite now db =
        .ok r ↔
      validateReviewMetadata title note tags = .ok () ∧ Signed 64 (expectedRevision + 1) ∧
      db.clips.any (isAtRevision clip expectedRevision) ∧ 0 ≤ now ∧
      (∀ tag ∈ tags, hasText tag) ∧ (expectedRevision + 1, { db with
        clips    := update (isAtRevision clip expectedRevision)
          (reviewed title note decision favorite (some (expectedRevision + 1)) now) db.clips
        clipTags := retagged clip tags db.clipTags }) = r := by
  simp only [compareAndSwapClipReview, bind_eq_ok_iff, ensure_eq_ok_iff, exists_const]
  simp only [Unique.exists_iff]
  refine and_congr_right fun _ => and_congr_right fun _ => ?_
  split
  case isTrue hany =>
    simp only [bind_eq_ok_iff, ensure_eq_ok_iff, exists_const, pure_eq_ok_iff, hany, true_and,
      replaceClipTags_eq_ok_iff, and_assoc, exists_and_left, exists_eq_left']
  case isFalse hnone =>
    simp only [hnone]
    split
    case h_1 => simp
    case h_2 => split <;> simp [bind_eq_ok_iff]

def completed (origin : DurableClipOriginInput) (row : ClipRow) : ClipRow :=
  { row with
    originKind       := some origin.kind
    manualFlagTimeMs := origin.flagTimeMs.map Int.ofNat
    reviewRevision   := some (row.reviewRevision.getD 0) }

def isMeasurable (sha256 : Digest) (durationMs : Nat) (artifact : ArtifactRow) : Bool :=
  artifact.sha256 = sha256 &&
    (artifact.mediaDurationMs = none || artifact.mediaDurationMs = some (durationMs : Int))

theorem completeClipModelMetadata_eq_ok_iff {durationMs : Nat} {origin : DurableClipOriginInput}
    {r : Unit × Database} : completeClipModelMetadata clip durationMs origin db = .ok r ↔
      (durationMs ≠ 0 ∧ Signed 64 durationMs) ∧ validateOrigin origin = .ok () ∧
      ∃ row, db.clips.find? (isLive clip) = some row ∧
        db.artifacts.any (isMeasurable row.artifactSha256 durationMs) ∧
        (∀ flagTimeMs ∈ origin.flagTimeMs, Signed 64 flagTimeMs) ∧
        (∀ receipt ∈ origin.receipts, hasText receipt) ∧ ((), { db with
          artifacts          := update (isMeasurable row.artifactSha256 durationMs)
            (fun artifact => { artifact with mediaDurationMs := some durationMs }) db.artifacts
          clips              := update (isLive clip) (completed origin) db.clips
          clipOriginReceipts := originRows clip origin ++
            db.clipOriginReceipts.filter (·.clipId ≠ clip) }) = r := by
  simp only [completeClipModelMetadata, bind_eq_ok_iff, ensure_eq_ok_iff, exists_const]
  simp only [Unique.exists_iff]
  refine and_congr_right fun _ => and_congr_right fun _ => ?_
  cases db.clips.find? (isLive clip)
  case none => simp
  case some row =>
    simp only [bind_eq_ok_iff, ensure_eq_ok_iff, exists_const, pure_eq_ok_iff, Option.some.injEq,
      exists_eq_left']
    rfl

theorem originRows_filter {origin : DurableClipOriginInput} {rows : List ClipOriginRow} :
    (originRows clip origin ++ rows.filter (·.clipId ≠ clip)).filter (·.clipId = clip) =
      originRows clip origin := by
  have hkept : (originRows clip origin).filter (·.clipId = clip) = originRows clip origin :=
    List.filter_eq_self.mpr fun row hrow => by simpa using originRows_clipId hrow
  simp [List.filter_append, hkept, List.filter_filter]

end Storage
