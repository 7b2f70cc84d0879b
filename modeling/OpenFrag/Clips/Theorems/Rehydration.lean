import OpenFrag.Clips.Model
import OpenFrag.Library.Within

open Except MachineInt

namespace Clips

namespace ClipOrigin

theorem Built.evidenceValid_iff {origin : ClipOrigin} (h : origin.Built) :
    origin.evidenceValid ↔ "" ∉ origin.receipts := by
  cases h
  case auto triggers evidence h =>
    unfold newAutoHighlight at h
    split at h
    case isTrue => cases h
    case isFalse hne =>
      cases h
      simp only [not_or] at hne
      simp [evidenceValid, receipts, hne]
  case manual flag time overlapping h =>
    unfold newManualFlag at h
    split at h
    case isTrue => cases h
    case isFalse hne =>
      cases h
      simp [evidenceValid, receipts, hne]

end ClipOrigin

variable {snapshot : DurableClipSnapshot} {clip clip' : Clip} {edit : ReviewEdit} {time : Nat}

theorem validateReviewState_eq_ok_iff : validateReviewState snapshot = .ok () ↔
    if snapshot.reviewState = .provisional then
      snapshot.revision = 0 ∧ snapshot.note = "" ∧ snapshot.tags = ∅ ∧ snapshot.favorite = false ∧
        snapshot.derivative = none
    else snapshot.revision ≠ 0 := by
  unfold validateReviewState
  cases snapshot.reviewState <;> simp [bind_eq_ok_iff]

theorem validateDerivative_eq_ok_iff : validateDerivative snapshot = .ok () ↔
    ∀ derivative ∈ snapshot.derivative,
      derivative.sourceArtifactId = snapshot.sourceCapture.artifactId ∧
      derivative.artifact.artifactId ≠ snapshot.sourceCapture.artifactId ∧
      derivative.trim.endMs ≤ snapshot.sourceCapture.durationMs := by
  unfold validateDerivative
  cases snapshot.derivative <;> simp [bind_eq_ok_iff]

theorem fromDurableSnapshot_eq_ok_iff : fromDurableSnapshot snapshot = .ok clip ↔
    (snapshot.captureSessionId ≠ "" ∧ snapshot.origin.evidenceValid ∧
      validateReviewState snapshot = .ok () ∧ validateDerivative snapshot = .ok ()) ∧
    ⟨snapshot⟩ = clip := by
  simp only [fromDurableSnapshot, validateDurableSnapshot, bind_eq_ok_iff, check_eq_ok_iff,
    pure_eq_ok_iff, Unique.exists_iff, and_assoc]

-- What the checks of a review and the construction of a trim settle of a derivative.
def Fits (source : ArtifactProvenance) (derivative : Option DerivativeProvenance) : Prop :=
  ∀ d ∈ derivative, d.sourceArtifactId = source.artifactId ∧ d.trim.endMs ≤ source.durationMs

theorem reviewed_eq_ok_iff : clip.reviewed edit time = .ok clip' ↔
    ¬clip.snapshot.reviewState.isRejected ∧ Fits clip.snapshot.sourceCapture edit.derivative ∧
    ⟨{ clip.snapshot with
      revision    := saturatingAdd 64 clip.snapshot.revision 1
      reviewState := .reviewed time
      title       := edit.title
      note        := edit.note
      tags        := edit.tags
      favorite    := edit.favorite
      derivative  := edit.derivative }⟩ = clip' := by
  unfold Clip.reviewed Fits
  cases edit.derivative <;> simp only [bind_eq_ok_iff, check_eq_ok_iff, exists_const,
    pure_eq_ok_iff] <;> simp [and_assoc]

theorem rejected_eq_ok_iff : clip.rejected time = .ok clip' ↔
    ¬clip.snapshot.reviewState.isRejected ∧
    ⟨{ clip.snapshot with
      revision    := saturatingAdd 64 clip.snapshot.revision 1
      reviewState := .rejected time }⟩ = clip' := by
  simp only [Clip.rejected, bind_eq_ok_iff, check_eq_ok_iff, exists_const, pure_eq_ok_iff]

variable {σ : Type} {repository : ClipRepository σ} {s s' : σ}

theorem store_ok {updated : Except ReviewError Clip}
    (h : store repository clip updated s = .ok clip' s') :
    updated = .ok clip' ∧
      repository.compareAndSwap clip.snapshot.revision clip' s = .ok () s' := by
  cases updated
  case error => exact absurd h EStateM.throw_ne_ok
  case ok updated =>
    simp only [store, EStateM.bind_ok_iff, EStateM.adaptExcept_ok_iff, EStateM.pure_ok_iff] at h
    obtain ⟨_, t, hswap, rfl, rfl⟩ := h
    exact ⟨rfl, hswap⟩

-- A clip after some transitions of a provisional one.
structure Kept (source : ArtifactProvenance) (session : String) (origin : ClipOrigin)
    (transitions : List Transition) (clip : Clip) : Prop where
  source     : clip.snapshot.sourceCapture = source
  session    : clip.snapshot.captureSessionId = session
  origin     : clip.snapshot.origin = origin
  state      : validateReviewState clip.snapshot = .ok ()
  derivative : clip.snapshot.derivative = lastDerivative transitions
  fits       : Fits clip.snapshot.sourceCapture clip.snapshot.derivative

namespace Kept

variable {source : ArtifactProvenance} {session title : String} {origin : ClipOrigin} {id : ClipId}
variable {transitions : List Transition}

theorem provisional (h : provisional id source session origin title = .ok clip) :
    session ≠ "" ∧ Kept source session origin [] clip := by
  simp only [Clips.provisional, bind_eq_ok_iff, check_eq_ok_iff, exists_const, pure_eq_ok_iff] at h
  obtain ⟨hsession, rfl⟩ := h
  refine ⟨hsession, rfl, rfl, rfl, ?_, rfl, by simp [Fits]⟩
  simp [validateReviewState_eq_ok_iff]

theorem step (h : Kept source session origin transitions clip) {transition : Transition}
    (hok : transition.perform repository clip s = .ok clip' s') :
    Kept source session origin (transitions ++ [transition]) clip' := by
  have hnext : saturatingAdd 64 clip.snapshot.revision 1 ≠ 0 := by
    simp [saturatingAdd]
  cases transition
  case review edit time =>
    have ⟨_, hfits, heq⟩ := reviewed_eq_ok_iff.mp (store_ok hok).1
    subst heq
    constructor
    case state => simpa [validateReviewState_eq_ok_iff] using hnext
    case derivative => simp [lastDerivative]
    case fits => exact hfits
    case source => exact h.source
    case session => exact h.session
    case origin => exact h.origin
  case reject time =>
    have ⟨_, heq⟩ := rejected_eq_ok_iff.mp (store_ok hok).1
    subst heq
    constructor
    case state => simpa [validateReviewState_eq_ok_iff] using hnext
    case derivative => simpa [lastDerivative] using h.derivative
    case fits => exact h.fits
    case source => exact h.source
    case session => exact h.session
    case origin => exact h.origin

theorem run {rest : List Transition} (h : Kept source session origin transitions clip)
    (hok : performAll repository clip rest s = .ok clip' s') :
    Kept source session origin (transitions ++ rest) clip' := by
  induction rest generalizing clip transitions s
  case nil =>
    cases hok
    simpa using h
  case cons transition rest ih =>
    simp only [performAll, List.foldlM_cons, EStateM.bind_ok_iff] at hok
    obtain ⟨next, t, hstep, hrest⟩ := hok
    simpa using ih (h.step hstep) hrest

end Kept

-- A clip survives its snapshot exactly when no receipt of its origin is empty and its derivative is
-- not the source artifact itself.
theorem fromDurableSnapshot_snapshot_iff {id : ClipId} {source : ArtifactProvenance}
    {session title : String} {origin : ClipOrigin} {transitions : List Transition}
    (hnew : provisional id source session origin title = .ok clip) (horigin : origin.Built)
    (hrun : performAll repository clip transitions s = .ok clip' s') :
    fromDurableSnapshot clip'.snapshot = .ok clip' ↔
      "" ∉ origin.receipts ∧
      ∀ derivative ∈ lastDerivative transitions,
        derivative.artifact.artifactId ≠ source.artifactId := by
  have ⟨hsession, hkept⟩ := Kept.provisional hnew
  have h := hkept.run hrun
  simp only [List.nil_append] at h
  have hfits := h.fits
  rw [fromDurableSnapshot_eq_ok_iff, validateDerivative_eq_ok_iff, h.session, h.origin, h.source,
    horigin.evidenceValid_iff, h.derivative]
  rw [h.source, h.derivative] at hfits
  constructor
  · intro ⟨⟨_, hreceipts, _, hderivative⟩, _⟩
    exact ⟨hreceipts, fun d hd => (hderivative d hd).2.1⟩
  · intro ⟨hreceipts, hother⟩
    refine ⟨⟨hsession, hreceipts, h.state, fun d hd => ?_⟩, rfl⟩
    exact ⟨(hfits d hd).1, hother d hd, (hfits d hd).2⟩

section Demo

def demoId : ClipId := ⟨"clip", by decide⟩

def demoSource : ArtifactProvenance :=
  ⟨"source", "source.mkv", "5e", 1000, 8, by decide, by decide, by decide⟩

def demoTrim : DerivativeProvenance where
  artifact         := ⟨"trim", "trim.mp4", "7a", 500, 4, by decide, by decide, by decide⟩
  sourceArtifactId := "source"
  trim             := ⟨0, 500, by decide⟩

def demoEdit (derivative : DerivativeProvenance) : ReviewEdit :=
  ⟨"ace", "", {"b"}, true, some derivative⟩

def demoClip (receipt : String) : Clip where
  snapshot := {
    id               := demoId
    revision         := 0
    sourceCapture    := demoSource
    captureSessionId := "session"
    origin           := .autoHighlight {receipt} {"round"}
    reviewState      := .provisional
    title            := "clip"
    note             := ""
    tags             := ∅
    favorite         := false
    derivative       := none }

def demoReviewed (receipt : String) (derivative : DerivativeProvenance) : Clip where
  snapshot := { (demoClip receipt).snapshot with
    revision    := 1
    reviewState := .reviewed 7
    title       := "ace"
    tags        := {"b"}
    favorite    := true
    derivative  := some derivative }

-- A repository that stores every clip.
def demoRepository : ClipRepository Unit :=
  ⟨fun _ _ => pure ()⟩

theorem fromDurableSnapshot_snapshot_iff_demo :
    fromDurableSnapshot (demoReviewed "kill" demoTrim).snapshot =
        .ok (demoReviewed "kill" demoTrim) ↔
      "" ∉ (ClipOrigin.autoHighlight {"kill"} {"round"}).receipts ∧
      ∀ derivative ∈ lastDerivative [.review (demoEdit demoTrim) 7],
        derivative.artifact.artifactId ≠ demoSource.artifactId := by
  have hnew : provisional demoId demoSource "session" (.autoHighlight {"kill"} {"round"}) "clip" =
      .ok (demoClip "kill") := rfl
  have horigin : ClipOrigin.newAutoHighlight {"kill"} {"round"} =
      .ok (.autoHighlight {"kill"} {"round"}) := rfl
  have hrun : performAll demoRepository (demoClip "kill") [.review (demoEdit demoTrim) 7] () =
      .ok (demoReviewed "kill" demoTrim) () := rfl
  exact fromDurableSnapshot_snapshot_iff hnew (.auto horigin) hrun

-- The derivative of the review is the source artifact.
def demoReused : DerivativeProvenance :=
  { demoTrim with artifact := demoSource }

theorem fromDurableSnapshot_rejects :
    (provisional demoId demoSource "session" (.autoHighlight {""} {"round"}) "clip" =
        .ok (demoClip "") ∧
      ClipOrigin.newAutoHighlight {""} {"round"} = .ok (.autoHighlight {""} {"round"}) ∧
      fromDurableSnapshot (demoClip "").snapshot = .error .emptyOriginEvidence) ∧
    performAll demoRepository (demoClip "kill") [.review (demoEdit demoReused) 7] () =
        .ok (demoReviewed "kill" demoReused) () ∧
      fromDurableSnapshot (demoReviewed "kill" demoReused).snapshot =
        .error .derivativeReusesSourceArtifact :=
  ⟨⟨rfl, rfl, rfl⟩, rfl, rfl⟩

end Demo

end Clips
