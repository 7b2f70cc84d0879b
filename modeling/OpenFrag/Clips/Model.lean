import Mathlib.Data.Finset.Basic
import OpenFrag.Library.MachineInt
import OpenFrag.Library.Outcome

open Except MachineInt

-- The clips of the review workflow: their parts, and the transitions of their review.
namespace Clips

inductive ModelError
  | emptyIdentifier
  | emptyHash
  | zeroDuration
  | reversedOrEmptyTrim
  | missingEvidence
  deriving DecidableEq, Repr

structure ClipId where
  value     : String
  not_empty : value ≠ ""
  deriving DecidableEq

def ClipId.new (value : String) : Except ModelError ClipId :=
  if h : value = "" then .error .emptyIdentifier else .ok ⟨value, h⟩

structure ArtifactProvenance where
  artifactId  : String
  path        : String
  sha256      : String
  durationMs  : Nat
  bytes       : Nat
  identified  : artifactId ≠ ""
  hashed      : sha256 ≠ ""
  lasting     : durationMs ≠ 0
  deriving DecidableEq

def ArtifactProvenance.new (artifactId path sha256 : String) (durationMs bytes : Nat) :
    Except ModelError ArtifactProvenance :=
  if hid : artifactId = "" then .error .emptyIdentifier
  else if hhash : sha256 = "" then .error .emptyHash
  else if hduration : durationMs = 0 then .error .zeroDuration
  else .ok ⟨artifactId, path, sha256, durationMs, bytes, hid, hhash, hduration⟩

structure TrimRange where
  startMs : Nat
  endMs   : Nat
  ordered : startMs < endMs
  deriving DecidableEq

def TrimRange.new (startMs endMs : Nat) : Except ModelError TrimRange :=
  if h : startMs < endMs then .ok ⟨startMs, endMs, h⟩ else .error .reversedOrEmptyTrim

structure DerivativeProvenance where
  artifact         : ArtifactProvenance
  sourceArtifactId : String
  trim             : TrimRange
  deriving DecidableEq

inductive ClipOrigin
  | autoHighlight (triggerReceipts evidenceReceipts : Finset String)
  | manualFlag (flagReceiptId : String) (flagTimeMs : Nat) (overlappingAutoReceipts : Finset String)
  deriving DecidableEq

namespace ClipOrigin

def newAutoHighlight (triggerReceipts evidenceReceipts : Finset String) :
    Except ModelError ClipOrigin :=
  if triggerReceipts = ∅ ∨ evidenceReceipts = ∅ then .error .missingEvidence
  else .ok (.autoHighlight triggerReceipts evidenceReceipts)

def newManualFlag (flagReceiptId : String) (flagTimeMs : Nat)
    (overlappingAutoReceipts : Finset String) : Except ModelError ClipOrigin :=
  if flagReceiptId = "" then .error .missingEvidence
  else .ok (.manualFlag flagReceiptId flagTimeMs overlappingAutoReceipts)

-- An origin that comes from one of the two constructors.
inductive Built : ClipOrigin → Prop
  | auto {triggerReceipts evidenceReceipts origin}
      (h : newAutoHighlight triggerReceipts evidenceReceipts = .ok origin) : Built origin
  | manual {flagReceiptId flagTimeMs overlappingAutoReceipts origin}
      (h : newManualFlag flagReceiptId flagTimeMs overlappingAutoReceipts = .ok origin) :
      Built origin

def receipts : ClipOrigin → Finset String
  | .autoHighlight triggerReceipts evidenceReceipts       => triggerReceipts ∪ evidenceReceipts
  | .manualFlag flagReceiptId _ overlappingAutoReceipts => {flagReceiptId} ∪ overlappingAutoReceipts

def evidenceValid : ClipOrigin → Bool
  | .autoHighlight triggerReceipts evidenceReceipts       =>
    triggerReceipts ≠ ∅ && evidenceReceipts ≠ ∅ &&
    (∀ receipt ∈ triggerReceipts, receipt ≠ "") && (∀ receipt ∈ evidenceReceipts, receipt ≠ "")
  | .manualFlag flagReceiptId _ overlappingAutoReceipts =>
    flagReceiptId ≠ "" && ∀ receipt ∈ overlappingAutoReceipts, receipt ≠ ""

end ClipOrigin

inductive ReviewState
  | provisional
  | reviewed (reviewedAtMs : Nat)
  | rejected (rejectedAtMs : Nat)
  deriving DecidableEq, Repr

def ReviewState.isRejected : ReviewState → Bool
  | .rejected _ => true
  | _           => false

structure DurableClipSnapshot where
  id               : ClipId
  revision         : Nat
  sourceCapture    : ArtifactProvenance
  captureSessionId : String
  origin           : ClipOrigin
  reviewState      : ReviewState
  title            : String
  note             : String
  tags             : Finset String
  favorite         : Bool
  derivative       : Option DerivativeProvenance
  deriving DecidableEq

-- A clip keeps private what its snapshot shows.
structure Clip where
  snapshot : DurableClipSnapshot
  deriving DecidableEq

inductive ClipRehydrationError
  | emptyCaptureSession
  | emptyOriginEvidence
  | inconsistentRevision
  | provisionalStateHasReviewData
  | derivativeHasWrongSource
  | derivativeReusesSourceArtifact
  | trimOutsideSource
  deriving DecidableEq, Repr

def provisional (id : ClipId) (sourceCapture : ArtifactProvenance) (captureSessionId : String)
    (origin : ClipOrigin) (defaultTitle : String) : Except ModelError Clip := do
  check (captureSessionId ≠ "") .emptyIdentifier
  return ⟨{
    id, sourceCapture, captureSessionId, origin
    revision    := 0
    reviewState := .provisional
    title       := defaultTitle
    note        := ""
    tags        := ∅
    favorite    := false
    derivative  := none }⟩

def validateReviewState (snapshot : DurableClipSnapshot) : Except ClipRehydrationError Unit :=
  match snapshot.reviewState with
  | .provisional => do
    check (snapshot.revision = 0) .inconsistentRevision
    check (snapshot.note = "" ∧ snapshot.tags = ∅ ∧ snapshot.favorite = false ∧
      snapshot.derivative = none) .provisionalStateHasReviewData
  | _            => check (snapshot.revision ≠ 0) .inconsistentRevision

def validateDerivative (snapshot : DurableClipSnapshot) : Except ClipRehydrationError Unit :=
  match snapshot.derivative with
  | none            => pure ()
  | some derivative => do
    check (derivative.sourceArtifactId = snapshot.sourceCapture.artifactId)
      .derivativeHasWrongSource
    check (derivative.artifact.artifactId ≠ snapshot.sourceCapture.artifactId)
      .derivativeReusesSourceArtifact
    check (derivative.trim.endMs ≤ snapshot.sourceCapture.durationMs) .trimOutsideSource

def validateDurableSnapshot (snapshot : DurableClipSnapshot) :
    Except ClipRehydrationError Unit := do
  check (snapshot.captureSessionId ≠ "") .emptyCaptureSession
  check snapshot.origin.evidenceValid .emptyOriginEvidence
  validateReviewState snapshot
  validateDerivative snapshot

def fromDurableSnapshot (snapshot : DurableClipSnapshot) : Except ClipRehydrationError Clip := do
  validateDurableSnapshot snapshot
  return ⟨snapshot⟩

structure ReviewEdit where
  title      : String
  note       : String
  tags       : Finset String
  favorite   : Bool
  derivative : Option DerivativeProvenance
  deriving DecidableEq

structure RepositoryError where
  message : String
  deriving DecidableEq, Repr

structure ClipRepository (σ : Type) where
  compareAndSwap (expectedRevision : Nat) (updated : Clip) : EStateM RepositoryError σ Unit

inductive ReviewError
  | trimOutsideSource
  | derivativeHasWrongSource
  | invalidTransition
  | repository (error : RepositoryError)
  deriving DecidableEq, Repr

-- The clip that a review asks the repository to store.
def Clip.reviewed (clip : Clip) (edit : ReviewEdit) (reviewedAtMs : Nat) :
    Except ReviewError Clip := do
  check (¬clip.snapshot.reviewState.isRejected) .invalidTransition
  match edit.derivative with
  | none            => pure ()
  | some derivative =>
    check (derivative.sourceArtifactId = clip.snapshot.sourceCapture.artifactId)
      .derivativeHasWrongSource
    check (derivative.trim.endMs ≤ clip.snapshot.sourceCapture.durationMs) .trimOutsideSource
  return ⟨{ clip.snapshot with
    revision    := saturatingAdd 64 clip.snapshot.revision 1
    reviewState := .reviewed reviewedAtMs
    title       := edit.title
    note        := edit.note
    tags        := edit.tags
    favorite    := edit.favorite
    derivative  := edit.derivative }⟩

def Clip.rejected (clip : Clip) (rejectedAtMs : Nat) : Except ReviewError Clip := do
  check (¬clip.snapshot.reviewState.isRejected) .invalidTransition
  return ⟨{ clip.snapshot with
    revision    := saturatingAdd 64 clip.snapshot.revision 1
    reviewState := .rejected rejectedAtMs }⟩

variable {σ : Type}

def store (repository : ClipRepository σ) (clip : Clip) :
    Except ReviewError Clip → EStateM ReviewError σ Clip
  | .error e    => throw e
  | .ok updated => do
    EStateM.adaptExcept ReviewError.repository
      (repository.compareAndSwap clip.snapshot.revision updated)
    return updated

def reviewClip (repository : ClipRepository σ) (clip : Clip) (edit : ReviewEdit)
    (reviewedAtMs : Nat) : EStateM ReviewError σ Clip :=
  store repository clip (clip.reviewed edit reviewedAtMs)

def rejectClip (repository : ClipRepository σ) (clip : Clip) (rejectedAtMs : Nat) :
    EStateM ReviewError σ Clip :=
  store repository clip (clip.rejected rejectedAtMs)

inductive Transition
  | review (edit : ReviewEdit) (reviewedAtMs : Nat)
  | reject (rejectedAtMs : Nat)
  deriving DecidableEq

def Transition.perform (repository : ClipRepository σ) (clip : Clip) :
    Transition → EStateM ReviewError σ Clip
  | .review edit reviewedAtMs => reviewClip repository clip edit reviewedAtMs
  | .reject rejectedAtMs      => rejectClip repository clip rejectedAtMs

def performAll (repository : ClipRepository σ) (clip : Clip) (transitions : List Transition) :
    EStateM ReviewError σ Clip :=
  transitions.foldlM (fun clip transition => transition.perform repository clip) clip

-- The derivative of the last review; a rejection keeps it.
def lastDerivative (transitions : List Transition) : Option DerivativeProvenance :=
  transitions.foldl
    (fun derivative transition =>
      match transition with
      | .review edit _ => edit.derivative
      | .reject _      => derivative)
    none

end Clips
