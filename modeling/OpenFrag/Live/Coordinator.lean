import OpenFrag.Capture.Supervisor
import OpenFrag.Domain.Highlight
import OpenFrag.Gsi.Receipt

open Capture (SaveAcknowledgement SaveProvenance SaveRequestOutcome)
open Domain (CaptureWindow FinalHighlightLabel HighlightCandidate TimeRange)
open Gsi (EvidenceReceipt)
open MachineInt (saturatingAdd)

namespace Live

structure TimerId where
  value : String
  deriving DecidableEq, Repr

inductive CaptureKind
  | autoRoundEnd
  | manualFlag
  deriving DecidableEq, Repr

inductive CancelReason
  | stale
  | sessionReset
  deriving DecidableEq, Repr

-- A recorder error is kept as a value. The source keeps its debug text.
inductive CaptureStatus
  | scheduled
  | requesting
  | saveRequested (outcome : SaveRequestOutcome String)
  | retryable (error : Capture.Error)
  | cancelled (reason : CancelReason)
  deriving DecidableEq, Repr

structure CandidateRecord where
  candidate   : HighlightCandidate
  finalLabels : List FinalHighlightLabel
  deriving DecidableEq, Repr

structure CaptureRecord where
  id               : String
  kind             : CaptureKind
  roundId          : Option String
  provenance       : SaveProvenance
  sourceReceiptIds : List String
  candidate        : Option HighlightCandidate
  finalLabels      : List FinalHighlightLabel
  roundEndMs       : Option Nat
  deadlineMs       : Option Nat
  timer            : Option TimerId
  window           : Option CaptureWindow
  rawCoverage      : Option TimeRange
  status           : CaptureStatus
  deriving DecidableEq, Repr

structure FinalizedClip where
  clipId            : String
  recorderRequestId : String
  deriving DecidableEq, Repr

inductive LiveDiagnostic
  | persistence (message : String)
  | unsupported (message : String)
  | storageRequirement (requiredApi : String)
  | recorder (error : Capture.Error)
  | scheduler (message : String)
  | missingCapture (id : String)
  | invalidDomain
  deriving DecidableEq, Repr

inductive TimerOutcome
  | notDue
  | saveRequested
  | alreadyHandled
  deriving DecidableEq, Repr

structure IngestOutcome where
  candidatesCreated  : Nat := 0
  capturesScheduled  : Nat := 0
  capturesCancelled  : Nat := 0
  deriving DecidableEq, Repr

-- A hash map, whose keys have no order of their own.
abbrev HashMap (α : Type) := List (String × α)

namespace HashMap

variable {α : Type}

def get? (map : HashMap α) (key : String) : Option α :=
  map.lookup key

def containsKey (map : HashMap α) (key : String) : Bool :=
  (map.get? key).isSome

def values (map : HashMap α) : List α :=
  map.map Prod.snd

def insert (map : HashMap α) (key : String) (value : α) : HashMap α :=
  (key, value) :: map.filter (·.1 ≠ key)

def remove (map : HashMap α) (key : String) : HashMap α :=
  map.filter (·.1 ≠ key)

end HashMap

-- The evidence store, the scheduler and the clock of a coordinator, and the ranks by which its hash
-- maps are traversed. The recorder is the supervisor with its own ports.
structure Ports (W : Type) where
  persistReceipt  : EvidenceReceipt → W → Except LiveDiagnostic Unit × W
  upsertCandidate : CandidateRecord → W → Except LiveDiagnostic Unit × W
  upsertCapture   : CaptureRecord → W → Except LiveDiagnostic Unit × W
  finalizeCapture : SaveAcknowledgement String → W → Except LiveDiagnostic FinalizedClip × W
  schedule        : TimerId → Nat → W → Except LiveDiagnostic Unit × W
  cancel          : TimerId → W → Except LiveDiagnostic Unit × W
  nowMs           : W → Nat × W
  rank            : W → (String → Nat) × W
  capture         : Capture.Ports W

structure Coordinator where
  captureSessionId  : String
  processedReceipts : List String
  candidates        : HashMap CandidateRecord
  captures          : HashMap CaptureRecord
  timers            : HashMap String
  manualOrdinal     : Nat
  deriving DecidableEq, Repr

def Coordinator.new (captureSessionId : String) : Coordinator where
  captureSessionId  := captureSessionId
  processedReceipts := []
  candidates        := []
  captures          := []
  timers            := []
  manualOrdinal     := 0

-- The recorder as the coordinator sees it. Its requests are counted without a bound, so a run has
-- fewer than 2^64 of them.
structure RecorderFacade where
  capture         : Capture.Supervisor String
  availableFromMs : Nat
  requestOrdinal  : Nat
  deriving DecidableEq, Repr

structure LiveRuntime where
  coordinator : Coordinator
  recorder    : RecorderFacade
  deriving DecidableEq, Repr

-- The runtime as it runs in a world.
structure Host (W : Type) where
  runtime : LiveRuntime
  world   : W

-- A method that fails keeps what it has done to the runtime and to the world.
abbrev Method (W : Type) := EStateM LiveDiagnostic (Host W)

variable {W α : Type}

def port (f : W → Except LiveDiagnostic α × W) : Method W α := fun host =>
  match f host.world with
  | (.ok a, world)    => .ok a { host with world }
  | (.error e, world) => .error e { host with world }

def reading (f : W → α × W) : Method W α := fun host =>
  .ok (f host.world).1 { host with world := (f host.world).2 }

def update (f : Coordinator → Coordinator) : Method W Unit :=
  modify fun host => { host with runtime.coordinator := f host.runtime.coordinator }

def self : Method W Coordinator := do
  return (← get).runtime.coordinator

-- A call whose failure is looked at.
def attempt (f : W → Except LiveDiagnostic α × W) : Method W (Except LiveDiagnostic α) := fun host =>
  .ok (f host.world).1 { host with world := (f host.world).2 }

-- A call of the recorder, whose failure is looked at.
def onRecorder (x : Capture.Method String W α) : Method W (Except Capture.Error α) := fun host =>
  match x ⟨host.runtime.recorder.capture, host.world⟩ with
  | .ok a h    =>
    .ok (.ok a) { runtime.coordinator := host.runtime.coordinator
                  runtime.recorder    := { host.runtime.recorder with capture := h.supervisor }
                  world               := h.world }
  | .error e h =>
    .ok (.error e) { runtime.coordinator := host.runtime.coordinator
                     runtime.recorder    := { host.runtime.recorder with capture := h.supervisor }
                     world               := h.world }

def receiptId (receipt : EvidenceReceipt) : String :=
  s!"{receipt.payloadHash}:{receipt.sequence}"

def roundId (mapHash : String) (round : Nat) : String :=
  s!"{mapHash}:{round}"

def durationMs (receipt : EvidenceReceipt) : Nat :=
  min (receipt.receivedAt / 10 ^ 6) (2 ^ 64 - 1)

def rawCoverage (requestedAtMs recorderAvailableFromMs : Nat) : TimeRange where
  startMs := max (requestedAtMs - Domain.replayBufferMs) recorderAvailableFromMs
  endMs   := requestedAtMs

end Live

namespace Live.RecorderFacade

variable {W : Type}

def availableFrom : Method W Nat := do
  return (← get).runtime.recorder.availableFromMs

def requestId (captureId : String) (ordinal : Nat) : String :=
  s!"{captureId}:request:{ordinal}"

def requestSave (ports : Ports W) (captureId : String) (provenance : SaveProvenance) :
    Method W (Except Capture.Error (SaveRequestOutcome String)) := do
  modify fun host => { host with
    runtime.recorder.requestOrdinal := host.runtime.recorder.requestOrdinal + 1 }
  let ordinal := (← get).runtime.recorder.requestOrdinal
  onRecorder (Capture.Supervisor.requestSave ports.capture (requestId captureId ordinal) provenance)

end Live.RecorderFacade

namespace Live.Coordinator

variable {W : Type} (ports : Ports W)

-- The window and the coverage of an automatic save are those of its last request.
def covered (capture : CaptureRecord) (nowMs availableFromMs : Nat) :
    Except LiveDiagnostic CaptureRecord :=
  if capture.kind = .autoRoundEnd then
    match capture.candidate with
    | none           => .error .invalidDomain
    | some candidate =>
      match Domain.autoCaptureWindow candidate.range.startMs capture.roundEndMs availableFromMs with
      | .awaitingRoundEnd => .error .invalidDomain
      | .save window      =>
        .ok { capture with
          window      := some window
          rawCoverage := some (rawCoverage nowMs availableFromMs) }
  else
    .ok capture

def store (capture : CaptureRecord) (captureId : String) : Method W Unit := do
  port (ports.upsertCapture capture)
  update fun c => { c with captures := c.captures.insert captureId capture }

def requestCaptureSave (captureId : String) : Method W TimerOutcome := do
  match (← self).captures.get? captureId with
  | none         => throw (.missingCapture captureId)
  | some capture =>
    let nowMs ← reading ports.nowMs
    let availableFromMs ← RecorderFacade.availableFrom
    match covered capture nowMs availableFromMs with
    | .error e    => throw e
    | .ok capture =>
      match ← RecorderFacade.requestSave ports capture.id capture.provenance with
      | .ok outcome =>
        store ports { capture with status := .saveRequested outcome } captureId
        return .saveRequested
      | .error e    =>
        store ports { capture with status := .retryable e } captureId
        throw (.recorder e)

def onTimer (timer : TimerId) : Method W TimerOutcome := do
  match (← self).timers.get? timer.value with
  | none           => throw (.missingCapture timer.value)
  | some captureId =>
    match (← self).captures.get? captureId with
    | none         => throw (.missingCapture captureId)
    | some capture =>
      match capture.deadlineMs with
      | none            => return .alreadyHandled
      | some deadlineMs =>
        if (← reading ports.nowMs) < deadlineMs then
          return .notDue
        else if capture.status ≠ .scheduled then
          return .alreadyHandled
        else
          requestCaptureSave ports captureId

def retryCapture (captureId : String) : Method W TimerOutcome := do
  match (← self).captures.get? captureId with
  | none         => throw (.missingCapture captureId)
  | some capture =>
    match capture.status with
    | .retryable _ => requestCaptureSave ports captureId
    | _            => return .alreadyHandled

def manualCapture (id : String) (nowMs availableFromMs : Nat) : CaptureRecord where
  id               := id
  kind             := .manualFlag
  roundId          := none
  provenance       := .manualFlag
  sourceReceiptIds := []
  candidate        := none
  finalLabels      := []
  roundEndMs       := none
  deadlineMs       := none
  timer            := none
  window           := some (Domain.manualCaptureWindow nowMs availableFromMs)
  rawCoverage      := some (rawCoverage nowMs availableFromMs)
  status           := .requesting

def manualFlag : Method W String := do
  let nowMs ← reading ports.nowMs
  update fun c => { c with manualOrdinal := saturatingAdd 64 c.manualOrdinal 1 }
  let id := s!"manual:{nowMs}:{(← self).manualOrdinal}"
  store ports (manualCapture id nowMs (← RecorderFacade.availableFrom)) id
  let _ ← requestCaptureSave ports id
  return id

def finalizeCapture (acknowledgement : SaveAcknowledgement String) : Method W FinalizedClip :=
  port (ports.finalizeCapture acknowledgement)

def createCandidate (receipt : EvidenceReceipt) (receiptId : String) (currentRoundKills : Int) :
    Method W Bool := do
  match receipt.context.mapHash, receipt.context.observedRound, receipt.context.roundKills with
  | some mapHash, some round, some contextRoundKills =>
    if contextRoundKills ≠ currentRoundKills ∨ ¬MachineInt.Unsigned 8 currentRoundKills then
      return false
    else
      match Domain.liveKillTrigger true currentRoundKills.toNat with
      | none         => return false
      | some trigger =>
        let c ← self
        let roundId := roundId mapHash round
        if c.candidates.containsKey roundId then
          return false
        else
          let atMs := durationMs receipt
          match HighlightCandidate.new c.captureSessionId roundId ⟨atMs, atMs⟩ trigger receiptId with
          | .error _      => throw .invalidDomain
          | .ok candidate =>
            let record := { candidate, finalLabels := [] }
            port (ports.upsertCandidate record)
            update fun c => { c with candidates := c.candidates.insert roundId record }
            return true
  | _, _, _ => return false

-- The candidate of a completed round reaches up to its end.
def roundCandidate (existing : Option CandidateRecord) (official : HighlightCandidate)
    (roundEndMs : Nat) : Except LiveDiagnostic HighlightCandidate :=
  match existing with
  | none          => .ok official
  | some existing =>
    let extended := { existing.candidate with
      range.endMs := max roundEndMs existing.candidate.range.endMs }
    match Domain.mergeCandidates [extended, official] with
    | []             => .error .invalidDomain
    | candidate :: _ => .ok candidate

def autoCapture (captureId roundId : String) (candidate : HighlightCandidate) (roundEndMs : Nat) :
    CaptureRecord where
  id               := captureId
  kind             := .autoRoundEnd
  roundId          := some roundId
  provenance       := .autoRoundEnd
  sourceReceiptIds := candidate.receiptIds
  candidate        := some candidate
  finalLabels      := []
  roundEndMs       := some roundEndMs
  deadlineMs       := some (saturatingAdd 64 roundEndMs Domain.autoPostRollMs)
  timer            := some ⟨s!"timer:{captureId}"⟩
  window           := none
  rawCoverage      := none
  status           := .scheduled

def scheduleCapture (capture : CaptureRecord) (timer : TimerId) (deadlineMs : Nat) :
    Method W Bool := do
  port (ports.schedule timer deadlineMs)
  match ← attempt (ports.upsertCapture capture) with
  | .error e =>
    let _ ← attempt (ports.cancel timer)
    throw e
  | .ok ()   =>
    update fun c => { c with
      timers   := c.timers.insert timer.value capture.id
      captures := c.captures.insert capture.id capture }
    return true

def scheduleRoundCapture (receipt : EvidenceReceipt) (receiptId : String) (completedRound : Nat) :
    Method W Bool := do
  match receipt.context.mapHash, receipt.context.observedRound with
  | some mapHash, some _ =>
    let c ← self
    let roundId := roundId mapHash completedRound
    let captureId := s!"auto:{roundId}"
    if c.captures.containsKey captureId then
      return false
    else
      let roundEndMs := durationMs receipt
      match HighlightCandidate.new c.captureSessionId roundId ⟨roundEndMs, roundEndMs⟩
          .officialRoundEndCapture receiptId with
      | .error _     => throw .invalidDomain
      | .ok official =>
        match roundCandidate (c.candidates.get? roundId) official roundEndMs with
        | .error e      => throw e
        | .ok candidate =>
          scheduleCapture ports (autoCapture captureId roundId candidate roundEndMs)
            ⟨s!"timer:{captureId}"⟩ (saturatingAdd 64 roundEndMs Domain.autoPostRollMs)
  | _, _ => return false

def unsaved (capture : CaptureRecord) : Bool :=
  capture.kind = .autoRoundEnd &&
    match capture.status with
    | .scheduled | .retryable _ => true
    | _                         => false

def cancelCapture (reason : CancelReason) (id : String) : Method W Unit := do
  match (← self).captures.get? id with
  | none         => throw (.missingCapture id)
  | some capture =>
    if let some timer := capture.timer then
      port (ports.cancel timer)
    store ports { capture with status := .cancelled reason } id

def cancelUnsaved (reason : CancelReason) : Method W Nat := do
  let unsaved := (← self).captures.filter fun (_, capture) => unsaved capture
  let rank ← reading ports.rank
  let ids := (unsaved.map Prod.fst).mergeSort fun id id' => rank id ≤ rank id'
  ids.forM (cancelCapture ports reason)
  return ids.length

def ingestFact (receipt : EvidenceReceipt) (receiptId : String) (outcome : IngestOutcome) :
    Gsi.TransitionFact → Method W IngestOutcome
  | .roundKillDelta previous current delta => do
    if previous ≥ 0 ∧ delta > 0 ∧ current ≥ 3 then
      let created ← createCandidate ports receipt receiptId current
      return { outcome with candidatesCreated := outcome.candidatesCreated + created.toNat }
    else
      return outcome
  | .roundEnd completed _ => do
    let scheduled ← scheduleRoundCapture ports receipt receiptId completed
    return { outcome with capturesScheduled := outcome.capturesScheduled + scheduled.toNat }
  | _ => return outcome

def ingest (receipt : EvidenceReceipt) : Method W IngestOutcome := do
  port (ports.persistReceipt receipt)
  let receiptId := receiptId receipt
  if (← self).processedReceipts.contains receiptId then
    return {}
  else
    let capturesCancelled ← match receipt.output with
      | .stale        => cancelUnsaved ports .stale
      | .sessionReset => cancelUnsaved ports .sessionReset
      | _             => pure 0
    let outcome ← receipt.facts.foldlM (ingestFact ports receipt receiptId) { capturesCancelled }
    update fun c => { c with processedReceipts := receiptId :: c.processedReceipts }
    return outcome

end Live.Coordinator
