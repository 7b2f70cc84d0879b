import OpenFrag.Library.Within
import OpenFrag.Live.Run

open Capture (SaveRequestOutcome)

namespace Live.Coordinator

variable {W : Type} (ports : Ports W)

-- A timer asks for the save of its capture when it is due and the capture is still scheduled.
def dueCapture (timer : TimerId) : Method W (Option String) := do
  match (← self).timers.get? timer.value with
  | none           => throw (.missingCapture timer.value)
  | some captureId =>
    match (← self).captures.get? captureId with
    | none         => throw (.missingCapture captureId)
    | some capture =>
      match capture.deadlineMs with
      | none            => return none
      | some deadlineMs =>
        if (← reading ports.nowMs) < deadlineMs then
          return none
        else if capture.status ≠ .scheduled then
          return none
        else
          return some captureId

def retryableCapture (captureId : String) : Method W (Option String) := do
  match (← self).captures.get? captureId with
  | none         => throw (.missingCapture captureId)
  | some capture =>
    match capture.status with
    | .retryable _ => return some captureId
    | _            => return none

def flaggedCapture : Method W (Option String) := do
  let nowMs ← reading ports.nowMs
  update fun c => { c with manualOrdinal := MachineInt.saturatingAdd 64 c.manualOrdinal 1 }
  let id := s!"manual:{nowMs}:{(← self).manualOrdinal}"
  store ports (manualCapture id nowMs (← RecorderFacade.availableFrom)) id
  return some id

-- What a call does before it asks the recorder, and the capture that is to be saved.
def requesting : Call → Method W (Option String)
  | .dispatchTimer timer    => dueCapture ports timer
  | .retryCapture captureId => retryableCapture captureId
  | .manualFlag             => flaggedCapture ports
  | _                       => return none

-- The request of a save, with the answer of the recorder.
def askRecorder (captureId : String) :
    Method W (CaptureRecord × Except Capture.Error (SaveRequestOutcome String)) := do
  match (← self).captures.get? captureId with
  | none         => throw (.missingCapture captureId)
  | some capture =>
    let nowMs ← reading ports.nowMs
    let availableFromMs ← RecorderFacade.availableFrom
    match covered capture nowMs availableFromMs with
    | .error e    => throw e
    | .ok capture =>
      return (capture, ← RecorderFacade.requestSave ports capture.id capture.provenance)

def answeredStatus : Except Capture.Error (SaveRequestOutcome String) → CaptureStatus
  | .ok outcome => .saveRequested outcome
  | .error e    => .retryable e

-- What follows on the answer.
def keepAnswer (captureId : String)
    (answered : CaptureRecord × Except Capture.Error (SaveRequestOutcome String)) :
    Method W TimerOutcome := do
  store ports { answered.1 with status := answeredStatus answered.2 } captureId
  match answered.2 with
  | .ok _    => return .saveRequested
  | .error e => throw (.recorder e)

end Live.Coordinator

namespace Live

open Coordinator

variable {W : Type}

-- A request of a save, and whether the store has taken the record of its answer.
structure Request where
  captureId : String
  answer    : Except Capture.Error (SaveRequestOutcome String)
  stored    : Bool
  deriving DecidableEq

def Request.accepted (request : Request) : Option (SaveRequestOutcome String) :=
  request.answer.toOption

-- The request that is made for a capture.
def requestAt (ports : Ports W) (captureId : String) (host : Host W) : Option Request :=
  match askRecorder ports captureId host with
  | .error _ _                 => none
  | .ok (capture, answer) host =>
    let stored := ports.upsertCapture { capture with status := answeredStatus answer } host.world
    some { captureId, answer, stored := stored.1.isOk }

def requestFrom (ports : Ports W) :
    EStateM.Result LiveDiagnostic (Host W) (Option String) → Option Request
  | .ok (some captureId) host => requestAt ports captureId host
  | _                         => none

-- The request that a call makes.
def requestOf (ports : Ports W) (call : Call × W) (runtime : LiveRuntime) : Option Request :=
  requestFrom ports (requesting ports call.1 ⟨runtime, call.2⟩)

-- Each call is made in a world of its own.
def served (ports : Ports W) (call : Call × W) (runtime : LiveRuntime) :
    Except LiveDiagnostic Reply × LiveRuntime :=
  let result := perform ports call.1 ⟨runtime, call.2⟩
  (result.toExcept, result.state.runtime)

abbrev Service (W : Type) :=
  Machine.Step (Call × W) (Except LiveDiagnostic Reply) LiveRuntime

def requests (ports : Ports W) (steps : List (Service W)) : List Request :=
  steps.filterMap fun step => requestOf ports step.call step.before

-- A capture with an accepted save is requested no more, and keeps its outcome.
structure SavedOnce (requests : List Request) (runtime : LiveRuntime) : Prop where
  once : requests.Pairwise fun earlier later =>
    earlier.accepted.isSome → later.captureId ≠ earlier.captureId
  kept : ∀ request ∈ requests, ∀ outcome ∈ request.accepted, ∃ capture,
    runtime.coordinator.captures.get? request.captureId = some capture ∧
      capture.status = .saveRequested outcome

-- The store takes the record of every accepted save, and the numbers of the flags do not run out.
def Recorded (ports : Ports W) (call : Call × W) (runtime : LiveRuntime) : Prop :=
  (∀ request ∈ requestOf ports call runtime, request.accepted.isSome → request.stored) ∧
  (call.1 = .manualFlag → runtime.coordinator.manualOrdinal + 1 < 2 ^ 64)

instance (ports : Ports W) (call : Call × W) (runtime : LiveRuntime) :
    Decidable (Recorded ports call runtime) :=
  inferInstanceAs (Decidable (_ ∧ _))

end Live
