import OpenFrag.Live.Run

open Capture (Effect)
open Domain (TimeRange autoPostRollMs desiredPreRollMs replayBufferMs)
open MachineInt (saturatingAdd)

namespace Live

variable {W : Type}

abbrev Step (W : Type) :=
  Machine.Step (Call × W) Answer Session

-- A save that the recorder has been signalled for, and the start of the child that it reached.
structure Save where
  recorderRequestId : String
  signalledAtMs     : Nat
  childStartedMs    : Nat
  deriving DecidableEq, Repr

-- What the recorder can have kept for a save: its buffer reaches back for a minute at most, and
-- starts out empty.
def Save.kept (save : Save) : TimeRange where
  startMs := max (save.signalledAtMs - replayBufferMs) save.childStartedMs
  endMs   := save.signalledAtMs

-- A signal that has reached the recorder leaves its save in flight.
def signalled (effects : List Effect) (recorder : RecorderFacade) : Option Save :=
  if .delivered .user1 ∈ effects then
    recorder.capture.inFlight.map fun pending => {
      recorderRequestId := pending.recorderRequestId
      signalledAtMs     := pending.requestedAtMs
      childStartedMs    := recorder.capture.startedMs }
  else
    none

def saveOf (step : Step W) : Option Save :=
  signalled step.reply.effects step.after.runtime.recorder

def saves (steps : List (Step W)) : List Save :=
  steps.filterMap saveOf

def CaptureStatus.accepted : CaptureStatus → Option (Capture.SaveRequestOutcome String)
  | .saveRequested outcome => some outcome
  | _                      => none

def Inside (inner outer : TimeRange) : Prop :=
  outer.startMs ≤ inner.startMs ∧ inner.endMs ≤ outer.endMs

-- The record of an accepted save claims no more than the recorder can have kept for it.
def Honest (saves : List Save) (recorderRequestId : String) (capture : CaptureRecord) : Prop :=
  ∃ window coverage, capture.window = some window ∧ capture.rawCoverage = some coverage ∧
    window.available.startMs ≤ window.available.endMs ∧ coverage.startMs ≤ coverage.endMs ∧
    ∀ save ∈ saves, save.recorderRequestId = recorderRequestId →
      Inside window.available save.kept ∧ Inside coverage save.kept

def Covered (steps : List (Step W)) (s : Session) : Prop :=
  ∀ capture ∈ s.runtime.coordinator.captures.values, ∀ outcome ∈ capture.status.accepted,
    Honest (saves steps) outcome.recorderRequestId capture

-- The two readings of the clock that a request can be made at.
def firstReading (ports : Ports W) (s : Session) (w : W) : Nat :=
  max s.clock (ports.nowMs w).1

def secondReading (ports : Ports W) (s : Session) (w : W) : Nat :=
  max (firstReading ports s w) (ports.nowMs (ports.nowMs w).2).1

-- The capture that a call asks the recorder to save, and the time of the request.
def asked (ports : Ports W) (s : Session) : Call × W → Option (CaptureRecord × Nat)
  | (.dispatchTimer timer, w) => do
    let captureId ← s.runtime.coordinator.timers.get? timer.value
    let capture ← s.runtime.coordinator.captures.get? captureId
    return (capture, secondReading ports s w)
  | (.retryCapture captureId, w) => do
    let capture ← s.runtime.coordinator.captures.get? captureId
    return (capture, firstReading ports s w)
  | (.manualFlag, w) =>
    let nowMs := firstReading ports s w
    let ordinal := saturatingAdd 64 s.runtime.coordinator.manualOrdinal 1
    some (Coordinator.manualCapture s!"manual:{nowMs}:{ordinal}" nowMs
      s.runtime.recorder.availableFromMs, nowMs)
  | _ => none

-- The coverage of a manual save is that of its flag, also when the save is requested again.
def coverageEnd (capture : CaptureRecord) (requestedAtMs : Nat) : Nat :=
  match capture.kind, capture.rawCoverage with
  | .manualFlag, some coverage => coverage.endMs
  | _, _                       => requestedAtMs

-- The start of the window of a recorder that has been available all along.
def desiredStart (capture : CaptureRecord) (coverageEndMs : Nat) : Nat :=
  match capture.kind, capture.candidate, capture.roundEndMs with
  | .autoRoundEnd, some candidate, some roundEndMs =>
    max (candidate.range.startMs - desiredPreRollMs)
      (saturatingAdd 64 roundEndMs autoPostRollMs - replayBufferMs)
  | _, _, _ => coverageEndMs - desiredPreRollMs

-- The buffer of the child still held all that had been recorded since the start of the first one, or
-- it was full, and saved at the time of the request.
def Serves (availableFromMs : Nat) (save : Save) (coverageEndMs desiredStartMs : Nat) : Prop :=
  (save.childStartedMs ≤ availableFromMs ∧
    save.signalledAtMs ≤ availableFromMs + replayBufferMs) ∨
  (save.signalledAtMs = coverageEndMs ∧
    save.childStartedMs + replayBufferMs ≤ save.signalledAtMs ∧
    save.signalledAtMs ≤ desiredStartMs + replayBufferMs)

instance (availableFromMs : Nat) (save : Save) (coverageEndMs desiredStartMs : Nat) :
    Decidable (Serves availableFromMs save coverageEndMs desiredStartMs) :=
  inferInstanceAs (Decidable (_ ∨ _))

-- The save that a call signals serves the request of the call, and those that have waited for it.
-- A round that is saved has not ended before the recorder was available.
def Timely (ports : Ports W) (s : Session) (call : Call × W) : Prop :=
  let step := Machine.step (answer ports) s call
  let availableFromMs := s.runtime.recorder.availableFromMs
  (∀ save ∈ saveOf step, ∀ request ∈ asked ports s call,
    Serves availableFromMs save (coverageEnd request.1 request.2)
      (desiredStart request.1 (coverageEnd request.1 request.2))) ∧
  (∀ save ∈ saveOf step, ∀ capture ∈ s.runtime.coordinator.captures.values,
    ∀ outcome ∈ capture.status.accepted, outcome.recorderRequestId = save.recorderRequestId →
      ∀ coverage ∈ capture.rawCoverage,
        Serves availableFromMs save coverage.endMs (desiredStart capture coverage.endMs)) ∧
  (step.reply.result.toOption = some (.timed .saveRequested) → ∀ request ∈ asked ports s call,
    ∀ deadlineMs ∈ request.1.deadlineMs, availableFromMs ≤ deadlineMs)

instance (ports : Ports W) (s : Session) (call : Call × W) : Decidable (Timely ports s call) :=
  inferInstanceAs (Decidable (_ ∧ _ ∧ _))

end Live
