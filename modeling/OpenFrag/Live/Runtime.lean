import OpenFrag.Capture.Run
import OpenFrag.Live.Coordinator

open Capture (Effect SaveAcknowledgement)
open Gsi (EvidenceReceipt)

namespace Live

variable {W α : Type}

namespace LiveRuntime

variable (ports : Ports W)

def withCapture (x : Capture.Method String W α) : Method W α := do
  match ← onRecorder x with
  | .ok a    => return a
  | .error e => throw (.recorder e)

def pollCapture : Method W (Option Int) :=
  withCapture (Capture.Supervisor.poll ports.capture)

def discoverSave : Method W (Option (SaveAcknowledgement String)) :=
  withCapture (Capture.Supervisor.discoverSave ports.capture)

def shutdownCapture : Method W Unit :=
  withCapture (Capture.Supervisor.shutdown ports.capture)

def finalizeDiscoveredSave : Method W (Option FinalizedClip) := do
  if !(← get).runtime.recorder.capture.hasSaveInFlight then
    return none
  else
    match ← discoverSave ports with
    | none                 => return none
    | some acknowledgement => return some (← Coordinator.finalizeCapture ports acknowledgement)

end LiveRuntime

structure RuntimeDriveReport where
  timersDispatched : Nat
  recorderExit     : Option Int
  finalizedClip    : Option FinalizedClip
  deriving DecidableEq, Repr

-- The deadline driver is a port, which may find any timers due.
def RuntimeDriver.driveOnce (ports : Ports W) (takeDue : Nat → W → List TimerId × W) :
    Method W RuntimeDriveReport := do
  let due ← reading (takeDue (← reading ports.nowMs))
  due.forM fun timer => do let _ ← Coordinator.onTimer ports timer
  let recorderExit ← LiveRuntime.pollCapture ports
  let finalizedClip ← LiveRuntime.finalizeDiscoveredSave ports
  return { timersDispatched := due.length, recorderExit, finalizedClip }

end Live
