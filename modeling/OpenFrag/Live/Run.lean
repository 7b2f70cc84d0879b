import OpenFrag.Live.Runtime

open Capture (Effect SaveAcknowledgement silent)
open Gsi (EvidenceReceipt)

namespace Live

variable {W α β : Type}

-- The store has been asked to finalize a save, and has returned a clip or failed.
structure Finalization where
  recorderRequestId : String
  clip              : Option FinalizedClip
  deriving DecidableEq, Repr

-- What a run keeps of its environment, next to the effects on the recorder.
structure Books where
  finalizations : List Finalization
  clock         : Nat
  deriving DecidableEq, Repr

abbrev Observed (W : Type) := (W × Books) × List Effect

def aside (f : W → β × W) : W × Books → β × (W × Books) := fun (w, books) =>
  ((f w).1, (f w).2, books)

-- The readings of a monotonic clock never go back.
def ticking (f : W → Nat × W) : W × Books → Nat × (W × Books) := fun (w, books) =>
  let now := max books.clock (f w).1
  (now, (f w).2, { books with clock := now })

def finalizing (f : SaveAcknowledgement String → W → Except LiveDiagnostic FinalizedClip × W)
    (acknowledgement : SaveAcknowledgement String) :
    W × Books → Except LiveDiagnostic FinalizedClip × (W × Books) := fun (w, books) =>
  let result := f acknowledgement w
  let finalization := {
    recorderRequestId := acknowledgement.recorderRequestId
    clip              := result.1.toOption }
  (result.1, result.2, { books with finalizations := books.finalizations ++ [finalization] })

-- The coordinator and the supervisor read the same clock.
def Ports.recorder (ports : Ports W) : Capture.Ports (W × Books) where
  spawn argv             := aside (ports.capture.spawn argv)
  tryWait                := aside ports.capture.tryWait
  signal s               := aside (ports.capture.signal s)
  drainStderr            := aside ports.capture.drainStderr
  outputsSince dir since := aside (ports.capture.outputsSince dir since)
  isSymlink path         := aside (ports.capture.isSymlink path)
  isRegularFile path     := aside (ports.capture.isRegularFile path)
  isContained dir path   := aside (ports.capture.isContained dir path)
  nowMs                  := ticking ports.nowMs
  wallMs                 := aside ports.capture.wallMs
  verify path            := aside (ports.capture.verify path)

-- The ports as a run observes them.
def Ports.observed (ports : Ports W) : Ports (Observed W) where
  persistReceipt receipt    := silent (aside (ports.persistReceipt receipt))
  upsertCandidate candidate := silent (aside (ports.upsertCandidate candidate))
  upsertCapture capture     := silent (aside (ports.upsertCapture capture))
  finalizeCapture ack       := silent (finalizing ports.finalizeCapture ack)
  schedule timer deadlineMs := silent (aside (ports.schedule timer deadlineMs))
  cancel timer              := silent (aside (ports.cancel timer))
  nowMs                     := silent (ticking ports.nowMs)
  rank                      := silent (aside ports.rank)
  capture                   := ports.recorder.logged

-- The public calls of the runtime.
inductive Call
  | ingestReceipt (receipt : EvidenceReceipt)
  | dispatchTimer (timer : TimerId)
  | manualFlag
  | retryCapture (captureId : String)
  | pollCapture
  | discoverSave
  | finalizeDiscoveredSave
  | shutdownCapture
  deriving DecidableEq, Repr

-- What the daemon calls while it runs.
inductive DriverCall
  | driveOnce
  | manualFlag
  | ingestReceipt (receipt : EvidenceReceipt)
  deriving DecidableEq, Repr

inductive Reply
  | ingested (outcome : IngestOutcome)
  | timed (outcome : TimerOutcome)
  | flagged (id : String)
  | polled (code : Option Int)
  | discovered (acknowledgement : Option (SaveAcknowledgement String))
  | finalized (clip : Option FinalizedClip)
  | drove (report : RuntimeDriveReport)
  | done
  deriving DecidableEq, Repr

def perform (ports : Ports W) : Call → Method W Reply
  | .ingestReceipt receipt  => return .ingested (← Coordinator.ingest ports receipt)
  | .dispatchTimer timer    => return .timed (← Coordinator.onTimer ports timer)
  | .manualFlag             => return .flagged (← Coordinator.manualFlag ports)
  | .retryCapture captureId => return .timed (← Coordinator.retryCapture ports captureId)
  | .pollCapture            => return .polled (← LiveRuntime.pollCapture ports)
  | .discoverSave           => return .discovered (← LiveRuntime.discoverSave ports)
  | .finalizeDiscoveredSave => return .finalized (← LiveRuntime.finalizeDiscoveredSave ports)
  | .shutdownCapture        => do LiveRuntime.shutdownCapture ports; return .done

def drive (ports : Ports W) (takeDue : Nat → W → List TimerId × W) : DriverCall → Method W Reply
  | .driveOnce             => return .drove (← RuntimeDriver.driveOnce ports takeDue)
  | .manualFlag            => return .flagged (← Coordinator.manualFlag ports)
  | .ingestReceipt receipt => return .ingested (← Coordinator.ingest ports receipt)

structure Answer where
  result        : Except LiveDiagnostic Reply
  finalizations : List Finalization
  effects       : List Effect
  deriving Repr

-- The runtime between two calls, with the last reading of its clock.
structure Session where
  runtime : LiveRuntime
  clock   : Nat
  deriving DecidableEq, Repr

def Session.host (s : Session) (w : W) : Host (Observed W) where
  runtime := s.runtime
  world   := ((w, { finalizations := [], clock := s.clock }), [])

def Session.of (host : Host (Observed W)) : Session where
  runtime := host.runtime
  clock   := host.world.1.2.clock

-- The world may change between two calls, so that each call is made in a world of its own.
def answered (x : Method (Observed W) Reply) (w : W) (s : Session) : Answer × Session :=
  match x (s.host w) with
  | .ok reply host => (⟨.ok reply, host.world.1.2.finalizations, host.world.2⟩, .of host)
  | .error e host  => (⟨.error e, host.world.1.2.finalizations, host.world.2⟩, .of host)

def answer (ports : Ports W) (call : Call × W) : Session → Answer × Session :=
  answered (perform ports.observed call.1) call.2

-- The recorder is started before the runtime is built, and the clock is read before that.
def production (ports : Ports W) (config : Capture.Config) (captureSessionId : String) (w : W) :
    Option Session :=
  let capture := ports.observed.capture
  let started : Capture.Method String (Observed W) Nat := do
    let availableFromMs ← Capture.reading capture.nowMs
    Capture.Supervisor.start capture
    return availableFromMs
  match started ⟨.new config, (w, { finalizations := [], clock := 0 }), []⟩ with
  | .error _ _               => none
  | .ok availableFromMs host => some {
      runtime := {
        coordinator := .new captureSessionId
        recorder    := { capture := host.supervisor, availableFromMs, requestOrdinal := 0 } }
      clock   := host.world.1.2.clock }

-- A world in which nothing fails but what is asked for, with the timers that are due in it.
structure FakeWorld where
  recorder   : Capture.FakeWorld
  due        : List TimerId := []
  storeFails : Bool := false
  deriving DecidableEq, Repr

def onFake (f : Capture.FakeWorld → β × Capture.FakeWorld) (w : FakeWorld) : β × FakeWorld :=
  ((f w.recorder).1, { w with recorder := (f w.recorder).2 })

def fakePorts : Ports FakeWorld where
  persistReceipt _    := fun w => (.ok (), w)
  upsertCandidate _   := fun w => (.ok (), w)
  upsertCapture _     := fun w => (.ok (), w)
  finalizeCapture ack := fun w =>
    (if w.storeFails then .error (.persistence "disk full")
      else .ok ⟨s!"clip:{ack.recorderRequestId}", ack.recorderRequestId⟩, w)
  schedule _ _        := fun w => (.ok (), w)
  cancel _            := fun w => (.ok (), w)
  nowMs w             := (w.recorder.clock, w)
  rank w              := (fun _ => 0, w)
  capture             := {
    spawn argv             := onFake (Capture.fakePorts.spawn argv)
    tryWait                := onFake Capture.fakePorts.tryWait
    signal s               := onFake (Capture.fakePorts.signal s)
    drainStderr            := onFake Capture.fakePorts.drainStderr
    outputsSince dir since := onFake (Capture.fakePorts.outputsSince dir since)
    isSymlink path         := onFake (Capture.fakePorts.isSymlink path)
    isRegularFile path     := onFake (Capture.fakePorts.isRegularFile path)
    isContained dir path   := onFake (Capture.fakePorts.isContained dir path)
    nowMs                  := onFake Capture.fakePorts.nowMs
    wallMs                 := onFake Capture.fakePorts.wallMs
    verify path            := onFake (Capture.fakePorts.verify path) }

-- A receipt on a map, which is received at the second of its number.
def fakeReceipt (sequence : Nat) (output : Gsi.StateOutput) (facts : List Gsi.TransitionFact) :
    EvidenceReceipt where
  sequence    := sequence
  receivedAt  := sequence * 10 ^ 9
  payloadHash := "hash"
  presence    := ⟨true, true, true, true, true, true, true, true, true, true, true, true, true⟩
  context     := ⟨some "map", some 2, some sequence, some 0, some 100⟩
  output      := output
  facts       := facts

-- The session that starts at the time zero.
def fakeSession : Session where
  runtime := {
    coordinator := .new "session"
    recorder    := {
      capture         := { Capture.Supervisor.new Capture.fakeConfig with running := true }
      availableFromMs := 0
      requestOrdinal  := 0 } }
  clock   := 0

theorem fake_production :
    production fakePorts Capture.fakeConfig "session" { recorder := { clock := 0 } } =
      some fakeSession := rfl

end Live
