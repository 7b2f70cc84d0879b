import OpenFrag.Capture.Supervisor

namespace Capture

inductive Call (ι : Type)
  | start
  | poll
  | requestSave (recorderRequestId : ι) (provenance : SaveProvenance)
  | discoverSave
  | acknowledge (path : Path)
  | shutdown
  deriving DecidableEq, Repr

inductive Reply (ι : Type)
  | done
  | polled (code : Option Int)
  | requested (outcome : SaveRequestOutcome ι)
  | discovered (acknowledgement : Option (SaveAcknowledgement ι))
  | acknowledged (acknowledgement : SaveAcknowledgement ι)
  deriving DecidableEq, Repr

-- What a call has done to the processes: a new child runs, or the signal has reached the child that
-- was spawned last.
inductive Effect
  | spawned
  | delivered (signal : Signal)
  deriving DecidableEq, Repr

variable {ι W : Type}

def Reply.outcome? : Reply ι → Option (SaveRequestOutcome ι)
  | .requested outcome => some outcome
  | _                  => none

def Reply.acknowledgement? : Reply ι → Option (SaveAcknowledgement ι)
  | .discovered acknowledgement   => acknowledgement
  | .acknowledged acknowledgement => some acknowledgement
  | _                             => none

def logging {α : Type} (effect : Effect) (f : W → Except String α × W) :
    W × List Effect → Except String α × (W × List Effect) := fun (w, log) =>
  match f w with
  | (.ok a, w)    => (.ok a, w, log ++ [effect])
  | (.error e, w) => (.error e, w, log)

def silent {β : Type} (f : W → β × W) : W × List Effect → β × (W × List Effect) := fun (w, log) =>
  ((f w).1, (f w).2, log)

-- The same ports, which keep a log of their effects.
def Ports.logged (ports : Ports W) : Ports (W × List Effect) where
  spawn argv              := logging .spawned (ports.spawn argv)
  tryWait                 := silent ports.tryWait
  signal s                := logging (.delivered s) (ports.signal s)
  drainStderr             := silent ports.drainStderr
  outputsSince dir since  := silent (ports.outputsSince dir since)
  isSymlink path          := silent (ports.isSymlink path)
  isRegularFile path      := silent (ports.isRegularFile path)
  isContained dir path    := silent (ports.isContained dir path)
  nowMs                   := silent ports.nowMs
  wallMs                  := silent ports.wallMs
  verify path             := silent (ports.verify path)

namespace Supervisor

def perform (ports : Ports W) : Call ι → Method ι W (Reply ι)
  | .start                                  => do start ports; return .done
  | .poll                                   => return .polled (← poll ports)
  | .requestSave recorderRequestId provenance =>
    return .requested (← requestSave ports recorderRequestId provenance)
  | .discoverSave                           => return .discovered (← discoverSave ports)
  | .acknowledge path                       => return .acknowledged (← acknowledge ports path)
  | .shutdown                               => do shutdown ports; return .done

structure Answer (ι : Type) where
  result  : Except Error (Reply ι)
  effects : List Effect
  deriving Repr

def Answer.outcome? (answer : Answer ι) : Option (SaveRequestOutcome ι) :=
  answer.result.toOption.bind Reply.outcome?

def Answer.acknowledgement? (answer : Answer ι) : Option (SaveAcknowledgement ι) :=
  answer.result.toOption.bind Reply.acknowledgement?

-- The world may change between two calls, so that each call is made in a world of its own.
def answer (ports : Ports W) (call : Call ι × W) (s : Supervisor ι) : Answer ι × Supervisor ι :=
  match perform ports.logged call.1 ⟨s, call.2, []⟩ with
  | .ok reply host => (⟨.ok reply, host.world.2⟩, host.supervisor)
  | .error e host  => (⟨.error e, host.world.2⟩, host.supervisor)

end Supervisor

abbrev Step (ι W : Type) :=
  Machine.Step (Call ι × W) (Supervisor.Answer ι) (Supervisor ι)

-- A world in which nothing but a signal fails, with what a poll and a discovery find in it.
structure FakeWorld where
  clock     : Nat
  exit      : Option Int := none
  outputs   : List Path := []
  reachable : Bool := true
  deriving DecidableEq, Repr

def fakePorts : Ports FakeWorld where
  spawn _ w          := (.ok (), w)
  tryWait w          := (.ok w.exit, w)
  signal _ w         := (if w.reachable then .ok () else .error "no child", w)
  drainStderr w      := (.ok [], w)
  outputsSince _ _ w := (.ok w.outputs, w)
  isSymlink _ w      := (.ok false, w)
  isRegularFile _ w  := (.ok true, w)
  isContained _ _ w  := (.ok true, w)
  nowMs w            := (w.clock, w)
  wallMs w           := (w.clock, w)
  verify _ w         := (.ok ⟨100, 1⟩, w)

def fakeConfig : Config :=
  .new (.native "gpu-screen-recorder" ["-w", "screen"]) [.rootDir, .normal "clips"]

-- The identities that the requests have returned, in the order of the requests.
def issued (steps : List (Step ι W)) : List ι :=
  steps.filterMap fun step => step.reply.outcome?.map (·.recorderRequestId)

def acknowledgements (steps : List (Step ι W)) : List (SaveAcknowledgement ι) :=
  steps.filterMap (·.reply.acknowledgement?)

def acknowledged (steps : List (Step ι W)) : List ι :=
  (acknowledgements steps).map (·.recorderRequestId)

end Capture
