import OpenFrag.Capture.Run
import OpenFrag.Library.Within

namespace Capture

def Component.rank : Component → Nat
  | .rootDir   => 0
  | .curDir    => 1
  | .parentDir => 2
  | .normal _  => 3

def Component.name : Component → String
  | .normal name => name
  | _            => ""

def Component.order : Component → Component → Ordering :=
  compareLex (compareOn Component.rank) (compareOn Component.name)

-- A file that has been modified later comes first.
def outputOrder (left right : Nat × Path) : Ordering :=
  (compare right.1 left.1).then (List.compareLex Component.order left.2 right.2)

-- A directory whose files have fixed modification times. Which regular files it holds is up to the
-- world, and reading it may fail.
structure Directory (W : Type) where
  files      : Path → W → Except String (List Path)
  modifiedMs : Path → Nat

variable {ι W β : Type}

namespace Directory

variable (directory : Directory W)

def listing (files : List Path) (sinceMs : Nat) : List Path :=
  let outputs := (files.map fun path => (directory.modifiedMs path, path)).filter
    fun (modifiedMs, _) => modifiedMs ≥ sinceMs
  (outputs.mergeSort fun left right => (outputOrder left right).isLE).map Prod.snd

def outputsSince (path : Path) (sinceMs : Nat) (w : W) : Except String (List Path) × W :=
  match directory.files path w with
  | .error e  => (.error e, w)
  | .ok files => (.ok (directory.listing files sinceMs), w)

end Directory

def beside (f : W → β × W) : W × List Nat → β × (W × List Nat) := fun (w, readings) =>
  ((f w).1, (f w).2, readings)

def noting (f : W → Nat × W) : W × List Nat → Nat × (W × List Nat) := fun (w, readings) =>
  ((f w).1, (f w).2, readings ++ [(f w).1])

-- The outputs are those of the directory, and a log is kept of the readings of the wall clock. It is
-- read when a signal for a save has been sent, and at no other time.
def Ports.over (ports : Ports W) (directory : Directory W) : Ports (W × List Nat) where
  spawn argv              := beside (ports.spawn argv)
  tryWait                 := beside ports.tryWait
  signal s                := beside (ports.signal s)
  drainStderr             := beside ports.drainStderr
  outputsSince path since := beside (directory.outputsSince path since)
  isSymlink path          := beside (ports.isSymlink path)
  isRegularFile path      := beside (ports.isRegularFile path)
  isContained dir path    := beside (ports.isContained dir path)
  nowMs                   := beside ports.nowMs
  wallMs                  := noting ports.wallMs
  verify path             := beside (ports.verify path)

structure Observation (ι : Type) where
  result        : Except Error (Reply ι)
  signalledAtMs : List Nat
  deriving Repr

def Observation.acknowledgement? (observation : Observation ι) : Option (SaveAcknowledgement ι) :=
  observation.result.toOption.bind Reply.acknowledgement?

-- The world may change between two calls, so that each call is made in a world of its own.
def Supervisor.observe (ports : Ports W) (directory : Directory W) (call : Call ι × W)
    (s : Supervisor ι) : Observation ι × Supervisor ι :=
  let result := perform (ports.over directory) call.1 ⟨s, call.2, []⟩
  (⟨result.toExcept, result.state.world.2⟩, result.state.supervisor)

abbrev DirectoryStep (ι W : Type) :=
  Machine.Step (Call ι × W) (Observation ι) (Supervisor ι)

namespace Directory

variable (directory : Directory W)

def outputs (steps : List (DirectoryStep ι W)) : List (SaveAcknowledgement ι) :=
  steps.filterMap (·.reply.acknowledgement?)

-- The signals that have been sent, with the request that each has been sent for and its wall time.
def signals (steps : List (DirectoryStep ι W)) : List (ι × Nat) :=
  steps.filterMap fun step => do
    let pending ← step.after.inFlight
    let signalledAtMs ← step.reply.signalledAtMs.getLast?
    return (pending.recorderRequestId, signalledAtMs)

-- The output that is acknowledged next has been modified since the signal for its request, which
-- has been the last one, and after all outputs acknowledged before.
structure Emitted (before : List (DirectoryStep ι W)) (a : SaveAcknowledgement ι) : Prop where
  since : ∃ signalledAtMs, (signals before).getLast? = some (a.recorderRequestId, signalledAtMs) ∧
    signalledAtMs ≤ directory.modifiedMs a.path
  newer : ∀ earlier ∈ outputs before,
    directory.modifiedMs earlier.path < directory.modifiedMs a.path
  once  : ∀ earlier ∈ outputs before, earlier.path ≠ a.path

def AllEmitted (steps : List (DirectoryStep ι W)) : Prop :=
  ∀ before step, before ++ [step] <+: steps →
    ∀ a ∈ step.reply.acknowledgement?, directory.Emitted before a

def Newer (steps : List (DirectoryStep ι W)) (sinceMs : Nat) (path : Path) : Prop :=
  sinceMs ≤ directory.modifiedMs path ∧
    ∀ earlier ∈ outputs steps, directory.modifiedMs earlier.path < directory.modifiedMs path

-- Where the directory holds a file that is as new as the signal, it also holds one that is newer than
-- all outputs acknowledged before. A path that is acknowledged without discovery is such a one.
def FreshFor (steps : List (DirectoryStep ι W)) (s : Supervisor ι) (pending : PendingSave ι) :
    Call ι × W → Prop
  | (.discoverSave, w)     =>
    ∀ files ∈ (directory.files s.config.outputDirectory w).toOption,
      (∃ path ∈ files, pending.sinceWallMs ≤ directory.modifiedMs path) →
        ∃ path ∈ files, directory.Newer steps pending.sinceWallMs path
  | (.acknowledge path, _) => directory.Newer steps pending.sinceWallMs path
  | _                      => True

def Fresh (steps : List (DirectoryStep ι W)) (s : Supervisor ι) (call : Call ι × W) : Prop :=
  ∀ pending ∈ s.inFlight, directory.FreshFor steps s pending call

instance (steps : List (DirectoryStep ι W)) (sinceMs : Nat) (path : Path) :
    Decidable (directory.Newer steps sinceMs path) :=
  inferInstanceAs (Decidable (_ ∧ _))

instance (steps : List (DirectoryStep ι W)) (s : Supervisor ι) (pending : PendingSave ι) :
    (call : Call ι × W) → Decidable (directory.FreshFor steps s pending call)
  | (.start, _)            => inferInstanceAs (Decidable True)
  | (.poll, _)             => inferInstanceAs (Decidable True)
  | (.requestSave _ _, _)  => inferInstanceAs (Decidable True)
  | (.shutdown, _)         => inferInstanceAs (Decidable True)
  | (.acknowledge path, _) =>
    inferInstanceAs (Decidable (directory.Newer steps pending.sinceWallMs path))
  | (.discoverSave, w)     => inferInstanceAs (Decidable
    (∀ files ∈ (directory.files s.config.outputDirectory w).toOption,
      (∃ path ∈ files, pending.sinceWallMs ≤ directory.modifiedMs path) →
        ∃ path ∈ files, directory.Newer steps pending.sinceWallMs path))

instance (steps : List (DirectoryStep ι W)) (s : Supervisor ι) (call : Call ι × W) :
    Decidable (directory.Fresh steps s call) :=
  inferInstanceAs (Decidable (∀ pending ∈ s.inFlight, directory.FreshFor steps s pending call))

end Directory

end Capture
