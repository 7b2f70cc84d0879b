import OpenFrag.Setup.Runtime

-- The runs of the setup runtime, and what is asked of them.
namespace Setup

abbrev SetupStep := Machine.Step Call Reply SetupRuntime

namespace SetupStep

def fails (step : SetupStep) : Prop :=
  ∃ error, step.reply = .responded (.error error)

-- The request of an action that is reported as done.
def succeeds (step : SetupStep) (request : SetupActionRequest) : Prop :=
  ∃ env response, step.call = .act env request ∧ step.reply = .responded (.ok response)

end SetupStep

variable (digest : Digest)

-- A failed action changes nothing, and the fingerprint is the same whatever is observed of the
-- host. A successful one is in memory and in the file, under the next revision.
structure Atomic (step : SetupStep) : Prop where
  failed    : step.fails → step.after = step.before ∧ ∀ host,
    fingerprint host step.after.memory digest = fingerprint host step.before.memory digest
  succeeded : ∀ request, step.succeeds request → step.after.file = some step.after.memory ∧
    step.after.memory.revision.toNat = step.before.memory.revision.toNat + 1

def Exclusive (steps : List SetupStep) : Prop :=
  steps.Pairwise fun step step' => ∀ request request', step.succeeds request →
    step'.succeeds request' → request.expectedFingerprint ≠ request'.expectedFingerprint

-- A test of the capture has succeeded since its last configuration.
def Tested (steps : List SetupStep) : Prop :=
  ∃ before test since, steps = before ++ test :: since ∧
    (∃ request, test.succeeds request ∧ request.action = "run_test_capture") ∧
      ∀ step ∈ since, ∀ request, step.succeeds request → request.action ≠ "configure_capture"

structure Serialised (steps : List SetupStep) (runtime : SetupRuntime) : Prop where
  atomic    : ∀ step ∈ steps, Atomic digest step
  exclusive : Exclusive steps
  tested    : runtime.memory.testCapturePassed → Tested steps

-- What is hashed for the fingerprint that a request is compared with.
def hashed (env : Environment) (runtime : SetupRuntime) : PersistedSetup × SetupDiscovery :=
  (runtime.memory, discover env.observed runtime.memory)

-- The hash does not collide with those of the earlier actions of the run.
def NoCollision (steps : List SetupStep) (runtime : SetupRuntime) : Call → Prop
  | .act env _ => ∀ step ∈ steps, ∀ env' request', step.call = .act env' request' →
    digest.uncurry (hashed env' step.before) = digest.uncurry (hashed env runtime) →
      hashed env' step.before = hashed env runtime
  | _ => True

-- The request is up to date, and its action succeeds with this state.
structure Applies (env : Environment) (request : SetupActionRequest) (runtime : SetupRuntime)
    (applied : PersistedSetup) : Prop where
  current : request.expectedFingerprint = fingerprint env.observed runtime.memory digest
  applied : applyAction env.applied request runtime.memory = .ok () applied

-- Every action that succeeds on the state is written without a failure, below the greatest
-- revision. At the greatest one an action must neither change the state nor be written, but for a
-- failure after the file has been replaced with what it was.
def Written (_ : List SetupStep) (runtime : SetupRuntime) : Call → Prop
  | .act env request => ∀ applied, Applies digest env request runtime applied →
    match env.fault with
    | none       => runtime.memory.revision.toNat + 1 < 2 ^ 64
    | some fault => runtime.memory.revision.toNat + 1 = 2 ^ 64 ∧ applied = runtime.memory ∧
      (fault.step = .protect → runtime.file = some runtime.memory)
  | _ => True

end Setup
