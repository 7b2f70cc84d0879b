import OpenFrag.Import.Orchestrator

-- What the workers of the orchestrator know of the leases, and what is asked of their runs.
namespace Orchestration

def Attempt.lease (attempt : Attempt) : Option String × Option Nat :=
  (attempt.leaseOwner, attempt.leaseExpiresAt)

-- The job is leased to the worker, and the lease has not expired.
def Job.heldBy (job : Job) (worker : String) (now : Nat) : Prop :=
  job.attempt.leaseOwner = some worker ∧ ∃ expiresAt ∈ job.attempt.leaseExpiresAt, now < expiresAt

namespace WorkerStep

-- The value of the job that the worker gets in the step.
def obtained (worker : String) (id : UInt64) (step : WorkerStep) : Option Job :=
  match step.call, step.reply with
  | .ask worker' _, some (.ok job) => if worker' = worker ∧ job.id = id then some job else none
  | _, _                           => none

def stored (step : WorkerStep) : Option Job :=
  match step.call, step.reply with
  | .ask _ (.resume _), _  => none
  | _, some (.ok job)      => some job
  | _, _                   => none

def cancels (id : UInt64) (step : WorkerStep) : Prop :=
  ∃ worker job stored, step.call = .ask worker (.operate job .cancel) ∧ step.stored = some stored ∧
    stored.id = id

end WorkerStep

def lastValue (steps : List WorkerStep) (worker : String) (id : UInt64) : Option Job :=
  (steps.filterMap (WorkerStep.obtained worker id)).getLast?

-- The last value that the worker has got of the job says so.
def Believes (steps : List WorkerStep) (shared : Shared) (worker : String) (id : UInt64) : Prop :=
  ∃ job ∈ lastValue steps worker id, job.heldBy worker shared.now

structure Safe (steps : List WorkerStep) (shared : Shared) : Prop where
  exclusive : ∀ id worker worker', Believes steps shared worker id →
    Believes steps shared worker' id → worker = worker'
  cancelled : steps.Pairwise fun step later => ∀ id, step.cancels id →
    ∀ job ∈ later.stored, job.id = id → job.cancelled

-- The copies are values that their workers have got in earlier steps.
def Obtained (steps : List WorkerStep) (_ : Shared) : Call → Prop
  | .ask worker (.operate job _) => ∃ step ∈ steps, step.obtained worker job.id = some job
  | _                            => True

-- The operation is refused, or the copy has the lease and the mark of the job that it replaces.
-- The counter of the identifiers has not come round to a job.
def Current (_ : List WorkerStep) (shared : Shared) : Call → Prop
  | .ask worker (.operate job operation) =>
    (∃ error, operation.apply shared.now worker job = .error error) ∨
      ∃ stored ∈ shared.orchestrator.store job.id,
        job.attempt.lease = stored.attempt.lease ∧ job.cancelled = stored.cancelled
  | .ask _ .create => shared.orchestrator.store shared.orchestrator.nextId = none
  | _              => True

end Orchestration
