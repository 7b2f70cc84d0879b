import Mathlib.Algebra.Group.Nat.Defs
import OpenFrag.Import.Evidence
import OpenFrag.Library.Machine

open Import (CalculationIdentity)

-- The orchestrator of the imports, whose workers pass copies of the stored jobs.
namespace Orchestration

inductive ErrorCode
  | io
  | corrupt
  | unsupported
  | size
  | parse
  | analysis
  deriving DecidableEq, Repr

inductive State
  | awaitingImport
  | validating
  | hashing
  | deduplicating
  | copying
  | parsing
  | rating
  | linkingClips
  | ready
  | error (code : ErrorCode)
  deriving DecidableEq, Repr

structure Progress where
  processedBytes : UInt64
  totalBytes     : Option UInt64
  indeterminate  : Bool
  workDone       : UInt64
  heartbeat      : UInt64
  deriving DecidableEq, Repr

-- A time is the number of nanoseconds since the epoch, and a duration a number of nanoseconds.
structure Attempt where
  id             : UInt64
  state          : State
  retries        : UInt8
  nextRetryAfter : Option Nat
  progress       : Progress
  leaseOwner     : Option String
  leaseExpiresAt : Option Nat
  deriving DecidableEq, Repr

structure Job where
  id          : UInt64
  state       : State
  attempt     : Attempt
  identity    : Option CalculationIdentity
  canonical   : Bool
  quarantined : Bool
  cancelled   : Bool
  deriving DecidableEq, Repr

def legalTransition : State → State → Bool
  | .awaitingImport, .validating      => true
  | .validating, .hashing             => true
  | .validating, .error _             => true
  | .hashing, .deduplicating          => true
  | .hashing, .error _                => true
  | .deduplicating, .copying          => true
  | .deduplicating, .parsing          => true
  | .deduplicating, .rating           => true
  | .deduplicating, .ready            => true
  | .deduplicating, .error _          => true
  | .copying, .parsing                => true
  | .copying, .error _                => true
  | .parsing, .rating                 => true
  | .parsing, .error _                => true
  | .rating, .linkingClips            => true
  | .rating, .error _                 => true
  | .linkingClips, .ready             => true
  | .linkingClips, .error _           => true
  | .error _, .awaitingImport         => true
  | .error _, .validating             => true
  | .error _, .hashing                => true
  | .error _, .copying                => true
  | .error _, .parsing                => true
  | .error _, .rating                 => true
  | .ready, .parsing                  => true
  | .ready, .rating                   => true
  | _, _                              => false

def retryDelay (automaticRetry : UInt8) : Option Nat :=
  match automaticRetry.toNat with
  | 0 => some (2 * 10 ^ 9)
  | 1 => some (10 * 10 ^ 9)
  | 2 => some (60 * 10 ^ 9)
  | _ => none

def leaseAvailable (attempt : Attempt) (now : Nat) (owner : String) : Bool :=
  attempt.leaseOwner.all (· = owner) || attempt.leaseExpiresAt.all (· ≤ now)

-- A call returns an error, or it panics on a time that the clock does not have.
inductive Failure
  | code (error : ErrorCode)
  | panicked
  deriving DecidableEq, Repr

-- The sum of a time and a duration. The seconds of a time are an `i64`.
def expiry (now ttl : Nat) : Except Failure Nat :=
  if now + ttl < 2 ^ 63 * 10 ^ 9 then .ok (now + ttl) else .error .panicked

namespace Job

variable (job : Job) (owner : String) (now ttl : Nat)

def moved (job : Job) (target : State) : Job :=
  { job with
    state   := target
    attempt := { job.attempt with state := target } }

def transition (target : State) : Except Failure Job := do
  if job.cancelled || !legalTransition job.state target then throw (.code .analysis)
  let progress := job.attempt.progress
  let progress := { progress with heartbeat := progress.heartbeat + 1 }
  let job := job.moved target
  return { job with attempt := { job.attempt with progress } }

def acquireLease : Except Failure Job := do
  if !leaseAvailable job.attempt now owner then throw (.code .io)
  let expiresAt ← expiry now ttl
  return { job with
    attempt := { job.attempt with leaseOwner := some owner, leaseExpiresAt := some expiresAt } }

def renewLease : Except Failure Job := do
  if job.attempt.leaseOwner ≠ some owner then throw (.code .io)
  let expiresAt ← expiry now ttl
  return { job with attempt := { job.attempt with leaseExpiresAt := some expiresAt } }

def releaseLease : Except Failure Job := do
  if job.attempt.leaseOwner ≠ some owner then throw (.code .io)
  return { job with attempt := { job.attempt with leaseOwner := none, leaseExpiresAt := none } }

def retry (manual : Bool) : Except Failure Job :=
  if manual then
    .ok { job with attempt := { job.attempt with retries := 0, nextRetryAfter := none } }
  else
    match retryDelay job.attempt.retries with
    | none       => .error (.code .io)
    | some delay =>
      .ok { job with
        attempt := { job.attempt with
          nextRetryAfter := some delay, retries := job.attempt.retries + 1 } }

def cancel : Job :=
  { job.moved .awaitingImport with cancelled := true }

def quarantineEmpty : Job :=
  { job.moved (.error .parse) with quarantined := true }

def queued (id : UInt64) (state : State) : Job where
  id
  state
  attempt     := {
    id
    state
    retries        := 0
    nextRetryAfter := none
    progress       := ⟨0, none, true, 0, 0⟩
    leaseOwner     := none
    leaseExpiresAt := none }
  identity    := none
  canonical   := false
  quarantined := false
  cancelled   := false

end Job

-- The operations that take a copy of a job, and put another one in its place.
inductive Operation
  | transition (target : State)
  | acquireLease (ttl : Nat)
  | renewLease (ttl : Nat)
  | releaseLease
  | retry (manual : Bool)
  | cancel
  | quarantineEmpty
  deriving DecidableEq, Repr

def Operation.apply (now : Nat) (worker : String) (job : Job) : Operation → Except Failure Job
  | .transition target => job.transition target
  | .acquireLease ttl  => job.acquireLease worker now ttl
  | .renewLease ttl    => job.renewLease worker now ttl
  | .releaseLease      => job.releaseLease worker
  | .retry manual      => job.retry manual
  | .cancel            => .ok job.cancel
  | .quarantineEmpty   => .ok job.quarantineEmpty

inductive Request
  | create
  | resume (id : UInt64)
  | operate (job : Job) (operation : Operation)
  deriving DecidableEq, Repr

-- A worker is known by the owner of its leases.
inductive Call
  | ask (worker : String) (request : Request)
  | wait (duration : Nat)
  deriving DecidableEq, Repr

structure Orchestrator where
  store  : UInt64 → Option Job
  nextId : UInt64

namespace Orchestrator

def new : Orchestrator where
  store  := fun _ => none
  nextId := 1

def put (orchestrator : Orchestrator) (job : Job) : Orchestrator :=
  { orchestrator with
    store := fun id => if id = job.id then some job else orchestrator.store id }

def serve (now : Nat) (worker : String) (orchestrator : Orchestrator) :
    Request → Except Failure Job × Orchestrator
  | .create =>
    let job := Job.queued orchestrator.nextId .awaitingImport
    (.ok job, { orchestrator with nextId := orchestrator.nextId + 1 }.put job)
  | .resume id =>
    match orchestrator.store id with
    | some job => (.ok job, orchestrator)
    | none     => (.error (.code .io), orchestrator)
  | .operate job operation =>
    match operation.apply now worker job with
    | .ok job      => (.ok job, orchestrator.put job)
    | .error error => (.error error, orchestrator)

end Orchestrator

-- The clock of the workers never goes back.
structure Shared where
  orchestrator : Orchestrator
  now          : Nat

def Shared.new (now : Nat) : Shared where
  orchestrator := .new
  now

def answer : Call → Shared → Option (Except Failure Job) × Shared
  | .ask worker request, shared =>
    let (reply, orchestrator) := shared.orchestrator.serve shared.now worker request
    (some reply, { shared with orchestrator })
  | .wait duration, shared      => (none, { shared with now := shared.now + duration })

abbrev WorkerStep := Machine.Step Call (Option (Except Failure Job)) Shared

end Orchestration
