import OpenFrag.Storage.Jobs

open MachineInt

-- The bounds of the work on a Demo that starts without its user.
namespace Storage

def statusOf (db : Database) (job : ImportJobId) : Option ImportPhase :=
  (db.importJobs.find? (·.id = job)).map (·.status)

namespace JobStep

def resets (job : ImportJobId) (step : JobStep) : Bool :=
  match step.call with
  | .resetImportRetry id _ => id = job && step.reply.isOk
  | _                      => false

def requeues (job : ImportJobId) (step : JobStep) : Bool :=
  match step.call with
  | .recoverExpiredImports _ =>
    statusOf step.before job = some .leased && statusOf step.after job = some .queued
  | _ => false

end JobStep

-- How often a job has been put back by a recovery since its last manual retry.
def automaticRequeues (steps : List JobStep) (job : ImportJobId) : Nat :=
  steps.foldl (fun count step =>
    if step.resets job then 0 else if step.requeues job then count + 1 else count) 0

def recovered (db : Database) (now : Int) : Database :=
  (JobCall.serve (.recoverExpiredImports now) db).2

-- A leased job is one whose worker may have crashed.
structure BoundedWork (steps : List JobStep) (db : Database) : Prop where
  exclusive   : ∀ job ∈ db.importJobs, ∀ other ∈ db.importJobs, job.status = .leased →
    other.status = .leased → job.demoSha256 = other.demoSha256 → job = other
  requeued    : ∀ job, automaticRequeues steps job ≤ 3
  recoverable : ∀ job ∈ db.importJobs, job.status = .leased → ∀ clock, Signed 64 clock →
    ∃ now, clock ≤ now ∧ Signed 64 now ∧ statusOf (recovered db now) job.id = some .queued

-- A job is leased until a time that the clock passes, and while no other job of its Demo is leased.
-- A recovery finds no expired job that has been put back three times.
def Restrained (steps : List JobStep) (db : Database) : JobCall → Prop
  | .leaseImport id _ expiresAtMs _ now' =>
    ∀ job ∈ db.importJobs, isLeasable id now' job → expiresAtMs < 2 ^ 63 - 1 ∧
      ∀ other ∈ db.importJobs, other.status = .leased → other.demoSha256 = job.demoSha256 →
        other = job
  | .recoverExpiredImports now =>
    ∀ job ∈ db.importJobs, isExpired now job → automaticRequeues steps job.id < 3
  | _ => True

-- The lease that the daemon asks for.
def daemonLeaseExpiresAtMs : Int := 2 ^ 63 - 1

end Storage
