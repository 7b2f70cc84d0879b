import OpenFrag.Library.Machine
import OpenFrag.Storage.Import

open Import Table

-- The import jobs, as any number of workers use them.
namespace Storage

-- A call has the readings of the wall clock that it makes.
inductive JobCall
  | enqueueImport (demoSha256 : Digest) (now now' : Int)
  | leaseImport (job : ImportJobId) (owner : String) (expiresAtMs now now' : Int)
  | updateImportProgress (job : ImportJobId) (owner : String) (done total : Option Int)
      (progress heartbeat now : Int)
  | updateParserProgress (job : ImportJobId) (owner : String) (progress : ParserProgressUpdate)
      (now : Int)
  | finishImport (job : ImportJobId) (owner : String) (phase : ImportPhase)
      (errorCode remediation : Option String) (retryAt : Option Int)
      (diagnostic : Option ParseDiagnostic) (now : Int)
  | resetImportRetry (job : ImportJobId) (now : Int)
  | recoverExpiredImports (now : Int)
  deriving DecidableEq

def unanswered {α : Type} (op : Statement α) (db : Database) : Except Error Unit × Database :=
  ((op.perform db).1.map fun _ => (), (op.perform db).2)

def JobCall.serve : JobCall → Database → Except Error Unit × Database
  | .enqueueImport demoSha256 now now' => unanswered (Storage.enqueueImport demoSha256 now now')
  | .leaseImport job owner expiresAtMs now now' =>
    unanswered (Storage.leaseImport job owner expiresAtMs now now')
  | .updateImportProgress job owner done total progress heartbeat now =>
    unanswered (Storage.updateImportProgress job owner done total progress heartbeat now)
  | .updateParserProgress job owner progress now =>
    unanswered (Storage.updateParserProgress job owner progress now)
  | .finishImport job owner phase errorCode remediation retryAt diagnostic now =>
    unanswered (Storage.finishImportWithDiagnostic job owner phase errorCode remediation retryAt
      diagnostic now)
  | .resetImportRetry job now => unanswered (Storage.resetImportRetry job now)
  | .recoverExpiredImports now => unanswered (Storage.recoverExpiredImports now)

abbrev JobStep := Machine.Step JobCall (Except Error Unit) Database

def attemptsOf (attempts : List ImportAttemptRow) (job : ImportJobId) : List ImportAttemptRow :=
  attempts.filter (·.importJobId = job)

def running (attempts : List ImportAttemptRow) : List ImportAttemptRow :=
  attempts.filter (·.status = .running)

-- A job and its attempts.
structure JobSound (job : ImportJobRow) (attempts : List ImportAttemptRow) : Prop where
  owned    : job.status = .leased ↔ job.leaseOwner.isSome
  expiring : job.status = .leased ↔ job.leaseExpiresAtMs.isSome
  attempt  : job.status = .leased ↔ (running attempts).length = 1
  numbers  : (attempts.map (·.attemptNumber)).Perm (List.range' 1 attempts.length)
  finished : ∀ row ∈ attempts, row.status ≠ .running → row.finishedAtMs.isSome

def JobsSound (db : Database) : Prop :=
  ∀ job ∈ db.importJobs, JobSound job (attemptsOf db.importAttempts job.id)

def ImportPhase.isTerminal : ImportPhase → Bool
  | .succeeded | .failed | .cancelled => true
  | _                                 => false

-- What a worker reports of its job.
def ImportJobRow.work (job : ImportJobRow) :
    Int × Option Int × Option Int × Option String × Option Int × Option Int × Option Int :=
  (job.progressBp, job.bytesDone, job.bytesTotal, job.workPhase, job.framesDone, job.eventsEmitted,
    job.heartbeatAtMs)

-- The job is held by the worker that makes the call.
def JobCall.holds (job : ImportJobRow) : JobCall → Prop
  | .updateImportProgress id owner _ _ _ _ _ | .updateParserProgress id owner _ _
  | .finishImport id owner _ _ _ _ _ _ =>
    id = job.id ∧ job.status = .leased ∧ job.leaseOwner = some owner
  | _ => False

-- What becomes of a job in a step.
structure JobMoves (call : JobCall) (before after : ImportJobRow) : Prop where
  reported : after.work ≠ before.work → call.holds before
  ended    : before.status.isTerminal = false → after.status.isTerminal → call.holds before
  left     : before.status.isTerminal → after.status ≠ before.status →
    ∃ now, call = .resetImportRetry before.id now

-- No step loses a job.
def JobsMove (step : JobStep) : Prop :=
  ∀ before ∈ step.before.importJobs, ∃ after ∈ step.after.importJobs,
    after.id = before.id ∧ JobMoves step.call before after ∧
      ∀ other ∈ step.after.importJobs, other.id = before.id → other = after

structure JobMachine (steps : List JobStep) (db : Database) : Prop where
  sound : JobsSound db
  moves : ∀ step ∈ steps, JobsMove step

-- A database without jobs.
def Database.jobless (db : Database) : Database :=
  { db with importJobs := [], importAttempts := [] }

end Storage
