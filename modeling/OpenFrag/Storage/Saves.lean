import OpenFrag.Library.Machine
import OpenFrag.Storage.Live

open Table

-- The save attempts and their clips, under any order of calls.
namespace Storage

inductive SaveCall
  | requestSave (session : CaptureSessionId) (recorderRequestId : String) (monotonicNs : Int)
  | acknowledgeSave (attempt : SaveAttemptId)
  | failSave (attempt : SaveAttemptId) (errorCode : String)
  | completeSave (attempt : SaveAttemptId) (artifactSha256 : Digest) (startNs endNs : Int)
  | createClip (attempt : SaveAttemptId) (provenance : String) (now : Int)
  | finalizeCapturedClip (attempt : SaveAttemptId) (artifactSha256 : Digest)
      (actualStartNs actualEndNs : Int) (provenance : String) (now : Int)
  deriving DecidableEq, Repr

inductive SaveReply
  | attempt (id : SaveAttemptId)
  | done
  | clip (id : ClipId)
  deriving DecidableEq, Repr

def answering {α : Type} (reply : α → SaveReply) (op : Statement α) (db : Database) :
    Except Error SaveReply × Database :=
  ((op.perform db).1.map reply, (op.perform db).2)

def SaveCall.serve : SaveCall → Database → Except Error SaveReply × Database
  | .requestSave session recorderRequestId monotonicNs =>
    answering .attempt (Storage.requestSave session recorderRequestId monotonicNs)
  | .acknowledgeSave attempt => answering (fun _ => .done) (Storage.acknowledgeSave attempt)
  | .failSave attempt errorCode => answering (fun _ => .done) (Storage.failSave attempt errorCode)
  | .completeSave attempt artifactSha256 startNs endNs =>
    answering (fun _ => .done) (Storage.completeSave attempt artifactSha256 startNs endNs)
  | .createClip attempt provenance now =>
    answering .clip (Storage.createClip attempt provenance now)
  | .finalizeCapturedClip attempt artifactSha256 actualStartNs actualEndNs provenance now =>
    answering .clip
      (Storage.finalizeCapturedClip attempt artifactSha256 actualStartNs actualEndNs provenance now)

abbrev SaveStep := Machine.Step SaveCall (Except Error SaveReply) Database

-- An attempt that is saved with an artifact and a range.
def isSavedAs (attempt : SaveAttemptId) (artifactSha256 : Digest) (startNs endNs : Int)
    (row : SaveAttemptRow) : Bool :=
  row.id = attempt && row.status = .saved && row.verifiedArtifactSha256 = some artifactSha256 &&
  row.actualStartMonotonicNs = some startNs && row.actualEndMonotonicNs = some endNs

-- The clip of a link, and the attempt that it was made of.
structure Linked (db : Database) (link : SaveAttemptClipRow) (row : SaveAttemptRow)
    (clip : ClipRow) : Prop where
  row_mem  : row ∈ db.recorderSaveAttempts
  clip_mem : clip ∈ db.clips
  row_id   : row.id = link.saveAttemptId
  clip_id  : clip.id = link.clipId
  saved    : row.status = .saved
  artifact : row.verifiedArtifactSha256 = some clip.artifactSha256
  session  : clip.captureSessionId = row.captureSessionId

structure SavesSound (db : Database) : Prop where
  attempts : (db.recorderSaveAttempts.map (·.id)).Nodup
  clips    : (db.clips.map (·.id)).Nodup
  links    : (db.saveAttemptClips.map (·.saveAttemptId)).Nodup
  linked   : ∀ link ∈ db.saveAttemptClips, ∃ row clip, Linked db link row clip

-- What a call that succeeds leaves of its attempt.
def SaveStep.Leaves (step : SaveStep) : Prop :=
  match step.call, step.reply with
  | .completeSave attempt artifactSha256 startNs endNs, .ok _
  | .finalizeCapturedClip attempt artifactSha256 startNs endNs _ _, .ok _ =>
    step.after.recorderSaveAttempts.any (isSavedAs attempt artifactSha256 startNs endNs)
  | _, _ => True

-- An attempt that has failed stays so, and has no clip.
def SaveStep.KeepsFailed (step : SaveStep) : Prop :=
  ∀ row ∈ step.before.recorderSaveAttempts, row.status = .failed →
    ∃ row' ∈ step.after.recorderSaveAttempts, row'.id = row.id ∧ row'.status = .failed ∧
      ∀ link ∈ step.after.saveAttemptClips, link.saveAttemptId ≠ row.id

-- A later finalization of an attempt that has been finalized.
def SaveStep.Repeats (first later : SaveStep) : Prop :=
  match first.call, first.reply, later.call with
  | .finalizeCapturedClip attempt artifactSha256 startNs endNs provenance _, .ok reply,
    .finalizeCapturedClip attempt' artifactSha256' startNs' endNs' provenance' _ =>
    attempt' = attempt → later.after = later.before ∧
      if artifactSha256' = artifactSha256 ∧ startNs' = startNs ∧ endNs' = endNs ∧
        provenance' = provenance then later.reply = .ok reply else ∃ error, later.reply = .error error
  | _, _, _ => True

structure SaveMachine (steps : List SaveStep) (db : Database) : Prop where
  sound   : SavesSound db
  leaves  : ∀ step ∈ steps, step.Leaves
  failed  : ∀ step ∈ steps, step.KeepsFailed
  repeats : steps.Pairwise SaveStep.Repeats

-- A database without save attempts and clips.
def Database.saveless (db : Database) : Database :=
  { db with recorderSaveAttempts := [], clips := [], saveAttemptClips := [] }

-- A completion that fails, or that is about an attempt that it can complete or has completed.
def SaveCall.completes (db : Database) : SaveCall → Prop
  | .completeSave attempt artifactSha256 startNs endNs =>
    endNs < startNs ∨ ¬isPresent db artifactSha256 ∨
    db.recorderSaveAttempts.any fun row =>
      isOpenAttempt attempt row || isSavedAs attempt artifactSha256 startNs endNs row
  | _ => True

end Storage
