import OpenFrag.Live.Deadlines
import OpenFrag.Storage.Live

open Capture (Path SaveAcknowledgement)
open Domain (CandidateTrigger CaptureWindow HighlightCandidate)
open Gsi (EvidenceReceipt PresenceBits)
open MachineInt (Signed saturatingAdd)
open Storage (CaptureSessionId Database Digest DurableClipOriginInput LiveCandidateId ManualFlagId
  SaveAttemptId Statement)

namespace Storage

def Error.debug : Error → String
  | .database constraint    => "Database(" ++ reprStr constraint ++ ")"
  | .invalid what           => "Invalid(" ++ what.quote ++ ")"
  | .notFound what          => "NotFound(" ++ what.quote ++ ")"
  | .illegalTransition what => "IllegalTransition(" ++ what.quote ++ ")"
  | .conflict what          => "Conflict(" ++ what.quote ++ ")"
  | .unavailable what       => "Unavailable(" ++ what.quote ++ ")"
  | .io what                => "Io(" ++ what.quote ++ ")"

end Storage

-- The adapter from the evidence of live coordination to the database.
namespace Live

structure ReceiptMetadata where
  snapshotSha256 : Digest
  sequence       : Int
  receivedAtNs   : Int
  trigger        : Option CandidateTrigger
  deriving DecidableEq, Repr

structure CandidateMetadata where
  id              : LiveCandidateId
  record          : CandidateRecord
  triggerReceipts : List String
  deriving DecidableEq, Repr

structure SaveAttemptMetadata where
  id         : SaveAttemptId
  generation : Nat
  failed     : Bool
  capture    : CaptureRecord
  deriving DecidableEq, Repr

structure StorageEvidenceStore where
  session        : CaptureSessionId
  storage        : Database
  receipts       : HashMap ReceiptMetadata
  candidates     : HashMap CandidateMetadata
  saveAttempts   : HashMap SaveAttemptMetadata
  manualFlags    : HashMap ManualFlagId
  candidateJoins : List (LiveCandidateId × SaveAttemptId)
  deriving DecidableEq

-- The text of a generated identifier.
def idText (id : Nat) : String :=
  toString id

-- The calls that are made of the storage and of the channel to the scheduler.
inductive Operation
  | stageArtifact
  | commitArtifact
  | recordGsiSnapshot
  | createCandidate
  | addCandidateTrigger (candidate : LiveCandidateId)
  | joinCandidateSave
  | createManualFlag
  | joinManualFlagSave
  | requestSave
  | saveAttemptForRequest
  | failSave
  | finalizeCapturedClip
  | completeClipModelMetadata
  | schedule
  | cancel
  deriving DecidableEq, Repr

-- What lies below the adapter, next to the database. A call fails before it has an effect, or it is
-- made.
structure Environment (W : Type) where
  fault        : Operation → W → Option String × W
  wallMs       : W → Int × W
  nowMs        : W → Nat × W
  rank         : W → (String → Nat) × W
  digest       : EvidenceReceipt → Digest
  byteLength   : EvidenceReceipt → Nat
  presenceText : PresenceBits → String
  isPlainFile  : Path → W → Except String Bool × W
  stageFile    : Path → W → Except String (Digest × Nat) × W
  removeFile   : Path → W → Except String Unit × W
  capture      : Capture.Ports W

-- The adapter and the scheduler as they run in a world.
structure Backend (W : Type) where
  store  : StorageEvidenceStore
  driver : DeadlineDriver
  world  : W

-- A method that fails keeps what it has done.
abbrev Adapter (W : Type) := EStateM LiveDiagnostic (Backend W)

variable {W α β : Type}

namespace Backend

def reading (f : W → β × W) : Backend W → β × Backend W := fun b =>
  ((f b.world).1, { b with world := (f b.world).2 })

def calling (x : Adapter W α) : Backend W → Except LiveDiagnostic α × Backend W := fun b =>
  ((x b).toExcept, (x b).state)

end Backend

namespace StorageAdapter

def store : Adapter W StorageEvidenceStore := do
  return (← get).store

def modifyStore (f : StorageEvidenceStore → StorageEvidenceStore) : Adapter W Unit :=
  modify fun b => { b with store := f b.store }

def reading (f : W → α × W) : Adapter W α := fun b =>
  .ok (f b.world).1 { b with world := (f b.world).2 }

def checked (result : Except LiveDiagnostic α) : Adapter W α := fun b =>
  match result with
  | .ok a    => .ok a b
  | .error e => .error e b

def required (what : String) : Option α → Except LiveDiagnostic α
  | some a => .ok a
  | none   => .error (.unsupported what)

def io (what : String) (f : W → Except String α × W) : Adapter W α := fun b =>
  match f b.world with
  | (.ok a, world)    => .ok a { b with world }
  | (.error e, world) => .error (.persistence s!"{what}: {e}") { b with world }

def statement (op : Statement α) : Adapter W α := fun b =>
  match op b.store.storage with
  | .ok (a, storage) => .ok a { b with store.storage := storage }
  | .error e         => .error (.persistence e.debug) b

def millisToNanos (value : Int) : Except LiveDiagnostic Int :=
  if Signed 64 (value * 10 ^ 6) then .ok (value * 10 ^ 6)
  else .error (.unsupported "timestamp exceeds nanosecond range")

def millisU64ToNanos (value : Nat) : Except LiveDiagnostic Int :=
  if Signed 64 value then millisToNanos value
  else .error (.unsupported "timestamp exceeds SQLite range")

def receivedAtMs (receipt : EvidenceReceipt) : Except LiveDiagnostic Int :=
  if Signed 64 (receipt.receivedAt / 10 ^ 6 : Nat) then .ok (receipt.receivedAt / 10 ^ 6 : Nat)
  else .error (.unsupported "GSI timestamp exceeds SQLite range")

def sequenceNumber (receipt : EvidenceReceipt) : Except LiveDiagnostic Int :=
  if Signed 64 receipt.sequence then .ok receipt.sequence
  else .error (.unsupported "GSI sequence exceeds SQLite range")

def receiptTrigger (receipt : EvidenceReceipt) : Option CandidateTrigger :=
  receipt.facts.findSome? fun
    | .roundKillDelta _ current delta =>
      if current ≥ 3 ∧ delta > 0 then some .killMilestone else none
    | .roundEnd _ _                   => some .officialRoundEndCapture
    | _                               => none

-- The texts before and after the last occurrence of a character.
def rsplitOnce (c : Char) (text : List Char) : Option (List Char × List Char) :=
  if c ∈ text then
    let after := (text.reverse.takeWhile (· ≠ c)).reverse
    some (text.take (text.length - (after.length + 1)), after)
  else
    none

def parseRoundId (roundId : String) : Except LiveDiagnostic (String × Int) := do
  let (map, round) ← required "candidate round identity" (rsplitOnce ':' roundId.toList)
  let round ← required "candidate round number" (Decimal.parseSigned 64 (.ofList round))
  if map = [] ∨ round < 0 then
    throw (.unsupported "candidate round identity")
  else
    return (.ofList map, round)

def triggerName : CandidateTrigger → String
  | .killMilestone           => "kill_milestone"
  | .possibleKnife           => "possible_knife"
  | .officialRoundEndCapture => "official_round_end"

def supervisorText : Capture.Error → String
  | .process message    => "Process(" ++ message.quote ++ ")"
  | .filesystem message => "Filesystem(" ++ message.quote ++ ")"
  | .media message      => "Media(" ++ message.quote ++ ")"
  | .notRunning         => "NotRunning"
  | .noSaveInFlight     => "NoSaveInFlight"
  | .unsafeOutputPath   => "UnsafeOutputPath"
  | .symlinkOutput      => "SymlinkOutput"
  | .invalidOutput      => "InvalidOutput"
  | .outputNotFound     => "OutputNotFound"

-- The runtime has the supervisor's errors as its own.
def recorderText (e : Capture.Error) : String :=
  "Supervisor(" ++ supervisorText e ++ ")"

def reasonText : CancelReason → String
  | .stale        => "Stale"
  | .sessionReset => "SessionReset"

variable (env : Environment W)

-- A call that fails for a reason of its own has no effect.
def guarded (operation : Operation) (wrap : String → LiveDiagnostic) : Adapter W Unit := fun b =>
  match env.fault operation b.world with
  | (none, world)   => .ok () { b with world }
  | (some e, world) => .error (wrap e) { b with world }

def execute (operation : Operation) (op : Statement α) : Adapter W α := do
  guarded env operation .persistence
  statement op

-- The staged file is not part of the database.
def stageArtifact : Adapter W Unit :=
  guarded env .stageArtifact .persistence

def persistReceipt (receipt : EvidenceReceipt) : Adapter W Unit := do
  let s ← store
  if !s.receipts.containsKey (receiptId receipt) then
    stageArtifact env
    let now ← reading env.wallMs
    let snapshotSha256 ← execute env .commitArtifact (Storage.commitArtifact (env.digest receipt)
      (env.byteLength receipt) "json" (some "application/json") now)
    let sequence ← checked (sequenceNumber receipt)
    let receivedAtMs ← checked (receivedAtMs receipt)
    execute env .recordGsiSnapshot (Storage.recordGsiSnapshot s.session snapshotSha256 sequence
      receivedAtMs (env.presenceText receipt.presence) "1.0.0")
    let receivedAtNs ← checked (millisToNanos receivedAtMs)
    modifyStore fun s => { s with
      receipts := s.receipts.insert (receiptId receipt)
        { snapshotSha256, sequence, receivedAtNs, trigger := receiptTrigger receipt } }

def hydrated (receiptId : String) : Adapter W ReceiptMetadata := do
  checked (required "candidate receipt is not hydrated in this adapter"
    ((← store).receipts.get? receiptId))

def addTrigger (id : LiveCandidateId) (receiptId : String) : Adapter W Unit := do
  let receipt ← hydrated receiptId
  let trigger ← checked (required "candidate receipt trigger" receipt.trigger)
  execute env (.addCandidateTrigger id) (Storage.addCandidateTrigger id receipt.snapshotSha256
    receipt.sequence (triggerName trigger) receipt.receivedAtNs)

-- The receipts of a known candidate that have been added before are left out.
def addMissingTrigger (id : LiveCandidateId) (persisted : List String) (receiptId : String) :
    Adapter W (List String) := do
  if persisted.contains receiptId then
    return persisted
  else
    addTrigger env id receiptId
    return receiptId :: persisted

def addFirstTrigger (id : LiveCandidateId) (persisted : List String) (receiptId : String) :
    Adapter W (List String) := do
  addTrigger env id receiptId
  return receiptId :: persisted

-- The row of a known candidate is not written again.
def updateCandidate (existing : CandidateMetadata) (record : CandidateRecord) :
    Adapter W LiveCandidateId := do
  let triggerReceipts ← record.candidate.receiptIds.foldlM (addMissingTrigger env existing.id)
    existing.triggerReceipts
  modifyStore fun s => { s with
    candidates := s.candidates.insert record.candidate.roundId
      { existing with record, triggerReceipts } }
  return existing.id

def insertCandidate (record : CandidateRecord) : Adapter W LiveCandidateId := do
  let candidate := record.candidate
  let first ← checked (required "candidate without receipt" candidate.receiptIds.head?)
  let receipt ← hydrated first
  let trigger ← checked (required "candidate without trigger"
    (receipt.trigger.or candidate.triggers.head?))
  let (map, round) ← checked (parseRoundId candidate.roundId)
  let startNs ← checked (millisU64ToNanos candidate.range.startMs)
  let endNs ← checked (millisU64ToNanos candidate.range.endMs)
  let id ← execute env .createCandidate (Storage.createCandidate (← store).session
    candidate.ruleVersion (triggerName trigger) (some map) (some round) receipt.receivedAtNs
    receipt.receivedAtNs startNs endNs)
  let triggerReceipts ← candidate.receiptIds.foldlM (addFirstTrigger env id) []
  modifyStore fun s => { s with
    candidates := s.candidates.insert candidate.roundId { id, record, triggerReceipts } }
  return id

def persistCandidate (record : CandidateRecord) : Adapter W LiveCandidateId := do
  let s ← store
  if record.candidate.captureSessionId ≠ idText s.session then
    throw (.unsupported "candidate belongs to another capture session")
  else if record.finalLabels ≠ [] then
    throw (.unsupported "final highlight labels have no live candidate column")
  else
    match s.candidates.get? record.candidate.roundId with
    | some existing => updateCandidate env existing record
    | none          => insertCandidate env record

def upsertCandidate (candidate : CandidateRecord) : Adapter W Unit := do
  let _ ← persistCandidate env candidate

-- The name under which an attempt without a request of the recorder is known.
def attemptName (captureId : String) (generation : Nat) : String :=
  if generation = 0 then captureId else s!"{captureId}:retry:{generation}"

def newAttempt (capture : CaptureRecord) (generation requestedAtMs : Nat)
    (recorderRequestId : Option String) : Adapter W SaveAttemptId := do
  let requestedNs ← checked (millisU64ToNanos requestedAtMs)
  let id ← execute env .requestSave (Storage.requestSave (← store).session
    (recorderRequestId.getD (attemptName capture.id generation)) requestedNs)
  modifyStore fun s => { s with
    saveAttempts := s.saveAttempts.insert capture.id
      { id, generation, failed := false, capture } }
  return id

def ensureAttempt (capture : CaptureRecord) (requestedAtMs : Nat)
    (recorderRequestId : Option String) : Adapter W SaveAttemptId := do
  match (← store).saveAttempts.get? capture.id with
  | none          => newAttempt env capture 0 requestedAtMs recorderRequestId
  | some existing =>
    if existing.failed then
      newAttempt env capture (saturatingAdd 64 existing.generation 1) requestedAtMs recorderRequestId
    else
      modifyStore fun s => { s with
        saveAttempts := s.saveAttempts.insert capture.id { existing with capture } }
      return existing.id

def joinCandidateOnce (candidate : LiveCandidateId) (attempt : SaveAttemptId)
    (window : CaptureWindow) : Adapter W Unit := do
  if !(← store).candidateJoins.contains (candidate, attempt) then
    let startNs ← checked (millisU64ToNanos window.desired.startMs)
    let endNs ← checked (millisU64ToNanos window.desired.endMs)
    execute env .joinCandidateSave (Storage.joinCandidateSave candidate attempt startNs endNs)
    modifyStore fun s => { s with candidateJoins := (candidate, attempt) :: s.candidateJoins }

def ensureManualFlag (capture : CaptureRecord) (window : CaptureWindow) :
    Adapter W ManualFlagId := do
  let s ← store
  match s.manualFlags.get? capture.id with
  | some flag => return flag
  | none      =>
    let flaggedNs ← checked (millisU64ToNanos window.requestedAtMs)
    let now ← reading env.wallMs
    let flag ← execute env .createManualFlag (Storage.createManualFlag s.session flaggedNs now)
    modifyStore fun s => { s with manualFlags := s.manualFlags.insert capture.id flag }
    return flag

def joinFlag (capture : CaptureRecord) (attempt : SaveAttemptId) (window : CaptureWindow) :
    Adapter W Unit := do
  let flag ← ensureManualFlag env capture window
  let startNs ← checked (millisU64ToNanos window.desired.startMs)
  let endNs ← checked (millisU64ToNanos window.desired.endMs)
  execute env .joinManualFlagSave (Storage.joinManualFlagSave flag attempt startNs endNs)

def failAttempt (captureId : String) (attempt : SaveAttemptId) (message : String) :
    Adapter W Unit := do
  execute env .failSave (Storage.failSave attempt message)
  modifyStore fun s =>
    match s.saveAttempts.get? captureId with
    | none          => s
    | some metadata => { s with
        saveAttempts := s.saveAttempts.insert captureId { metadata with failed := true } }

-- The message of a capture that has not been saved.
def failure : CaptureStatus → Option String
  | .retryable e      => some (recorderText e)
  | .cancelled reason => some s!"cancelled:{reasonText reason}"
  | _                 => none

def recorderRequestId : CaptureStatus → Option String
  | .saveRequested outcome => some outcome.recorderRequestId
  | _                      => none

def recordAttempt (capture : CaptureRecord) (candidate : Option LiveCandidateId)
    (window : CaptureWindow) : Adapter W Unit := do
  let requestedAtMs := (capture.rawCoverage.map (·.endMs)).getD window.requestedAtMs
  let attempt ← ensureAttempt env capture requestedAtMs (recorderRequestId capture.status)
  if let some candidate := candidate then
    joinCandidateOnce env candidate attempt window
  if capture.kind = .manualFlag then
    joinFlag env capture attempt window
  if let some message := failure capture.status then
    failAttempt env capture.id attempt message

def persistCapturedCandidate (capture : CaptureRecord) : Adapter W (Option LiveCandidateId) := do
  match capture.candidate with
  | none           => return none
  | some candidate => return some (← persistCandidate env ⟨candidate, capture.finalLabels⟩)

-- A cancelled capture without an attempt leaves nothing behind.
def isUnattempted (capture : CaptureRecord) (s : StorageEvidenceStore) : Bool :=
  match capture.status with
  | .scheduled   => true
  | .cancelled _ => !s.saveAttempts.containsKey capture.id
  | _            => false

def upsertCapture (capture : CaptureRecord) : Adapter W Unit := do
  if capture.finalLabels ≠ [] then
    throw (.unsupported "final highlight labels have no live capture column")
  else
    let candidate ← persistCapturedCandidate env capture
    if !isUnattempted capture (← store) then
      let window ← checked (required "capture window" capture.window)
      if capture.kind = .manualFlag ∧ capture.status = .requesting then
        let _ ← ensureManualFlag env capture window
      else
        recordAttempt env capture candidate window

-- A name that starts with its only point has no extension.
def extension (path : Path) : Option String :=
  match path.getLast? with
  | some (.normal name) =>
    match rsplitOnce '.' name.toList with
    | some (_ :: _, after) => some (.ofList after)
    | _                    => none
  | _                   => none

def captureExtension (path : Path) : Option String :=
  ((extension path).map (·.toLower)).filter (["mkv", "mp4", "webm"].contains ·)

def mediaType (extension : String) : String :=
  match extension with
  | "mkv"  => "video/x-matroska"
  | "mp4"  => "video/mp4"
  | "webm" => "video/webm"
  | _      => "application/octet-stream"

-- The captures whose attempt is the given one.
def attempted (s : StorageEvidenceStore) (attempt : SaveAttemptId) (kind : CaptureKind) :
    HashMap SaveAttemptMetadata :=
  s.saveAttempts.filter fun (_, metadata) =>
    metadata.id = attempt && metadata.capture.kind = kind

def autoOrigin (s : StorageEvidenceStore) (attempt : SaveAttemptId) : DurableClipOriginInput :=
  let captures := (attempted s attempt .autoRoundEnd).values.map (·.capture)
  let evidenceReceipts := (captures.flatMap (·.sourceReceiptIds)).ascending
  let triggerReceipts :=
    (captures.flatMap fun capture => capture.candidate.toList.flatMap (·.receiptIds)).ascending
  .auto (if triggerReceipts.isEmpty then evidenceReceipts else triggerReceipts) evidenceReceipts

structure FlaggedCapture where
  flagTimeMs : Nat
  flag       : String
  capture    : CaptureRecord
  deriving DecidableEq, Repr

def flagOrder (left right : FlaggedCapture) : Ordering :=
  (compare left.flagTimeMs right.flagTimeMs).then (compare left.flag right.flag)

def flaggedCapture (s : StorageEvidenceStore) (entry : String × SaveAttemptMetadata) :
    Except LiveDiagnostic FlaggedCapture := do
  let window ← required "capture window" entry.2.capture.window
  let flag ← required "manual flag metadata" (s.manualFlags.get? entry.1)
  return { flagTimeMs := window.requestedAtMs, flag := idText flag, capture := entry.2.capture }

def manualCaptures (s : StorageEvidenceStore) (attempt : SaveAttemptId) :
    Except LiveDiagnostic (List FlaggedCapture) := do
  let captures ← (attempted s attempt .manualFlag).mapM (flaggedCapture s)
  return captures.mergeSort fun left right => (flagOrder left right).isLE

-- The receipts are those of the manual captures alone.
def manualOrigin (s : StorageEvidenceStore) (attempt : SaveAttemptId) :
    Except LiveDiagnostic DurableClipOriginInput := do
  let captures ← manualCaptures s attempt
  let first ← required "capture metadata" captures.head?
  return .manual first.flag first.flagTimeMs
    (captures.flatMap (·.capture.sourceReceiptIds)).ascending

def clipOrigin (s : StorageEvidenceStore) (attempt : SaveAttemptId)
    (acknowledgement : SaveAcknowledgement String) :
    Except LiveDiagnostic DurableClipOriginInput :=
  match acknowledgement.provenance with
  | .autoRoundEnd => .ok (autoOrigin s attempt)
  | .manualFlag   => manualOrigin s attempt

def completeClipMetadata (attempt : SaveAttemptId) (clip : Storage.ClipId)
    (acknowledgement : SaveAcknowledgement String) : Adapter W Unit := do
  let origin ← checked (clipOrigin (← store) attempt acknowledgement)
  execute env .completeClipModelMetadata
    (Storage.completeClipModelMetadata clip acknowledgement.media.durationMs origin)

def provenanceText : Capture.SaveProvenance → String
  | .autoRoundEnd => "raw_auto"
  | .manualFlag   => "raw_manual"

-- The file of an acknowledgement becomes an artifact.
def commitCapture (path : Path) : Adapter W Digest := do
  if !(← io "cannot inspect captured media" (env.isPlainFile path)) then
    throw (.unsupported "captured media must be a regular file")
  else
    let extension ← checked (required "captured media extension" (captureExtension path))
    let (sha256, byteLength) ← io "cannot open captured media" (env.stageFile path)
    let now ← reading env.wallMs
    execute env .commitArtifact
      (Storage.commitArtifact sha256 byteLength extension (some (mediaType extension)) now)

def finalizeCapture (acknowledgement : SaveAcknowledgement String) : Adapter W FinalizedClip := do
  let attempt ← execute env .saveAttemptForRequest
    (Storage.saveAttemptForRequest acknowledgement.recorderRequestId)
  let artifact ← commitCapture env acknowledgement.path
  let endNs ← checked (millisU64ToNanos acknowledgement.requestedAtMs)
  let startNs ← checked
    (millisU64ToNanos (acknowledgement.requestedAtMs - acknowledgement.media.durationMs))
  let now ← reading env.wallMs
  let clip ← execute env .finalizeCapturedClip (Storage.finalizeCapturedClip attempt artifact
    startNs endNs (provenanceText acknowledgement.provenance) now)
  completeClipMetadata env attempt clip acknowledgement
  io "cannot remove captured source" (env.removeFile acknowledgement.path)
  return { clipId := idText clip, recorderRequestId := acknowledgement.recorderRequestId }

end StorageAdapter

open StorageAdapter

def unavailable (_ : String) : LiveDiagnostic :=
  .scheduler "deadline driver is unavailable"

def command (env : Environment W) (operation : Operation) (command : DeadlineCommand) :
    Adapter W Unit := do
  guarded env operation unavailable
  modify fun b => { b with driver := b.driver.send command }

-- The ports of a coordinator over the adapter.
def Environment.ports (env : Environment W) : Ports (Backend W) where
  persistReceipt receipt          := Backend.calling (persistReceipt env receipt)
  upsertCandidate candidate       := Backend.calling (upsertCandidate env candidate)
  upsertCapture capture           := Backend.calling (upsertCapture env capture)
  finalizeCapture acknowledgement := Backend.calling (finalizeCapture env acknowledgement)
  schedule timer deadlineMs       :=
    Backend.calling (command env .schedule (.schedule timer deadlineMs))
  cancel timer                    := Backend.calling (command env .cancel (.cancel timer))
  nowMs                           := Backend.reading env.nowMs
  rank                            := Backend.reading env.rank
  capture                         := {
    spawn argv              := Backend.reading (env.capture.spawn argv)
    tryWait                 := Backend.reading env.capture.tryWait
    signal s                := Backend.reading (env.capture.signal s)
    drainStderr             := Backend.reading env.capture.drainStderr
    outputsSince path since := Backend.reading (env.capture.outputsSince path since)
    isSymlink path          := Backend.reading (env.capture.isSymlink path)
    isRegularFile path      := Backend.reading (env.capture.isRegularFile path)
    isContained dir path    := Backend.reading (env.capture.isContained dir path)
    nowMs                   := Backend.reading env.capture.nowMs
    wallMs                  := Backend.reading env.capture.wallMs
    verify path             := Backend.reading (env.capture.verify path) }

-- A store over a database, for a session that has just been created.
def StorageEvidenceStore.of (session : CaptureSessionId) (storage : Database) :
    StorageEvidenceStore where
  session        := session
  storage        := storage
  receipts       := []
  candidates     := []
  saveAttempts   := []
  manualFlags    := []
  candidateJoins := []

def StorageEvidenceStore.new (env : Environment W) (storage : Database) (localSteamId : Import.SteamId)
    (w : W) : Except LiveDiagnostic StorageEvidenceStore :=
  match Storage.createCaptureSession localSteamId (env.wallMs w).1 storage with
  | .error e            => .error (.persistence e.debug)
  | .ok (session, storage) => .ok (.of session storage)

-- The runtime, the store and the scheduler between two calls.
structure Assembly where
  runtime : LiveRuntime
  store   : StorageEvidenceStore
  driver  : DeadlineDriver
  deriving DecidableEq

namespace Assembly

def host (a : Assembly) (w : W) : Host (Backend W) where
  runtime := a.runtime
  world   := { store := a.store, driver := a.driver, world := w }

def of (host : Host (Backend W)) : Assembly where
  runtime := host.runtime
  store   := host.world.store
  driver  := host.world.driver

-- A coordinator is made for the session of its store.
def start (store : StorageEvidenceStore) (recorder : RecorderFacade) : Assembly where
  runtime := { coordinator := .new (idText store.session), recorder }
  store   := store
  driver  := .new

end Assembly

end Live
