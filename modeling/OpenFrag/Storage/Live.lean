import OpenFrag.Library.Trim
import OpenFrag.Storage.Import

open Import Table MachineInt

-- The statements of live capture.
namespace Storage

def hasSession (db : Database) (session : CaptureSessionId) : Bool :=
  db.captureSessions.any (·.id = session)

def hasSnapshot (db : Database) (sha256 : Digest) : Bool :=
  db.gsiSnapshots.any (·.sha256 = sha256)

def hasCandidate (db : Database) (candidate : LiveCandidateId) : Bool :=
  db.liveCandidates.any (·.id = candidate)

def hasAttempt (db : Database) (attempt : SaveAttemptId) : Bool :=
  db.recorderSaveAttempts.any (·.id = attempt)

def isPresent (db : Database) (sha256 : Digest) : Bool :=
  db.artifacts.any fun row => row.sha256 = sha256 && row.availability = .present

def createCaptureSession (localSteamId : SteamId) (now : Int) :
    Statement CaptureSessionId := fun db =>
  let id := fresh (db.captureSessions.map (·.id))
  return (id, { db with
    captureSessions := { id, localSteamId, startedAtMs := now, status := "active" } ::
      db.captureSessions })

def recordGsiSnapshot (session : CaptureSessionId) (artifactSha256 : Digest)
    (ordinal receivedAtMs : Int) (fields listenerVersion : String) : Statement Unit := fun db => do
  match db.artifacts.find? fun row => row.sha256 = artifactSha256 && row.availability = .present with
  | none          => throw (.conflict "snapshot hash, ordinal, or artifact")
  | some artifact =>
    ensure (¬hasSnapshot db artifactSha256) (.conflict "snapshot hash, ordinal, or artifact")
    ensure (¬db.gsiSnapshots.any fun row =>
        row.captureSessionId = session && row.arrivalOrdinal = ordinal)
      (.conflict "snapshot hash, ordinal, or artifact")
    ensure (hasSession db session) (.database (.foreignKey "gsi_snapshots.capture_session_id"))
    return ((), { db with
      gsiSnapshots := {
        sha256           := artifactSha256
        captureSessionId := session
        arrivalOrdinal   := ordinal
        receivedAtMs
        fieldPresence    := fields
        byteLength       := artifact.byteLength
        listenerVersion } :: db.gsiSnapshots })

def createCandidate (session : CaptureSessionId) (ruleVersion kind : String) (map : Option String)
    (round : Option Int) (firstNs lastNs startNs endNs : Int) :
    Statement LiveCandidateId := fun db => do
  ensure (firstNs ≤ lastNs ∧ startNs ≤ endNs) (.invalid "candidate range")
  let id := fresh (db.liveCandidates.map (·.id))
  ensure (∀ r ∈ round, 0 ≤ r) (.conflict "candidate dedupe")
  ensure (¬db.liveCandidates.any fun row => row.captureSessionId = session &&
      row.ruleVersion = ruleVersion && row.observedKind = kind &&
      row.firstTransitionMonotonicNs = firstNs && row.lastTransitionMonotonicNs = lastNs)
    (.conflict "candidate dedupe")
  ensure (hasSession db session) (.database (.foreignKey "live_candidates.capture_session_id"))
  return (id, { db with
    liveCandidates := {
      id, ruleVersion
      captureSessionId           := session
      observedKind               := kind
      observedMap                := map
      observedRound              := round
      firstTransitionMonotonicNs := firstNs
      lastTransitionMonotonicNs  := lastNs
      candidateStartMonotonicNs  := startNs
      candidateEndMonotonicNs    := endNs
      status                     := "provisional" } :: db.liveCandidates })

def addCandidateTrigger (candidate : LiveCandidateId) (snapshotSha256 : Digest) (ordinal : Int)
    (kind : String) (monotonicNs : Int) : Statement Unit := fun db => do
  ensure (¬db.candidateTriggers.any fun row => row.candidateId = candidate &&
      row.snapshotSha256 = snapshotSha256 && row.transitionOrdinal = ordinal)
    (.conflict "candidate trigger")
  ensure (hasCandidate db candidate)
    (.database (.foreignKey "candidate_trigger_receipts.candidate_id"))
  ensure (hasSnapshot db snapshotSha256)
    (.database (.foreignKey "candidate_trigger_receipts.snapshot_sha256"))
  return ((), { db with
    candidateTriggers := ⟨candidate, snapshotSha256, ordinal, kind, monotonicNs⟩ ::
      db.candidateTriggers })

def joinCandidateSave (candidate : LiveCandidateId) (attempt : SaveAttemptId)
    (desiredStartNs desiredEndNs : Int) : Statement Unit := fun db => do
  ensure (desiredStartNs ≤ desiredEndNs) (.conflict "candidate save join")
  ensure (¬db.candidateSaves.any fun row =>
      row.candidateId = candidate && row.saveAttemptId = attempt)
    (.conflict "candidate save join")
  ensure (hasCandidate db candidate)
    (.database (.foreignKey "candidate_save_attempts.candidate_id"))
  ensure (hasAttempt db attempt) (.database (.foreignKey "candidate_save_attempts.save_attempt_id"))
  return ((), { db with
    candidateSaves := ⟨candidate, attempt, desiredStartNs, desiredEndNs⟩ :: db.candidateSaves })

def createManualFlag (session : CaptureSessionId) (monotonicNs now : Int) :
    Statement ManualFlagId := fun db => do
  let id := fresh (db.manualFlags.map (·.id))
  ensure (hasSession db session) (.database (.foreignKey "manual_flags.capture_session_id"))
  return (id, { db with manualFlags := ⟨id, session, monotonicNs, now⟩ :: db.manualFlags })

def joinManualFlagSave (manualFlag : ManualFlagId) (attempt : SaveAttemptId)
    (desiredStartNs desiredEndNs : Int) : Statement Unit := fun db => do
  ensure (0 ≤ desiredStartNs ∧ desiredStartNs ≤ desiredEndNs) (.invalid "manual flag save range")
  match db.manualFlags.find? (·.id = manualFlag) with
  | none      => throw (.notFound "manual flag")
  | some flag =>
    match db.recorderSaveAttempts.find? (·.id = attempt) with
    | none     => throw (.notFound "save attempt")
    | some row =>
      ensure (flag.captureSessionId = row.captureSessionId)
        (.invalid "manual flag save session mismatch")
      match db.manualFlagSaves.find? fun row =>
          row.manualFlagId = manualFlag && row.saveAttemptId = attempt with
      | none          => return ((), { db with
          manualFlagSaves := ⟨manualFlag, attempt, desiredStartNs, desiredEndNs⟩ ::
            db.manualFlagSaves })
      | some existing =>
        ensure (existing.desiredStartMonotonicNs = desiredStartNs ∧
          existing.desiredEndMonotonicNs = desiredEndNs) (.conflict "manual flag save join")
        return ((), db)

def requestSave (session : CaptureSessionId) (recorderRequestId : String) (monotonicNs : Int) :
    Statement SaveAttemptId := fun db => do
  match db.recorderSaveAttempts.find? (·.recorderRequestId = recorderRequestId) with
  | some row => return (row.id, db)
  | none     =>
    let id := fresh (db.recorderSaveAttempts.map (·.id))
    ensure (hasSession db session)
      (.database (.foreignKey "recorder_save_attempts.capture_session_id"))
    return (id, { db with
      recorderSaveAttempts := {
        id, recorderRequestId
        captureSessionId       := session
        requestedMonotonicNs   := monotonicNs
        status                 := .requested
        acknowledgementCount   := 0
        verifiedArtifactSha256 := none
        actualStartMonotonicNs := none
        actualEndMonotonicNs   := none
        errorCode              := none } :: db.recorderSaveAttempts })

def saveAttemptForRequest (recorderRequestId : String) : Statement SaveAttemptId := fun db =>
  match db.recorderSaveAttempts.find? (·.recorderRequestId = recorderRequestId) with
  | some row => return (row.id, db)
  | none     => throw (.notFound "recorder save request")

def failSave (attempt : SaveAttemptId) (errorCode : String) : Statement Unit := fun db =>
  return ((), { db with
    recorderSaveAttempts := update (fun row => row.id = attempt && row.status ≠ .saved)
      (fun row => { row with status := .failed, errorCode := some errorCode })
      db.recorderSaveAttempts })

def acknowledgeSave (attempt : SaveAttemptId) : Statement Unit := fun db =>
  return ((), { db with
    recorderSaveAttempts := update (·.id = attempt)
      (fun row => { row with
        acknowledgementCount := row.acknowledgementCount + 1
        status := if row.status = .requested then .acknowledged else row.status })
      db.recorderSaveAttempts })

def isOpenAttempt (attempt : SaveAttemptId) (row : SaveAttemptRow) : Bool :=
  row.id = attempt && (row.status = .requested || row.status = .acknowledged)

def completeSave (attempt : SaveAttemptId) (artifactSha256 : Digest) (startNs endNs : Int) :
    Statement Unit := fun db => do
  ensure (startNs ≤ endNs) (.invalid "negative media range")
  ensure (isPresent db artifactSha256) (.notFound "verified artifact")
  return ((), { db with
    recorderSaveAttempts := update (isOpenAttempt attempt)
      (fun row => { row with
        status                 := .saved
        verifiedArtifactSha256 := some artifactSha256
        actualStartMonotonicNs := some startNs
        actualEndMonotonicNs   := some endNs })
      db.recorderSaveAttempts })

def existingClip (db : Database) (attempt : SaveAttemptId) : Option ClipRow := do
  let link ← db.saveAttemptClips.find? (·.saveAttemptId = attempt)
  db.clips.find? (·.id = link.clipId)

def capturedClip (id : ClipId) (artifactSha256 : Digest) (session : CaptureSessionId)
    (provenance : String) (now : Int) : ClipRow where
  id
  artifactSha256
  provenance
  captureSessionId := session
  disposition      := "saved"
  createdAtMs      := now

def createClip (attempt : SaveAttemptId) (provenance : String) (now : Int) :
    Statement ClipId := fun db => do
  ensure (provenance ∈ ["raw_auto", "raw_manual"]) (.invalid "captured clip provenance")
  match existingClip db attempt with
  | some clip =>
    ensure (clip.provenance = provenance) (.conflict "save attempt clip")
    return (clip.id, db)
  | none      =>
    match db.recorderSaveAttempts.find? fun row => row.id = attempt && row.status = .saved with
    | none     => throw (.invalid "save attempt is not verified")
    | some row =>
      match row.verifiedArtifactSha256 with
      | none                => throw (.database (.check "verified_artifact_sha256 IS NOT NULL"))
      | some artifactSha256 =>
        let id := fresh (db.clips.map (·.id))
        ensure (¬db.saveAttemptClips.any (·.saveAttemptId = attempt))
          (.database (.unique "save_attempt_clips.save_attempt_id"))
        return (id, { db with
          clips            := capturedClip id artifactSha256 row.captureSessionId provenance now ::
            db.clips
          saveAttemptClips := ⟨attempt, id⟩ :: db.saveAttemptClips })

-- The clip that has been made of an attempt, with the attempt.
def linkedClip (db : Database) (attempt : SaveAttemptId) : Option (ClipRow × SaveAttemptRow) := do
  let link ← db.saveAttemptClips.find? (·.saveAttemptId = attempt)
  let clip ← db.clips.find? (·.id = link.clipId)
  let row ← db.recorderSaveAttempts.find? (·.id = attempt)
  return (clip, row)

def finalizeCapturedClip (attempt : SaveAttemptId) (artifactSha256 : Digest)
    (actualStartNs actualEndNs : Int) (provenance : String) (now : Int) :
    Statement ClipId := fun db => do
  ensure (provenance ∈ ["raw_auto", "raw_manual"]) (.invalid "captured clip provenance")
  ensure (0 ≤ actualStartNs ∧ actualStartNs ≤ actualEndNs) (.invalid "captured clip range")
  match linkedClip db attempt with
  | some (clip, row) =>
    ensure (row.status = .saved ∧ clip.artifactSha256 = artifactSha256 ∧
        clip.provenance = provenance ∧ row.verifiedArtifactSha256 = some artifactSha256 ∧
        row.actualStartMonotonicNs = some actualStartNs ∧
        row.actualEndMonotonicNs = some actualEndNs)
      (.conflict "captured clip retry")
    return (clip.id, db)
  | none             =>
    ensure (isPresent db artifactSha256) (.notFound "verified artifact")
    match db.recorderSaveAttempts.find? (isOpenAttempt attempt) with
    | none     => throw (.illegalTransition "captured clip finalization")
    | some row =>
      let id := fresh (db.clips.map (·.id))
      ensure (¬db.saveAttemptClips.any (·.saveAttemptId = attempt))
        (.database (.unique "save_attempt_clips.save_attempt_id"))
      return (id, { db with
        recorderSaveAttempts := update (isOpenAttempt attempt)
          (fun row => { row with
            status                 := .saved
            acknowledgementCount   := row.acknowledgementCount + 1
            verifiedArtifactSha256 := some artifactSha256
            actualStartMonotonicNs := some actualStartNs
            actualEndMonotonicNs   := some actualEndNs
            errorCode              := none })
          db.recorderSaveAttempts
        clips                := {
          id, artifactSha256, provenance
          captureSessionId := row.captureSessionId
          disposition      := "saved"
          createdAtMs      := now } :: db.clips
        saveAttemptClips     := ⟨attempt, id⟩ :: db.saveAttemptClips })

inductive DurableClipOriginInput
  | auto (triggerReceipts evidenceReceipts : List String)
  | manual (flagReceiptId : String) (flagTimeMs : Nat) (overlappingAutoReceipts : List String)
  deriving DecidableEq, Repr

-- A text of white space only is empty when it is trimmed.
def isBlank (receipt : String) : Bool :=
  receipt.toList.all Trim.isWhiteSpace

-- The `trim` of the database takes spaces away and no other characters.
def sqlTrim (text : String) : List Char :=
  Trim.trimMatches (· = ' ') text.toList

-- The `length` of the database counts the characters before the first NUL.
def sqlLength (text : List Char) : Nat :=
  (text.takeWhile (· ≠ '\x00')).length

-- What the schema asks of a tag and of a receipt.
def hasText (text : String) : Bool :=
  0 < sqlLength (sqlTrim text)

def validateGroup (receipts : List String) (required : Bool) : Except Error Unit := do
  ensure (required → receipts ≠ []) (.invalid "clip origin evidence")
  ensure (¬receipts.any isBlank ∧ receipts.Nodup) (.invalid "clip origin evidence")

def validateOrigin : DurableClipOriginInput → Except Error Unit
  | .auto triggerReceipts evidenceReceipts => do
    validateGroup triggerReceipts true
    validateGroup evidenceReceipts true
  | .manual flagReceiptId _ overlappingAutoReceipts => do
    ensure (¬isBlank flagReceiptId) (.invalid "clip origin evidence")
    validateGroup overlappingAutoReceipts false

def originGroup (clip : ClipId) (kind : OriginReceiptKind) (receipts : List String) :
    List ClipOriginRow :=
  receipts.zipIdx.map fun (receipt, position) => ⟨clip, kind, position, receipt⟩

def originRows (clip : ClipId) : DurableClipOriginInput → List ClipOriginRow
  | .auto triggerReceipts evidenceReceipts           =>
    originGroup clip .trigger triggerReceipts ++ originGroup clip .evidence evidenceReceipts
  | .manual flagReceiptId _ overlappingAutoReceipts =>
    ⟨clip, .manualFlag, 0, flagReceiptId⟩ ::
      originGroup clip .overlappingAuto overlappingAutoReceipts

def DurableClipOriginInput.kind : DurableClipOriginInput → OriginKind
  | .auto ..   => .auto
  | .manual .. => .manual

def DurableClipOriginInput.flagTimeMs : DurableClipOriginInput → Option Nat
  | .auto ..                => none
  | .manual _ flagTimeMs _ => some flagTimeMs

def DurableClipOriginInput.receipts : DurableClipOriginInput → List String
  | .auto triggerReceipts evidenceReceipts           => triggerReceipts ++ evidenceReceipts
  | .manual flagReceiptId _ overlappingAutoReceipts => flagReceiptId :: overlappingAutoReceipts

def isLive (clip : ClipId) (row : ClipRow) : Bool :=
  row.id = clip && row.disposition ≠ "deleted"

def completeClipModelMetadata (clip : ClipId) (durationMs : Nat) (origin : DurableClipOriginInput) :
    Statement Unit := fun db => do
  ensure (durationMs ≠ 0 ∧ Signed 64 durationMs) (.invalid "clip duration")
  validateOrigin origin
  match db.clips.find? (isLive clip) with
  | none     => throw (.notFound "live clip")
  | some row =>
    ensure (db.artifacts.any fun artifact => artifact.sha256 = row.artifactSha256 &&
        (artifact.mediaDurationMs = none || artifact.mediaDurationMs = some durationMs))
      (.conflict "verified media duration")
    ensure (∀ flagTimeMs ∈ origin.flagTimeMs, Signed 64 flagTimeMs) (.invalid "flag time")
    ensure (∀ receipt ∈ origin.receipts, hasText receipt)
      (.database (.check "length(trim(receipt_id)) > 0"))
    return ((), { db with
      artifacts          := update
        (fun artifact => artifact.sha256 = row.artifactSha256 &&
          (artifact.mediaDurationMs = none || artifact.mediaDurationMs = some durationMs))
        (fun artifact => { artifact with mediaDurationMs := some durationMs }) db.artifacts
      clips              := update (isLive clip)
        (fun row => { row with
          originKind       := some origin.kind
          manualFlagTimeMs := origin.flagTimeMs.map Int.ofNat
          reviewRevision   := some (row.reviewRevision.getD 0) }) db.clips
      clipOriginReceipts := originRows clip origin ++
        db.clipOriginReceipts.filter (·.clipId ≠ clip) })

end Storage
