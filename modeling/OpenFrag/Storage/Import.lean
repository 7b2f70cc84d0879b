import OpenFrag.Storage.Schema
import OpenFrag.Library.MachineInt

open Import Table MachineInt

-- The statements that an import makes. Each is atomic: it fails and leaves the database as it is,
-- or returns the new one. A statement takes the readings of the wall clock that it makes.
namespace Storage

abbrev Statement (α : Type) := Database → Except Error (α × Database)

-- The answer to a statement, and the database after it.
def Statement.perform {α : Type} (op : Statement α) (db : Database) : Except Error α × Database :=
  match op db with
  | .ok (a, db') => (.ok a, db')
  | .error e     => (.error e, db)

def hasArtifact (db : Database) (sha256 : Digest) : Bool :=
  db.artifacts.any (·.sha256 = sha256)

def hasMatch (db : Database) (matchId : MatchId) : Bool :=
  db.matchTable.any (·.id = matchId)

def hasRun (db : Database) (run : AnalysisRunId) : Bool :=
  db.analysisRuns.any (·.id = run)

def hasPlayer (db : Database) (steamId : SteamId) : Bool :=
  db.players.any (·.steamId = steamId)

def hasReceipt (db : Database) (receipt : ReceiptId) : Bool :=
  db.receipts.any (·.id = receipt)

-- The run of a row that a trigger looks up by its key; no row gives no run.
def roundRun (db : Database) (round : RoundId) : Option AnalysisRunId :=
  (db.rounds.find? (·.id = round)).map (·.analysisRunId)

def receiptRun (db : Database) (receipt : ReceiptId) : Option AnalysisRunId :=
  (db.receipts.find? (·.id = receipt)).map (·.analysisRunId)

def vectorRun (db : Database) (vector : RatingVectorId) : Option AnalysisRunId :=
  (db.ratingVectors.find? (·.id = vector)).map (·.analysisRunId)

-- The condition `run <> expected` of a trigger is not true of `NULL`.
def sameRun (run : Option AnalysisRunId) (expected : Option AnalysisRunId) : Bool :=
  run.isNone || expected.isNone || run = expected

def commitArtifact (sha256 : Digest) (byteLength : Nat) (extension : String)
    (mediaType : Option String) (now : Int) : Statement Digest := fun db => do
  ensure ('/' ∉ extension.toList ∧ '\\' ∉ extension.toList) (.invalid "unsafe extension")
  let path := ArtifactPath.committed sha256 (extension.toList.dropWhile (· = '.'))
  ensure (Signed 64 byteLength) (.invalid "artifact too large")
  ensure (¬db.artifacts.any fun row => row.sha256 ≠ sha256 && row.relativePath = some path)
    (.database (.unique "artifacts.relative_path"))
  if hasArtifact db sha256 then
    return (sha256, { db with
      artifacts := update (·.sha256 = sha256)
        (fun row => { row with relativePath := some path, availability := .present })
        db.artifacts })
  else
    return (sha256, { db with
      artifacts := {
        sha256
        relativePath  := some path
        byteLength
        mediaType
        availability  := .present
        createdAtMs   := now
        missingReason := none
      } :: db.artifacts })

inductive ArtifactAvailability
  | expected
  | present
  | missing
  | deleted
  | quarantined
  deriving DecidableEq, Repr

structure ArtifactInfo where
  sha256       : Digest
  availability : ArtifactAvailability
  relativePath : Option ArtifactPath
  byteLength   : Int
  deriving DecidableEq, Repr

def ArtifactRow.info (row : ArtifactRow) : ArtifactInfo where
  sha256 := row.sha256
  availability :=
    match row.availability with
    | .expected => .expected
    | .present  => .present
    | .missing  =>
      if row.missingReason.any ("quarantined:".toList <+: ·.toList) then .quarantined else .missing
    | .deleted  => .deleted
  relativePath := row.relativePath
  byteLength := row.byteLength

def artifact (sha256 : Digest) : Statement ArtifactInfo := fun db =>
  match db.artifacts.find? (·.sha256 = sha256) with
  | some row => return (row.info, db)
  | none => throw (.notFound "artifact")

-- The source of the artifact is taken to be a regular file.
def quarantineArtifact (sha256 : Digest) (reason : String) (file : Nat) :
    Statement ArtifactPath := fun db => do
  ensure (reason ≠ "") (.invalid "quarantine reason")
  let (row, db) ← artifact sha256 db
  ensure (row.availability = .present) (.invalid "artifact is not present")
  let referenced :=
    db.clips.any (·.artifactSha256 = sha256) || db.matchTable.any (·.demoSha256 = sha256) ||
    db.recorderSaveAttempts.any (·.verifiedArtifactSha256 = some sha256) ||
    db.gsiSnapshots.any (·.sha256 = sha256)
  ensure (¬referenced) (.conflict "referenced artifact quarantine")
  ensure row.relativePath.isSome (.invalid "artifact path")
  let destination := ArtifactPath.quarantined sha256 file
  return (destination, { db with
    artifacts := update (fun row => row.sha256 = sha256 && row.availability = .present)
      (fun row => { row with
        availability := .missing, relativePath := some destination
        missingReason := some ("quarantined:" ++ reason) })
      db.artifacts })

def queuedJob (id : ImportJobId) (demoSha256 : Digest) (now now' : Int) : ImportJobRow where
  id
  demoSha256
  status           := .queued
  progressBp       := 0
  bytesDone        := none
  bytesTotal       := none
  workPhase        := none
  framesDone       := none
  eventsEmitted    := none
  heartbeatAtMs    := none
  leaseOwner       := none
  leaseExpiresAtMs := none
  errorCode        := none
  remediationCode  := none
  diagnosticJson   := none
  nextRetryAtMs    := none
  retryBudget      := 3
  createdAtMs      := now
  updatedAtMs      := now'

def enqueueImport (demoSha256 : Digest) (now now' : Int) : Statement ImportJobId := fun db => do
  let id := fresh (db.importJobs.map (·.id))
  ensure (hasArtifact db demoSha256) (.database (.foreignKey "import_jobs.demo_sha256"))
  return (id, { db with importJobs := queuedJob id demoSha256 now now' :: db.importJobs })

-- The trigger `import_attempt_started`.
def startAttempt (job : ImportJobId) (updatedAtMs : Int) (attempts : List ImportAttemptRow) :
    List ImportAttemptRow :=
  let attempts := update (fun row => row.importJobId = job && row.status = .running)
    (fun row => { row with
      finishedAtMs := some updatedAtMs, status := .failed
      errorCode := some "lease_expired", remediationCode := some "automatic_retry" })
    attempts
  let last := ((attempts.filter (·.importJobId = job)).map (·.attemptNumber)).max?.getD 0
  { importJobId     := job
    attemptNumber   := last + 1
    startedAtMs     := updatedAtMs
    finishedAtMs    := none
    status          := .running
    errorCode       := none
    remediationCode := none
    diagnosticJson  := none } :: attempts

def isLeasable (job : ImportJobId) (now : Int) (row : ImportJobRow) : Bool :=
  row.id = job && (row.status = .queued ||
    row.status = .leased && row.leaseExpiresAtMs.any (· < now))

def leased (owner : String) (expiresAtMs now : Int) (row : ImportJobRow) : ImportJobRow :=
  { row with
    status := .leased, leaseOwner := some owner, leaseExpiresAtMs := some expiresAtMs
    updatedAtMs := now }

def leaseImport (job : ImportJobId) (owner : String) (expiresAtMs now now' : Int) :
    Statement Unit := fun db => do
  ensure (db.importJobs.any (isLeasable job now')) (.illegalTransition "import lease")
  return ((), { db with
    importJobs := update (isLeasable job now') (leased owner expiresAtMs now) db.importJobs
    importAttempts := startAttempt job now db.importAttempts })

-- A job that its worker holds.
def isLeasedBy (job : ImportJobId) (owner : String) (row : ImportJobRow) : Bool :=
  row.id = job && row.status = .leased && row.leaseOwner = some owner

def progressed (done total : Option Int) (progress heartbeat now : Int) (row : ImportJobRow) :
    ImportJobRow :=
  { row with
    bytesDone := done.or row.bytesDone, bytesTotal := total.or row.bytesTotal
    progressBp := progress, heartbeatAtMs := some heartbeat, updatedAtMs := now }

def updateImportProgress (job : ImportJobId) (owner : String) (done total : Option Int)
    (progress heartbeat now : Int) : Statement Unit := fun db => do
  ensure (0 ≤ progress ∧ progress ≤ 10000) (.invalid "progress")
  ensure (db.importJobs.any (isLeasedBy job owner)) (.illegalTransition "import progress lease")
  return ((), { db with
    importJobs := update (isLeasedBy job owner)
      (progressed done total progress heartbeat now) db.importJobs })

structure ParserProgressUpdate where
  phase         : String
  bytesDone     : Int
  bytesTotal    : Int
  framesDone    : Int
  eventsEmitted : Int
  progressBp    : Int
  heartbeatAtMs : Int
  deriving DecidableEq, Repr

def ParserProgressUpdate.InRange (progress : ParserProgressUpdate) : Prop :=
  0 ≤ progress.bytesDone ∧ 0 ≤ progress.bytesTotal ∧ 0 ≤ progress.framesDone ∧
  0 ≤ progress.eventsEmitted ∧ 0 ≤ progress.progressBp ∧ progress.progressBp ≤ 10000

instance (progress : ParserProgressUpdate) : Decidable progress.InRange :=
  inferInstanceAs (Decidable (_ ∧ _))

def parsing (progress : ParserProgressUpdate) (now : Int) (row : ImportJobRow) : ImportJobRow :=
  { row with
    workPhase := some progress.phase
    bytesDone := some progress.bytesDone, bytesTotal := some progress.bytesTotal
    framesDone := some progress.framesDone, eventsEmitted := some progress.eventsEmitted
    progressBp := progress.progressBp, heartbeatAtMs := some progress.heartbeatAtMs
    updatedAtMs := now }

def updateParserProgress (job : ImportJobId) (owner : String) (progress : ParserProgressUpdate)
    (now : Int) : Statement Unit := fun db => do
  ensure (progress.phase ∈ ["first_pass", "second_pass", "finalize"])
    (.invalid "parser progress phase")
  ensure progress.InRange (.invalid "parser progress")
  ensure (db.importJobs.any (isLeasedBy job owner)) (.illegalTransition "parser progress lease")
  return ((), { db with
    importJobs := update (isLeasedBy job owner) (parsing progress now) db.importJobs })

-- The trigger `import_attempt_finished`.
def finishAttempts (job : ImportJobId) (phase : ImportPhase) (errorCode remediation : Option String)
    (diagnostic : Option ParseDiagnostic) (updatedAtMs : Int) (attempts : List ImportAttemptRow) :
    List ImportAttemptRow :=
  update (fun row => row.importJobId = job && row.status = .running)
    (fun row => { row with
      finishedAtMs := some updatedAtMs
      status := if phase = .succeeded then .succeeded else .failed
      errorCode := errorCode, remediationCode := remediation, diagnosticJson := diagnostic })
    attempts

def finished (phase : ImportPhase) (errorCode remediation : Option String) (retryAt : Option Int)
    (diagnostic : Option ParseDiagnostic) (now : Int) (row : ImportJobRow) : ImportJobRow :=
  { row with
    status := phase, errorCode := errorCode, remediationCode := remediation
    nextRetryAtMs := retryAt, diagnosticJson := diagnostic
    leaseOwner := none, leaseExpiresAtMs := none, updatedAtMs := now }

def finishImportWithDiagnostic (job : ImportJobId) (owner : String) (phase : ImportPhase)
    (errorCode remediation : Option String) (retryAt : Option Int)
    (diagnostic : Option ParseDiagnostic) (now : Int) : Statement Unit := fun db => do
  ensure (phase ∈ [.succeeded, .failed, .cancelled]) (.invalid "terminal phase")
  ensure (db.importJobs.any (isLeasedBy job owner)) (.illegalTransition "finish import")
  return ((), { db with
    importJobs := update (isLeasedBy job owner)
      (finished phase errorCode remediation retryAt diagnostic now) db.importJobs
    importAttempts :=
      finishAttempts job phase errorCode remediation diagnostic now db.importAttempts })

def finishImport (job : ImportJobId) (owner : String) (phase : ImportPhase)
    (errorCode remediation : Option String) (retryAt : Option Int) (now : Int) : Statement Unit :=
  finishImportWithDiagnostic job owner phase errorCode remediation retryAt none now

def isRetryable (job : ImportJobId) (row : ImportJobRow) : Bool :=
  row.id = job && (row.status = .failed || row.status = .cancelled)

def retried (now : Int) (row : ImportJobRow) : ImportJobRow :=
  { row with
    status := .queued, retryBudget := 3, errorCode := none, remediationCode := none
    nextRetryAtMs := none, diagnosticJson := none
    leaseOwner := none, leaseExpiresAtMs := none, updatedAtMs := now }

def resetImportRetry (job : ImportJobId) (now : Int) : Statement Unit := fun db => do
  ensure (db.importJobs.any (isRetryable job)) (.illegalTransition "manual retry")
  return ((), { db with importJobs := update (isRetryable job) (retried now) db.importJobs })

def isExpired (now : Int) (row : ImportJobRow) : Bool :=
  row.status = .leased && row.leaseExpiresAtMs.any (· < now)

def requeued (now : Int) (row : ImportJobRow) : ImportJobRow :=
  { row with status := .queued, leaseOwner := none, leaseExpiresAtMs := none, updatedAtMs := now }

-- The trigger `import_attempt_interrupted`, for each job that is put back.
def interruptAttempts (jobs : List ImportJobId) (updatedAtMs : Int)
    (attempts : List ImportAttemptRow) : List ImportAttemptRow :=
  update (fun row => jobs.contains row.importJobId && row.status = .running)
    (fun row => { row with
      finishedAtMs := some updatedAtMs, status := .failed
      errorCode := some "lease_expired", remediationCode := some "automatic_retry" })
    attempts

def recoverExpiredImports (now : Int) : Statement Nat := fun db =>
  let expired := db.importJobs.filter (isExpired now)
  return (expired.length, { db with
    importJobs     := update (isExpired now) (requeued now) db.importJobs
    importAttempts := interruptAttempts (expired.map (·.id)) now db.importAttempts })

def importMatch (demoSha256 : Digest) (localSteamId : SteamId) (map : Option String) (now : Int) :
    Statement MatchId := fun db => do
  let id := fresh (db.matchTable.map (·.id))
  ensure (¬db.matchTable.any (·.demoSha256 = demoSha256))
    (.database (.unique "matches.demo_sha256"))
  ensure (hasArtifact db demoSha256) (.database (.foreignKey "matches.demo_sha256"))
  return (id, { db with
    matchTable := {
      id, demoSha256, localSteamId
      mapName        := map
      importedAtMs   := now
      canonicalRunId := none
      status         := .imported
    } :: db.matchTable })

def matchForDemo (demoSha256 : Digest) : Statement (Option MatchId) := fun db =>
  return ((db.matchTable.find? (·.demoSha256 = demoSha256)).map (·.id), db)

def completedAnalysisForIdentity (matchId : MatchId) (identity : AnalysisIdentity) :
    Statement Bool := fun db =>
  return (db.analysisRuns.any fun row =>
    row.matchId = matchId && row.identity = identity && row.status = .succeeded, db)

def beginAnalysis (matchId : MatchId) (identity : AnalysisIdentity) (now : Int) :
    Statement AnalysisRunId := fun db => do
  let id := fresh (db.analysisRuns.map (·.id))
  ensure (¬db.analysisRuns.any fun row => row.matchId = matchId && row.identity = identity)
    (.database (.unique "analysis_runs.match_id, identity"))
  ensure (hasMatch db matchId) (.database (.foreignKey "analysis_runs.match_id"))
  return (id, { db with
    analysisRuns := ⟨id, matchId, identity, .running, now⟩ :: db.analysisRuns })

-- The two conditions of the trigger `canonical_run_valid`, for the match that is updated.
def isSucceededRunOf (db : Database) (run : AnalysisRunId) (row : MatchRow) : Bool :=
  db.analysisRuns.any fun r => r.id = run && r.matchId = row.id && r.status = .succeeded

def hasLocalRating (db : Database) (run : AnalysisRunId) (row : MatchRow) : Bool :=
  (db.ratingVectors.any fun v => v.analysisRunId = run && v.steamId = row.localSteamId &&
    receiptRun db v.receiptId = some run) ||
  (db.unavailableRatings.any fun u => u.analysisRunId = run && u.steamId = row.localSteamId &&
    receiptRun db u.receiptId = some run)

def AnalysisRunRow.succeed (row : AnalysisRunRow) : AnalysisRunRow :=
  { row with status := .succeeded }

def MatchRow.parse (run : AnalysisRunId) (row : MatchRow) : MatchRow :=
  { row with canonicalRunId := some run, status := .parsed }

-- One transaction.
def completeAnalysis (run : AnalysisRunId) : Statement Unit := fun db => do
  match db.analysisRuns.find? (·.id = run) with
  | none => throw (.database .noRows)
  | some found =>
    let db := { db with
      analysisRuns := update (·.id = run) AnalysisRunRow.succeed db.analysisRuns }
    let updated : List MatchRow := db.matchTable.filter (·.id = found.matchId)
    ensure (updated.all (isSucceededRunOf db run))
      (.database (.raise "canonical run is not a succeeded match run"))
    ensure (updated.all (hasLocalRating db run))
      (.database (.raise "canonical run lacks local rating receipt"))
    return ((), { db with
      matchTable := update (·.id = found.matchId) (MatchRow.parse run) db.matchTable })

def addRound (run : AnalysisRunId) (number endTick : Int) (winner : Option Winner) :
    Statement RoundId := fun db => do
  let id := fresh (db.rounds.map (·.id))
  ensure (¬db.rounds.any fun row => row.analysisRunId = run && row.roundNumber = number)
    (.database (.unique "rounds.analysis_run_id, rounds.round_number"))
  ensure (hasRun db run) (.database (.foreignKey "rounds.analysis_run_id"))
  return (id, { db with rounds := ⟨id, run, number, endTick, winner⟩ :: db.rounds })

-- The row that is proposed is checked before the conflict is looked for, and the row that a conflict
-- updates is checked again.
def upsertPlayer (steamId : SteamId) (displayName : Option String) (now now' : Int) :
    Statement Unit := fun db => do
  ensure (now ≤ now') (.database (.check "last_seen_at_ms >= first_seen_at_ms"))
  if hasPlayer db steamId then
    ensure ((db.players.filter (·.steamId = steamId)).all (·.firstSeenAtMs ≤ now'))
      (.database (.check "last_seen_at_ms >= first_seen_at_ms"))
    return ((), { db with
      players := update (·.steamId = steamId)
        (fun row => { row with displayName := displayName, lastSeenAtMs := now' }) db.players })
  else
    return ((), { db with players := ⟨steamId, displayName, now, now'⟩ :: db.players })

def addMatchParticipant (matchId : MatchId) (steamId : SteamId) (participation : String) :
    Statement Unit := fun db => do
  ensure (participation ∈ ["full", "partial", "unknown"]) (.conflict "match participant")
  ensure (¬db.matchPlayers.any fun row => row.matchId = matchId && row.steamId = steamId)
    (.conflict "match participant")
  ensure (hasMatch db matchId) (.database (.foreignKey "match_players.match_id"))
  ensure (hasPlayer db steamId) (.database (.foreignKey "match_players.steam_id"))
  return ((), { db with matchPlayers := ⟨matchId, steamId, participation⟩ :: db.matchPlayers })

def addReceipt (run : AnalysisRunId) (round : Option RoundId) (metricKey : String)
    (tick ordinal : Option Int) (participants : List SteamId) (payload : RawPayload)
    (parameters : Parameters) : Statement ReceiptId := fun db => do
  ensure (tick.isSome = ordinal.isSome) (.invalid "tick and ordinal")
  let id := fresh (db.receipts.map (·.id))
  ensure (hasRun db run) (.database (.foreignKey "receipts.analysis_run_id"))
  ensure (∀ r ∈ round, db.rounds.any (·.id = r)) (.database (.foreignKey "receipts.round_id"))
  return (id, { db with
    receipts := ⟨id, run, round, metricKey, tick, ordinal, participants, payload, parameters⟩ ::
      db.receipts })

-- With the trigger `metric_round_same_run`.
def writeRoundMetric (run : AnalysisRunId) (round : RoundId) (steamId : SteamId) (key : String)
    (numerator denominator : Int) (receipt : Option ReceiptId) : Statement Unit := fun db => do
  ensure (sameRun (roundRun db round) (some run)) (.database (.raise "round metric run mismatch"))
  ensure (∀ r ∈ receipt, sameRun (receiptRun db r) (some run))
    (.database (.raise "receipt run mismatch"))
  ensure (0 ≤ denominator) (.conflict "round metric")
  ensure (¬db.roundPlayerMetrics.any fun row => row.analysisRunId = run && row.roundId = round &&
      row.steamId = steamId && row.metricKey = key)
    (.conflict "round metric")
  ensure (hasRun db run) (.database (.foreignKey "round_player_metrics.analysis_run_id"))
  ensure (db.rounds.any (·.id = round)) (.database (.foreignKey "round_player_metrics.round_id"))
  ensure (hasPlayer db steamId) (.database (.foreignKey "round_player_metrics.steam_id"))
  ensure (∀ r ∈ receipt, hasReceipt db r)
    (.database (.foreignKey "round_player_metrics.receipt_id"))
  return ((), { db with
    roundPlayerMetrics := ⟨run, round, steamId, key, numerator, denominator, receipt⟩ ::
      db.roundPlayerMetrics })

-- With the trigger `rating_receipt_same_run`.
def persistAvailableRating (run : AnalysisRunId) (steamId : SteamId) (formulaId : String)
    (ratingBp : Int) (receipt : ReceiptId) : Statement RatingVectorId := fun db => do
  let id := fresh (db.ratingVectors.map (·.id))
  ensure (sameRun (receiptRun db receipt) (some run))
    (.database (.raise "rating receipt run mismatch"))
  ensure (¬db.ratingVectors.any fun row => row.analysisRunId = run && row.steamId = steamId &&
      row.formulaId = formulaId)
    (.database (.unique "player_rating_vectors.analysis_run_id, steam_id, formula_id"))
  ensure (hasRun db run) (.database (.foreignKey "player_rating_vectors.analysis_run_id"))
  ensure (hasPlayer db steamId) (.database (.foreignKey "player_rating_vectors.steam_id"))
  ensure (hasReceipt db receipt) (.database (.foreignKey "player_rating_vectors.receipt_id"))
  return (id, { db with
    ratingVectors := ⟨id, run, steamId, formulaId, ratingBp, receipt⟩ :: db.ratingVectors })

-- With the trigger `rating_component_receipt_same_run`.
def persistRatingComponent (vector : RatingVectorId) (key : Domain.ComponentKind)
    (numerator denominator valueBp weightBp : Int) (receipt : ReceiptId) :
    Statement Unit := fun db => do
  ensure (sameRun (receiptRun db receipt) (vectorRun db vector))
    (.database (.raise "rating component receipt run mismatch"))
  ensure (0 ≤ denominator) (.database (.check "denominator >= 0"))
  ensure (0 ≤ weightBp) (.database (.check "weight_bp >= 0"))
  ensure (¬db.ratingComponents.any fun row => row.ratingVectorId = vector && row.componentKey = key)
    (.database (.unique "player_rating_components.rating_vector_id, component_key"))
  ensure (db.ratingVectors.any (·.id = vector))
    (.database (.foreignKey "player_rating_components.rating_vector_id"))
  ensure (hasReceipt db receipt) (.database (.foreignKey "player_rating_components.receipt_id"))
  return ((), { db with
    ratingComponents := ⟨vector, key, numerator, denominator, valueBp, weightBp, receipt⟩ ::
      db.ratingComponents })

-- With the trigger `unavailable_rating_receipt_same_run`.
def persistUnavailableRating (run : AnalysisRunId) (steamId : SteamId) (formulaId : String)
    (reason : Analysis.AnalysisUnavailable) (receipt : ReceiptId) : Statement Unit := fun db => do
  ensure (sameRun (receiptRun db receipt) (some run))
    (.database (.raise "unavailable rating receipt run mismatch"))
  ensure (¬db.unavailableRatings.any fun row => row.analysisRunId = run &&
      row.steamId = steamId && row.formulaId = formulaId)
    (.database (.unique "unavailable_rating_results.analysis_run_id, steam_id, formula_id"))
  ensure (hasRun db run) (.database (.foreignKey "unavailable_rating_results.analysis_run_id"))
  ensure (hasPlayer db steamId) (.database (.foreignKey "unavailable_rating_results.steam_id"))
  ensure (hasReceipt db receipt) (.database (.foreignKey "unavailable_rating_results.receipt_id"))
  return ((), { db with
    unavailableRatings := ⟨run, steamId, formulaId, reason, receipt⟩ :: db.unavailableRatings })

end Storage
