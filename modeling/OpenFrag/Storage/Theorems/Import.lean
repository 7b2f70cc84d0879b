import OpenFrag.Storage.Import
import OpenFrag.Library.Outcome

open Import Table Except MachineInt

namespace Storage

section

variable {db : Database} {job : ImportJobId} {owner : String} {now now' : Int} {sha256 : Digest}
variable {run : AnalysisRunId} {steamId : SteamId} {receipt : ReceiptId} {matchId : MatchId}

-- The artifacts after one is committed.
def withArtifact (sha256 : Digest) (path : ArtifactPath) (byteLength : Nat)
    (mediaType : Option String) (now : Int) (artifacts : List ArtifactRow) : List ArtifactRow :=
  if artifacts.any (·.sha256 = sha256) then
    update (·.sha256 = sha256)
      (fun row => { row with relativePath := some path, availability := .present }) artifacts
  else
    { sha256, relativePath := some path, byteLength, mediaType, availability := .present,
      createdAtMs := now, missingReason := none } :: artifacts

theorem commitArtifact_eq_ok_iff {byteLength : Nat} {extension : String}
    {mediaType : Option String} {r : Digest × Database} :
    commitArtifact sha256 byteLength extension mediaType now db = .ok r ↔
      ('/' ∉ extension.toList ∧ '\\' ∉ extension.toList) ∧ Signed 64 byteLength ∧
      (¬db.artifacts.any fun row => row.sha256 ≠ sha256 &&
        row.relativePath = some (.committed sha256 (extension.toList.dropWhile (· = '.')))) ∧
      (sha256, { db with
        artifacts := withArtifact sha256 (.committed sha256 (extension.toList.dropWhile (· = '.')))
          byteLength mediaType now db.artifacts }) = r := by
  unfold commitArtifact withArtifact hasArtifact
  simp only [bind_eq_ok_iff, ensure_eq_ok_iff, exists_const]
  split <;> simp only [pure_eq_ok_iff]

theorem artifact_eq_ok_iff {r : ArtifactInfo × Database} :
    artifact sha256 db = .ok r ↔
      ∃ row, db.artifacts.find? (·.sha256 = sha256) = some row ∧ (row.info, db) = r := by
  unfold artifact
  cases db.artifacts.find? (·.sha256 = sha256) <;>
    simp [throw, throwThe, MonadExceptOf.throw]

theorem enqueueImport_eq_ok_iff {r : ImportJobId × Database} :
    enqueueImport sha256 now now' db = .ok r ↔
      hasArtifact db sha256 ∧ (fresh (db.importJobs.map (·.id)), { db with
        importJobs := queuedJob (fresh (db.importJobs.map (·.id))) sha256 now now' ::
          db.importJobs }) = r := by
  simp only [enqueueImport, bind_eq_ok_iff, ensure_eq_ok_iff, exists_const, pure_eq_ok_iff]

theorem leaseImport_eq_ok_iff {expiresAtMs : Int} {r : Unit × Database} :
    leaseImport job owner expiresAtMs now now' db = .ok r ↔
      db.importJobs.any (isLeasable job now') ∧ ((), { db with
        importJobs := update (isLeasable job now') (leased owner expiresAtMs now) db.importJobs
        importAttempts := startAttempt job now db.importAttempts }) = r := by
  simp only [leaseImport, bind_eq_ok_iff, ensure_eq_ok_iff, exists_const, pure_eq_ok_iff]

theorem updateImportProgress_eq_ok_iff {done total : Option Int} {progress heartbeat : Int}
    {r : Unit × Database} :
    updateImportProgress job owner done total progress heartbeat now db = .ok r ↔
      (0 ≤ progress ∧ progress ≤ 10000) ∧ db.importJobs.any (isLeasedBy job owner) ∧
      ((), { db with
        importJobs := update (isLeasedBy job owner)
          (progressed done total progress heartbeat now) db.importJobs }) = r := by
  simp only [updateImportProgress, bind_eq_ok_iff, ensure_eq_ok_iff, exists_const, pure_eq_ok_iff]

theorem updateParserProgress_eq_ok_iff {progress : ParserProgressUpdate} {r : Unit × Database} :
    updateParserProgress job owner progress now db = .ok r ↔
      progress.phase ∈ ["first_pass", "second_pass", "finalize"] ∧ progress.InRange ∧
      db.importJobs.any (isLeasedBy job owner) ∧
      ((), { db with
        importJobs := update (isLeasedBy job owner) (parsing progress now) db.importJobs }) =
        r := by
  simp only [updateParserProgress, bind_eq_ok_iff, ensure_eq_ok_iff, exists_const, pure_eq_ok_iff]

theorem finishImport_eq_ok_iff {phase : ImportPhase} {errorCode remediation : Option String}
    {retryAt : Option Int} {diagnostic : Option ParseDiagnostic} {r : Unit × Database} :
    finishImportWithDiagnostic job owner phase errorCode remediation retryAt diagnostic now db =
        .ok r ↔
      phase ∈ [.succeeded, .failed, .cancelled] ∧ db.importJobs.any (isLeasedBy job owner) ∧
      ((), { db with
        importJobs := update (isLeasedBy job owner)
          (finished phase errorCode remediation retryAt diagnostic now) db.importJobs
        importAttempts :=
          finishAttempts job phase errorCode remediation diagnostic now db.importAttempts }) =
        r := by
  simp only [finishImportWithDiagnostic, bind_eq_ok_iff, ensure_eq_ok_iff, exists_const,
    pure_eq_ok_iff]

theorem importMatch_eq_ok_iff {map : Option String} {r : MatchId × Database} :
    importMatch sha256 steamId map now db = .ok r ↔
      (¬db.matchTable.any (·.demoSha256 = sha256)) ∧ hasArtifact db sha256 ∧
      (fresh (db.matchTable.map (·.id)), { db with matchTable :=
        ⟨fresh (db.matchTable.map (·.id)), sha256, steamId, map, now, none, .imported⟩ ::
          db.matchTable }) = r := by
  simp only [importMatch, bind_eq_ok_iff, ensure_eq_ok_iff, exists_const, pure_eq_ok_iff]

theorem beginAnalysis_eq_ok_iff {identity : AnalysisIdentity} {r : AnalysisRunId × Database} :
    beginAnalysis matchId identity now db = .ok r ↔
      (¬db.analysisRuns.any fun row => row.matchId = matchId && row.identity = identity) ∧
      hasMatch db matchId ∧
      (fresh (db.analysisRuns.map (·.id)), { db with analysisRuns :=
        ⟨fresh (db.analysisRuns.map (·.id)), matchId, identity, .running, now⟩ ::
          db.analysisRuns }) = r := by
  simp only [beginAnalysis, bind_eq_ok_iff, ensure_eq_ok_iff, exists_const, pure_eq_ok_iff]

theorem completeAnalysis_eq_ok_iff {r : Unit × Database} :
    completeAnalysis run db = .ok r ↔
      ∃ found, db.analysisRuns.find? (·.id = run) = some found ∧
        (db.matchTable.filter (·.id = found.matchId)).all
          (isSucceededRunOf { db with
            analysisRuns := update (·.id = run) AnalysisRunRow.succeed db.analysisRuns } run) ∧
        (db.matchTable.filter (·.id = found.matchId)).all (hasLocalRating db run) ∧
        ((), { db with
          analysisRuns := update (·.id = run) AnalysisRunRow.succeed db.analysisRuns
          matchTable := update (·.id = found.matchId) (MatchRow.parse run) db.matchTable }) =
          r := by
  unfold completeAnalysis
  cases db.analysisRuns.find? (·.id = run)
  case none => simp [throw, throwThe, MonadExceptOf.throw]
  case some found =>
    simp only [bind_eq_ok_iff, ensure_eq_ok_iff, exists_const, pure_eq_ok_iff, Option.some.injEq,
      exists_eq_left']
    rfl

theorem addRound_eq_ok_iff {number endTick : Int} {winner : Option Winner}
    {r : RoundId × Database} :
    addRound run number endTick winner db = .ok r ↔
      (¬db.rounds.any fun row => row.analysisRunId = run && row.roundNumber = number) ∧
      hasRun db run ∧
      (fresh (db.rounds.map (·.id)), { db with rounds :=
        ⟨fresh (db.rounds.map (·.id)), run, number, endTick, winner⟩ :: db.rounds }) = r := by
  simp only [addRound, bind_eq_ok_iff, ensure_eq_ok_iff, exists_const, pure_eq_ok_iff]

-- The players after an upsert.
def upserted (steamId : SteamId) (displayName : Option String) (now now' : Int)
    (players : List PlayerRow) : List PlayerRow :=
  if players.any (·.steamId = steamId) then
    update (·.steamId = steamId)
      (fun row => { row with displayName := displayName, lastSeenAtMs := now' }) players
  else
    ⟨steamId, displayName, now, now'⟩ :: players

theorem upsertPlayer_eq_ok_iff {displayName : Option String} {r : Unit × Database} :
    upsertPlayer steamId displayName now now' db = .ok r ↔
      now ≤ now' ∧
      (∀ row ∈ db.players, row.steamId = steamId → row.firstSeenAtMs ≤ now') ∧
      ((), { db with players := upserted steamId displayName now now' db.players }) = r := by
  simp only [upsertPlayer, bind_eq_ok_iff, ensure_eq_ok_iff, exists_const]
  refine and_congr_right fun _ => ?_
  unfold upserted hasPlayer
  split
  case isTrue =>
    simp only [bind_eq_ok_iff, ensure_eq_ok_iff, exists_const, pure_eq_ok_iff, List.all_eq_true,
      List.mem_filter, decide_eq_true_eq, and_imp]
  case isFalse hnone =>
    have hnew : ∀ row ∈ db.players, row.steamId = steamId → row.firstSeenAtMs ≤ now' :=
      fun row hrow hid => absurd (List.any_eq_true.mpr ⟨row, hrow, decide_eq_true hid⟩) hnone
    simp only [pure_eq_ok_iff, and_iff_right hnew]

theorem mem_upserted {displayName : Option String} {players : List PlayerRow} {row : PlayerRow}
    (h : row.steamId ≠ steamId) :
    row ∈ upserted steamId displayName now now' players ↔ row ∈ players := by
  unfold upserted
  split
  case isTrue =>
    simp only [mem_update]
    constructor
    · rintro ⟨old, hold, rfl⟩
      split at h
      case isTrue hid => exact absurd (of_decide_eq_true hid) h
      case isFalse hid => rwa [if_neg hid]
    · exact fun hrow => ⟨row, hrow, by simp [h]⟩
  case isFalse => simp [show row ≠ ⟨steamId, displayName, now, now'⟩ from fun heq => h (heq ▸ rfl)]

theorem any_upserted {displayName : Option String} {players : List PlayerRow} {s : SteamId} :
    (upserted steamId displayName now now' players).any (·.steamId = s) ↔
      s = steamId ∨ players.any (·.steamId = s) := by
  unfold upserted
  split
  case isTrue hany =>
    have hids : (update (·.steamId = steamId) (fun row : PlayerRow => { row with
        displayName := displayName, lastSeenAtMs := now' }) players).map (·.steamId) =
        players.map (·.steamId) := map_update _ fun _ => rfl
    have hmem := congrArg (s ∈ ·) hids
    simp only [List.any_eq_true, decide_eq_true_eq, List.mem_map] at hany hmem ⊢
    rw [hmem]
    exact ⟨.inr, fun h => h.elim (· ▸ hany) id⟩
  case isFalse =>
    rw [List.any_cons, Bool.or_eq_true, decide_eq_true_eq, eq_comm]

theorem addMatchParticipant_eq_ok_iff {participation : String} {r : Unit × Database} :
    addMatchParticipant matchId steamId participation db = .ok r ↔
      participation ∈ ["full", "partial", "unknown"] ∧
      (¬db.matchPlayers.any fun row => row.matchId = matchId && row.steamId = steamId) ∧
      hasMatch db matchId ∧ hasPlayer db steamId ∧
      ((), { db with matchPlayers := ⟨matchId, steamId, participation⟩ :: db.matchPlayers }) =
        r := by
  simp only [addMatchParticipant, bind_eq_ok_iff, ensure_eq_ok_iff, exists_const, pure_eq_ok_iff]

theorem addReceipt_eq_ok_iff {round : Option RoundId} {metricKey : String}
    {tick ordinal : Option Int} {participants : List SteamId} {payload : RawPayload}
    {parameters : Parameters} {r : ReceiptId × Database} :
    addReceipt run round metricKey tick ordinal participants payload parameters db = .ok r ↔
      tick.isSome = ordinal.isSome ∧ hasRun db run ∧
      (∀ r ∈ round, db.rounds.any (·.id = r)) ∧
      (fresh (db.receipts.map (·.id)), { db with receipts :=
        ⟨fresh (db.receipts.map (·.id)), run, round, metricKey, tick, ordinal, participants,
          payload, parameters⟩ :: db.receipts }) = r := by
  simp only [addReceipt, bind_eq_ok_iff, ensure_eq_ok_iff, exists_const, pure_eq_ok_iff]

theorem writeRoundMetric_eq_ok_iff {round : RoundId} {key : String} {numerator denominator : Int}
    {receipt : Option ReceiptId} {r : Unit × Database} :
    writeRoundMetric run round steamId key numerator denominator receipt db = .ok r ↔
      sameRun (roundRun db round) (some run) ∧
      (∀ r ∈ receipt, sameRun (receiptRun db r) (some run)) ∧ 0 ≤ denominator ∧
      (¬db.roundPlayerMetrics.any fun row => row.analysisRunId = run && row.roundId = round &&
        row.steamId = steamId && row.metricKey = key) ∧
      hasRun db run ∧ db.rounds.any (·.id = round) ∧ hasPlayer db steamId ∧
      (∀ r ∈ receipt, hasReceipt db r) ∧
      ((), { db with roundPlayerMetrics :=
        ⟨run, round, steamId, key, numerator, denominator, receipt⟩ :: db.roundPlayerMetrics }) =
        r := by
  simp only [writeRoundMetric, bind_eq_ok_iff, ensure_eq_ok_iff, exists_const, pure_eq_ok_iff]

theorem persistAvailableRating_eq_ok_iff {formulaId : String} {ratingBp : Int}
    {r : RatingVectorId × Database} :
    persistAvailableRating run steamId formulaId ratingBp receipt db = .ok r ↔
      sameRun (receiptRun db receipt) (some run) ∧
      (¬db.ratingVectors.any fun row => row.analysisRunId = run && row.steamId = steamId &&
        row.formulaId = formulaId) ∧
      hasRun db run ∧ hasPlayer db steamId ∧ hasReceipt db receipt ∧
      (fresh (db.ratingVectors.map (·.id)), { db with ratingVectors :=
        ⟨fresh (db.ratingVectors.map (·.id)), run, steamId, formulaId, ratingBp, receipt⟩ ::
          db.ratingVectors }) = r := by
  simp only [persistAvailableRating, bind_eq_ok_iff, ensure_eq_ok_iff, exists_const,
    pure_eq_ok_iff]

theorem persistRatingComponent_eq_ok_iff {vector : RatingVectorId} {key : Domain.ComponentKind}
    {numerator denominator valueBp weightBp : Int} {r : Unit × Database} :
    persistRatingComponent vector key numerator denominator valueBp weightBp receipt db = .ok r ↔
      sameRun (receiptRun db receipt) (vectorRun db vector) ∧ 0 ≤ denominator ∧ 0 ≤ weightBp ∧
      (¬db.ratingComponents.any fun row =>
        row.ratingVectorId = vector && row.componentKey = key) ∧
      db.ratingVectors.any (·.id = vector) ∧ hasReceipt db receipt ∧
      ((), { db with ratingComponents :=
        ⟨vector, key, numerator, denominator, valueBp, weightBp, receipt⟩ ::
          db.ratingComponents }) = r := by
  simp only [persistRatingComponent, bind_eq_ok_iff, ensure_eq_ok_iff, exists_const,
    pure_eq_ok_iff]

theorem persistUnavailableRating_eq_ok_iff {formulaId : String}
    {reason : Analysis.AnalysisUnavailable} {r : Unit × Database} :
    persistUnavailableRating run steamId formulaId reason receipt db = .ok r ↔
      sameRun (receiptRun db receipt) (some run) ∧
      (¬db.unavailableRatings.any fun row => row.analysisRunId = run &&
        row.steamId = steamId && row.formulaId = formulaId) ∧
      hasRun db run ∧ hasPlayer db steamId ∧ hasReceipt db receipt ∧
      ((), { db with unavailableRatings :=
        ⟨run, steamId, formulaId, reason, receipt⟩ :: db.unavailableRatings }) = r := by
  simp only [persistUnavailableRating, bind_eq_ok_iff, ensure_eq_ok_iff, exists_const,
    pure_eq_ok_iff]

end

-- A committed artifact has its own path.
def OwnPaths (artifacts : List ArtifactRow) : Prop :=
  ∀ row ∈ artifacts, ∀ sha256 extension,
    row.relativePath = some (.committed sha256 extension) → row.sha256 = sha256

theorem OwnPaths.updated {artifacts : List ArtifactRow} {p : ArtifactRow → Bool}
    {f : ArtifactRow → ArtifactRow} (h : OwnPaths artifacts)
    (hf : ∀ row, p row → ∀ sha256 extension,
      (f row).relativePath = some (.committed sha256 extension) → (f row).sha256 = sha256) :
    OwnPaths (update p f artifacts) := by
  intro row hrow sha256 extension hpath
  obtain ⟨old, hold, rfl⟩ := mem_update.mp hrow
  split at hpath
  case isTrue hp =>
    rw [if_pos hp]
    exact hf old hp sha256 extension hpath
  case isFalse hp =>
    rw [if_neg hp]
    exact h old hold sha256 extension hpath

theorem OwnPaths.withArtifact {artifacts : List ArtifactRow} {sha256 : Digest}
    {extension : List Char} {byteLength : Nat} {mediaType : Option String} {now : Int}
    (h : OwnPaths artifacts) :
    OwnPaths (withArtifact sha256 (.committed sha256 extension) byteLength mediaType now
      artifacts) := by
  unfold Storage.withArtifact
  split
  case isTrue =>
    refine h.updated fun row hrow sha256' extension' heq => ?_
    cases heq
    exact of_decide_eq_true hrow
  case isFalse =>
    refine List.forall_mem_cons.mpr ⟨fun sha256' extension' heq => ?_, h⟩
    cases heq
    rfl

-- The keys and foreign keys that the statements of an import rest on.
structure Database.Valid (db : Database) : Prop where
  paths            : OwnPaths db.artifacts
  matchKeys        : (db.matchTable.map (·.id)).Nodup
  demos            : (db.matchTable.map (·.demoSha256)).Nodup
  runMatches       : References (·.matchId) db.analysisRuns (db.matchTable.map (·.id))
  playerMatches    : References (·.matchId) db.matchPlayers (db.matchTable.map (·.id))
  roundRuns        : References (·.analysisRunId) db.rounds (db.analysisRuns.map (·.id))
  receiptRuns      : References (·.analysisRunId) db.receipts (db.analysisRuns.map (·.id))
  metricRounds     : References (·.roundId) db.roundPlayerMetrics (db.rounds.map (·.id))
  vectorRuns       : References (·.analysisRunId) db.ratingVectors (db.analysisRuns.map (·.id))
  componentVectors : References (·.ratingVectorId) db.ratingComponents
    (db.ratingVectors.map (·.id))
  unavailableRuns  : References (·.analysisRunId) db.unavailableRatings
    (db.analysisRuns.map (·.id))

theorem Database.Valid.empty : Database.empty.Valid := by
  constructor <;> simp [Database.empty, References, OwnPaths]

-- A statement keeps a property of the database.
def Statement.Keeps {α : Type} (I : Database → Prop) (op : Statement α) : Prop :=
  ∀ ⦃db r⦄, op db = .ok r → I db → I r.2

namespace Keeps

variable {job : ImportJobId} {owner : String} {now now' : Int} {sha256 : Digest}
variable {run : AnalysisRunId} {steamId : SteamId} {receipt : ReceiptId} {matchId : MatchId}

section Valid

theorem commitArtifact {byteLength : Nat} {extension : String} {mediaType : Option String} :
    (commitArtifact sha256 byteLength extension mediaType now).Keeps Database.Valid := by
  intro db r h hv
  rw [commitArtifact_eq_ok_iff] at h
  obtain ⟨_, _, _, rfl⟩ := h
  exact { hv with paths := hv.paths.withArtifact }

theorem artifact : (artifact sha256).Keeps Database.Valid := by
  intro db r h hv
  obtain ⟨_, _, rfl⟩ := artifact_eq_ok_iff.mp h
  exact hv

theorem quarantineArtifact {reason : String} {file : Nat} :
    (quarantineArtifact sha256 reason file).Keeps Database.Valid := by
  intro db r h hv
  simp only [Storage.quarantineArtifact, bind_eq_ok_iff, ensure_eq_ok_iff, exists_const,
    pure_eq_ok_iff] at h
  obtain ⟨_, row, hrow, _, _, _, rfl⟩ := h
  have hv := artifact hrow hv
  exact { hv with paths := hv.paths.updated fun _ _ _ _ => by simp }

theorem enqueueImport : (enqueueImport sha256 now now').Keeps Database.Valid := by
  intro db r h hv
  rw [enqueueImport_eq_ok_iff] at h
  obtain ⟨_, rfl⟩ := h
  exact { hv with }

theorem leaseImport {expiresAtMs : Int} :
    (leaseImport job owner expiresAtMs now now').Keeps Database.Valid := by
  intro db r h hv
  rw [leaseImport_eq_ok_iff] at h
  obtain ⟨_, rfl⟩ := h
  exact { hv with }

theorem updateImportProgress {done total : Option Int} {progress heartbeat : Int} :
    (updateImportProgress job owner done total progress heartbeat now).Keeps Database.Valid := by
  intro db r h hv
  rw [updateImportProgress_eq_ok_iff] at h
  obtain ⟨_, _, rfl⟩ := h
  exact { hv with }

theorem updateParserProgress {progress : ParserProgressUpdate} :
    (updateParserProgress job owner progress now).Keeps Database.Valid := by
  intro db r h hv
  rw [updateParserProgress_eq_ok_iff] at h
  obtain ⟨_, _, _, rfl⟩ := h
  exact { hv with }

theorem finishImportWithDiagnostic {phase : ImportPhase} {errorCode remediation : Option String}
    {retryAt : Option Int} {diagnostic : Option ParseDiagnostic} :
    (finishImportWithDiagnostic job owner phase errorCode remediation retryAt diagnostic
      now).Keeps Database.Valid := by
  intro db r h hv
  rw [finishImport_eq_ok_iff] at h
  obtain ⟨_, _, rfl⟩ := h
  exact { hv with }

theorem importMatch {map : Option String} :
    (importMatch sha256 steamId map now).Keeps Database.Valid := by
  intro db r h hv
  rw [importMatch_eq_ok_iff] at h
  obtain ⟨hdemo, _, rfl⟩ := h
  exact { hv with
    matchKeys := List.nodup_cons.mpr ⟨fresh_notMem _, hv.matchKeys⟩
    demos := List.nodup_cons.mpr ⟨by simpa using hdemo, hv.demos⟩
    runMatches := hv.runMatches.grow _
    playerMatches := hv.playerMatches.grow _ }

theorem matchForDemo : (matchForDemo sha256).Keeps Database.Valid := by
  intro db r h hv
  cases h
  exact hv

theorem completedAnalysisForIdentity {identity : AnalysisIdentity} :
    (completedAnalysisForIdentity matchId identity).Keeps Database.Valid := by
  intro db r h hv
  cases h
  exact hv

theorem beginAnalysis {identity : AnalysisIdentity} :
    (beginAnalysis matchId identity now).Keeps Database.Valid := by
  intro db r h hv
  rw [beginAnalysis_eq_ok_iff] at h
  obtain ⟨_, hmatch, rfl⟩ := h
  exact { hv with
    runMatches := hv.runMatches.insert (by simpa [hasMatch] using hmatch)
    roundRuns := hv.roundRuns.grow _
    receiptRuns := hv.receiptRuns.grow _
    vectorRuns := hv.vectorRuns.grow _
    unavailableRuns := hv.unavailableRuns.grow _ }

theorem completeAnalysis : (completeAnalysis run).Keeps Database.Valid := by
  intro db r h hv
  obtain ⟨found, _, _, _, rfl⟩ := completeAnalysis_eq_ok_iff.mp h
  have hruns : (update (·.id = run) AnalysisRunRow.succeed db.analysisRuns).map (·.id) =
      db.analysisRuns.map (·.id) := map_update _ fun _ => rfl
  have hids : (update (·.id = found.matchId) (MatchRow.parse run) db.matchTable).map (·.id) =
      db.matchTable.map (·.id) := map_update _ fun _ => rfl
  have hdemos : (update (·.id = found.matchId) (MatchRow.parse run) db.matchTable).map
      (·.demoSha256) = db.matchTable.map (·.demoSha256) := map_update _ fun _ => rfl
  exact { hv with
    matchKeys := hids ▸ hv.matchKeys
    demos := hdemos ▸ hv.demos
    runMatches := hids ▸ hv.runMatches.updated fun _ => rfl
    playerMatches := hids ▸ hv.playerMatches
    roundRuns := hruns ▸ hv.roundRuns
    receiptRuns := hruns ▸ hv.receiptRuns
    vectorRuns := hruns ▸ hv.vectorRuns
    unavailableRuns := hruns ▸ hv.unavailableRuns }

theorem addRound {number endTick : Int} {winner : Option Winner} :
    (addRound run number endTick winner).Keeps Database.Valid := by
  intro db r h hv
  rw [addRound_eq_ok_iff] at h
  obtain ⟨_, hrun, rfl⟩ := h
  exact { hv with
    roundRuns := hv.roundRuns.insert (by simpa [hasRun] using hrun)
    metricRounds := hv.metricRounds.grow _ }

theorem upsertPlayer {displayName : Option String} :
    (upsertPlayer steamId displayName now now').Keeps Database.Valid := by
  intro db r h hv
  rw [upsertPlayer_eq_ok_iff] at h
  obtain ⟨_, _, rfl⟩ := h
  exact { hv with }

theorem addMatchParticipant {participation : String} :
    (addMatchParticipant matchId steamId participation).Keeps Database.Valid := by
  intro db r h hv
  rw [addMatchParticipant_eq_ok_iff] at h
  obtain ⟨_, _, hmatch, _, rfl⟩ := h
  exact { hv with playerMatches := hv.playerMatches.insert (by simpa [hasMatch] using hmatch) }

theorem addReceipt {round : Option RoundId} {metricKey : String} {tick ordinal : Option Int}
    {participants : List SteamId} {payload : RawPayload} {parameters : Parameters} :
    (addReceipt run round metricKey tick ordinal participants payload parameters).Keeps
      Database.Valid := by
  intro db r h hv
  rw [addReceipt_eq_ok_iff] at h
  obtain ⟨_, hrun, _, rfl⟩ := h
  exact { hv with receiptRuns := hv.receiptRuns.insert (by simpa [hasRun] using hrun) }

theorem writeRoundMetric {round : RoundId} {key : String} {numerator denominator : Int}
    {receipt : Option ReceiptId} :
    (writeRoundMetric run round steamId key numerator denominator receipt).Keeps
      Database.Valid := by
  intro db r h hv
  rw [writeRoundMetric_eq_ok_iff] at h
  obtain ⟨_, _, _, _, _, hround, _, _, rfl⟩ := h
  exact { hv with metricRounds := hv.metricRounds.insert (by simpa using hround) }

theorem persistAvailableRating {formulaId : String} {ratingBp : Int} :
    (persistAvailableRating run steamId formulaId ratingBp receipt).Keeps Database.Valid := by
  intro db r h hv
  rw [persistAvailableRating_eq_ok_iff] at h
  obtain ⟨_, _, hrun, _, _, rfl⟩ := h
  exact { hv with
    vectorRuns := hv.vectorRuns.insert (by simpa [hasRun] using hrun)
    componentVectors := hv.componentVectors.grow _ }

theorem persistRatingComponent {vector : RatingVectorId} {key : Domain.ComponentKind}
    {numerator denominator valueBp weightBp : Int} :
    (persistRatingComponent vector key numerator denominator valueBp weightBp receipt).Keeps
      Database.Valid := by
  intro db r h hv
  rw [persistRatingComponent_eq_ok_iff] at h
  obtain ⟨_, _, _, _, hvector, _, rfl⟩ := h
  exact { hv with componentVectors := hv.componentVectors.insert (by simpa using hvector) }

theorem persistUnavailableRating {formulaId : String} {reason : Analysis.AnalysisUnavailable} :
    (persistUnavailableRating run steamId formulaId reason receipt).Keeps Database.Valid := by
  intro db r h hv
  rw [persistUnavailableRating_eq_ok_iff] at h
  obtain ⟨_, _, hrun, _, _, rfl⟩ := h
  exact { hv with unavailableRuns := hv.unavailableRuns.insert (by simpa [hasRun] using hrun) }

end Valid

end Keeps

end Storage
