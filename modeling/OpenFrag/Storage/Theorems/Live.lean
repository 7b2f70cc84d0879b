import Mathlib.Data.List.Nodup
import OpenFrag.Library.Outcome
import OpenFrag.Storage.Live
import OpenFrag.Storage.Theorems.Import

open Import Table Except MachineInt

namespace Storage

section

variable {db : Database} {session : CaptureSessionId} {sha256 : Digest} {attempt : SaveAttemptId}
variable {candidate : LiveCandidateId} {flag : ManualFlagId} {clip : ClipId} {now : Int}
variable {ordinal startNs endNs : Int}

theorem recordGsiSnapshot_eq_ok_iff {receivedAtMs : Int} {fields version : String}
    {r : Unit × Database} :
    recordGsiSnapshot session sha256 ordinal receivedAtMs fields version db = .ok r ↔
      ∃ artifact, (db.artifacts.find? fun row => row.sha256 = sha256 &&
          row.availability = .present) = some artifact ∧
        (¬hasSnapshot db sha256) ∧
        (¬db.gsiSnapshots.any fun row =>
          row.captureSessionId = session && row.arrivalOrdinal = ordinal) ∧
        hasSession db session ∧
        ((), { db with
          gsiSnapshots := ⟨sha256, session, ordinal, receivedAtMs, fields, artifact.byteLength,
            version⟩ :: db.gsiSnapshots }) = r := by
  unfold recordGsiSnapshot
  cases db.artifacts.find? fun row => row.sha256 = sha256 && row.availability = .present
  case none => simp [throw, throwThe, MonadExceptOf.throw]
  case some artifact =>
    simp only [bind_eq_ok_iff, ensure_eq_ok_iff, exists_const, pure_eq_ok_iff, Option.some.injEq,
      exists_eq_left']

-- The row of a new candidate.
def candidateRow (id : LiveCandidateId) (session : CaptureSessionId) (ruleVersion kind : String)
    (map : Option String) (round : Option Int) (firstNs lastNs startNs endNs : Int) :
    LiveCandidateRow :=
  ⟨id, session, ruleVersion, kind, map, round, firstNs, lastNs, startNs, endNs, "provisional"⟩

theorem createCandidate_eq_ok_iff {ruleVersion kind : String} {map : Option String}
    {round : Option Int} {firstNs lastNs : Int} {r : LiveCandidateId × Database} :
    createCandidate session ruleVersion kind map round firstNs lastNs startNs endNs db = .ok r ↔
      (firstNs ≤ lastNs ∧ startNs ≤ endNs) ∧ (∀ n ∈ round, 0 ≤ n) ∧
      (¬db.liveCandidates.any fun row => row.captureSessionId = session &&
        row.ruleVersion = ruleVersion && row.observedKind = kind &&
        row.firstTransitionMonotonicNs = firstNs && row.lastTransitionMonotonicNs = lastNs) ∧
      hasSession db session ∧
      (fresh (db.liveCandidates.map (·.id)), { db with
        liveCandidates := candidateRow (fresh (db.liveCandidates.map (·.id))) session ruleVersion
          kind map round firstNs lastNs startNs endNs :: db.liveCandidates }) = r := by
  simp only [createCandidate, bind_eq_ok_iff, ensure_eq_ok_iff, exists_const, pure_eq_ok_iff,
    candidateRow]

theorem addCandidateTrigger_eq_ok_iff {kind : String} {monotonicNs : Int} {r : Unit × Database} :
    addCandidateTrigger candidate sha256 ordinal kind monotonicNs db = .ok r ↔
      (¬db.candidateTriggers.any fun row => row.candidateId = candidate &&
        row.snapshotSha256 = sha256 && row.transitionOrdinal = ordinal) ∧
      hasCandidate db candidate ∧ hasSnapshot db sha256 ∧
      ((), { db with
        candidateTriggers := ⟨candidate, sha256, ordinal, kind, monotonicNs⟩ ::
          db.candidateTriggers }) = r := by
  simp only [addCandidateTrigger, bind_eq_ok_iff, ensure_eq_ok_iff, exists_const, pure_eq_ok_iff]

theorem joinCandidateSave_eq_ok_iff {r : Unit × Database} :
    joinCandidateSave candidate attempt startNs endNs db = .ok r ↔
      startNs ≤ endNs ∧
      (¬db.candidateSaves.any fun row =>
        row.candidateId = candidate && row.saveAttemptId = attempt) ∧
      hasCandidate db candidate ∧ hasAttempt db attempt ∧
      ((), { db with
        candidateSaves := ⟨candidate, attempt, startNs, endNs⟩ :: db.candidateSaves }) = r := by
  simp only [joinCandidateSave, bind_eq_ok_iff, ensure_eq_ok_iff, exists_const, pure_eq_ok_iff]

theorem createManualFlag_eq_ok_iff {monotonicNs : Int} {r : ManualFlagId × Database} :
    createManualFlag session monotonicNs now db = .ok r ↔
      hasSession db session ∧
      (fresh (db.manualFlags.map (·.id)), { db with
        manualFlags := ⟨fresh (db.manualFlags.map (·.id)), session, monotonicNs, now⟩ ::
          db.manualFlags }) = r := by
  simp only [createManualFlag, bind_eq_ok_iff, ensure_eq_ok_iff, exists_const, pure_eq_ok_iff]

-- The row of a new attempt.
def attemptRow (id : SaveAttemptId) (recorderRequestId : String) (session : CaptureSessionId)
    (requestedNs : Int) : SaveAttemptRow :=
  ⟨id, recorderRequestId, session, requestedNs, .requested, 0, none, none, none, none⟩

theorem requestSave_eq_ok_iff {recorderRequestId : String} {requestedNs : Int}
    {r : SaveAttemptId × Database} :
    requestSave session recorderRequestId requestedNs db = .ok r ↔
      (∃ row, db.recorderSaveAttempts.find? (·.recorderRequestId = recorderRequestId) = some row ∧
        (row.id, db) = r) ∨
      (db.recorderSaveAttempts.find? (·.recorderRequestId = recorderRequestId) = none ∧
        hasSession db session ∧
        (fresh (db.recorderSaveAttempts.map (·.id)), { db with
          recorderSaveAttempts := attemptRow (fresh (db.recorderSaveAttempts.map (·.id)))
            recorderRequestId session requestedNs :: db.recorderSaveAttempts }) = r) := by
  unfold requestSave
  cases db.recorderSaveAttempts.find? (·.recorderRequestId = recorderRequestId)
  case none =>
    simp only [bind_eq_ok_iff, ensure_eq_ok_iff, exists_const, pure_eq_ok_iff, attemptRow,
      reduceCtorEq, false_and, exists_false, false_or, true_and]
  case some row => simp [pure_eq_ok_iff]

theorem saveAttemptForRequest_eq_ok_iff {recorderRequestId : String}
    {r : SaveAttemptId × Database} :
    saveAttemptForRequest recorderRequestId db = .ok r ↔
      ∃ row, db.recorderSaveAttempts.find? (·.recorderRequestId = recorderRequestId) = some row ∧
        (row.id, db) = r := by
  unfold saveAttemptForRequest
  cases db.recorderSaveAttempts.find? (·.recorderRequestId = recorderRequestId) <;>
    simp [throw, throwThe, MonadExceptOf.throw, pure_eq_ok_iff]

theorem originRows_clipId {origin : DurableClipOriginInput} {row : ClipOriginRow}
    (h : row ∈ originRows clip origin) : row.clipId = clip := by
  cases origin with
  | auto triggerReceipts evidenceReceipts =>
    simp only [originRows, originGroup, List.mem_append, List.mem_map] at h
    rcases h with ⟨_, _, rfl⟩ | ⟨_, _, rfl⟩ <;> rfl
  | manual flagReceiptId flagTimeMs overlappingAutoReceipts =>
    simp only [originRows, originGroup, List.mem_cons, List.mem_map] at h
    rcases h with rfl | ⟨_, _, rfl⟩ <;> rfl

end

end Storage
