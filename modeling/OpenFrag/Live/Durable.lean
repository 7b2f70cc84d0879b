import OpenFrag.Live.Adapter
import OpenFrag.Storage.Retained

open Domain (HighlightCandidate)
open Storage (Database LiveCandidateId ManualFlagId SaveAttemptId Writer hasAttempt)

-- What is held in memory, and the rows of the database that stand for it.
namespace Live

section Rows

variable (db : Database) (session : Storage.CaptureSessionId)

def ReceiptMetadata.IsIn (metadata : ReceiptMetadata) : Prop :=
  ∃ row ∈ db.gsiSnapshots, row.sha256 = metadata.snapshotSha256 ∧
    row.captureSessionId = session ∧ row.arrivalOrdinal = metadata.sequence

-- The row of a candidate says the map and the number of its round.
def CandidateMetadata.IsIn (metadata : CandidateMetadata) (roundId : String) : Prop :=
  ∃ row ∈ db.liveCandidates, row.id = metadata.id ∧ row.captureSessionId = session ∧
    ∃ map round, StorageAdapter.parseRoundId roundId = .ok (map, round) ∧
      row.observedMap = some map ∧ row.observedRound = some round

def ReceiptMetadata.Triggers (metadata : ReceiptMetadata) (candidate : LiveCandidateId) : Prop :=
  ∃ row ∈ db.candidateTriggers, row.candidateId = candidate ∧
    row.snapshotSha256 = metadata.snapshotSha256 ∧ row.transitionOrdinal = metadata.sequence

def SaveAttemptMetadata.IsIn (metadata : SaveAttemptMetadata) : Prop :=
  ∃ row ∈ db.recorderSaveAttempts, row.id = metadata.id ∧ (metadata.failed → row.IsEnded)

def IsFlag (flag : ManualFlagId) : Prop :=
  ∃ row ∈ db.manualFlags, row.id = flag ∧ row.captureSessionId = session

def IsJoined (candidate : LiveCandidateId) (attempt : SaveAttemptId) : Prop :=
  ∃ row ∈ db.candidateSaves, row.candidateId = candidate ∧ row.saveAttemptId = attempt

def IsFlagJoined (flag : ManualFlagId) (attempt : SaveAttemptId) : Prop :=
  ∃ row ∈ db.manualFlagSaves, row.manualFlagId = flag ∧ row.saveAttemptId = attempt

end Rows

-- A receipt that is known to the store has been added to a candidate.
def Added (s : StorageEvidenceStore) (candidate : LiveCandidateId) (receiptId : String) : Prop :=
  ∃ metadata, s.receipts.get? receiptId = some metadata ∧ metadata.Triggers s.storage candidate

structure CandidateMetadata.Backed (s : StorageEvidenceStore) (roundId : String)
    (metadata : CandidateMetadata) : Prop where
  row      : metadata.IsIn s.storage s.session roundId
  roundId  : metadata.record.candidate.roundId = roundId
  complete : metadata.record.candidate.receiptIds ⊆ metadata.triggerReceipts
  added    : ∀ receiptId ∈ metadata.triggerReceipts, Added s metadata.id receiptId

-- What the store remembers is in the database, and no two entries stand for one row.
structure Backed (s : StorageEvidenceStore) : Prop where
  session      : Storage.hasSession s.storage s.session
  receipts     : ∀ id metadata, s.receipts.get? id = some metadata →
    metadata.IsIn s.storage s.session
  snapshots    : ∀ id id' metadata metadata', s.receipts.get? id = some metadata →
    s.receipts.get? id' = some metadata' →
      metadata.snapshotSha256 = metadata'.snapshotSha256 ∨ metadata.sequence = metadata'.sequence →
      id = id'
  candidates   : ∀ roundId metadata, s.candidates.get? roundId = some metadata →
    metadata.Backed s roundId
  rounds       : ∀ roundId roundId' metadata metadata', s.candidates.get? roundId = some metadata →
    s.candidates.get? roundId' = some metadata' → metadata.id = metadata'.id → roundId = roundId'
  saveAttempts : ∀ captureId metadata, s.saveAttempts.get? captureId = some metadata →
    metadata.IsIn s.storage
  manualFlags  : ∀ captureId flag, s.manualFlags.get? captureId = some flag →
    IsFlag s.storage s.session flag
  flagged      : ∀ captureId captureId' flag, s.manualFlags.get? captureId = some flag →
    s.manualFlags.get? captureId' = some flag → captureId = captureId'
  joins        : ∀ join ∈ s.candidateJoins, IsJoined s.storage join.1 join.2

-- A candidate has a row, and each receipt that it rests on is one of its triggers.
def IsProposed (s : StorageEvidenceStore) (candidate : HighlightCandidate) : Prop :=
  ∃ metadata, s.candidates.get? candidate.roundId = some metadata ∧
    metadata.IsIn s.storage s.session candidate.roundId ∧
    ∀ receiptId ∈ candidate.receiptIds, Added s metadata.id receiptId

def CaptureStatus.asked : CaptureStatus → Bool
  | .saveRequested _ | .retryable _ => true
  | _                               => false

-- A capture whose save has been asked for has an attempt, which is joined to what it is for.
structure CaptureRecord.IsIn (s : StorageEvidenceStore) (capture : CaptureRecord) : Prop where
  candidate : ∀ candidate ∈ capture.candidate, IsProposed s candidate
  flag      : capture.kind = .manualFlag → capture.status = .requesting ∨ capture.status.asked →
    ∃ flag, s.manualFlags.get? capture.id = some flag ∧ IsFlag s.storage s.session flag
  attempt   : capture.status.asked → ∃ attempt, hasAttempt s.storage attempt ∧
    (∀ candidate ∈ capture.candidate, ∃ metadata,
      s.candidates.get? candidate.roundId = some metadata ∧
        IsJoined s.storage metadata.id attempt) ∧
    (capture.kind = .manualFlag → ∃ flag, s.manualFlags.get? capture.id = some flag ∧
      IsFlagJoined s.storage flag attempt)

-- What the coordinator takes for done is in the database.
structure Durable (coordinator : Coordinator) (s : StorageEvidenceStore) : Prop where
  backed     : Backed s
  receipts   : ∀ receiptId ∈ coordinator.processedReceipts, ∃ metadata,
    s.receipts.get? receiptId = some metadata ∧ metadata.IsIn s.storage s.session
  candidates : ∀ roundId record, coordinator.candidates.get? roundId = some record →
    record.candidate.roundId = roundId ∧ IsProposed s record.candidate
  captures   : ∀ captureId capture, coordinator.captures.get? captureId = some capture →
    capture.id = captureId ∧ capture.IsIn s

variable {W : Type}

-- A call of the runtime in a world of its own, or what others write.
inductive Turn (W : Type)
  | call (call : Call) (w : W)
  | other (writer : Writer)

def turn (env : Environment W) : Turn W → Assembly →
    Option (Except LiveDiagnostic Reply) × Assembly
  | .call call w, a   =>
    let result := perform env.ports call (a.host w)
    (some result.toExcept, .of result.state)
  | .other writer, a =>
    (none, { a with store.storage := writer.write a.store.storage })

end Live
