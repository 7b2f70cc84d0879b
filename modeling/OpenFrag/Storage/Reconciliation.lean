import OpenFrag.Storage.Live

open Table

-- The link of a live candidate to a round of an analysed Demo.
namespace Storage

variable (db : Database)

-- The condition of the trigger on the identity and the map. A key or a number that is `NULL` joins
-- no row.
def identityAgrees (new : ReconciliationRow) : Bool :=
  db.liveCandidates.any fun c => c.id = new.candidateId &&
    db.captureSessions.any fun s => s.id = c.captureSessionId &&
      db.matchTable.any fun m => some m.id = new.matchId && s.localSteamId = m.localSteamId &&
        (c.observedMap.isNone || m.mapName.isNone || c.observedMap = m.mapName)

def observedRounds (new : ReconciliationRow) : List (RoundRow × LiveCandidateRow) :=
  (db.rounds.product db.liveCandidates).filter fun (r, c) => c.id = new.candidateId &&
    r.analysisRunId = new.analysisRunId && some r.roundNumber = c.observedRound

def categoryReceipt (new : ReconciliationRow) : Bool :=
  db.receipts.any fun e => some e.id = new.receiptId && e.analysisRunId = new.analysisRunId &&
    db.rounds.any fun r => some r.id = new.roundId && r.analysisRunId = new.analysisRunId &&
      db.liveCandidates.any fun c => c.id = new.candidateId && e.metricKey = c.observedKind

-- The trigger `reconciliation_valid`.
def reconciliationValid (new : ReconciliationRow) : Except Error Unit := do
  ensure (hasCandidate db new.candidateId) (.database (.raise "candidate missing"))
  ensure (new.status = .confirmed → identityAgrees db new)
    (.database (.raise "candidate identity or map mismatch"))
  ensure (new.status = .confirmed → (observedRounds db new).length = 1)
    (.database (.raise "candidate round is not unique"))
  ensure (new.status = .confirmed → categoryReceipt db new)
    (.database (.raise "candidate category receipt mismatch"))

-- The columns that are not given are `NULL`.
def reconcile (candidate : LiveCandidateId) (run : AnalysisRunId) (round : Option RoundId)
    (status : ReconciliationStatus) (reason : String) (now : Int) :
    Statement ReconciliationId := fun db => do
  ensure (status = .confirmed → round.isSome) (.invalid "confirmed reconciliation needs a round")
  ensure (∀ id ∈ round, db.rounds.any fun r => r.id = id && r.analysisRunId = run)
    (.invalid "round belongs to another run")
  let new : ReconciliationRow := {
    id            := fresh (db.candidateReconciliations.map (·.id))
    candidateId   := candidate
    analysisRunId := run
    roundId       := round
    status
    reasonCode    := reason
    decidedAtMs   := now
    matchId       := none
    receiptId     := none }
  reconciliationValid db new
  ensure (¬db.candidateReconciliations.any fun row =>
      row.candidateId = candidate && row.analysisRunId = run)
    (.database (.unique "candidate_reconciliations.candidate_id, analysis_run_id"))
  ensure (hasRun db run) (.database (.foreignKey "candidate_reconciliations.analysis_run_id"))
  return (new.id, { db with candidateReconciliations := new :: db.candidateReconciliations })

variable (mapHash : String → String)

-- The candidate was observed by the player of the Demo, on its map, and in the one round of its
-- canonical run that has the observed number. A candidate has the hash of the name of its map.
structure Agrees (candidate : LiveCandidateId) (run : AnalysisRunId) (round : RoundId) : Prop where
  canonical : ∃ c ∈ db.liveCandidates, ∃ s ∈ db.captureSessions, ∃ m ∈ db.matchTable, ∃ name,
    c.id = candidate ∧ s.id = c.captureSessionId ∧ m.canonicalRunId = some run ∧
      m.localSteamId = s.localSteamId ∧ m.mapName = some name ∧ c.observedMap = some (mapHash name)
  succeeded : ∃ row ∈ db.analysisRuns, row.id = run ∧ row.status = .succeeded
  round     : ∃ c ∈ db.liveCandidates, ∃ r ∈ db.rounds, c.id = candidate ∧ r.id = round ∧
    db.rounds.filter (fun r => r.analysisRunId = run && some r.roundNumber = c.observedRound) = [r]

-- A confirmed reconciliation adds its row where the two sides agree, and nothing elsewhere.
structure Accepts (candidate : LiveCandidateId) (run : AnalysisRunId) (round : RoundId)
    (reason : String) (now : Int) : Prop where
  agreeing    : Agrees db mapHash candidate run round → ∃ row : ReconciliationRow,
    reconcile candidate run (some round) .confirmed reason now db =
      .ok (row.id, { db with candidateReconciliations := row :: db.candidateReconciliations }) ∧
    row.candidateId = candidate ∧ row.analysisRunId = run ∧ row.roundId = some round ∧
      row.status = .confirmed
  disagreeing : ¬Agrees db mapHash candidate run round →
    (∃ error, (Statement.perform
      (reconcile candidate run (some round) .confirmed reason now) db).1 = .error error) ∧
    (Statement.perform (reconcile candidate run (some round) .confirmed reason now) db).2 = db

end Storage
