import OpenFrag.Storage.Reconciliation
import OpenFrag.Storage.Theorems.Import

open Table Except

namespace Storage

variable {db : Database} {candidate : LiveCandidateId} {run : AnalysisRunId} {round : RoundId}
variable {reason : String} {now : Int} {new : ReconciliationRow}

-- A row without a match joins none.
theorem identityAgrees_of_no_match (h : new.matchId = none) : identityAgrees db new = false := by
  simp [identityAgrees, h]

theorem reconciliationValid_status (h : reconciliationValid db new = .ok ())
    (hmatch : new.matchId = none) : new.status ≠ .confirmed := by
  intro hconfirmed
  simp only [reconciliationValid, bind_eq_ok_iff, ensure_eq_ok_iff, exists_const] at h
  have hidentity := h.2.1 hconfirmed
  simp [identityAgrees_of_no_match hmatch] at hidentity

-- No row of a confirmed reconciliation passes the trigger.
theorem reconcile_confirmed (db : Database) (candidate : LiveCandidateId) (run : AnalysisRunId)
    (round : RoundId) (reason : String) (now : Int) :
    ∃ error, reconcile candidate run (some round) .confirmed reason now db = .error error := by
  cases hreconcile : reconcile candidate run (some round) .confirmed reason now db
  case error error => exact ⟨error, rfl⟩
  case ok r =>
    simp only [reconcile, bind_eq_ok_iff, ensure_eq_ok_iff, exists_const] at hreconcile
    have ⟨_, _, _, hvalid, _⟩ := hreconcile
    exact absurd rfl (reconciliationValid_status hvalid rfl)

theorem not_accepts_of_agrees {mapHash : String → String}
    (hagrees : Agrees db mapHash candidate run round) :
    ¬Accepts db mapHash candidate run round reason now := by
  intro h
  have ⟨row, hok, _⟩ := h.agreeing hagrees
  have ⟨failure, hreconcile⟩ := reconcile_confirmed db candidate run round reason now
  rw [hreconcile] at hok
  cases hok

-- A confirmed reconciliation is accepted as it should be only where the two sides do not agree.
theorem reconcile_accepts_iff (db : Database) (mapHash : String → String)
    (candidate : LiveCandidateId) (run : AnalysisRunId) (round : RoundId) (reason : String)
    (now : Int) :
    Accepts db mapHash candidate run round reason now ↔
      ¬Agrees db mapHash candidate run round := by
  have ⟨failure, hreconcile⟩ := reconcile_confirmed db candidate run round reason now
  constructor
  · exact fun h hagrees => not_accepts_of_agrees hagrees h
  · intro h
    constructor
    case agreeing => exact fun hagrees => absurd hagrees h
    case disagreeing =>
      intro _
      simp [Statement.perform, hreconcile]

-- The hash of the map of the example.
def dust2Hash (name : String) : String :=
  if name = "de_dust2" then "f99f33e2882aa01d4d3060562bd3f088bc74086e344c1dbbf1862d0239ef4954"
  else ""

-- A player captures a third round, and then imports the Demo of the match.
def agreeingDemo : Except Error Database := do
  let (session, db) ← createCaptureSession 76 0 .empty
  let (_, db) ← createCandidate session "highlight-rules-1" "kill_milestone"
    (some (dust2Hash "de_dust2")) (some 3) 1000000 1000000 0 2000000 db
  let (sha256, db) ← commitArtifact 7 1024 "dem" (some "application/octet-stream") 0 db
  let (matchId, db) ← importMatch sha256 76 (some "de_dust2") 0 db
  let (run, db) ← beginAnalysis matchId ⟨"commit", "build", "proto", "schema", "openfrag-rating-1",
    "ofr-1.0.0", "epoch"⟩ 0 db
  let (round, db) ← addRound run 3 4200 (some .T) db
  let (_, db) ← upsertPlayer 76 none 0 0 db
  let (_, db) ← addMatchParticipant matchId 76 "full" db
  let (_, db) ← addReceipt run (some round) "round_ledger" (some 4200) (some 3) []
    (.roundLedger true none []) (.formula "ofr-1.0.0") db
  let (receipt, db) ← addReceipt run none "rating_unavailable" none none []
    (.unavailable .missingTickRate "demo") (.formula "ofr-1.0.0") db
  let (_, db) ← persistUnavailableRating run 76 "ofr-1.0.0" .missingTickRate receipt db
  let (_, db) ← completeAnalysis run db
  return db

theorem not_accepts_agreeingDemo : ∃ db, agreeingDemo = .ok db ∧
    ¬Accepts db dust2Hash 0 0 0 "canonical_round" 0 := by
  refine ⟨_, rfl, not_accepts_of_agrees ?agrees⟩
  case agrees => exact {
    canonical := ⟨_, List.mem_cons_self, _, List.mem_cons_self, _, List.mem_cons_self, "de_dust2",
      rfl, rfl, rfl, rfl, rfl, rfl⟩
    succeeded := ⟨_, List.mem_cons_self, rfl, rfl⟩
    round     := ⟨_, List.mem_cons_self, _, List.mem_cons_self, rfl, rfl, rfl⟩ }

end Storage
