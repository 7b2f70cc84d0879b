import Mathlib.Data.List.Sort
import OpenFrag.Storage.Import

open Import

-- What a store tells of a match.
namespace Storage

inductive StoredRatingAvailability
  | pending
  | available (formulaId : String) (ratingBp : Int) (receiptId : ReceiptId)
  | unavailable (formulaId : String) (reasonCode : Analysis.AnalysisUnavailable)
    (receiptId : ReceiptId)
  deriving DecidableEq, Repr

structure MatchSummaryRecord where
  id           : MatchId
  mapName      : Option String
  importedAtMs : Int
  status       : MatchStatus
  rating       : StoredRatingAvailability
  deriving DecidableEq, Repr

structure RatingComponentRecord where
  componentKey : Domain.ComponentKind
  numerator    : Int
  denominator  : Int
  valueBp      : Int
  weightBp     : Int
  receiptId    : ReceiptId
  deriving DecidableEq, Repr

structure MatchDetailRecord where
  summary        : MatchSummaryRecord
  demoSha256     : Digest
  localSteamId   : SteamId
  gameBuild      : Option String
  canonicalRunId : Option AnalysisRunId
  components     : List RatingComponentRecord
  receiptIds     : List ReceiptId
  deriving DecidableEq, Repr

def ratingAvailability (db : Database) (run : Option AnalysisRunId) (localId : SteamId) :
    StoredRatingAvailability :=
  match run with
  | none => .pending
  | some run =>
    match db.ratingVectors.find? fun row => row.analysisRunId = run && row.steamId = localId with
    | some row => .available row.formulaId row.ratingBp row.receiptId
    | none =>
      match db.unavailableRatings.find? fun row =>
        row.analysisRunId = run && row.steamId = localId with
      | some row => .unavailable row.formulaId row.reasonCode row.receiptId
      | none     => .pending

-- The order of the keys as texts.
def componentRank : Domain.ComponentKind → Nat
  | .clutchConversion => 0
  | .directDamage     => 1
  | .fragBalance      => 2
  | .openingDuels     => 3
  | .tradeKills       => 4
  | .utility          => 5

def RatingComponentRow.record (row : RatingComponentRow) : RatingComponentRecord where
  componentKey := row.componentKey
  numerator    := row.numerator
  denominator  := row.denominator
  valueBp      := row.valueBp
  weightBp     := row.weightBp
  receiptId    := row.receiptId

def ratingComponents (db : Database) (run : AnalysisRunId) (localId : SteamId) :
    List RatingComponentRecord :=
  let vectors := db.ratingVectors.filter fun row =>
    row.analysisRunId = run && row.steamId = localId
  let rows := vectors.flatMap fun vector =>
    db.ratingComponents.filter (·.ratingVectorId = vector.id)
  (rows.mergeSort fun a b => componentRank a.componentKey ≤ componentRank b.componentKey).map
    RatingComponentRow.record

-- Receipts are listed by tick, then by ordinal, then by identifier.
def receiptPrecedes (a b : ReceiptRow) : Bool :=
  let key (row : ReceiptRow) : Lex (Int × Lex (Int × Nat)) :=
    toLex (row.eventTick.getD (-1), toLex (row.ingestionOrdinal.getD (-1), row.id))
  key a ≤ key b

def receiptIds (db : Database) (run : AnalysisRunId) : List ReceiptId :=
  ((db.receipts.filter (·.analysisRunId = run)).mergeSort receiptPrecedes).map (·.id)

-- The game build of a match is never written.
def matchDetail (db : Database) (id : MatchId) : Except Error MatchDetailRecord :=
  match db.matchTable.find? fun row => row.id = id && row.status ≠ .deleted with
  | none     => throw (.notFound "match")
  | some row => return {
      summary := {
        id           := row.id
        mapName      := row.mapName
        importedAtMs := row.importedAtMs
        status       := row.status
        rating       := ratingAvailability db row.canonicalRunId row.localSteamId
      }
      demoSha256     := row.demoSha256
      localSteamId   := row.localSteamId
      gameBuild      := none
      canonicalRunId := row.canonicalRunId
      components     :=
        (row.canonicalRunId.map (ratingComponents db · row.localSteamId)).getD []
      receiptIds     := (row.canonicalRunId.map (receiptIds db)).getD []
    }

end Storage
