import OpenFrag.Analysis.Score
import OpenFrag.Import.Progress
import OpenFrag.Library.Table

open Import

-- The tables of the migrations, each as the list of its rows, the latest row first. Generated
-- identifiers are numbers; the text of a Steam identifier is the number that it denotes.
namespace Storage

-- A SHA-256 digest.
abbrev Digest := BitVec 256

abbrev CaptureSessionId := Nat
abbrev SaveAttemptId := Nat
abbrev ClipId := Nat
abbrev MatchId := Nat
abbrev AnalysisRunId := Nat
abbrev RoundId := Nat
abbrev ReceiptId := Nat
abbrev RatingVectorId := Nat
abbrev ImportJobId := Nat
abbrev LiveCandidateId := Nat
abbrev ReconciliationId := Nat
abbrev ManualFlagId := Nat

inductive Availability
  | expected
  | present
  | missing
  | deleted
  deriving DecidableEq, Repr

-- A path in the store: of a committed artifact, of one in quarantine, of a file in the tree of the
-- artifacts that is named by its digest but not in the directory of the digest, of a file in the
-- tree that has another name, and of a file elsewhere. The directories and names of the last three
-- are numbered.
inductive ArtifactPath
  | committed (sha256 : Digest) (extension : List Char)
  | quarantined (sha256 : Digest) (file : Nat)
  | misplaced (directory : Nat) (sha256 : Digest) (extension : List Char)
  | misnamed (directory file : Nat)
  | outside (file : Nat)
  deriving DecidableEq, Repr

structure ArtifactRow where
  sha256          : Digest
  relativePath    : Option ArtifactPath
  byteLength      : Int
  mediaType       : Option String
  availability    : Availability
  createdAtMs     : Int
  missingReason   : Option String
  mediaDurationMs : Option Int := none
  deletedAtMs     : Option Int := none
  deriving DecidableEq, Repr

structure CaptureSessionRow where
  id           : CaptureSessionId
  localSteamId : SteamId
  startedAtMs  : Int
  status       : String
  deriving DecidableEq, Repr

inductive SaveAttemptStatus
  | requested
  | acknowledged
  | saved
  | failed
  deriving DecidableEq, Repr

structure SaveAttemptRow where
  id                     : SaveAttemptId
  recorderRequestId      : String
  captureSessionId       : CaptureSessionId
  requestedMonotonicNs   : Int
  status                 : SaveAttemptStatus
  acknowledgementCount   : Int
  verifiedArtifactSha256 : Option Digest
  actualStartMonotonicNs : Option Int
  actualEndMonotonicNs   : Option Int
  errorCode              : Option String
  deriving DecidableEq, Repr

inductive OriginKind
  | auto
  | manual
  deriving DecidableEq, Repr

inductive ClipReviewDecision
  | pending
  | keep
  | reject
  deriving DecidableEq, Repr

structure ClipRow where
  id               : ClipId
  artifactSha256   : Digest
  captureSessionId : CaptureSessionId
  disposition      : String
  provenance       : String
  createdAtMs      : Int
  originKind       : Option OriginKind := none
  manualFlagTimeMs : Option Int := none
  reviewRevision   : Option Int := none
  title            : Option String := none
  favorite         : Bool := false
  note             : Option String := none
  reviewDecision   : ClipReviewDecision := .pending
  reviewedAtMs     : Option Int := none
  deletedAtMs      : Option Int := none
  recordedAtMs     : Int := 0
  preRollTruncated : Bool := false
  retentionClass   : String := "provisional"
  deriving DecidableEq, Repr

structure ClipTagRow where
  clipId   : ClipId
  position : Int
  tag      : String
  deriving DecidableEq, Repr

structure ClipDerivationRow where
  derivedClipId : ClipId
  sourceClipId  : ClipId
  operation     : String
  trimStartMs   : Option Int
  trimEndMs     : Option Int
  createdAtMs   : Int
  deriving DecidableEq, Repr

inductive OriginReceiptKind
  | trigger
  | evidence
  | manualFlag
  | overlappingAuto
  deriving DecidableEq, Repr

structure ClipOriginRow where
  clipId    : ClipId
  kind      : OriginReceiptKind
  position  : Int
  receiptId : String
  deriving DecidableEq, Repr

structure SaveAttemptClipRow where
  saveAttemptId : SaveAttemptId
  clipId        : ClipId
  deriving DecidableEq, Repr

inductive MatchStatus
  | imported
  | parsed
  | quarantined
  | deleted
  deriving DecidableEq, Repr

structure MatchRow where
  id             : MatchId
  demoSha256     : Digest
  localSteamId   : SteamId
  mapName        : Option String
  importedAtMs   : Int
  canonicalRunId : Option AnalysisRunId
  status         : MatchStatus
  deriving DecidableEq, Repr

structure AnalysisIdentity where
  parserCommit            : String
  parserBuild             : String
  generatedProtoBuild     : String
  requestedSchemaHash     : String
  metricDefinitionVersion : String
  formulaId               : String
  evidenceSemanticsEpoch  : String
  deriving DecidableEq, Repr

inductive RunStatus
  | running
  | succeeded
  | failed
  deriving DecidableEq, Repr

structure AnalysisRunRow where
  id          : AnalysisRunId
  matchId     : MatchId
  identity    : AnalysisIdentity
  status      : RunStatus
  createdAtMs : Int
  deriving DecidableEq, Repr

inductive Winner
  | T
  | CT
  deriving DecidableEq, Repr

structure RoundRow where
  id            : RoundId
  analysisRunId : AnalysisRunId
  roundNumber   : Int
  endTick       : Int
  winner        : Option Winner
  deriving DecidableEq, Repr

inductive ReconciliationStatus
  | confirmed
  | unconfirmed
  | rejected
  deriving DecidableEq, Repr

structure ReconciliationRow where
  id            : ReconciliationId
  candidateId   : LiveCandidateId
  analysisRunId : AnalysisRunId
  roundId       : Option RoundId
  status        : ReconciliationStatus
  reasonCode    : String
  decidedAtMs   : Int
  matchId       : Option MatchId
  receiptId     : Option ReceiptId
  deriving DecidableEq, Repr

structure GsiSnapshotRow where
  sha256           : Digest
  captureSessionId : CaptureSessionId
  arrivalOrdinal   : Int
  receivedAtMs     : Int
  fieldPresence    : String
  byteLength       : Int
  listenerVersion  : String
  deriving DecidableEq, Repr

structure LiveCandidateRow where
  id                         : LiveCandidateId
  captureSessionId           : CaptureSessionId
  ruleVersion                : String
  observedKind               : String
  observedMap                : Option String
  observedRound              : Option Int
  firstTransitionMonotonicNs : Int
  lastTransitionMonotonicNs  : Int
  candidateStartMonotonicNs  : Int
  candidateEndMonotonicNs    : Int
  status                     : String
  deriving DecidableEq, Repr

structure CandidateTriggerRow where
  candidateId           : LiveCandidateId
  snapshotSha256        : Digest
  transitionOrdinal     : Int
  transitionKind        : String
  transitionMonotonicNs : Int
  deriving DecidableEq, Repr

structure CandidateSaveRow where
  candidateId             : LiveCandidateId
  saveAttemptId           : SaveAttemptId
  desiredStartMonotonicNs : Int
  desiredEndMonotonicNs   : Int
  deriving DecidableEq, Repr

structure ManualFlagRow where
  id                 : ManualFlagId
  captureSessionId   : CaptureSessionId
  flaggedMonotonicNs : Int
  createdAtMs        : Int
  deriving DecidableEq, Repr

structure ManualFlagSaveRow where
  manualFlagId            : ManualFlagId
  saveAttemptId           : SaveAttemptId
  desiredStartMonotonicNs : Int
  desiredEndMonotonicNs   : Int
  deriving DecidableEq, Repr

structure PlayerRow where
  steamId       : SteamId
  displayName   : Option String
  firstSeenAtMs : Int
  lastSeenAtMs  : Int
  deriving DecidableEq, Repr

structure MatchPlayerRow where
  matchId             : MatchId
  steamId             : SteamId
  participationStatus : String
  deriving DecidableEq, Repr

-- The JSON texts of a receipt, by what they are made of.
inductive RawPayload
  | roundLedger (eligible : Bool) (exclusion : Option Analysis.RoundExclusion)
    (evidence : List String)
  | rating (ratingBp : Nat) (metrics : Domain.RatingMetrics) (demoSha256 : Digest)
  | component (numerator denominator : Int)
  | unavailable (reason : Analysis.AnalysisUnavailable) (sourceSha256 : String)
  deriving DecidableEq, Repr

inductive Parameters
  | formula (id : String)
  | scale (unit : String)
  | weight (numerator denominator : Int)
  deriving DecidableEq, Repr

structure ReceiptRow where
  id                  : ReceiptId
  analysisRunId       : AnalysisRunId
  roundId             : Option RoundId
  metricKey           : String
  eventTick           : Option Int
  ingestionOrdinal    : Option Int
  participantSteamIds : List SteamId
  rawPayload          : RawPayload
  parameters          : Parameters
  deriving DecidableEq, Repr

structure RoundMetricRow where
  analysisRunId : AnalysisRunId
  roundId       : RoundId
  steamId       : SteamId
  metricKey     : String
  numerator     : Int
  denominator   : Int
  receiptId     : Option ReceiptId
  deriving DecidableEq, Repr

structure RatingVectorRow where
  id            : RatingVectorId
  analysisRunId : AnalysisRunId
  steamId       : SteamId
  formulaId     : String
  ratingBp      : Int
  receiptId     : ReceiptId
  deriving DecidableEq, Repr

structure RatingComponentRow where
  ratingVectorId : RatingVectorId
  componentKey   : Domain.ComponentKind
  numerator      : Int
  denominator    : Int
  valueBp        : Int
  weightBp       : Int
  receiptId      : ReceiptId
  deriving DecidableEq, Repr

-- The reason is stored as its debug text.
structure UnavailableRatingRow where
  analysisRunId : AnalysisRunId
  steamId       : SteamId
  formulaId     : String
  reasonCode    : Analysis.AnalysisUnavailable
  receiptId     : ReceiptId
  deriving DecidableEq, Repr

inductive ImportPhase
  | queued
  | leased
  | succeeded
  | failed
  | cancelled
  deriving DecidableEq, Repr

structure ImportJobRow where
  id               : ImportJobId
  demoSha256       : Digest
  status           : ImportPhase
  progressBp       : Int
  bytesDone        : Option Int
  bytesTotal       : Option Int
  workPhase        : Option String
  framesDone       : Option Int
  eventsEmitted    : Option Int
  heartbeatAtMs    : Option Int
  leaseOwner       : Option String
  leaseExpiresAtMs : Option Int
  errorCode        : Option String
  remediationCode  : Option String
  diagnosticJson   : Option ParseDiagnostic
  nextRetryAtMs    : Option Int
  retryBudget      : Int
  createdAtMs      : Int
  updatedAtMs      : Int
  deriving DecidableEq, Repr

inductive AttemptStatus
  | running
  | succeeded
  | failed
  deriving DecidableEq, Repr

structure ImportAttemptRow where
  importJobId     : ImportJobId
  attemptNumber   : Nat
  startedAtMs     : Int
  finishedAtMs    : Option Int
  status          : AttemptStatus
  errorCode       : Option String
  remediationCode : Option String
  diagnosticJson  : Option ParseDiagnostic
  deriving DecidableEq, Repr

structure Database where
  artifacts                : List ArtifactRow
  captureSessions          : List CaptureSessionRow
  recorderSaveAttempts     : List SaveAttemptRow
  clips                    : List ClipRow
  saveAttemptClips         : List SaveAttemptClipRow
  clipOriginReceipts       : List ClipOriginRow
  clipTags                 : List ClipTagRow
  clipDerivations          : List ClipDerivationRow
  matchTable               : List MatchRow
  analysisRuns             : List AnalysisRunRow
  rounds                   : List RoundRow
  candidateReconciliations : List ReconciliationRow
  gsiSnapshots             : List GsiSnapshotRow
  liveCandidates           : List LiveCandidateRow
  candidateTriggers        : List CandidateTriggerRow
  candidateSaves           : List CandidateSaveRow
  manualFlags              : List ManualFlagRow
  manualFlagSaves          : List ManualFlagSaveRow
  players                  : List PlayerRow
  matchPlayers             : List MatchPlayerRow
  receipts                 : List ReceiptRow
  roundPlayerMetrics       : List RoundMetricRow
  ratingVectors            : List RatingVectorRow
  ratingComponents         : List RatingComponentRow
  unavailableRatings       : List UnavailableRatingRow
  importJobs               : List ImportJobRow
  importAttempts           : List ImportAttemptRow
  deriving DecidableEq

-- The constraints of the schema, with the columns that they are about.
inductive Constraint
  | unique (columns : String)
  | foreignKey (column : String)
  | check (condition : String)
  | raise (message : String)
  | noRows
  deriving DecidableEq, Repr

inductive Error
  | database (constraint : Constraint)
  | invalid (what : String)
  | notFound (what : String)
  | illegalTransition (what : String)
  | conflict (what : String)
  | unavailable (what : String)
  | io (what : String)
  deriving DecidableEq, Repr

def ensure (c : Prop) [Decidable c] (error : Error) : Except Error Unit :=
  if c then pure () else throw error

@[simp]
theorem ensure_eq_ok_iff {c : Prop} [Decidable c] {error : Error} {u : Unit} :
    ensure c error = .ok u ↔ c := by
  unfold ensure
  split <;> simp_all [pure, Except.pure, throw, throwThe, MonadExceptOf.throw]

namespace Database

def empty : Database where
  artifacts                := []
  captureSessions          := []
  recorderSaveAttempts     := []
  clips                    := []
  saveAttemptClips         := []
  clipOriginReceipts       := []
  clipTags                 := []
  clipDerivations          := []
  matchTable               := []
  analysisRuns             := []
  rounds                   := []
  candidateReconciliations := []
  gsiSnapshots             := []
  liveCandidates           := []
  candidateTriggers        := []
  candidateSaves           := []
  manualFlags              := []
  manualFlagSaves          := []
  players                  := []
  matchPlayers             := []
  receipts                 := []
  roundPlayerMetrics       := []
  ratingVectors            := []
  ratingComponents         := []
  unavailableRatings       := []
  importJobs               := []
  importAttempts           := []

end Database

end Storage
