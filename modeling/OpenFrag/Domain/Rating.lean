import OpenFrag.Domain.Exact

namespace Domain

def OFR_V1_FORMULA : String := "ofr-1.0.0"

structure CalculationIdentity where
  demoHash                : String
  parserCommit            : String
  parserBuild             : String
  generatedProtoBuild     : String
  requestedSchemaHash     : String
  metricDefinitionVersion : String
  evidenceSemanticsEpoch  : String
  deriving DecidableEq, Repr

inductive ComponentKind
  | directDamage
  | fragBalance
  | openingDuels
  | tradeKills
  | utility
  | clutchConversion
  deriving DecidableEq, Repr

structure ComponentVector where
  directDamage     : UnitInterval
  fragBalance      : UnitInterval
  openingDuels     : UnitInterval
  tradeKills       : UnitInterval
  utility          : UnitInterval
  clutchConversion : UnitInterval
  deriving DecidableEq

def ComponentVector.get (v : ComponentVector) : ComponentKind → UnitInterval
  | .directDamage     => v.directDamage
  | .fragBalance      => v.fragBalance
  | .openingDuels     => v.openingDuels
  | .tradeKills       => v.tradeKills
  | .utility          => v.utility
  | .clutchConversion => v.clutchConversion

structure RatingMetrics where
  eligibleRounds      : UInt32
  directDamage        : UInt32
  kills               : UInt32
  deaths              : UInt32
  openingWins         : UInt32
  openingLosses       : UInt32
  tradeKills          : UInt32
  utilityDamage       : UInt32
  flashAssists        : UInt32
  clutchWins          : UInt32
  clutchOpportunities : UInt32
  deriving DecidableEq, Repr

structure MatchIrregularities where
  missedLiveRound                : Bool
  rosterImbalanced               : Bool
  surrender                      : Bool
  forfeitWithoutCanonicalWinner  : Bool
  overtime                       : Bool
  deriving DecidableEq, Repr

inductive EvidenceFailure
  | missingRequiredStream
  | malformedEvent
  | contradictoryAttribution
  | failedReconciliation
  deriving DecidableEq, Repr

inductive RequiredEvidenceKind
  | eligibleRoundLedger
  | excludedRoundLedger
  | directDamage
  | fragBalance
  | openingDuels
  | tradeKills
  | utility
  | clutchConversion
  deriving DecidableEq, Repr

structure ReceiptEvidenceSet where
  ids : List String
  deriving DecidableEq, Repr

structure RatingEvidenceBundle where
  eligibleRoundLedger : ReceiptEvidenceSet
  excludedRoundLedger : ReceiptEvidenceSet
  directDamage        : ReceiptEvidenceSet
  fragBalance         : ReceiptEvidenceSet
  openingDuels        : ReceiptEvidenceSet
  tradeKills          : ReceiptEvidenceSet
  utility             : ReceiptEvidenceSet
  clutchConversion    : ReceiptEvidenceSet
  deriving DecidableEq, Repr

namespace RatingEvidenceBundle

def get (b : RatingEvidenceBundle) : RequiredEvidenceKind → ReceiptEvidenceSet
  | .eligibleRoundLedger => b.eligibleRoundLedger
  | .excludedRoundLedger => b.excludedRoundLedger
  | .directDamage        => b.directDamage
  | .fragBalance         => b.fragBalance
  | .openingDuels        => b.openingDuels
  | .tradeKills          => b.tradeKills
  | .utility             => b.utility
  | .clutchConversion    => b.clutchConversion

-- The order in which the evidence of a rating is required.
def requiredEvidence : List RequiredEvidenceKind := [
  .eligibleRoundLedger,
  .excludedRoundLedger,
  .directDamage,
  .fragBalance,
  .openingDuels,
  .tradeKills,
  .utility,
  .clutchConversion
]

def firstMissing (b : RatingEvidenceBundle) : Option RequiredEvidenceKind :=
  requiredEvidence.find? fun kind => (b.get kind).ids.isEmpty

def componentEvidence (b : RatingEvidenceBundle) : ComponentKind → ReceiptEvidenceSet
  | .directDamage     => b.directDamage
  | .fragBalance      => b.fragBalance
  | .openingDuels     => b.openingDuels
  | .tradeKills       => b.tradeKills
  | .utility          => b.utility
  | .clutchConversion => b.clutchConversion

end RatingEvidenceBundle

structure RatingInput where
  identity        : CalculationIdentity
  gameBuild       : String
  metrics         : RatingMetrics
  irregularities  : MatchIrregularities
  evidenceFailure : Option EvidenceFailure
  evidence        : RatingEvidenceBundle
  deriving DecidableEq, Repr

inductive UnavailableReason
  | insufficientEligibleRounds (observed required : UInt32)
  | evidence (failure : EvidenceFailure)
  | missingRequiredEvidence (kind : RequiredEvidenceKind)
  | forfeitWithoutCanonicalWinner
  deriving DecidableEq, Repr

inductive PreviewReason
  | shortSample (observed trendRequired : UInt32)
  | missedLiveRound
  | surrender
  deriving DecidableEq, Repr

inductive TrendExclusionReason
  | preview
  | rosterImbalanced
  | unavailable
  deriving DecidableEq, Repr

inductive RatingStatus
  | unavailable (reason : UnavailableReason)
  | preview (reasons : List PreviewReason)
  | rated
  deriving DecidableEq, Repr

structure ComponentReceipt where
  kind             : ComponentKind
  exactNumerator   : Int
  exactDenominator : Int
  weight           : Rational
  evidenceIds      : List String
  deriving DecidableEq

structure RatingReceipt where
  identity          : CalculationIdentity
  gameBuild         : String
  inputs            : RatingMetrics
  irregularities    : MatchIrregularities
  evidence          : RatingEvidenceBundle
  status            : RatingStatus
  trendExclusions   : List TrendExclusionReason
  components        : Option ComponentVector
  componentReceipts : Option (List ComponentReceipt)
  ratingExact       : Option Rational
  ratingBp          : Option RatingBasisPoints
  deriving DecidableEq

def RatingReceipt.trendEligible (r : RatingReceipt) : Bool :=
  r.status = .rated && r.trendExclusions.isEmpty

inductive RatingInputError
  | clutchWinsExceedOpportunities
  | exact (error : ExactError)
  deriving DecidableEq, Repr

open Rational in
def componentReceipts (components : ComponentVector) (evidence : RatingEvidenceBundle) :
    Except ExactError (List ComponentReceipt) := do
  let definitions := [
    (ComponentKind.directDamage, ← new 3 10),
    (.fragBalance, ← new 3 10),
    (.openingDuels, ← new 3 20),
    (.tradeKills, ← new 1 10),
    (.utility, ← new 1 10),
    (.clutchConversion, ← new 1 20)
  ]
  return definitions.map fun (kind, weight) => {
    kind
    exactNumerator := (components.get kind).exact.numerator
    exactDenominator := (components.get kind).exact.denominator
    weight
    evidenceIds := (evidence.componentEvidence kind).ids
  }

-- A share of observed opportunities, neutral when there was none.
def neutralRatio (won total : Int) : Except ExactError UnitInterval := do
  if total = 0 then
    UnitInterval.new .HALF
  else
    UnitInterval.new (← Rational.new won total)

open Rational in
def componentVector (metrics : RatingMetrics) : Except ExactError ComponentVector := do
  let rounds : Int := metrics.eligibleRounds.toNat
  let directDamage := UnitInterval.clamped (← new metrics.directDamage.toNat (160 * rounds))
  let fragDelta : Int := metrics.kills.toNat - metrics.deaths.toNat
  let fragBalance := UnitInterval.clamped (← HALF.checkedAdd (← new fragDelta (2 * rounds)))
  let openingTotal : Int := metrics.openingWins.toNat + metrics.openingLosses.toNat
  let openingDuels ← neutralRatio metrics.openingWins.toNat openingTotal
  let tradeKills := UnitInterval.clamped (← new (2 * metrics.tradeKills.toNat) rounds)
  let utilityDamage := UnitInterval.clamped (← new metrics.utilityDamage.toNat (30 * rounds))
  let flashAssists := UnitInterval.clamped (← new (2 * metrics.flashAssists.toNat) rounds)
  let utility ← UnitInterval.new
    (← (← utilityDamage.exact.checkedMul (← new 7 10)).checkedAdd
      (← flashAssists.exact.checkedMul (← new 3 10)))
  let clutchConversion ← neutralRatio metrics.clutchWins.toNat metrics.clutchOpportunities.toNat
  return {
    directDamage, fragBalance, openingDuels, tradeKills, utility, clutchConversion
  }

open Rational in
def weightedRating (components : ComponentVector) : Except ExactError Rational := do
  let weighted ← components.directDamage.exact.checkedMul (← new 3 10)
  let weighted ← weighted.checkedAdd (← components.fragBalance.exact.checkedMul (← new 3 10))
  let weighted ← weighted.checkedAdd (← components.openingDuels.exact.checkedMul (← new 3 20))
  let weighted ← weighted.checkedAdd (← components.tradeKills.exact.checkedMul (← new 1 10))
  let weighted ← weighted.checkedAdd (← components.utility.exact.checkedMul (← new 1 10))
  let weighted ← weighted.checkedAdd (← components.clutchConversion.exact.checkedMul (← new 1 20))
  weighted.checkedMul (fromInteger 2 signed_two)

-- The rounding of the exact rating to basis points, with the conversion to `u16`.
def basisPoints (ratingExact : Rational) : Except ExactError RatingBasisPoints := do
  let rounded ← (← ratingExact.checkedMul (.fromInteger 10000 (by decide))).roundHalfUpNonnegative
  if 0 ≤ rounded ∧ rounded < 2 ^ 16 then
    RatingBasisPoints.new rounded.toNat
  else
    .error .outsideRatingRange

def unavailableReason (input : RatingInput) : Option UnavailableReason :=
  match input.evidence.firstMissing with
  | some kind => some (.missingRequiredEvidence kind)
  | none =>
    match input.evidenceFailure with
    | some failure => some (.evidence failure)
    | none =>
      if input.irregularities.forfeitWithoutCanonicalWinner then
        some .forfeitWithoutCanonicalWinner
      else if input.metrics.eligibleRounds < 8 then
        some (.insufficientEligibleRounds input.metrics.eligibleRounds 8)
      else
        none

def previewReasons (input : RatingInput) : List PreviewReason :=
  (if input.metrics.eligibleRounds < 12 then
    [.shortSample input.metrics.eligibleRounds 12] else []) ++
  (if input.irregularities.missedLiveRound then [.missedLiveRound] else []) ++
  (if input.irregularities.surrender then [.surrender] else [])

def trendExclusions (input : RatingInput) : List TrendExclusionReason :=
  (if previewReasons input ≠ [] then [.preview] else []) ++
  (if input.irregularities.rosterImbalanced then [.rosterImbalanced] else [])

def calculateRating (input : RatingInput) : Except RatingInputError RatingReceipt := do
  if input.metrics.clutchWins > input.metrics.clutchOpportunities then
    throw .clutchWinsExceedOpportunities
  match unavailableReason input with
  | some reason =>
    return {
      identity := input.identity
      gameBuild := input.gameBuild
      inputs := input.metrics
      irregularities := input.irregularities
      evidence := input.evidence
      status := .unavailable reason
      trendExclusions := [.unavailable]
      components := none
      componentReceipts := none
      ratingExact := none
      ratingBp := none
    }
  | none =>
    let components ← (componentVector input.metrics).mapError .exact
    let componentReceipts ← (componentReceipts components input.evidence).mapError .exact
    let ratingExact ← (weightedRating components).mapError .exact
    let ratingBp ← (basisPoints ratingExact).mapError .exact
    return {
      identity := input.identity
      gameBuild := input.gameBuild
      inputs := input.metrics
      irregularities := input.irregularities
      evidence := input.evidence
      status := if previewReasons input = [] then .rated else .preview (previewReasons input)
      trendExclusions := trendExclusions input
      components := some components
      componentReceipts := some componentReceipts
      ratingExact := some ratingExact
      ratingBp := some ratingBp
    }

end Domain
