import Mathlib.Data.Prod.Lex
import Mathlib.Data.String.Basic
import Mathlib.Order.Basic
import OpenFrag.Library.Ranking
import OpenFrag.Domain.Rating

namespace Domain

def personalBaselinePolicy : String := "personal-baseline-1"
def baselineMinimumMatches : Nat := 10
def baselineWindowMatches : Nat := 20
def sessionGapMs : Nat := 90 * 60 * 1000
def goalEvaluationMatches : Nat := 10

structure CalculationSeriesIdentity where
  localPlayerId           : String
  parserCommit            : String
  parserBuild             : String
  generatedProtoBuild     : String
  requestedSchemaHash     : String
  metricDefinitionVersion : String
  evidenceSemanticsEpoch  : String
  deriving DecidableEq, Repr

structure MatchInterval where
  startUtcMs : UInt64
  endUtcMs   : UInt64
  deriving DecidableEq, Repr

inductive Side
  | terrorist
  | counterTerrorist
  deriving DecidableEq, Repr

structure SideComponentVector where
  components           : ComponentVector
  openingOpportunities : UInt32
  clutchOpportunities  : UInt32
  deriving DecidableEq

inductive MatchTrendExclusion
  | unavailable
  | preview
  | rosterImbalanced
  | evidenceRule
  deriving DecidableEq, Repr

inductive MapContext
  | known (map : String)
  | unknown
  deriving DecidableEq, Repr

-- The map from a side to its vector.
structure SideVectors where
  terrorist        : Option SideComponentVector
  counterTerrorist : Option SideComponentVector
  deriving DecidableEq

def SideVectors.get (v : SideVectors) : Side → Option SideComponentVector
  | .terrorist        => v.terrorist
  | .counterTerrorist => v.counterTerrorist

structure HistoryMatch where
  matchId          : String
  demoHash         : String
  calculationRunId : String
  series           : CalculationSeriesIdentity
  canonical        : Bool
  map              : MapContext
  interval         : Option MatchInterval
  rating           : Option RatingBasisPoints
  components       : Option ComponentVector
  sideVectors      : SideVectors
  trendExclusion   : Option MatchTrendExclusion
  deriving DecidableEq

inductive BaselineField
  | rating
  | component (kind : ComponentKind)
  deriving DecidableEq, Repr

inductive BaselineScope
  | allMaps
  | map (map : String)
  deriving DecidableEq, Repr

structure BaselineQuery where
  series           : CalculationSeriesIdentity
  cutoffStartUtcMs : UInt64
  field            : BaselineField
  scope            : BaselineScope
  deriving DecidableEq, Repr

inductive CohortExclusionReason
  | calculationSeriesMismatch
  | nonCanonicalRun
  | matchRule (reason : MatchTrendExclusion)
  | missingChronology
  | reversedChronology
  | currentOrFutureMatch
  | scopeMismatch
  | duplicateDemo
  | outsideRecentWindow
  | missingSideVector
  | missingCanonicalValue
  | unknownMap
  | overlappingChronology
  deriving DecidableEq, Repr

structure CohortExclusion where
  matchId : String
  reason  : CohortExclusionReason
  deriving DecidableEq, Repr

inductive BaselineMaturity
  | notReady (selected required : Nat)
  | limited (selected : Nat)
  | recent (selected : Nat)
  deriving DecidableEq, Repr

structure RobustStats where
  median : Rational
  mad    : Rational
  lower  : Rational
  upper  : Rational
  deriving DecidableEq

structure BaselineReceipt where
  policyVersion             : String
  query                     : BaselineQuery
  includedMatchIds          : List String
  includedDemoHashes        : List String
  includedCalculationRunIds : List String
  selectedValues            : List Rational
  exclusions                : List CohortExclusion
  maturity                  : BaselineMaturity
  stats                     : Option RobustStats
  deriving DecidableEq

inductive BaselineError
  | exact (error : ExactError)
  | emptyStatistics
  | sideRatingForbidden
  | mapSideScopeForbidden
  deriving DecidableEq, Repr

def ordered (values : List Rational) : List Rational :=
  values.insertionSort fun r s => r.le s

def median (values : List Rational) : Except BaselineError Rational :=
  let middle := (ordered values).length / 2
  if values = [] then
    .error .emptyStatistics
  else if (ordered values).length % 2 = 1 then
    .ok ((ordered values).getD middle .ZERO)
  else do
    let sum ← (((ordered values).getD (middle - 1) .ZERO).checkedAdd
      ((ordered values).getD middle .ZERO)).mapError .exact
    (sum.checkedDiv (.fromInteger 2 Rational.signed_two)).mapError .exact

def deviation (center value : Rational) : Except ExactError Rational := do
  (← value.checkedSub center).abs

def robustStats (values : List Rational) (minimum maximum : Rational) :
    Except BaselineError RobustStats := do
  let center ← median values
  let deviations ← (values.mapM (deviation center)).mapError .exact
  let mad ← median deviations
  let spread ← (mad.checkedMul (.fromInteger 2 Rational.signed_two)).mapError .exact
  let lower ← (center.checkedSub spread).mapError .exact
  let upper ← (center.checkedAdd spread).mapError .exact
  return {
    median := center
    mad
    lower := lower.clamp minimum maximum
    upper := upper.clamp minimum maximum }

def cohortReason (item : HistoryMatch) (query : BaselineQuery) : Option CohortExclusionReason :=
  if item.series ≠ query.series then
    some .calculationSeriesMismatch
  else if !item.canonical then
    some .nonCanonicalRun
  else
    match item.trendExclusion, item.interval with
    | some reason, _ => some (.matchRule reason)
    | none, none     => some .missingChronology
    | none, some interval =>
      if interval.startUtcMs > interval.endUtcMs then
        some .reversedChronology
      else if interval.endUtcMs > query.cutoffStartUtcMs then
        some .currentOrFutureMatch
      else
        match query.scope, item.map with
        | .allMaps, _           => none
        | .map map, .known map' => if map' = map then none else some .scopeMismatch
        | .map _, .unknown      => some .unknownMap

def RatingBasisPoints.exact (bp : RatingBasisPoints) : Rational :=
  .fromInteger bp.get (by have := bp.le_max; rw [MachineInt.signed_64]; omega)

def matchValue (item : HistoryMatch) : BaselineField → Option Rational
  | .rating         => item.rating.map (·.exact)
  | .component kind => item.components.map fun vector => (vector.get kind).exact

-- What a lens reads of a match: a value of the whole of it, or a component of one side.
inductive Lens
  | whole (field : BaselineField)
  | sideComponent (side : Side) (kind : ComponentKind)
  deriving DecidableEq, Repr

def Lens.of (field : BaselineField) : Option Side → Except BaselineError Lens
  | none => .ok (.whole field)
  | some side =>
    match field with
    | .component kind => .ok (.sideComponent side kind)
    | .rating         => .error .sideRatingForbidden

-- The value of a candidate, or why the match is none.
def Lens.judge (lens : Lens) (query : BaselineQuery) (item : HistoryMatch) :
    Except CohortExclusionReason Rational :=
  match cohortReason item query with
  | some reason => .error reason
  | none =>
    match lens with
    | .sideComponent side kind =>
      match item.sideVectors.get side with
      | some vector => .ok (vector.components.get kind).exact
      | none        => .error .missingSideVector
    | .whole field =>
      match matchValue item field with
      | some value => .ok value
      | none       => .error .missingCanonicalValue

def HistoryMatch.endKey (item : HistoryMatch) : ℕ ×ₗ String :=
  toLex ((item.interval.map (·.endUtcMs.toNat)).getD 0, item.demoHash)

def startKey (item : HistoryMatch) (interval : MatchInterval) : ℕ ×ₗ ℕ ×ₗ String :=
  toLex (interval.startUtcMs.toNat, toLex (interval.endUtcMs.toNat, item.demoHash))

abbrev Candidate := HistoryMatch × Rational

-- The latest candidates come first.
def Candidate.recency (c : Candidate) : (ℕ ×ₗ String)ᵒᵈ :=
  OrderDual.toDual c.1.endKey

def Candidate.demoHash (c : Candidate) : String :=
  c.1.demoHash

def excluded (reason : CohortExclusionReason) (c : Candidate) : CohortExclusion :=
  ⟨c.1.matchId, reason⟩

def maturityOf (selected : Nat) : BaselineMaturity :=
  if selected < baselineMinimumMatches then
    .notReady selected baselineMinimumMatches
  else if selected < baselineWindowMatches then
    .limited selected
  else
    .recent selected

def statsOf (field : BaselineField) (values : List Rational) :
    Except BaselineError (Option RobustStats) :=
  if values.length < baselineMinimumMatches then
    .ok none
  else
    let maximum := match field with
      | .rating      => .fromInteger 20000 (by decide)
      | .component _ => .ONE
    some <$> robustStats values .ZERO maximum

def finalizeBaseline (candidates : List Candidate) (exclusions : List CohortExclusion)
    (query : BaselineQuery) : Except BaselineError BaselineReceipt := do
  let (kept, dropped) := List.keepFirst Candidate.demoHash [] (candidates.ranked Candidate.recency)
  let candidates := kept.take baselineWindowMatches
  let exclusions := exclusions ++ dropped.map (excluded .duplicateDemo) ++
    (kept.drop baselineWindowMatches).map (excluded .outsideRecentWindow)
  let stats ← statsOf query.field (candidates.map (·.2))
  return {
    policyVersion             := personalBaselinePolicy
    query
    includedMatchIds          := candidates.map (·.1.matchId)
    includedDemoHashes        := candidates.map (·.1.demoHash)
    includedCalculationRunIds := candidates.map (·.1.calculationRunId)
    selectedValues            := candidates.map (·.2)
    exclusions
    maturity                  := maturityOf candidates.length
    stats }

def Lens.candidates (lens : Lens) (query : BaselineQuery) (history : List HistoryMatch) :
    List Candidate :=
  history.filterMap fun item => (lens.judge query item).toOption.map (item, ·)

def Lens.exclusions (lens : Lens) (query : BaselineQuery) (history : List HistoryMatch) :
    List CohortExclusion :=
  history.filterMap fun item =>
    match lens.judge query item with
    | .error reason => some ⟨item.matchId, reason⟩
    | .ok _         => none

def buildLens (history : List HistoryMatch) (query : BaselineQuery) (side : Option Side) :
    Except BaselineError BaselineReceipt := do
  let lens ← Lens.of query.field side
  finalizeBaseline (lens.candidates query history) (lens.exclusions query history) query

def buildBaseline (history : List HistoryMatch) (query : BaselineQuery) :
    Except BaselineError BaselineReceipt :=
  buildLens history query none

def buildSideComponentLens (history : List HistoryMatch) (query : BaselineQuery) (side : Side)
    (component : ComponentKind) : Except BaselineError BaselineReceipt :=
  if query.scope ≠ .allMaps then
    .error .mapSideScopeForbidden
  else
    buildLens history { query with field := .component component } (some side)

end Domain
