import OpenFrag.Domain.Baseline

namespace Domain

structure Goal where
  id                 : String
  createdAtUtcMs     : UInt64
  series             : CalculationSeriesIdentity
  field              : BaselineField
  scope              : BaselineScope
  target             : Rational
  baselineDemoHashes : List String
  cancelled          : Bool
  deriving DecidableEq

namespace Goal

def rating (goalId : String) (createdAtUtcMs : UInt64) (series : CalculationSeriesIdentity)
    (scope : BaselineScope) (target : RatingBasisPoints) (baselineDemoHashes : List String) :
    Goal where
  id        := goalId
  createdAtUtcMs
  series
  field     := .rating
  scope
  target    := target.exact
  baselineDemoHashes
  cancelled := false

def component (goalId : String) (createdAtUtcMs : UInt64) (series : CalculationSeriesIdentity)
    (scope : BaselineScope) (component : ComponentKind) (target : UnitInterval)
    (baselineDemoHashes : List String) : Goal where
  id        := goalId
  createdAtUtcMs
  series
  field     := .component component
  scope
  target    := target.exact
  baselineDemoHashes
  cancelled := false

-- The cohort of a goal has no end: the cutoff is the greatest time.
def query (goal : Goal) : BaselineQuery where
  series           := goal.series
  cutoffStartUtcMs := UInt64.ofNat (2 ^ 64 - 1)
  field            := goal.field
  scope            := goal.scope

end Goal

inductive GoalStatus
  | inProgress (selected required : Nat)
  | achieved
  | notAchieved
  | cancelled
  | versionChanged
  deriving DecidableEq, Repr

structure GoalReceipt where
  goalId             : String
  status             : GoalStatus
  selectedMatchIds   : List String
  selectedDemoHashes : List String
  exclusions         : List CohortExclusion
  evaluationMedian   : Option Rational
  deriving DecidableEq

structure GoalCandidate where
  item     : HistoryMatch
  interval : MatchInterval
  value    : Rational
  deriving DecidableEq

def GoalCandidate.key (c : GoalCandidate) : ℕ ×ₗ ℕ ×ₗ String :=
  startKey c.item c.interval

def GoalCandidate.demoHash (c : GoalCandidate) : String :=
  c.item.demoHash

-- One round of the loop over the history: a match without an interval leaves no trace.
def Goal.judge (goal : Goal) (item : HistoryMatch) :
    Option (Except CohortExclusionReason GoalCandidate) :=
  match cohortReason item goal.query with
  | some reason => some (.error reason)
  | none =>
    item.interval.map fun interval =>
      if interval.startUtcMs ≤ goal.createdAtUtcMs then
        .error .currentOrFutureMatch
      else
        match matchValue item goal.field with
        | some value => .ok { item, interval, value }
        | none       => .error .missingCanonicalValue

def Goal.candidates (goal : Goal) (history : List HistoryMatch) : List GoalCandidate :=
  history.filterMap fun item => (goal.judge item).bind (·.toOption)

def Goal.exclusions (goal : Goal) (history : List HistoryMatch) : List CohortExclusion :=
  history.filterMap fun item =>
    match goal.judge item with
    | some (.error reason) => some ⟨item.matchId, reason⟩
    | _                    => none

def emptyGoalReceipt (goal : Goal) (status : GoalStatus) : GoalReceipt where
  goalId             := goal.id
  status
  selectedMatchIds   := []
  selectedDemoHashes := []
  exclusions         := []
  evaluationMedian   := none

def evaluationMedian (values : List Rational) : Except BaselineError (Option Rational) :=
  if values.isEmpty then .ok none else some <$> median values

def Goal.statusOf (goal : Goal) (selected : Nat) (evaluationMedian : Option Rational) : GoalStatus :=
  if selected < goalEvaluationMatches then
    .inProgress selected goalEvaluationMatches
  else if evaluationMedian.any fun value => goal.target.le value then
    .achieved
  else
    .notAchieved

def evaluateGoal (goal : Goal) (activeSeries : CalculationSeriesIdentity)
    (history : List HistoryMatch) : Except BaselineError GoalReceipt :=
  if goal.cancelled then
    .ok (emptyGoalReceipt goal .cancelled)
  else if goal.series ≠ activeSeries then
    .ok (emptyGoalReceipt goal .versionChanged)
  else do
    let (kept, dropped) := List.keepFirst GoalCandidate.demoHash []
      ((goal.candidates history).ranked GoalCandidate.key)
    let selected := kept.take goalEvaluationMatches
    let median ← evaluationMedian (selected.map (·.value))
    return {
      goalId             := goal.id
      status             := goal.statusOf selected.length median
      selectedMatchIds   := selected.map (·.item.matchId)
      selectedDemoHashes := selected.map (·.item.demoHash)
      exclusions         := goal.exclusions history ++
        dropped.map fun c => ⟨c.item.matchId, .duplicateDemo⟩
      evaluationMedian   := median }

end Domain
