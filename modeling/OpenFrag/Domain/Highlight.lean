import Mathlib.Data.String.Basic
import OpenFrag.Library.Ascending
import OpenFrag.Library.MachineInt

namespace Domain

def candidateMergeGapMs : Nat := 10000
def replayBufferMs : Nat := 60000
def autoPostRollMs : Nat := 10000
def desiredPreRollMs : Nat := 15000

structure TimeRange where
  startMs : Nat
  endMs   : Nat
  deriving DecidableEq, Repr

def TimeRange.overlaps (r r' : TimeRange) : Bool :=
  r.startMs ≤ r'.endMs && r'.startMs ≤ r.endMs

inductive CandidateTrigger
  | killMilestone
  | possibleKnife
  | officialRoundEndCapture
  deriving DecidableEq, Repr

namespace CandidateTrigger

def index : CandidateTrigger → Nat
  | killMilestone           => 0
  | possibleKnife           => 1
  | officialRoundEndCapture => 2

theorem index_injective : Function.Injective index := by
  intro t t'
  cases t <;> cases t' <;> simp [index]

instance : LinearOrder CandidateTrigger :=
  LinearOrder.lift' index index_injective

end CandidateTrigger

def liveKillTrigger (localIdentityValid : Bool) (roundKills : Nat) : Option CandidateTrigger :=
  if localIdentityValid && roundKills ≥ 3 then some .killMilestone else none

-- The sets are in ascending order.
structure HighlightCandidate where
  captureSessionId    : String
  roundId             : String
  ruleVersion         : String
  range               : TimeRange
  contributorStartsMs : List Nat
  triggers            : List CandidateTrigger
  receiptIds          : List String
  deriving DecidableEq, Repr

inductive HighlightError
  | reversedRange
  deriving DecidableEq, Repr

namespace HighlightCandidate

def new (captureSessionId roundId : String) (range : TimeRange) (trigger : CandidateTrigger)
    (receiptId : String) : Except HighlightError HighlightCandidate :=
  if range.startMs > range.endMs then
    .error .reversedRange
  else
    .ok {
      captureSessionId, roundId, range
      ruleVersion         := "highlight-rules-1"
      contributorStartsMs := [range.startMs]
      triggers            := [trigger]
      receiptIds          := [receiptId] }

def canMerge (c c' : HighlightCandidate) : Bool :=
  if c.captureSessionId ≠ c'.captureSessionId || c.roundId ≠ c'.roundId ||
      c.ruleVersion ≠ c'.ruleVersion then
    false
  else
    c.range.overlaps c'.range ||
      c.contributorStartsMs.any fun l =>
        c'.contributorStartsMs.any fun r => (l - r) + (r - l) ≤ candidateMergeGapMs

def merged (c c' : HighlightCandidate) : HighlightCandidate :=
  { c with
    range := {
      startMs := min c.range.startMs c'.range.startMs
      endMs   := max c.range.endMs c'.range.endMs }
    contributorStartsMs := (c.contributorStartsMs ++ c'.contributorStartsMs).ascending
    triggers            := (c.triggers ++ c'.triggers).ascending
    receiptIds          := (c.receiptIds ++ c'.receiptIds).ascending }

end HighlightCandidate

def candidateOrder (left right : HighlightCandidate) : Ordering :=
  (compare left.captureSessionId right.captureSessionId).then <|
  (compare left.roundId right.roundId).then <|
  (compare left.ruleVersion right.ruleVersion).then <|
  (compare left.range.startMs right.range.startMs).then <|
  (compare left.range.endMs right.range.endMs).then <|
  compare left.receiptIds right.receiptIds

def sortCandidates (candidates : List HighlightCandidate) : List HighlightCandidate :=
  candidates.mergeSort fun left right => (candidateOrder left right).isLE

-- The first candidate with the property, and the others.
def takeFirst (p : HighlightCandidate → Bool) :
    List HighlightCandidate → Option (HighlightCandidate × List HighlightCandidate)
  | []      => none
  | c :: cs => if p c then some (c, cs) else (takeFirst p cs).map fun (c', rest) => (c', c :: rest)

-- The first two candidates that can merge, and the others.
def mergePair : List HighlightCandidate →
    Option (HighlightCandidate × HighlightCandidate × List HighlightCandidate)
  | []      => none
  | c :: cs =>
    match takeFirst c.canMerge cs with
    | some (c', rest) => some (c, c', rest)
    | none            => (mergePair cs).map fun (l, r, rest) => (l, r, c :: rest)

-- Each round of the loop leaves one candidate less.
def mergeLoop : Nat → List HighlightCandidate → List HighlightCandidate
  | 0, cs          => cs
  | rounds + 1, cs =>
    match mergePair cs with
    | none              => cs
    | some (l, r, rest) => mergeLoop rounds (sortCandidates (rest ++ [l.merged r]))

def mergeCandidates (candidates : List HighlightCandidate) : List HighlightCandidate :=
  let candidates := (sortCandidates candidates).eraseReps
  mergeLoop candidates.length candidates

inductive FinalHighlightLabel
  | multikill
  | fourKill
  | ace
  | clutch
  | knife
  deriving DecidableEq, Repr

structure DemoHighlightEvidence where
  enemyKills            : Nat
  clutchOpponentsAtStart : Option Nat
  teamWonRound          : Bool
  enemyKnifeKill        : Bool
  deriving DecidableEq, Repr

-- The set of labels, in the order of their declaration.
def finalLabels (evidence : DemoHighlightEvidence) : List FinalHighlightLabel :=
  (if evidence.enemyKills ≥ 5 then [.ace]
    else if evidence.enemyKills = 4 then [.fourKill]
    else if evidence.enemyKills = 3 then [.multikill]
    else []) ++
  (if evidence.teamWonRound && evidence.clutchOpponentsAtStart.any (· ≥ 2) then [.clutch] else []) ++
  (if evidence.enemyKnifeKill then [.knife] else [])

structure CaptureWindow where
  requestedAtMs    : Nat
  desired          : TimeRange
  available        : TimeRange
  preRollTruncated : Bool
  deriving DecidableEq, Repr

inductive AutoCaptureDecision
  | awaitingRoundEnd
  | save (window : CaptureWindow)
  deriving DecidableEq, Repr

def autoCaptureWindow (candidateStartMs : Nat) (roundEndMs : Option Nat)
    (recorderAvailableFromMs : Nat) : AutoCaptureDecision :=
  match roundEndMs with
  | none            => .awaitingRoundEnd
  | some roundEndMs =>
    let requestedAtMs := MachineInt.saturatingAdd 64 roundEndMs autoPostRollMs
    let desired := { startMs := candidateStartMs - desiredPreRollMs, endMs := requestedAtMs }
    let bufferStart := requestedAtMs - replayBufferMs
    let availableStart := max (max desired.startMs bufferStart) recorderAvailableFromMs
    .save {
      requestedAtMs, desired
      available        := { startMs := availableStart, endMs := requestedAtMs }
      preRollTruncated := availableStart > desired.startMs }

def manualCaptureWindow (flagMs recorderAvailableFromMs : Nat) : CaptureWindow :=
  let desired := { startMs := flagMs - desiredPreRollMs, endMs := flagMs }
  let availableStart := max desired.startMs recorderAvailableFromMs
  { requestedAtMs := flagMs
    desired
    available        := { startMs := availableStart, endMs := flagMs }
    preRollTruncated := availableStart > desired.startMs }

end Domain
