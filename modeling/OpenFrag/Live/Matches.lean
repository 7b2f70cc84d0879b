import Mathlib.Data.Finset.Card
import Mathlib.Data.Finset.Option
import OpenFrag.Library.Machine
import OpenFrag.Live.Run

open Gsi (EvidenceReceipt TransitionFact)

-- What the receipts of a run ask for: a capture of every round that ends, and a candidate for the
-- first three kills in a round of a match.
namespace Live

def observedRoundId (receipt : EvidenceReceipt) : Option String := do
  return roundId (← receipt.context.mapHash) (← receipt.context.observedRound)

def endedRound (receipt : EvidenceReceipt) : TransitionFact → List String
  | .roundEnd completed _ =>
    match receipt.context.mapHash, receipt.context.observedRound with
    | some mapHash, some _ => [roundId mapHash completed]
    | _, _                 => []
  | _ => []

def endedRounds (receipt : EvidenceReceipt) : List String :=
  receipt.facts.flatMap (endedRound receipt)

def reachesThree : TransitionFact → Bool
  | .roundKillDelta _ current delta => delta > 0 && current ≥ 3
  | _                               => false

-- The round in which a receipt reaches three kills.
def milestone (receipt : EvidenceReceipt) : Option String :=
  if receipt.facts.any reachesThree then observedRoundId receipt else none

-- The kills are those of the context, and they fit into a byte.
def countsThree (receipt : EvidenceReceipt) : TransitionFact → Bool
  | .roundKillDelta previous current delta =>
    previous ≥ 0 && delta > 0 && current ≥ 3 && receipt.context.roundKills = some current &&
      current < 256
  | _ => false

def counted (receipt : EvidenceReceipt) : Option String :=
  if receipt.facts.any (countsThree receipt) then observedRoundId receipt else none

def Ingested (earlier : List EvidenceReceipt) (receipt : EvidenceReceipt) : Prop :=
  receiptId receipt ∈ earlier.map receiptId

instance (earlier : List EvidenceReceipt) (receipt : EvidenceReceipt) :
    Decidable (Ingested earlier receipt) :=
  inferInstanceAs (Decidable (_ ∈ _))

-- The receipts without those that are ingested again.
def news (receipts : List EvidenceReceipt) : List EvidenceReceipt :=
  receipts.foldl (fun news receipt =>
    if receiptId receipt ∈ news.map receiptId then news else news ++ [receipt]) []

-- The rounds that have ended, and those in which three kills have been counted.
def endedBefore (earlier : List EvidenceReceipt) : Finset String :=
  ((news earlier).flatMap endedRounds).toFinset

def countedBefore (earlier : List EvidenceReceipt) : Finset String :=
  ((news earlier).filterMap counted).toFinset

-- A receipt adds what is new, once, and nothing when it is ingested again.
structure Deduplicated (earlier : List EvidenceReceipt) (receipt : EvidenceReceipt)
    (outcome : IngestOutcome) : Prop where
  again      : Ingested earlier receipt → outcome = {}
  captures   : ¬Ingested earlier receipt → outcome.capturesScheduled =
    ((endedRounds receipt).toFinset \ endedBefore earlier).card
  candidates : ¬Ingested earlier receipt → outcome.candidatesCreated =
    ((counted receipt).toFinset \ countedBefore earlier).card

def separates (receipt : EvidenceReceipt) : Bool :=
  receipt.output = .sessionReset || receipt.output = .stale || receipt.output = .recovered

-- The receipts of the match that is played.
def currentMatch (receipts : List EvidenceReceipt) : List EvidenceReceipt :=
  receipts.foldl (fun current receipt =>
    if separates receipt then [receipt] else current ++ [receipt]) []

-- The receipts of its match that a receipt comes after.
def matchBefore (earlier : List EvidenceReceipt) (receipt : EvidenceReceipt) :
    List EvidenceReceipt :=
  if separates receipt then [] else currentMatch earlier

def FirstMilestone (earlier : List EvidenceReceipt) (receipt : EvidenceReceipt) (id : String) :
    Prop :=
  milestone receipt = some id ∧ ∀ r ∈ matchBefore earlier receipt, milestone r ≠ some id

-- Every round that ends gets its own capture, and every first milestone its own candidate.
structure Captured (earlier : List EvidenceReceipt) (receipt : EvidenceReceipt)
    (outcome : IngestOutcome) : Prop where
  captures   : outcome.capturesScheduled = (endedRounds receipt).length
  candidates : ∀ id, FirstMilestone (news earlier) receipt id → outcome.candidatesCreated = 1

-- No round of the receipt has the map and the number of an earlier one.
structure Fresh (earlier : List EvidenceReceipt) (receipt : EvidenceReceipt) : Prop where
  once       : (endedRounds receipt).Nodup
  captures   : ∀ id ∈ endedRounds receipt, id ∉ endedBefore earlier
  candidates : ∀ id, FirstMilestone (news earlier) receipt id →
    counted receipt = some id ∧ id ∉ countedBefore earlier

variable {W : Type}

def ingesting (ports : Ports W) (receipt : EvidenceReceipt) (host : Host W) :
    Except LiveDiagnostic IngestOutcome × Host W :=
  match Coordinator.ingest ports receipt host with
  | .ok outcome host => (.ok outcome, host)
  | .error e host    => (.error e, host)

abbrev Ingestion (W : Type) :=
  Machine.Step EvidenceReceipt (Except LiveDiagnostic IngestOutcome) (Host W)

def IngestDeduplicates (ports : Ports W) (steps : List (Ingestion W)) (host : Host W)
    (receipt : EvidenceReceipt) : Prop :=
  ∃ outcome, (ingesting ports receipt host).1 = .ok outcome ∧
    Deduplicated (steps.map Machine.Step.call) receipt outcome

-- The receipt is accepted, and served unless it has been ingested before.
def IngestServes (ports : Ports W) (steps : List (Ingestion W)) (host : Host W)
    (receipt : EvidenceReceipt) : Prop :=
  ∃ outcome, (ingesting ports receipt host).1 = .ok outcome ∧
    (¬Ingested (steps.map Machine.Step.call) receipt →
      Captured (steps.map Machine.Step.call) receipt outcome)

def IngestFresh (steps : List (Ingestion W)) (_ : Host W) (receipt : EvidenceReceipt) : Prop :=
  ¬Ingested (steps.map Machine.Step.call) receipt → Fresh (steps.map Machine.Step.call) receipt

-- Neither the store nor the scheduler fails.
structure Ports.Works (ports : Ports W) : Prop where
  persistReceipt  : ∀ receipt w, (ports.persistReceipt receipt w).1 = .ok ()
  upsertCandidate : ∀ candidate w, (ports.upsertCandidate candidate w).1 = .ok ()
  upsertCapture   : ∀ capture w, (ports.upsertCapture capture w).1 = .ok ()
  schedule        : ∀ timer deadlineMs w, (ports.schedule timer deadlineMs w).1 = .ok ()
  cancel          : ∀ timer w, (ports.cancel timer w).1 = .ok ()

end Live
