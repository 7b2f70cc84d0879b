import Mathlib.Algebra.Ring.Int.Defs
import OpenFrag.Gsi.Service

namespace Gsi

inductive Action
  | post (request : Request)
  | pollStale
  deriving DecidableEq, Repr

-- A call meets a reading of the clock, and a sink that may fail.
structure Call where
  action : Action
  now    : Nat
  sink   : EventSink

inductive Answer
  | posted (response : Response)
  | polled (result : Except ServiceDiagnostic PollOutcome)

def answer (service : GsiService) (call : Call) (engine : EngineState) :
    Reply Answer × EngineState :=
  match call.action with
  | .post request =>
    let (reply, engine) := service.routePost request call.now call.sink engine
    ({ result := .posted reply.result, emitted := reply.emitted }, engine)
  | .pollStale    =>
    let (reply, engine) := service.pollStale call.now call.sink engine
    ({ result := .polled reply.result, emitted := reply.emitted }, engine)

abbrev Step :=
  Machine.Step Call (Reply Answer) EngineState

-- A receipt that has been emitted, with the payload of its post. A receipt of an outage has none.
structure Emission where
  receipt : EvidenceReceipt
  payload : Option Payload
  deriving DecidableEq, Repr

-- The payload that a call posts, if it is trusted.
def posted (service : GsiService) (call : Call) : Option Payload :=
  match call.action with
  | .pollStale    => none
  | .post request =>
    match service.admission request with
    | .valid payload => some payload
    | _              => none

def emission (service : GsiService) (step : Step) : Option Emission :=
  step.reply.emitted.map fun receipt => ⟨receipt, posted service step.call⟩

def emissions (service : GsiService) (steps : List Step) : List Emission :=
  steps.filterMap (emission service)

-- What a fact says about the payloads that it has been derived from.
def Compares (previous current : Payload) : TransitionFact → Prop
  | .cumulativeKillDelta before after delta  =>
    previous.kills = some before ∧ current.kills = some after ∧ 0 ≤ before ∧ before < after ∧
      delta = after - before
  | .cumulativeDeathDelta before after delta =>
    previous.deaths = some before ∧ current.deaths = some after ∧ 0 ≤ before ∧ before < after ∧
      delta = after - before
  | .roundKillDelta before after delta       =>
    previous.roundKills = some before ∧ current.roundKills = some after ∧ 0 ≤ before ∧
      before < after ∧ delta = after - before ∧
      ∃ round, previous.round = some round ∧ current.round = some round
  | .healthDepleted before after             =>
    previous.health = some before ∧ current.health = some after ∧ 0 < before ∧ after ≤ 0 ∧
      ∃ round, previous.round = some round ∧ current.round = some round
  | .roundEnd completed next                 =>
    ∃ before after, previous.round = some before ∧ current.round = some after ∧
      before ≤ completed ∧ completed < after ∧ next = completed + 1

def TransitionFact.endsRound : TransitionFact → Bool
  | .roundEnd _ _ => true
  | _             => false

-- The facts that are about one and the same round.
def TransitionFact.withinRound : TransitionFact → Bool
  | .roundKillDelta _ _ _ => true
  | .healthDepleted _ _   => true
  | _                     => false

-- What holds of the receipts that have been emitted, the oldest first.
structure Sound (emitted : List Emission) : Prop where
  numbered  : emitted.map (·.receipt.sequence) = List.range' 1 emitted.length
  trusted   : ∀ e ∈ emitted, e.payload = none ↔ e.receipt.output = .stale
  compares  : ∀ before e, before ++ [e] <+: emitted → ∀ fact ∈ e.receipt.facts,
    ∃ previous ∈ (before.filterMap Emission.payload).getLast?, ∃ current ∈ e.payload,
      Compares previous current fact
  silent    : ∀ e ∈ emitted, e.receipt.output ≠ .healthy → e.receipt.facts = []
  exclusive : ∀ e ∈ emitted, ∀ fact ∈ e.receipt.facts, fact.endsRound →
    ∀ other ∈ e.receipt.facts, ¬other.withinRound
  staleOnce : ∀ between, between <:+: emitted → (∀ e ∈ between, e.payload = none) →
    between.length ≤ 1

-- The payload has all that the counters of a stretch need.
structure Counted (payload : Payload) : Prop where
  round  : payload.round.isSome
  kills  : ∃ kills ∈ payload.kills, 0 ≤ kills
  deaths : ∃ deaths ∈ payload.deaths, 0 ≤ deaths

instance (payload : Payload) : Decidable (Counted payload) :=
  decidable_of_iff (payload.round.isSome ∧ (∃ kills ∈ payload.kills, 0 ≤ kills) ∧
    ∃ deaths ∈ payload.deaths, 0 ≤ deaths)
    ⟨fun ⟨round, kills, deaths⟩ => ⟨round, kills, deaths⟩, fun h => ⟨h.round, h.kills, h.deaths⟩⟩

def TransitionFact.completed : TransitionFact → Option Nat
  | .roundEnd completed _ => some completed
  | _                     => none

def TransitionFact.killDelta : TransitionFact → Int
  | .cumulativeKillDelta _ _ delta => delta
  | _                              => 0

def TransitionFact.deathDelta : TransitionFact → Int
  | .cumulativeDeathDelta _ _ delta => delta
  | _                               => 0

def factsOf (emitted : List Emission) : List TransitionFact :=
  emitted.flatMap (·.receipt.facts)

-- The facts account for all that lies between two payloads, once and in order.
structure Accounts (first last : Payload) (facts : List TransitionFact) : Prop where
  rounds : ∃ before after, first.round = some before ∧ last.round = some after ∧ before ≤ after ∧
    facts.filterMap TransitionFact.completed = List.range' before (after - before)
  kills  : ∃ before after, first.kills = some before ∧ last.kills = some after ∧
    (facts.map TransitionFact.killDelta).sum = after - before
  deaths : ∃ before after, first.deaths = some before ∧ last.deaths = some after ∧
    (facts.map TransitionFact.deathDelta).sum = after - before

-- The post of another player, or of none.
def isForeign (service : GsiService) (call : Call) : Bool :=
  match call.action with
  | .pollStale    => false
  | .post request => service.admission request = .foreign

-- The step of a stretch of payloads that are compared with each other.
structure Undisturbed (service : GsiService) (step : Step) : Prop where
  familiar : ¬isForeign service step.call
  emitted  : ∀ e ∈ emission service step,
    e.receipt.output ∉ [.stale, .recovered, .sessionReset] ∧ ∀ payload ∈ e.payload, Counted payload

instance (service : GsiService) (step : Step) : Decidable (Undisturbed service step) :=
  decidable_of_iff (¬isForeign service step.call ∧ ∀ e ∈ emission service step,
    e.receipt.output ∉ [.stale, .recovered, .sessionReset] ∧ ∀ payload ∈ e.payload, Counted payload)
    ⟨fun ⟨familiar, emitted⟩ => ⟨familiar, emitted⟩, fun h => ⟨h.familiar, h.emitted⟩⟩

-- A body has the bytes of its player, its round, its kills and its deaths. The demo leaves its texts
-- unhashed.
def demoPayload (player round kills deaths : UInt8) : Payload where
  provider := some { appid := some 730, timestamp := none }
  map      := some { name := some "m", mode := none, round := some round.toNat }
  auth     := some { token := some "t" }
  player   := some {
    steamid    := some (if player = 0 then "l" else "x")
    state      := none
    weapons    := none
    matchStats := some { kills := some kills.toNat, deaths := some deaths.toNat } }

def demoService : GsiService :=
  .new "t" "l" (30 * 10 ^ 9)
    (fun
      | [player, round, kills, deaths] => some (demoPayload player round kills deaths)
      | _                              => none)
    id

def demoPost (body : Bytes) (now : Nat) (accepts : Bool) : Call where
  action := .post { contentType := some "application/json", body := body }
  now    := now
  sink   := fun _ => if accepts then .ok () else .error "full"

end Gsi
