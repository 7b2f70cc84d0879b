import Mathlib.Data.List.DropRight
import OpenFrag.Gsi.Run

namespace Gsi

variable (service : GsiService)

def isValid (call : Call) : Bool :=
  (posted service call).isSome

-- A post that is not of the form of a payload of the game.
def isMalformed (call : Call) : Bool :=
  match call.action with
  | .pollStale    => false
  | .post request =>
    match service.admission request with
    | .rejected response => response ≠ .unauthorized
    | _                  => false

def isAccepted (step : Step) : Bool :=
  (emission service step).any (·.payload.isSome)

def isOutage (step : Step) : Bool :=
  (emission service step).any (·.receipt.output = .stale)

-- A valid post that has not been accepted is a duplicate, or its receipt has met a sink that failed.
def isRefused (step : Step) : Bool :=
  isValid service step.call && !isAccepted service step

def sinceAccepted (steps : List Step) : List Step :=
  steps.rtakeWhile (!isAccepted service ·)

-- An outage is reported when no valid post has come in for long enough, and a payload is compared
-- with the one accepted before it when nothing has come between them.
structure Outages (steps : List Step) : Prop where
  lapsed   : ∀ before step, before ++ [step] <+: steps → isOutage service step →
    ∀ earlier ∈ before, isValid service earlier.call →
      earlier.call.now + staleAfter service.config.heartbeat ≤ step.call.now
  compared : ∀ before step, before ++ [step] <+: steps →
    (∃ e ∈ emission service step, e.receipt.facts ≠ []) →
      (∃ accepted ∈ before, isAccepted service accepted) ∧
      ∀ between ∈ sinceAccepted service before,
        ¬isOutage service between ∧ ¬isForeign service between.call ∧ ¬isMalformed service between.call

-- The clock does not go back.
def Clocked (steps : List Step) (_ : EngineState) (call : Call) : Prop :=
  ∀ earlier ∈ steps, earlier.call.now ≤ call.now

open GsiService in
-- An outage that is due is not covered up by a refused post, and a payload that differs from the
-- baseline does not follow on a malformed post.
def Regular (steps : List Step) (engine : EngineState) (call : Call) : Prop :=
  match call.action with
  | .pollStale    =>
    ∀ receipt ∈ service.outage engine call.now, call.sink receipt = .ok () →
      ∀ earlier ∈ steps, isRefused service earlier →
        earlier.call.now + staleAfter service.config.heartbeat ≤ call.now
  | .post request =>
    ∀ payload ∈ posted service call,
      ¬seenRecently engine call.now (service.hexDigest request.body) →
      call.sink (service.receipt engine payload request.body call.now) = .ok () →
      (observe engine (.from service.sha256 payload)).2 ≠ [] →
        ∀ between ∈ sinceAccepted service steps, ¬isMalformed service between.call

end Gsi
