import OpenFrag.Import.Evidence
import OpenFrag.Domain.Rating
import Mathlib.Data.List.Chain

open Import MachineInt

namespace Analysis

inductive AnalysisUnavailable
  | missingTickRate
  | missingGameBuild
  | missingRequiredStream (stream : String)
  | missingLocalParticipant
  | missingIdentity
  | missingTeamOrLiveness
  | malformedOrdering
  | malformedEvidence
  | domain (error : Domain.RatingInputError)
  deriving DecidableEq, Repr

-- An analysis ends with a typed failure or with the panic of an arithmetic overflow.
inductive Failure
  | unavailable (reason : AnalysisUnavailable)
  | panic
  deriving DecidableEq, Repr

def require {α} (reason : AnalysisUnavailable) : Option α → Except Failure α
  | some a => pure a
  | none   => throw (.unavailable reason)

@[simp]
theorem require_eq_ok_iff {α} {reason : AnalysisUnavailable} {o : Option α} {a : α} :
    require reason o = .ok a ↔ o = some a := by
  cases o <;> simp [require, pure, Except.pure, throw, throwThe, MonadExceptOf.throw]

def ensure (c : Prop) [Decidable c] (failure : Failure) : Except Failure Unit :=
  if c then pure () else throw failure

@[simp]
theorem ensure_eq_ok_iff {c : Prop} [Decidable c] {failure : Failure} {u : Unit} :
    ensure c failure = .ok u ↔ c := by
  unfold ensure
  split <;> simp_all [pure, Except.pure, throw, throwThe, MonadExceptOf.throw]

inductive RoundExclusion
  | warmup
  | missingFreezeState
  | localPlayerNotAlive
  | invalidTeam
  | missingCanonicalEnd
  deriving DecidableEq, Repr

structure RoundLedger where
  number                : RoundNumber
  freezeTick            : DemoTick
  endTick               : DemoTick
  winner                : Int
  localTeam             : Int
  eligible              : Bool
  exclusion             : Option RoundExclusion
  orderedEvidenceHashes : List String
  deriving DecidableEq, Repr

-- The ticks of a round, the freeze tick and the end tick included.
def RoundLedger.covers (round : RoundLedger) (tick : DemoTick) : Prop :=
  round.freezeTick ≤ tick ∧ tick ≤ round.endTick

instance (round : RoundLedger) (tick : DemoTick) : Decidable (round.covers tick) :=
  inferInstanceAs (Decidable (_ ∧ _))

def snapshotAt (parsed : ParsedOutput) (steamId : SteamId) (tick : DemoTick) :
    Option PlayerSnapshot :=
  parsed.snapshotAt steamId tick

def teamAt (parsed : ParsedOutput) (steamId : SteamId) (tick : DemoTick) : Option Int :=
  (snapshotAt parsed steamId tick).bind (·.team)

def verifyOrder (parsed : ParsedOutput) : Except Failure Unit :=
  ensure
    ((parsed.events.map ParsedEvent.position).IsChain (· < ·) ∧
      (parsed.receipts.map (·.ingestionOrdinal)).IsChain (· < ·) ∧
      (parsed.playerSnapshots.map (·.ingestionOrdinal)).IsChain (· < ·))
    (.unavailable .malformedOrdering)

def freezes (parsed : ParsedOutput) : List ParsedEvent :=
  parsed.events.filter (·.kind = .roundFreezeEnd)

def ends (parsed : ParsedOutput) : List ParsedEvent :=
  parsed.events.filter (·.kind = .roundEnd)

-- The greatest `i32`, past every tick.
def lastTick : DemoTick := 2147483647

-- Team, liveness and exclusion of the local player at the end of the freeze time.
def freezeState (warmup : Bool) (snapshot : Option PlayerSnapshot) :
    Except Failure (Int × Bool × Option RoundExclusion) :=
  if warmup then
    pure (0, false, some .warmup)
  else
    match snapshot with
    | none => throw (.unavailable .missingTeamOrLiveness)
    | some state =>
      if ¬state.alive.getD false then
        pure (state.team.getD 0, false, some .localPlayerNotAlive)
      else if ¬(state.team = some 2 ∨ state.team = some 3) then
        pure (state.team.getD 0, state.alive.getD false, some .invalidTeam)
      else
        pure (state.team.getD 0, true, none)

-- In a round without exclusion the round counter must advance by one, and its increment must not
-- overflow.
def checkCounters (parsed : ParsedOutput) (localId : SteamId) (exclusion : Option RoundExclusion)
    (snapshot : Option PlayerSnapshot) (endTick : DemoTick) : Except Failure Unit := do
  if exclusion.isSome then
    return
  let startCounter ← require .missingTeamOrLiveness (snapshot.bind (·.roundCounter))
  let endCounter ← require .missingTeamOrLiveness
    ((snapshotAt parsed localId endTick).bind (·.roundCounter))
  ensure (Signed 32 (startCounter + 1)) .panic
  ensure (endCounter = startCounter + 1) (.unavailable .malformedEvidence)

def single? {α} : List α → Option α
  | [a] => some a
  | _ => none

def matchingEnds (parsed : ParsedOutput) (freeze : ParsedEvent) (nextFreezeTick : DemoTick) :
    List ParsedEvent :=
  (ends parsed).filter fun e => freeze.tick < e.tick ∧ e.tick < nextFreezeTick

def buildRound (parsed : ParsedOutput) (localId : SteamId) (index : Nat) (freeze : ParsedEvent)
    (nextFreezeTick : DemoTick) : Except Failure RoundLedger := do
  let end_ ← require .malformedEvidence (single? (matchingEnds parsed freeze nextFreezeTick))
  let snapshot := (snapshotAt parsed localId freeze.tick).filter (·.tick = freeze.tick)
  let freezeEvent ← require .malformedEvidence freeze.roundFreezeEnd?
  let (team, alive, exclusion) ← freezeState freezeEvent.warmup snapshot
  checkCounters parsed localId exclusion snapshot end_.tick
  let endEvent ← require .malformedEvidence end_.roundEnd?
  let winner ← require .malformedEvidence endEvent.winner
  return {
    number := index + 1
    freezeTick := freeze.tick
    endTick := end_.tick
    winner
    localTeam := team
    eligible := alive && exclusion.isNone
    exclusion
    orderedEvidenceHashes :=
      (parsed.receipts.filter fun r => freeze.tick ≤ r.tick ∧ r.tick ≤ end_.tick).map
        (·.evidenceSha256)
  }

def nextFreezeTick (rest : List ParsedEvent) : DemoTick :=
  (rest.head?.map (·.tick)).getD lastTick

-- The loop over the freeze events, from the one with the given index on.
def buildRoundsFrom (parsed : ParsedOutput) (localId : SteamId) :
    Nat → List ParsedEvent → Except Failure (List RoundLedger)
  | _, [] => pure []
  | index, freeze :: rest => do
    let round ← buildRound parsed localId index freeze (nextFreezeTick rest)
    return round :: (← buildRoundsFrom parsed localId (index + 1) rest)

def buildRounds (parsed : ParsedOutput) (localId : SteamId) : Except Failure (List RoundLedger) := do
  let rounds ← buildRoundsFrom parsed localId 0 (freezes parsed)
  ensure ((ends parsed).length = rounds.length) (.unavailable .malformedEvidence)
  ensure (rounds ≠ []) (.unavailable (.missingRequiredStream "eligible round ledger"))
  return rounds

end Analysis
