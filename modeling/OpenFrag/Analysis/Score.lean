import OpenFrag.Analysis.Ledger
import OpenFrag.Library.Decimal

open Import MachineInt

namespace Analysis

open Domain (RatingMetrics)

def UTILITY_WEAPONS : List String := ["hegrenade", "inferno", "molotov", "incgrenade"]

-- The checked addition on `u32`.
def addU32 (a : UInt32) (n : Nat) : Except Failure UInt32 :=
  if a.toNat + n < 2 ^ 32 then pure (.ofNat (a.toNat + n)) else throw .panic

def scoreHurt (parsed : ParsedOutput) (localId : SteamId) (tick : DemoTick)
    (hurt : PlayerHurtEvent) (metrics : RatingMetrics) : Except Failure RatingMetrics := do
  if hurt.attacker ≠ some localId then
    return metrics
  let victim ← require .missingIdentity hurt.victim
  let attackerTeam ← require .missingTeamOrLiveness (teamAt parsed localId tick)
  let victimTeam ← require .missingTeamOrLiveness (teamAt parsed victim tick)
  if attackerTeam = victimTeam ∨ victim = localId then
    return metrics
  let damage ← require .malformedEvidence hurt.damageHealth
  ensure (Unsigned 32 damage) (.unavailable .malformedEvidence)
  let health ← require .missingTeamOrLiveness
    ((snapshotAt parsed victim tick).bind (·.health))
  ensure (Unsigned 32 health) (.unavailable .malformedEvidence)
  let scored := min damage.toNat health.toNat
  if hurt.weapon.any (· ∈ UTILITY_WEAPONS) then
    return { metrics with utilityDamage := ← addU32 metrics.utilityDamage scored }
  else
    return { metrics with directDamage := ← addU32 metrics.directDamage scored }

def scoreDeaths (localId victim : SteamId) (metrics : RatingMetrics) :
    Except Failure RatingMetrics := do
  if victim = localId then
    return { metrics with deaths := ← addU32 metrics.deaths 1 }
  else
    return metrics

-- The test by which `kills` counts: the teams may also differ by one of them being unknown.
def countsAsKill (parsed : ParsedOutput) (localId : SteamId) (tick : DemoTick)
    (attacker : Option SteamId) (victim : SteamId) : Prop :=
  attacker = some localId ∧ teamAt parsed localId tick ≠ teamAt parsed victim tick

instance (parsed : ParsedOutput) (localId : SteamId) (tick : DemoTick) (attacker : Option SteamId)
    (victim : SteamId) : Decidable (countsAsKill parsed localId tick attacker victim) :=
  inferInstanceAs (Decidable (_ ∧ _))

def scoreKills (parsed : ParsedOutput) (localId : SteamId) (tick : DemoTick)
    (attacker : Option SteamId) (victim : SteamId) (metrics : RatingMetrics) :
    Except Failure RatingMetrics := do
  if countsAsKill parsed localId tick attacker victim then
    return { metrics with kills := ← addU32 metrics.kills 1 }
  else
    return metrics

-- The first death with two known teams that differ opens the round.
def opens (parsed : ParsedOutput) (tick : DemoTick) (attacker : Option SteamId)
    (victim : SteamId) : Option SteamId :=
  (attacker.filter (· ≠ victim)).filter fun attacker =>
    match teamAt parsed attacker tick, teamAt parsed victim tick with
    | some a, some v => a ≠ v
    | _, _ => false

def scoreOpeningWins (localId attacker : SteamId) (metrics : RatingMetrics) :
    Except Failure RatingMetrics := do
  if attacker = localId then
    return { metrics with openingWins := ← addU32 metrics.openingWins 1 }
  else
    return metrics

def scoreOpeningLosses (localId victim : SteamId) (metrics : RatingMetrics) :
    Except Failure RatingMetrics := do
  if victim = localId then
    return { metrics with openingLosses := ← addU32 metrics.openingLosses 1 }
  else
    return metrics

def scoreOpening (parsed : ParsedOutput) (localId : SteamId) (tick : DemoTick)
    (attacker : Option SteamId) (victim : SteamId) (openingSeen : Bool) (metrics : RatingMetrics) :
    Except Failure (Bool × RatingMetrics) := do
  if openingSeen then
    return (true, metrics)
  match opens parsed tick attacker victim with
  | none => return (false, metrics)
  | some attacker =>
    let metrics ← scoreOpeningWins localId attacker metrics
    return (true, ← scoreOpeningLosses localId victim metrics)

def scoreFlash (parsed : ParsedOutput) (localId : SteamId) (tick : DemoTick)
    (death : PlayerDeathEvent) (metrics : RatingMetrics) : Except Failure RatingMetrics := do
  if death.assistedFlash ∧ death.assister = some localId then
    let attacker ← require .missingIdentity death.attacker
    ensure (teamAt parsed attacker tick = teamAt parsed localId tick)
      (.unavailable .malformedEvidence)
    return { metrics with flashAssists := ← addU32 metrics.flashAssists 1 }
  else
    return metrics

-- The accumulator of the event loop: whether the round was opened, and the metrics.
def scoreEvent (parsed : ParsedOutput) (localId : SteamId) (acc : Bool × RatingMetrics)
    (event : ParsedEvent) : Except Failure (Bool × RatingMetrics) := do
  match event.event with
  | .playerHurt hurt =>
    return (acc.1, ← scoreHurt parsed localId event.tick hurt acc.2)
  | .playerDeath death =>
    let victim ← require .missingIdentity death.victim
    let metrics ← scoreDeaths localId victim acc.2
    let metrics ← scoreKills parsed localId event.tick death.attacker victim metrics
    let (openingSeen, metrics) ←
      scoreOpening parsed localId event.tick death.attacker victim acc.1 metrics
    return (openingSeen, ← scoreFlash parsed localId event.tick death metrics)
  | _ => return acc

def tradeWindow (tickRate : Nat) : Except Failure Int := do
  ensure (Signed 32 (min (tickRate * 5) (2 ^ 32 - 1) : Nat)) (.unavailable .malformedEvidence)
  return (min (tickRate * 5) (2 ^ 32 - 1) : Nat)

-- Whether `prior` is a death for which the local kill of `victim` at `tick` is a trade. The tick
-- difference is taken on `i32`, only when `prior` is not later.
def trades (parsed : ParsedOutput) (round : RoundLedger) (window : Int) (tick : DemoTick)
    (victim : SteamId) (prior : ParsedEvent) : Except Failure Bool :=
  match prior.death? with
  | none => pure false
  | some death =>
    if prior.tick ≤ tick then do
      ensure (Signed 32 (tick - prior.tick)) .panic
      return tick - prior.tick ≤ window ∧ death.attacker = some victim ∧
        death.victim.any fun mate => teamAt parsed mate prior.tick = some round.localTeam
    else
      pure false

-- `Iterator::any`, which stops at the first hit.
def anyM {α} (test : α → Except Failure Bool) : List α → Except Failure Bool
  | [] => pure false
  | a :: as => do
    if ← test a then
      return true
    else
      anyM test as

def scoreTrade (parsed : ParsedOutput) (round : RoundLedger) (window : Int)
    (deaths : List ParsedEvent) (metrics : RatingMetrics) (kill : ParsedEvent) :
    Except Failure RatingMetrics := do
  let victim ← require .missingIdentity (kill.death?.bind (·.victim))
  if ← anyM (trades parsed round window kill.tick victim) deaths.reverse then
    return { metrics with tradeKills := ← addU32 metrics.tradeKills 1 }
  else
    return metrics

-- The living participants among those selected by their roster entry.
def aliveCount (parsed : ParsedOutput) (tick : DemoTick) (select : Participant → Bool) : Nat :=
  (parsed.participants.filter fun p =>
    select p && (snapshotAt parsed p.steamId tick).bind (·.alive) = some true).length

def isTeammate (round : RoundLedger) (localId : SteamId) (p : Participant) : Bool :=
  p.steamId ≠ localId && p.team = some round.localTeam

def isEnemy (round : RoundLedger) (p : Participant) : Bool :=
  p.team.any fun team => team ≠ round.localTeam && (team = 2 || team = 3)

def isClutch (parsed : ParsedOutput) (round : RoundLedger) (localId : SteamId) (tick : DemoTick)
    (localAlive : Bool) : Bool :=
  localAlive && aliveCount parsed tick (isTeammate round localId) = 0 &&
    0 < aliveCount parsed tick (isEnemy round)

-- The loop over the snapshot ticks of a round, which stops at the first clutch.
def scoreClutch (parsed : ParsedOutput) (round : RoundLedger) (localId : SteamId)
    (metrics : RatingMetrics) : List DemoTick → Except Failure RatingMetrics
  | [] => pure metrics
  | tick :: ticks => do
    let localAlive ← require .missingTeamOrLiveness
      ((snapshotAt parsed localId tick).bind (·.alive))
    if isClutch parsed round localId tick localAlive then
      let metrics :=
        { metrics with clutchOpportunities := ← addU32 metrics.clutchOpportunities 1 }
      if round.localTeam = round.winner then
        return { metrics with clutchWins := ← addU32 metrics.clutchWins 1 }
      else
        return metrics
    else
      scoreClutch parsed round localId metrics ticks

def roundEvents (parsed : ParsedOutput) (round : RoundLedger) : List ParsedEvent :=
  parsed.events.filter fun e => round.covers e.tick

def roundDeaths (parsed : ParsedOutput) (round : RoundLedger) : List ParsedEvent :=
  (roundEvents parsed round).filter (·.death?.isSome)

def transitionTicks (parsed : ParsedOutput) (round : RoundLedger) : List DemoTick :=
  (parsed.playerSnapshots.filter fun s => round.covers s.tick).map (·.tick)

def isLocalKill (localId : SteamId) (e : ParsedEvent) : Bool :=
  e.death?.any (·.attacker = some localId)

def scoreRound (parsed : ParsedOutput) (localId : SteamId) (tickRate : Nat)
    (metrics : RatingMetrics) (round : RoundLedger) : Except Failure RatingMetrics := do
  let (_, metrics) ← (roundEvents parsed round).foldlM (scoreEvent parsed localId) (false, metrics)
  let window ← tradeWindow tickRate
  let deaths := roundDeaths parsed round
  let metrics ← (deaths.filter (isLocalKill localId)).foldlM
    (scoreTrade parsed round window deaths) metrics
  scoreClutch parsed round localId metrics (transitionTicks parsed round)

structure AnalysisReceipt where
  rounds        : List RoundLedger
  ratingInput   : Domain.RatingInput
  ratingReceipt : Domain.RatingReceipt
  deriving DecidableEq

def requiredStreams : List NormalizedEventKind :=
  [.roundFreezeEnd, .roundEnd, .playerHurt, .playerDeath]

def requireStreams (parsed : ParsedOutput) : List NormalizedEventKind → Except Failure Unit
  | [] => pure ()
  | kind :: kinds =>
    if parsed.events.any (·.kind = kind) then
      requireStreams parsed kinds
    else
      throw (.unavailable (.missingRequiredStream kind.name))

def parseTickRate (parsed : ParsedOutput) : Except Failure Nat := do
  let text ← require .missingTickRate parsed.metadata.tickRate
  let tickRate ← require .missingTickRate (Decimal.parseUnsigned 32 text)
  ensure (tickRate ≠ 0) (.unavailable .missingTickRate)
  return tickRate

def evidenceBundle (parsed : ParsedOutput) (rounds : List RoundLedger) :
    Domain.RatingEvidenceBundle :=
  let eligibleIds := (rounds.filter (·.eligible)).flatMap (·.orderedEvidenceHashes)
  let excludedIds := (rounds.filter (¬·.eligible)).flatMap (·.orderedEvidenceHashes)
  let componentIds := parsed.receipts.map (·.evidenceSha256)
  { eligibleRoundLedger := ⟨eligibleIds⟩
    excludedRoundLedger :=
      ⟨if excludedIds.isEmpty then ["none:" ++ parsed.identity.sourceSha256] else excludedIds⟩
    directDamage := ⟨componentIds⟩
    fragBalance := ⟨componentIds⟩
    openingDuels := ⟨componentIds⟩
    tradeKills := ⟨componentIds⟩
    utility := ⟨componentIds⟩
    clutchConversion := ⟨componentIds⟩ }

-- A side with fewer than five players alive at the end of the freeze time.
def shortRoster (parsed : ParsedOutput) (round : RoundLedger) : Bool :=
  [2, 3].any fun team => aliveCount parsed round.freezeTick (·.team = some team) < 5

def irregularities (parsed : ParsedOutput) (rounds : List RoundLedger) (eligibleRounds : UInt32) :
    Domain.MatchIrregularities where
  missedLiveRound := rounds.any (·.exclusion = some .missingFreezeState)
  rosterImbalanced := 1 < ((rounds.filter (·.eligible)).filter (shortRoster parsed)).length
  surrender := false
  forfeitWithoutCanonicalWinner := false
  overtime := 24 < eligibleRounds

def initialMetrics (eligibleRounds : UInt32) : RatingMetrics where
  eligibleRounds      := eligibleRounds
  directDamage        := 0
  kills               := 0
  deaths              := 0
  openingWins         := 0
  openingLosses       := 0
  tradeKills          := 0
  utilityDamage       := 0
  flashAssists        := 0
  clutchWins          := 0
  clutchOpportunities := 0

def calculationIdentity (identity : CalculationIdentity) : Domain.CalculationIdentity where
  demoHash                := identity.sourceSha256
  parserCommit            := identity.parserCommit
  parserBuild             := identity.parserBuild
  generatedProtoBuild     := identity.generatedProtoBuild
  requestedSchemaHash     := identity.requestedSchemaHash
  metricDefinitionVersion := identity.metricDefinitionVersion
  evidenceSemanticsEpoch  := identity.evidenceSemanticsEpoch

def analyze (parsed : ParsedOutput) (localId : SteamId) : Except Failure AnalysisReceipt := do
  let tickRate ← parseTickRate parsed
  let gameBuild ← require .missingGameBuild parsed.metadata.patchBuild
  ensure (parsed.participants.any (·.steamId = localId)) (.unavailable .missingLocalParticipant)
  verifyOrder parsed
  requireStreams parsed requiredStreams
  let rounds ← buildRounds parsed localId
  let eligible := rounds.filter (·.eligible)
  ensure (eligible.length < 2 ^ 32) (.unavailable .malformedEvidence)
  let metrics ← eligible.foldlM (scoreRound parsed localId tickRate)
    (initialMetrics (.ofNat eligible.length))
  let ratingInput : Domain.RatingInput := {
    identity := calculationIdentity parsed.identity
    gameBuild
    metrics
    irregularities := irregularities parsed rounds metrics.eligibleRounds
    evidenceFailure := none
    evidence := evidenceBundle parsed rounds
  }
  let ratingReceipt ←
    (Domain.calculateRating ratingInput).mapError (.unavailable <| .domain ·)
  return { rounds, ratingInput, ratingReceipt }

end Analysis
