import OpenFrag.Gsi.Receipt
import OpenFrag.Library.Hex

namespace Gsi

abbrev Bytes := List UInt8

structure Provider where
  appid     : Option Nat
  timestamp : Option Int
  deriving DecidableEq, Repr

structure MapState where
  name  : Option String
  mode  : Option String
  round : Option Nat
  deriving DecidableEq, Repr

structure Auth where
  token : Option String
  deriving DecidableEq, Repr

structure PlayerVitals where
  health     : Option Int
  roundKills : Option Int
  deriving DecidableEq, Repr

structure MatchStats where
  kills  : Option Int
  deaths : Option Int
  deriving DecidableEq, Repr

-- The weapons are kept as the text of their JSON value.
structure PlayerState where
  steamid    : Option String
  state      : Option PlayerVitals
  weapons    : Option String
  matchStats : Option MatchStats
  deriving DecidableEq, Repr

structure Payload where
  provider : Option Provider
  map      : Option MapState
  auth     : Option Auth
  player   : Option PlayerState
  deriving DecidableEq, Repr

namespace Payload

variable (payload : Payload)

def appid : Option Nat :=
  payload.provider.bind Provider.appid

def timestamp : Option Int :=
  payload.provider.bind Provider.timestamp

def round : Option Nat :=
  payload.map.bind MapState.round

def token : Option String :=
  payload.auth.bind Auth.token

def steamid : Option String :=
  payload.player.bind PlayerState.steamid

def vitals : Option PlayerVitals :=
  payload.player.bind PlayerState.state

def health : Option Int :=
  payload.vitals.bind PlayerVitals.health

def roundKills : Option Int :=
  payload.vitals.bind PlayerVitals.roundKills

def stats : Option MatchStats :=
  payload.player.bind PlayerState.matchStats

def kills : Option Int :=
  payload.stats.bind MatchStats.kills

def deaths : Option Int :=
  payload.stats.bind MatchStats.deaths

end Payload

def PresenceBits.from (payload : Payload) : PresenceBits where
  provider          := payload.provider.isSome
  providerTimestamp := payload.timestamp.isSome
  map               := payload.map.isSome
  mapRound          := payload.round.isSome
  player            := payload.player.isSome
  playerState       := payload.vitals.isSome
  playerHealth      := payload.health.isSome
  playerRoundKills  := payload.roundKills.isSome
  playerWeapons     := (payload.player.bind PlayerState.weapons).isSome
  matchStats        := payload.stats.isSome
  auth              := payload.auth.isSome
  authToken         := payload.token.isSome
  playerSteamid     := payload.steamid.isSome

def utf8 (text : String) : Bytes :=
  text.toUTF8.toList

def hexArray (bytes : Bytes) : String :=
  .ofList (Hex.encode bytes)

structure TrustedSnapshot where
  sessionHash       : Option Bytes
  mapHash           : Option Bytes
  round             : Option Nat
  providerTimestamp : Option Int
  kills             : Option Int
  deaths            : Option Int
  roundKills        : Option Int
  health            : Option Int
  deriving DecidableEq, Repr

section

variable (sha256 : Bytes → Bytes)

def sessionHash (map : MapState) : Option Bytes :=
  if map.name = none ∧ map.mode = none then
    none
  else
    some (sha256 ((map.name.map utf8).getD [] ++ [0] ++ (map.mode.map utf8).getD []))

def TrustedSnapshot.from (payload : Payload) : TrustedSnapshot where
  sessionHash       := payload.map.bind (Gsi.sessionHash sha256)
  mapHash           := (payload.map.bind MapState.name).map fun name => sha256 (utf8 name)
  round             := payload.round
  providerTimestamp := payload.timestamp
  kills             := payload.kills
  deaths            := payload.deaths
  roundKills        := payload.roundKills
  health            := payload.health

end

def EvidenceContext.from (snapshot : TrustedSnapshot) : EvidenceContext where
  mapHash           := snapshot.mapHash.map hexArray
  observedRound     := snapshot.round
  providerTimestamp := snapshot.providerTimestamp
  roundKills        := snapshot.roundKills
  health            := snapshot.health

section

variable {α : Type} [LT α] [DecidableLT α]

def decreased (previous current : Option α) : Bool :=
  match previous, current with
  | some previous, some current => current < previous
  | _, _                        => false

end

def sessionReset (previous current : TrustedSnapshot) : Bool :=
  (match previous.sessionHash, current.sessionHash with
    | some previous, some current => previous ≠ current
    | _, _                        => false) ||
  decreased previous.round current.round ||
  decreased previous.kills current.kills ||
  decreased previous.deaths current.deaths ||
  decreased previous.providerTimestamp current.providerTimestamp

-- A counter that has increased is one fact.
def increase (fact : Int → Int → Int → TransitionFact) (previous current : Option Int) :
    List TransitionFact :=
  match previous, current with
  | some previous, some current =>
    if 0 ≤ previous ∧ previous < current then [fact previous current (current - previous)] else []
  | _, _                        => []

def depletion (previous current : Option Int) : List TransitionFact :=
  match previous, current with
  | some previous, some current =>
    if 0 < previous ∧ current ≤ 0 then [.healthDepleted previous current] else []
  | _, _                        => []

def roundEnds (previous current : Option Nat) : List TransitionFact :=
  match previous, current with
  | some previous, some current =>
    (List.range' previous (current - previous)).map fun completed => .roundEnd completed (completed + 1)
  | _, _                        => []

def sameRound (previous current : Option Nat) : Bool :=
  match previous, current with
  | some previous, some current => previous = current
  | _, _                        => false

def deriveTransition (previous current : TrustedSnapshot) : StateOutput × List TransitionFact :=
  if sessionReset previous current then
    (.sessionReset, [])
  else
    let sameRound := sameRound previous.round current.round
    (.healthy,
      increase .cumulativeKillDelta previous.kills current.kills ++
      increase .cumulativeDeathDelta previous.deaths current.deaths ++
      (if sameRound then
        increase .roundKillDelta previous.roundKills current.roundKills else []) ++
      (if sameRound then depletion previous.health current.health else []) ++
      roundEnds previous.round current.round)

structure EngineState where
  sequence       : Nat                      := 0
  snapshot       : Option TrustedSnapshot   := none
  recentHashes   : List (String × Nat)      := []
  lastHash       : Option String            := none
  lastPresence   : Option PresenceBits      := none
  lastContext    : Option EvidenceContext   := none
  lastReceivedAt : Option Nat               := none
  stale          : Bool                     := false
  deriving DecidableEq, Repr

def EngineState.clearTransitionBaselines (engine : EngineState) : EngineState where
  sequence := engine.sequence

end Gsi
