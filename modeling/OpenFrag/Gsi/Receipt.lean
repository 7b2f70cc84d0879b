import Mathlib.Algebra.Group.Nat.Defs

namespace Gsi

structure EvidenceContext where
  mapHash           : Option String
  observedRound     : Option Nat
  providerTimestamp : Option Int
  roundKills        : Option Int
  health            : Option Int
  deriving DecidableEq, Repr

structure PresenceBits where
  provider          : Bool
  providerTimestamp : Bool
  map               : Bool
  mapRound          : Bool
  player            : Bool
  playerState       : Bool
  playerHealth      : Bool
  playerRoundKills  : Bool
  playerWeapons     : Bool
  matchStats        : Bool
  auth              : Bool
  authToken         : Bool
  playerSteamid     : Bool
  deriving DecidableEq, Repr

inductive StateOutput
  | seeded
  | healthy
  | stale
  | recovered
  | sessionReset
  deriving DecidableEq, Repr

inductive TransitionFact
  | cumulativeKillDelta (previous current delta : Int)
  | cumulativeDeathDelta (previous current delta : Int)
  | roundKillDelta (previous current delta : Int)
  | healthDepleted (previous current : Int)
  | roundEnd (completed next : Nat)
  deriving DecidableEq, Repr

-- The time of reception is in nanoseconds on the clock of the service.
structure EvidenceReceipt where
  sequence    : Nat
  receivedAt  : Nat
  payloadHash : String
  presence    : PresenceBits
  context     : EvidenceContext
  output      : StateOutput
  facts       : List TransitionFact
  deriving DecidableEq, Repr

end Gsi
