import OpenFrag.Library.MaxBy
import Mathlib.Data.Prod.Lex
import Mathlib.Order.Lex

-- The output of the Demo parser. Ticks are `i32` in the source; Steam identifiers, ordinals and
-- round numbers are `u64`.
namespace Import

abbrev DemoTick := Int
abbrev IngestionOrdinal := Nat
abbrev SteamId := Nat
abbrev RoundNumber := Nat

structure DemoMetadata where
  map                       : Option String
  patchBuild                : Option String
  demoStamp                 : Option String
  server                    : Option String
  gameDirectory             : Option String
  tickRate                  : Option String
  tickRateUnavailableReason : Option String
  deriving DecidableEq, Repr

structure Participant where
  steamId : SteamId
  name    : Option String
  team    : Option Int
  deriving DecidableEq, Repr

inductive NormalizedEventKind
  | roundFreezeEnd
  | roundEnd
  | playerHurt
  | playerDeath
  | playerDisconnect
  deriving DecidableEq, Repr

def NormalizedEventKind.name : NormalizedEventKind → String
  | .roundFreezeEnd   => "round_freeze_end"
  | .roundEnd         => "round_end"
  | .playerHurt       => "player_hurt"
  | .playerDeath      => "player_death"
  | .playerDisconnect => "player_disconnect"

structure RoundFreezeEndEvent where
  warmup : Bool
  deriving DecidableEq, Repr

structure RoundEndEvent where
  winner : Option Int
  deriving DecidableEq, Repr

structure PlayerHurtEvent where
  attacker     : Option SteamId
  victim       : Option SteamId
  damageHealth : Option Int
  weapon       : Option String
  deriving DecidableEq, Repr

structure PlayerDeathEvent where
  attacker      : Option SteamId
  victim        : Option SteamId
  assister      : Option SteamId
  assistedFlash : Bool
  weapon        : Option String
  deriving DecidableEq, Repr

structure PlayerDisconnectEvent where
  player : Option SteamId
  deriving DecidableEq, Repr

inductive NormalizedEvent
  | roundFreezeEnd   (event : RoundFreezeEndEvent)
  | roundEnd         (event : RoundEndEvent)
  | playerHurt       (event : PlayerHurtEvent)
  | playerDeath      (event : PlayerDeathEvent)
  | playerDisconnect (event : PlayerDisconnectEvent)
  deriving DecidableEq, Repr

def NormalizedEvent.kind : NormalizedEvent → NormalizedEventKind
  | .roundFreezeEnd _   => .roundFreezeEnd
  | .roundEnd _         => .roundEnd
  | .playerHurt _       => .playerHurt
  | .playerDeath _      => .playerDeath
  | .playerDisconnect _ => .playerDisconnect

structure ParsedEvent where
  tick             : DemoTick
  ingestionOrdinal : IngestionOrdinal
  event            : NormalizedEvent
  deriving DecidableEq, Repr

namespace ParsedEvent

def kind (e : ParsedEvent) : NormalizedEventKind := e.event.kind

def death? (e : ParsedEvent) : Option PlayerDeathEvent :=
  match e.event with
  | .playerDeath death => some death
  | _ => none

def roundFreezeEnd? (e : ParsedEvent) : Option RoundFreezeEndEvent :=
  match e.event with
  | .roundFreezeEnd freeze => some freeze
  | _ => none

def roundEnd? (e : ParsedEvent) : Option RoundEndEvent :=
  match e.event with
  | .roundEnd roundEnd => some roundEnd
  | _ => none

-- The position of an event in the Demo.
def position (e : ParsedEvent) : DemoTick ×ₗ IngestionOrdinal :=
  toLex (e.tick, e.ingestionOrdinal)

end ParsedEvent

structure EventReceipt where
  ingestionOrdinal : IngestionOrdinal
  eventName        : String
  tick             : DemoTick
  evidenceSha256   : String
  deriving DecidableEq, Repr

structure ParsedRound where
  number  : RoundNumber
  endTick : DemoTick
  winner  : Option Int
  deriving DecidableEq, Repr

inductive SnapshotPhase
  | requestedTick
  | afterEventPacket
  deriving DecidableEq, Repr

structure PlayerSnapshot where
  tick             : DemoTick
  ingestionOrdinal : IngestionOrdinal
  phase            : SnapshotPhase
  steamId          : SteamId
  entityId         : Option Int
  team             : Option Int
  health           : Option Int
  alive            : Option Bool
  lifeState        : Option Int
  roundCounter     : Option Int
  deriving DecidableEq, Repr

def PlayerSnapshot.position (s : PlayerSnapshot) : DemoTick ×ₗ IngestionOrdinal :=
  toLex (s.tick, s.ingestionOrdinal)

structure CalculationIdentity where
  sourceSha256            : String
  parserCommit            : String
  parserBuild             : String
  generatedProtoBuild     : String
  requestedSchemaHash     : String
  metricDefinitionVersion : String
  formulaVersion          : String
  evidenceSemanticsEpoch  : String
  deriving DecidableEq, Repr

structure ParsedOutput where
  metadata        : DemoMetadata
  participants    : List Participant
  rounds          : List ParsedRound
  events          : List ParsedEvent
  receipts        : List EventReceipt
  playerSnapshots : List PlayerSnapshot
  suspiciousEmpty : Bool
  identity        : CalculationIdentity
  deriving DecidableEq, Repr

-- `snapshot_at` of both readers of a parsed Demo: the latest state of a player at a tick.
def ParsedOutput.snapshotAt (parsed : ParsedOutput) (steamId : SteamId) (tick : DemoTick) :
    Option PlayerSnapshot :=
  (parsed.playerSnapshots.filter fun s => s.steamId = steamId ∧ s.tick ≤ tick).maxByKey?
    PlayerSnapshot.position

end Import
