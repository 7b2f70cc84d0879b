import OpenFrag.Import.Evidence
import OpenFrag.Library.Json

open Json

-- The document that tells whether two runs of the parser found the same evidence.
namespace Import

def NORMALIZED_SCHEMA_VERSION := "openfrag-demo-evidence-1"

def Participant.json (participant : Participant) : Json := obj [
  ("steam_id", num participant.steamId),
  ("name", ofOption string participant.name),
  ("team", ofOption num participant.team)]

def ParsedRound.json (round : ParsedRound) : Json := obj [
  ("number", num round.number),
  ("end_tick", num round.endTick),
  ("winner", ofOption num round.winner)]

def SnapshotPhase.name : SnapshotPhase → String
  | requestedTick    => "requested_tick"
  | afterEventPacket => "after_event_packet"

-- The number of a player.
def SteamId.json (steamId : SteamId) : Json := num (steamId : Nat)

def PlayerSnapshot.json (snapshot : PlayerSnapshot) : Json := obj [
  ("tick", num snapshot.tick),
  ("ingestion_ordinal", num snapshot.ingestionOrdinal),
  ("phase", string snapshot.phase.name),
  ("steam_id", num snapshot.steamId),
  ("entity_id", ofOption num snapshot.entityId),
  ("team", ofOption num snapshot.team),
  ("health", ofOption num snapshot.health),
  ("alive", ofOption bool snapshot.alive),
  ("life_state", ofOption num snapshot.lifeState),
  ("round_counter", ofOption num snapshot.roundCounter)]

def NormalizedEvent.data : NormalizedEvent → Json
  | roundFreezeEnd value => obj [("warmup", bool value.warmup)]
  | roundEnd value       => obj [("winner", ofOption num value.winner)]
  | playerHurt value     => obj [
      ("attacker", ofOption SteamId.json value.attacker),
      ("victim", ofOption SteamId.json value.victim),
      ("damage_health", ofOption num value.damageHealth),
      ("weapon", ofOption string value.weapon)]
  | playerDeath value    => obj [
      ("attacker", ofOption SteamId.json value.attacker),
      ("victim", ofOption SteamId.json value.victim),
      ("assister", ofOption SteamId.json value.assister),
      ("assisted_flash", bool value.assistedFlash),
      ("weapon", ofOption string value.weapon)]
  | playerDisconnect value => obj [("player", ofOption SteamId.json value.player)]

def normalizedEventJson (event : ParsedEvent) : Json := obj [
  ("type", string event.kind.name),
  ("tick", num event.tick),
  ("ingestion_ordinal", num event.ingestionOrdinal),
  ("data", event.event.data)]

def DemoMetadata.json (metadata : DemoMetadata) : Json := obj [
  ("map", ofOption string metadata.map),
  ("patch_build", ofOption string metadata.patchBuild),
  ("demo_stamp", ofOption string metadata.demoStamp),
  ("server", ofOption string metadata.server),
  ("game_directory", ofOption string metadata.gameDirectory),
  ("tick_rate", ofOption string metadata.tickRate),
  ("tick_rate_unavailable_reason", ofOption string metadata.tickRateUnavailableReason)]

def EventReceipt.json (receipt : EventReceipt) : Json := obj [
  ("ingestion_ordinal", num receipt.ingestionOrdinal),
  ("event_name", string receipt.eventName),
  ("tick", num receipt.tick),
  ("evidence_sha256", string receipt.evidenceSha256)]

def normalizedEvidence (parsed : ParsedOutput) : Json := obj [
  ("schema", string NORMALIZED_SCHEMA_VERSION),
  ("evidence_semantics_epoch", string parsed.identity.evidenceSemanticsEpoch),
  ("query_plan_hash", string parsed.identity.requestedSchemaHash),
  ("metadata", parsed.metadata.json),
  ("participants", array (parsed.participants.map Participant.json)),
  ("rounds", array (parsed.rounds.map ParsedRound.json)),
  ("events", array (parsed.events.map normalizedEventJson)),
  ("player_snapshots", array (parsed.playerSnapshots.map PlayerSnapshot.json)),
  ("suspicious_empty", bool parsed.suspiciousEmpty)]

def receiptHashes (parsed : ParsedOutput) : Json :=
  array (parsed.receipts.map EventReceipt.json)

structure CompatibilityHashes where
  normalizedEvidenceSha256 : String
  receiptHashesSha256      : String
  deriving DecidableEq, Repr

section

-- What `serde_json` and `sha2` compute.
variable (toVec : Json → Option (List UInt8)) (sha256 : List UInt8 → String)

def jsonSha256 (value : Json) : String :=
  sha256 ((toVec value).getD [])

def compatibilityHashes (parsed : ParsedOutput) : CompatibilityHashes where
  normalizedEvidenceSha256 := jsonSha256 toVec sha256 (normalizedEvidence parsed)
  receiptHashesSha256      := jsonSha256 toVec sha256 (receiptHashes parsed)

end

end Import
