import OpenFrag.Import.Compatibility
import OpenFrag.Import.Frames
import OpenFrag.Library.Decimal

open MachineInt Except

-- What is made of the output of the upstream parser, and of its errors.
namespace Import

-- A JSON value of a field, as far as the fields are read. A number with a fraction is an other value.
inductive Value
  | bool (b : Bool)
  | number (n : Int)
  | string (s : String)
  | other
  deriving DecidableEq, Repr

namespace Value

def asBool : Value → Option Bool
  | bool b => some b
  | _      => none

def asU64 : Value → Option Nat
  | number n => if Unsigned 64 n then some n.toNat else none
  | _        => none

def asI64 : Value → Option Int
  | number n => trySigned 64 n
  | _        => none

def asStr : Value → Option String
  | string s => some s
  | _        => none

end Value

abbrev RawFields := List (String × Value)

structure EventField where
  name : String
  data : Option Value
  deriving DecidableEq, Repr

structure GameEvent where
  name   : String
  fields : List EventField
  tick   : DemoTick
  deriving DecidableEq, Repr

-- Of two fields with one name the later one stays.
def GameEvent.rawFields (event : GameEvent) : RawFields :=
  (event.fields.filterMap fun f => f.data.map fun v => (f.name, v)).reverse

structure PlayerEndMetaData where
  steamid    : Option SteamId
  name       : Option String
  teamNumber : Option Int
  deriving DecidableEq, Repr

-- The rows are those of the players after the packets of the events.
structure DemoOutput where
  header     : Option (List (String × String))
  convars    : List (String × String)
  roster     : List PlayerEndMetaData
  rows       : List RawFields
  gameEvents : List GameEvent

def rawU64 (fields : RawFields) (names : List String) : Option SteamId :=
  names.findSome? fun name => do
    let value ← fields.lookup name
    value.asU64 <|> value.asStr.bind (Decimal.parseUnsigned 64)

def winner (value : Value) : Option Int :=
  (value.asI64 <|> value.asStr.bind (Decimal.parseSigned 64)).bind (trySigned 32)

def normalizeEvent (name : String) (fields : RawFields) : Option NormalizedEvent :=
  match name with
  | "round_freeze_end"  => some <| .roundFreezeEnd {
      warmup := ((fields.lookup "warmup" <|> fields.lookup "warmup_period").bind
        Value.asBool).getD false }
  | "round_end"         => some <| .roundEnd { winner := (fields.lookup "winner").bind winner }
  | "player_hurt"       => some <| .playerHurt {
      attacker     := rawU64 fields ["attacker_steamid", "attacker"]
      victim       := rawU64 fields ["user_steamid", "userid", "victim"]
      damageHealth := (fields.lookup "dmg_health").bind Value.asI64
      weapon       := (fields.lookup "weapon").bind Value.asStr }
  | "player_death"      => some <| .playerDeath {
      attacker      := rawU64 fields ["attacker_steamid", "attacker"]
      victim        := rawU64 fields ["user_steamid", "userid", "victim"]
      assister      := rawU64 fields ["assister_steamid", "assister"]
      assistedFlash := ((fields.lookup "assistedflash").bind Value.asBool).getD false
      weapon        := (fields.lookup "weapon").bind Value.asStr }
  | "player_disconnect" => some <| .playerDisconnect {
      player := rawU64 fields ["user_steamid", "userid", "player"] }
  | _                   => none

def missingEvidenceError (requiredItem : String) (gameBuild : Option String)
    (observedCounts : List (String × Nat)) : ParseDiagnostic :=
  { parserError .missingEvidence .finalize
      ("required canonical evidence is absent: " ++ requiredItem) with
    gameBuild
    requiredItem   := some requiredItem
    observedCounts }

-- The conversion `as i32` of a wider number.
def i64AsI32 (n : Int) : Int := n.bmod (2 ^ 32)

def playerSnapshot (ordinal : Nat) (row : RawFields) : Option PlayerSnapshot := do
  let i64Value := fun name => (row.lookup name).bind Value.asI64
  let steamId ← rawU64 row ["steamid"]
  let tick ← i64Value "tick"
  return {
    tick             := i64AsI32 tick
    ingestionOrdinal := ordinal
    phase            := .afterEventPacket
    steamId
    entityId         := (i64Value "entity_id").map i64AsI32
    team             := (i64Value "team_num").map i64AsI32
    health           := (i64Value "health").map i64AsI32
    alive            := (row.lookup "is_alive").bind Value.asBool
    lifeState        := (i64Value "life_state").map i64AsI32
    roundCounter     := (i64Value "total_rounds_played").map i64AsI32 }

def playerSnapshots (rows : List RawFields) : List PlayerSnapshot :=
  rows.zipIdx.filterMap fun row => playerSnapshot row.2 row.1

def participants (roster : List PlayerEndMetaData) : List Participant :=
  roster.filterMap fun p => p.steamid.map fun steamId =>
    { steamId, name := p.name, team := p.teamNumber }

def DEMOPARSER_COMMIT         := "ba39cc44cd5abfd7f34df2b3c0a7dd3630048311"
def DEMOPARSER_BUILD          := "parser-0.1.1+openfrag-typed-evidence-diagnostics-1/csgoproto-0.1.5"
def EVIDENCE_SEMANTICS_EPOCH  := "openfrag-evidence-3"
def GENERATED_PROTO_BUILD     := "csgoproto-0.1.5"

def QUERY_PLAN_VERSION        := "openfrag-evidence-query-4"
def SNAPSHOT_PHASE            := "after-event-packet"

def EVENT_QUERY : List String :=
  ["round_freeze_end", "round_end", "player_hurt", "player_death", "player_disconnect"]

def PROPERTY_QUERY : List String :=
  ["player_steamid", "team_num", "is_alive", "life_state", "health", "total_rounds_played",
    "tick_rate", "weapon", "attacker", "victim", "assister", "assistedflash", "dmg_health", "winner",
    "warmup_period"]

def canonicalQuery : String :=
  QUERY_PLAN_VERSION ++ "\nevents:" ++ ",".intercalate EVENT_QUERY ++ "\nproperties:" ++
    ",".intercalate PROPERTY_QUERY ++ "\nsnapshot-phase:" ++ SNAPSHOT_PHASE ++
    "\nnormalized-schema:" ++ NORMALIZED_SCHEMA_VERSION

-- What the loop over the events has pushed.
structure Normalized where
  events   : List ParsedEvent
  receipts : List EventReceipt
  rounds   : List ParsedRound
  roundNo  : RoundNumber

section

-- The bytes of the JSON text of an event, or why there is none, and what `sha2` computes.
variable (toVec : Nat × String × DemoTick × RawFields → Except String (List UInt8))
variable (sha256 : List UInt8 → String) (build : Option String)

def queryPlanHash : String :=
  sha256 canonicalQuery.toUTF8.toList

def pushRound (acc : Normalized) (event : GameEvent) (normalized : NormalizedEvent) :
    Except ParseDiagnostic Normalized :=
  if event.name = "round_end" then
    match normalized with
    | .roundEnd roundEnd =>
      let roundNo := acc.roundNo + 1
      .ok { acc with
        roundNo
        rounds := acc.rounds ++ [⟨roundNo, event.tick, roundEnd.winner⟩] }
    | _                  => .error
      { parserError .internalInvariant .normalize
          "round_end normalized to a different event variant" with
        gameBuild := build
        tick      := some event.tick }
  else
    .ok acc

def schemaDriftError (event : GameEvent) : ParseDiagnostic :=
  { parserError .schemaDrift .normalize ("unrecognized requested event " ++ event.name) with
    gameBuild    := build
    tick         := some event.tick
    requiredItem := some event.name }

def receiptError (event : GameEvent) (source : String) : ParseDiagnostic :=
  { parserError .internalInvariant .finalize source with
    gameBuild := build
    tick      := some event.tick }

def pushEvent (acc : Normalized) (event : GameEvent) (ordinal : Nat) :
    Except ParseDiagnostic Normalized := do
  let normalized ← okOr (schemaDriftError build event) (normalizeEvent event.name event.rawFields)
  let acc ← pushRound build acc event normalized
  let bytes ← (toVec (ordinal, event.name, event.tick, event.rawFields)).mapError
    (receiptError build event)
  return { acc with
    events   := acc.events ++ [⟨event.tick, ordinal, normalized⟩]
    receipts := acc.receipts ++ [⟨ordinal, event.name, event.tick, sha256 bytes⟩] }

def normalizeEvents (events : List GameEvent) : Except ParseDiagnostic Normalized :=
  events.zipIdx.foldlM (fun acc event => pushEvent toVec sha256 build acc event.1 event.2)
    ⟨[], [], [], 0⟩

def hasKind (events : List ParsedEvent) (kind : NormalizedEventKind) : Bool :=
  events.any fun event => event.kind = kind

def observedCounts (participants : List Participant) (normalized : Normalized)
    (snapshots : List PlayerSnapshot) : List (String × Nat) := [
  ("events", normalized.events.length),
  ("participants", participants.length),
  ("player_snapshots", snapshots.length),
  ("receipts", normalized.receipts.length),
  ("rounds", normalized.rounds.length)]

def metadata (header convars : List (String × String)) : DemoMetadata where
  map                       := header.lookup "map_name"
  patchBuild                := header.lookup "patch_version"
  demoStamp                 := header.lookup "demo_file_stamp"
  server                    := header.lookup "server_name"
  gameDirectory             := header.lookup "game_directory"
  tickRate                  := convars.lookup "sv_tickrate"
  tickRateUnavailableReason :=
    if (convars.lookup "sv_tickrate").isNone then
      some "pinned parser did not expose sv_tickrate in demo convars"
    else
      none

-- From the upstream output to the output of the import.
def finishOutput (bytes : List UInt8) (out : DemoOutput) : Except ParseDiagnostic ParsedOutput := do
  let snapshots := playerSnapshots out.rows
  let header := out.header.getD []
  let build := header.lookup "patch_version"
  let participants := participants out.roster
  let normalized ← normalizeEvents toVec sha256 build out.gameEvents
  let suspiciousEmpty := participants.isEmpty || normalized.rounds.isEmpty ||
    !hasKind normalized.events .playerDeath
  let missingEvidence := fun requiredItem =>
    missingEvidenceError requiredItem build (observedCounts participants normalized snapshots)
  check (!participants.isEmpty) (missingEvidence "participants")
  check (!normalized.rounds.isEmpty) (missingEvidence "round_end")
  check (hasKind normalized.events .playerDeath) (missingEvidence "player_death")
  [NormalizedEventKind.roundFreezeEnd, .playerHurt].forM fun required =>
    check (hasKind normalized.events required) (missingEvidence required.name)
  check (!snapshots.isEmpty) (missingEvidence "player_snapshots")
  return {
    metadata        := metadata header out.convars
    participants
    rounds          := normalized.rounds
    events          := normalized.events
    receipts        := normalized.receipts
    playerSnapshots := snapshots
    suspiciousEmpty
    identity        := {
      sourceSha256            := sha256 bytes
      parserCommit            := DEMOPARSER_COMMIT
      parserBuild             := DEMOPARSER_BUILD
      generatedProtoBuild     := GENERATED_PROTO_BUILD
      requestedSchemaHash     := queryPlanHash sha256
      metricDefinitionVersion := "openfrag-rating-1"
      formulaVersion          := "ofr-1.0.0"
      evidenceSemanticsEpoch  := EVIDENCE_SEMANTICS_EPOCH } }

end

inductive DemoParserStage
  | firstPass
  | secondPass
  deriving DecidableEq, Repr

structure DemoParserErrorContext where
  stage      : DemoParserStage
  byteOffset : Option Nat
  tick       : Option DemoTick
  gameBuild  : Option String
  deriving DecidableEq, Repr

-- All errors of the upstream parser.
inductive Upstream
  | context (context : DemoParserErrorContext) (source : Upstream)
  | classMapperNotFoundFirstPass
  | fieldNoDecoder
  | outOfBitsError
  | outOfBytesError
  | failedByteRead (text : String)
  | unknownPathOP
  | entityNotFound
  | classNotFound
  | malformedMessage
  | stringTableNotFound
  | source1DemoError
  | demoEndsEarly (text : String)
  | unknownFile
  | incorrectMetaDataProp
  | unknownPropName (text : String)
  | gameEventListNotSet
  | propTypeNotFound (text : String)
  | gameEventUnknownId (text : String)
  | unknownPawnPrefix (text : String)
  | unknownEntityHandle (text : String)
  | clsIdOutOfBounds
  | unknownGameEventVariant (text : String)
  | fileNotFound (text : String)
  | noEvents
  | decompressionFailure (text : String)
  | noSendTableMessage
  | userIdNotFound
  | eventListFallbackNotFound (text : String)
  | voiceDataWriteError (text : String)
  | unknownDemoCmd (command : Int)
  | illegalPathOp
  | vectorResizeFailure
  | impossibleCmd
  | unkVoiceFormat
  | malformedVoicePacket
  deriving DecidableEq, Repr

namespace Upstream

def category : Upstream → ParseDiagnosticCategory
  | outOfBitsError | outOfBytesError | failedByteRead _ | demoEndsEarly _ => .truncated
  | unknownDemoCmd _ | source1DemoError | unknownFile                     => .unsupportedCommand
  | classMapperNotFoundFirstPass | fieldNoDecoder | unknownPathOP | classNotFound
  | stringTableNotFound | incorrectMetaDataProp | unknownPropName _ | gameEventListNotSet
  | propTypeNotFound _ | gameEventUnknownId _ | unknownPawnPrefix _ | unknownEntityHandle _
  | clsIdOutOfBounds | unknownGameEventVariant _ | noSendTableMessage
  | illegalPathOp                                                         => .schemaDrift
  | malformedMessage | decompressionFailure _ | malformedVoicePacket      => .corrupt
  | noEvents                                                              => .missingEvidence
  | entityNotFound | userIdNotFound | eventListFallbackNotFound _ | voiceDataWriteError _
  | vectorResizeFailure | impossibleCmd | unkVoiceFormat | fileNotFound _
  | context _ _                                                           => .internalInvariant

-- The context is taken off once.
def split : Upstream → Option DemoParserErrorContext × Upstream
  | context inner source => (some inner, source)
  | source               => (none, source)

end Upstream

def DemoParserStage.parseStage : DemoParserStage → ParseStage
  | firstPass  => .firstPass
  | secondPass => .secondPass

section

-- The text of an error that `Debug` gives.
variable (debug : Upstream → String)

-- The last frame that starts at the offset or before it.
def frameAt (frames : List FrameLocation) (offset : Nat) : Option FrameLocation :=
  frames.reverse.find? fun frame => frame.byteOffset ≤ offset

def addContext (frames : List FrameLocation) (context : DemoParserErrorContext)
    (mapped : ParseDiagnostic) : ParseDiagnostic :=
  let mapped := { mapped with
    gameBuild  := context.gameBuild
    byteOffset := context.byteOffset
    tick       := context.tick }
  match context.byteOffset.bind (frameAt frames) with
  | some frame => { mapped with
      frameIndex := some frame.index
      command    := some frame.command
      tick       := some (mapped.tick.getD frame.tick) }
  | none       => mapped

def mapUpstreamError (error : Upstream) (frames : List FrameLocation) : ParseDiagnostic :=
  let (context, source) := error.split
  let stage := (context.map fun context => context.stage.parseStage).getD .firstPass
  let mapped := parserError source.category stage (debug source)
  let mapped := (context.map fun context => addContext frames context mapped).getD mapped
  match source with
  | .unknownDemoCmd command => { mapped with command := some command }
  | _                       => mapped

-- The upstream parser, and what it alone reads of the header.
variable (parseHeaderOnly : List UInt8 → Option (List (String × String)))
variable (parseDemo : List UInt8 → Except Upstream DemoOutput)
variable (toVec : Nat × String × DemoTick × RawFields → Except String (List UInt8))
variable (sha256 : List UInt8 → String)

-- The scan has at most the given number of rounds.
def parsePinnedDemoparserBytes (slice : Slice) (rounds : Nat) :
    Option (Except ParseDiagnostic ParsedOutput) :=
  let gameBuild :=
    if 16 ≤ slice.bytes.length then
      (parseHeaderOnly slice.bytes).bind fun header => header.lookup "patch_version"
    else
      none
  (scanFrameLocations slice rounds).map fun scan => do
    let frames ← scan.mapError fun error => { error with gameBuild }
    let out ← (parseDemo slice.bytes).mapError fun error => mapUpstreamError debug error frames
    finishOutput toVec sha256 slice.bytes out

end

end Import
