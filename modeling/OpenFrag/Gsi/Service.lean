import OpenFrag.Gsi.Engine
import OpenFrag.Library.Machine

namespace Gsi

def maxStaleNs : Nat := 90 * 10 ^ 9

def duplicateWindow : Nat := 2 * 10 ^ 9

-- Times are in nanoseconds. The bound is reached long before the product would saturate.
def staleAfter (heartbeat : Nat) : Nat :=
  min (heartbeat * 3) maxStaleNs

structure GsiConfig where
  authTokenHash    : Bytes
  localSteamidHash : Bytes
  heartbeat        : Nat
  deriving DecidableEq, Repr

-- The parser of JSON payloads and the hash function are those of libraries.
structure GsiService where
  config    : GsiConfig
  fromSlice : Bytes → Option Payload
  sha256    : Bytes → Bytes

namespace GsiService

def new (authToken localSteamid : String) (heartbeat : Nat) (fromSlice : Bytes → Option Payload)
    (sha256 : Bytes → Bytes) : GsiService where
  config.authTokenHash    := sha256 (utf8 authToken)
  config.localSteamidHash := sha256 (utf8 localSteamid)
  config.heartbeat        := heartbeat
  fromSlice               := fromSlice
  sha256                  := sha256

end GsiService

inductive Response
  | wrongContentType
  | invalidJson
  | unauthorized
  | wrongApp
  | duplicate
  | sinkFailure
  | seeded
  deriving DecidableEq, Repr

namespace Response

def status : Response → Nat
  | wrongContentType => 415
  | invalidJson      => 400
  | unauthorized     => 401
  | wrongApp         => 400
  | duplicate        => 200
  | sinkFailure      => 500
  | seeded           => 200

def text : Response → String
  | wrongContentType => "wrong-content-type"
  | invalidJson      => "invalid-json"
  | unauthorized     => "unauthorized"
  | wrongApp         => "wrong-app"
  | duplicate        => "duplicate"
  | sinkFailure      => "sink-failure"
  | seeded           => "seeded"

end Response

inductive PollOutcome
  | noChange
  | stale
  deriving DecidableEq, Repr

inductive ServiceDiagnostic
  | sinkFailure
  deriving DecidableEq, Repr

structure Request where
  contentType : Option String
  body        : Bytes
  deriving DecidableEq, Repr

-- The sink of the events decides on each receipt that it is given.
abbrev EventSink := EvidenceReceipt → Except String Unit

-- The media type stands before the parameters of the content type.
def isJson (contentType : Option String) : Bool :=
  match contentType with
  | none       => false
  | some value =>
    let mediaType := value.toList.takeWhile (· ≠ ';')
    let trimmed := ((mediaType.dropWhile Char.isWhitespace).reverse.dropWhile Char.isWhitespace).reverse
    trimmed.map Char.toLower = "application/json".toList

namespace GsiService

variable (service : GsiService)

def matchesHash (hash : Bytes) (text : Option String) : Bool :=
  match text with
  | none      => false
  | some text => service.sha256 (utf8 text) = hash

-- What the service makes of a post before it reads the clock.
inductive Admission
  | rejected (response : Response)
  | foreign
  | valid (payload : Payload)
  deriving DecidableEq, Repr

def admission (request : Request) : Admission :=
  if ¬isJson request.contentType then
    .rejected .wrongContentType
  else
    match service.fromSlice request.body with
    | none         => .rejected .invalidJson
    | some payload =>
      if ¬service.matchesHash service.config.authTokenHash payload.token then
        .rejected .unauthorized
      else if ¬service.matchesHash service.config.localSteamidHash payload.steamid then
        .foreign
      else if payload.appid ≠ some 730 then
        .rejected .wrongApp
      else
        .valid payload

def hexDigest (body : Bytes) : String :=
  hexArray (service.sha256 body)

-- The hashes that are still remembered.
def retained (engine : EngineState) (now : Nat) : List (String × Nat) :=
  engine.recentHashes.filter fun entry => now - entry.2 ≤ duplicateWindow

def seenRecently (engine : EngineState) (now : Nat) (hash : String) : Bool :=
  match (retained engine now).lookup hash with
  | none        => false
  | some seenAt => now - seenAt ≤ duplicateWindow

def observe (engine : EngineState) (snapshot : TrustedSnapshot) :
    StateOutput × List TransitionFact :=
  if engine.stale then
    (.recovered, [])
  else
    match engine.snapshot with
    | none          => (.seeded, [])
    | some previous => deriveTransition previous snapshot

def receipt (engine : EngineState) (payload : Payload) (body : Bytes) (now : Nat) :
    EvidenceReceipt :=
  let snapshot := TrustedSnapshot.from service.sha256 payload
  let observed := observe engine snapshot
  { sequence    := engine.sequence + 1
    receivedAt  := now
    payloadHash := service.hexDigest body
    presence    := PresenceBits.from payload
    context     := EvidenceContext.from snapshot
    output      := observed.1
    facts       := observed.2 }

-- The state after a receipt of a payload has been emitted.
def accept (engine : EngineState) (payload : Payload) (receipt : EvidenceReceipt) : EngineState :=
  let kept :=
    if receipt.output = .sessionReset then
      []
    else
      engine.recentHashes.filter (·.1 ≠ receipt.payloadHash)
  { sequence       := receipt.sequence
    recentHashes   := (receipt.payloadHash, receipt.receivedAt) :: kept
    lastHash       := some receipt.payloadHash
    lastPresence   := some receipt.presence
    lastContext    := some receipt.context
    lastReceivedAt := some receipt.receivedAt
    snapshot       := some (TrustedSnapshot.from service.sha256 payload)
    stale          := false }

end GsiService

-- The answer to a call, and the receipt that the sink has taken.
structure Reply (ρ : Type) where
  result  : ρ
  emitted : Option EvidenceReceipt := none
  deriving DecidableEq, Repr

namespace GsiService

variable (service : GsiService)

def routePost (request : Request) (now : Nat) (sink : EventSink) (engine : EngineState) :
    Reply Response × EngineState :=
  match service.admission request with
  | .rejected response => ({ result := response }, engine)
  | .foreign           => ({ result := .unauthorized }, engine.clearTransitionBaselines)
  | .valid payload     =>
    let remembering := { engine with recentHashes := retained engine now }
    if seenRecently engine now (service.hexDigest request.body) then
      ({ result := .duplicate }, remembering)
    else
      let receipt := service.receipt engine payload request.body now
      match sink receipt with
      | .error _ => ({ result := .sinkFailure }, remembering)
      | .ok _    =>
        ({ result := .seeded, emitted := some receipt }, service.accept remembering payload receipt)

-- The receipt of an outage repeats what was seen last.
def outage (engine : EngineState) (now : Nat) : Option EvidenceReceipt := do
  let lastReceivedAt ← engine.lastReceivedAt
  if engine.stale ∨ now - lastReceivedAt < staleAfter service.config.heartbeat then
    none
  let payloadHash ← engine.lastHash
  let presence ← engine.lastPresence
  let context ← engine.lastContext
  return {
    sequence    := engine.sequence + 1
    receivedAt  := now
    payloadHash := payloadHash
    presence    := presence
    context     := context
    output      := .stale
    facts       := [] }

def pollStale (now : Nat) (sink : EventSink) (engine : EngineState) :
    Reply (Except ServiceDiagnostic PollOutcome) × EngineState :=
  match service.outage engine now with
  | none         => ({ result := .ok .noChange }, engine)
  | some receipt =>
    match sink receipt with
    | .error _ => ({ result := .error .sinkFailure }, engine)
    | .ok _    =>
      ({ result := .ok .stale, emitted := some receipt },
        { engine with
          sequence     := receipt.sequence
          stale        := true
          snapshot     := none
          recentHashes := [] })

end GsiService

end Gsi
