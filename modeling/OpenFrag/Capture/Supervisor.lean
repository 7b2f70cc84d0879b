import OpenFrag.Library.Machine
import OpenFrag.Library.MachineInt

open MachineInt (saturatingAdd)

namespace Capture

inductive Launch
  | native (program : String) (args : List String)
  | flatpak (appId : String) (args : List String)
  deriving DecidableEq, Repr

def Launch.argv : Launch → List String
  | .native program args => program :: args
  | .flatpak appId args  => ["flatpak", "run", appId] ++ args

inductive SaveProvenance
  | manualFlag
  | autoRoundEnd
  deriving DecidableEq, Repr

inductive Signal
  | user1
  | interrupt
  deriving DecidableEq, Repr

structure MediaInfo where
  durationMs   : Nat
  videoStreams : Nat
  deriving DecidableEq, Repr

-- A path is the list of its components.
inductive Component
  | rootDir
  | curDir
  | parentDir
  | normal (name : String)
  deriving DecidableEq, Repr

abbrev Path := List Component

-- The identities of requests are texts in the source. The supervisor only moves them around.
structure SaveAcknowledgement (ι : Type) where
  path              : Path
  recorderRequestId : ι
  provenance        : SaveProvenance
  requestedAtMs     : Nat
  media             : MediaInfo
  deriving DecidableEq, Repr

inductive SaveDisposition
  | signalled
  | coalesced
  deriving DecidableEq, Repr

structure SaveRequestOutcome (ι : Type) where
  recorderRequestId : ι
  disposition       : SaveDisposition
  deriving DecidableEq, Repr

inductive Error
  | process (message : String)
  | filesystem (message : String)
  | media (message : String)
  | notRunning
  | noSaveInFlight
  | unsafeOutputPath
  | symlinkOutput
  | invalidOutput
  | outputNotFound
  deriving DecidableEq, Repr

-- The process, the filesystem, the clock and the media probe of a supervisor. They may do anything
-- to a world that they share.
structure Ports (W : Type) where
  spawn         : List String → W → Except String Unit × W
  tryWait       : W → Except String (Option Int) × W
  signal        : Signal → W → Except String Unit × W
  drainStderr   : W → Except String (List UInt8) × W
  outputsSince  : Path → Nat → W → Except String (List Path) × W
  isSymlink     : Path → W → Except String Bool × W
  isRegularFile : Path → W → Except String Bool × W
  isContained   : Path → Path → W → Except String Bool × W
  nowMs         : W → Nat × W
  wallMs        : W → Nat × W
  verify        : Path → W → Except String MediaInfo × W

-- Durations are in milliseconds.
structure Config where
  launch          : Launch
  outputDirectory : Path
  maxStderrBytes  : Nat
  stableAfter     : Nat
  deriving DecidableEq, Repr

def Config.new (launch : Launch) (outputDirectory : Path) : Config where
  launch          := launch
  outputDirectory := outputDirectory
  maxStderrBytes  := 16 * 1024
  stableAfter     := 30 * 1000

structure PendingSave (ι : Type) where
  recorderRequestId : ι
  provenance        : SaveProvenance
  sinceWallMs       : Nat
  requestedAtMs     : Nat
  deriving DecidableEq, Repr

structure Supervisor (ι : Type) where
  config        : Config
  running       : Bool
  shuttingDown  : Bool
  startedMs     : Nat
  stable        : Bool
  inFlight      : Option (PendingSave ι)
  queued        : Option (PendingSave ι)
  nextRestartMs : Option Nat
  failures      : Nat
  stderr        : List UInt8
  deriving DecidableEq, Repr

def restartDelay (failures : Nat) : Nat :=
  [1, 2, 4, 8, 16, 30].getD (min failures 5) 0 * 1000

def durationMs (duration : Nat) : Nat :=
  min duration (2 ^ 64 - 1)

-- The supervisor as it runs in a world.
structure Host (ι W : Type) where
  supervisor : Supervisor ι
  world      : W

-- A method that fails keeps what it has done to the supervisor and to the world.
abbrev Method (ι W : Type) := EStateM Error (Host ι W)

variable {ι W α : Type}

def port (wrap : String → Error) (f : W → Except String α × W) : Method ι W α := fun host =>
  match f host.world with
  | (.ok a, world)    => .ok a { host with world }
  | (.error e, world) => .error (wrap e) { host with world }

def reading (f : W → Nat × W) : Method ι W Nat := fun host =>
  .ok (f host.world).1 { host with world := (f host.world).2 }

def update (f : Supervisor ι → Supervisor ι) : Method ι W Unit :=
  modify fun host => { host with supervisor := f host.supervisor }

def self : Method ι W (Supervisor ι) := do
  return (← get).supervisor

end Capture

namespace Capture.Supervisor

variable {ι W : Type}

def new (config : Config) : Supervisor ι where
  config        := config
  running       := false
  shuttingDown  := false
  startedMs     := 0
  stable        := false
  inFlight      := none
  queued        := none
  nextRestartMs := none
  failures      := 0
  stderr        := []

def isRunning (s : Supervisor ι) : Bool :=
  s.running

def hasSaveInFlight (s : Supervisor ι) : Bool :=
  s.inFlight.isSome

variable (ports : Ports W)

def signalSave (recorderRequestId : ι) (provenance : SaveProvenance) : Method ι W Unit := do
  port .process (ports.signal .user1)
  let sinceWallMs ← reading ports.wallMs
  let requestedAtMs ← reading ports.nowMs
  update ({ · with
    inFlight := some { recorderRequestId, provenance, sinceWallMs, requestedAtMs } })

-- The queued save becomes a manual one as soon as one of its requests is.
def upgrade (queued : PendingSave ι) (provenance : SaveProvenance) : PendingSave ι :=
  if provenance = .manualFlag then { queued with provenance := .manualFlag } else queued

def requestSave (recorderRequestId : ι) (provenance : SaveProvenance) :
    Method ι W (SaveRequestOutcome ι) := do
  let s ← self
  if !s.running then
    throw .notRunning
  else if s.inFlight.isSome then
    let queued := s.queued.getD
      { recorderRequestId, provenance, sinceWallMs := 0, requestedAtMs := 0 }
    update ({ · with queued := some (upgrade queued provenance) })
    return { recorderRequestId := queued.recorderRequestId, disposition := .coalesced }
  else
    signalSave ports recorderRequestId provenance
    return { recorderRequestId, disposition := .signalled }

def validateOutput (path : Path) : Method ι W Unit := do
  let s ← self
  if !s.config.outputDirectory.isPrefixOf path || path.contains .parentDir then
    throw .unsafeOutputPath
  else if ← port .filesystem (ports.isSymlink path) then
    throw .symlinkOutput
  else if !(← port .filesystem (ports.isRegularFile path)) then
    throw .invalidOutput
  else if !(← port .filesystem (ports.isContained s.config.outputDirectory path)) then
    throw .unsafeOutputPath

-- The checks that an output passes before it is acknowledged.
def acceptOutput (path : Path) : Method ι W MediaInfo := do
  validateOutput ports path
  port .media (ports.verify path)

-- The save in flight is over, and the queued one takes its place.
def followUp : Method ι W Unit := do
  update ({ · with inFlight := none })
  match (← self).queued with
  | none      => pure ()
  | some next =>
    update ({ · with queued := none })
    signalSave ports next.recorderRequestId next.provenance

def acknowledge (path : Path) : Method ι W (SaveAcknowledgement ι) := do
  match (← self).inFlight with
  | none         => throw .noSaveInFlight
  | some pending =>
    let media ← acceptOutput ports path
    followUp ports
    return {
      path, media
      recorderRequestId := pending.recorderRequestId
      provenance        := pending.provenance
      requestedAtMs     := pending.requestedAtMs }

def discoverSave : Method ι W (Option (SaveAcknowledgement ι)) := do
  let s ← self
  match s.inFlight with
  | none          => throw .noSaveInFlight
  | some inFlight =>
    match ← port .filesystem (ports.outputsSince s.config.outputDirectory inFlight.sinceWallMs) with
    | []        => return none
    | path :: _ => return some (← acknowledge ports path)

def pushStderr (maxBytes : Nat) (stderr : List UInt8) (byte : UInt8) : List UInt8 :=
  let stderr := stderr ++ [byte]
  if stderr.length > maxBytes then stderr.tail else stderr

def appendStderr : Method ι W Unit := do
  let bytes ← port .process ports.drainStderr
  update fun s => { s with stderr := bytes.foldl (pushStderr s.config.maxStderrBytes) s.stderr }

def spawn : Method ι W Unit := do
  port .process (ports.spawn (← self).config.launch.argv)
  update ({ · with running := true, shuttingDown := false, stable := false })
  let startedMs ← reading ports.nowMs
  update ({ · with startedMs, nextRestartMs := none })

def start : Method ι W Unit :=
  spawn ports

-- The clock is read only for a recorder that is not yet stable.
def settle : Method ι W Unit := do
  let s ← self
  if !s.stable then
    if (← reading ports.nowMs) - s.startedMs ≥ durationMs s.config.stableAfter then
      update ({ · with failures := 0, stable := true })

def restart : Method ι W Unit := do
  let s ← self
  if !s.shuttingDown && !s.running then
    if let some due := s.nextRestartMs then
      if (← reading ports.nowMs) ≥ due then
        spawn ports

def exited : Method ι W Unit := do
  update ({ · with running := false })
  let s ← self
  if !s.shuttingDown then
    update ({ · with failures := saturatingAdd 64 s.failures 1 })
    let now ← reading ports.nowMs
    let delay := durationMs (restartDelay s.failures)
    update ({ · with nextRestartMs := some (saturatingAdd 64 now delay) })

def poll : Method ι W (Option Int) := do
  appendStderr ports
  if (← self).running then
    settle ports
    match ← port .process ports.tryWait with
    | some code =>
      exited ports
      return some code
    | none =>
      restart ports
      return none
  else
    restart ports
    return none

def shutdown : Method ι W Unit := do
  update ({ · with shuttingDown := true, nextRestartMs := none })
  if (← self).running then
    port .process (ports.signal .interrupt)

end Capture.Supervisor
