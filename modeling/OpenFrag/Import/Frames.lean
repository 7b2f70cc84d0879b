import OpenFrag.Import.Progress
import OpenFrag.Library.MachineInt
import OpenFrag.Library.Outcome
import OpenFrag.Library.Varint

open MachineInt Except

-- The scan of the outer frames of a Demo, before it is parsed.
namespace Import

-- A slice has at most `isize::MAX` bytes.
structure Slice where
  bytes : List UInt8
  fits  : bytes.length < 2 ^ 63

-- The errors of the upstream parser that the scan can meet.
inductive DemoParserError
  | outOfBytesError
  | demoEndsEarly (message : String)
  | unknownDemoCmd (value : Int)
  deriving DecidableEq, Repr

def DemoParserError.debug : DemoParserError → String
  | outOfBytesError       => "OutOfBytesError"
  | demoEndsEarly message => "DemoEndsEarly(\"" ++ message ++ "\")"
  | unknownDemoCmd value  => "UnknownDemoCmd(" ++ toString value ++ ")"

def readVarint (bytes : List UInt8) (ptr : Nat) : Except DemoParserError (UInt32 × Nat) :=
  go 5 0 ptr
where
  -- The count of the loop is five less the bytes that remain to be read.
  go : Nat → UInt32 → Nat → Except DemoParserError (UInt32 × Nat)
    | 0, result, ptr => .ok (result, ptr)
    | remaining + 1, result, ptr =>
      match bytes[ptr]? with
      | none   => .error .outOfBytesError
      | some b =>
        let result := result ||| ((b.toUInt32 &&& 127) <<< UInt32.ofNat (7 * (4 - remaining)))
        if b &&& 0x80 = 0 then .ok (result, ptr + 1) else go remaining result (ptr + 1)

inductive EDemoCommands
  | demError
  | demStop
  | demFileHeader
  | demFileInfo
  | demSyncTick
  | demSendTables
  | demClassInfo
  | demStringTables
  | demPacket
  | demSignonPacket
  | demConsoleCmd
  | demCustomData
  | demCustomDataCallbacks
  | demUserCmd
  | demFullPacket
  | demSaveGame
  | demSpawnGroups
  | demAnimationData
  | demAnimationHeader
  | demRecovery
  | demMax
  | demIsCompressed
  deriving DecidableEq, Repr

def EDemoCommands.ofInt : Int → Option EDemoCommands
  | -1 => some demError
  | 0  => some demStop
  | 1  => some demFileHeader
  | 2  => some demFileInfo
  | 3  => some demSyncTick
  | 4  => some demSendTables
  | 5  => some demClassInfo
  | 6  => some demStringTables
  | 7  => some demPacket
  | 8  => some demSignonPacket
  | 9  => some demConsoleCmd
  | 10 => some demCustomData
  | 11 => some demCustomDataCallbacks
  | 12 => some demUserCmd
  | 13 => some demFullPacket
  | 14 => some demSaveGame
  | 15 => some demSpawnGroups
  | 16 => some demAnimationData
  | 17 => some demAnimationHeader
  | 18 => some demRecovery
  | 19 => some demMax
  | 64 => some demIsCompressed
  | _  => none

def demoCmdTypeFromInt (value : Int) : Except DemoParserError EDemoCommands :=
  okOr (.unknownDemoCmd value) (EDemoCommands.ofInt value)

def DEMO_MAGIC : List UInt8 := [0x50, 0x42, 0x44, 0x45, 0x4d, 0x53, 0x32, 0]

structure FrameLocation where
  index      : Nat
  byteOffset : Nat
  tick       : DemoTick
  command    : Int
  deriving DecidableEq, Repr

def parserError (category : ParseDiagnosticCategory) (stage : ParseStage) (source : String) :
    ParseDiagnostic where
  category
  stage
  gameBuild      := none
  byteOffset     := none
  frameIndex     := none
  tick           := none
  command        := none
  requiredItem   := none
  observedCounts := []
  upstreamSource := source

def truncatedFrameError (frameIndex byteOffset : Nat) (tick : Option DemoTick)
    (source : DemoParserError) : ParseDiagnostic :=
  { parserError .truncated .frameScan source.debug with
    byteOffset := some byteOffset
    frameIndex := some frameIndex
    tick }

def unsupportedCommandError (frameIndex byteOffset : Nat) (tick : DemoTick) (command : Int)
    (source : DemoParserError) : ParseDiagnostic :=
  { parserError .unsupportedCommand .frameScan source.debug with
    byteOffset := some byteOffset
    frameIndex := some frameIndex
    tick       := some tick
    command    := some command }

-- The conversion `as i32`.
def asI32 (value : UInt32) : Int := value.toBitVec.toInt

-- The bit of compressed frames is not part of the command.
def commandNumber (command : UInt32) : Int := asI32 (command &&& ~~~64)

-- The body of the loop, with the position after the frame.
def scanFrame (bytes : List UInt8) (frameIndex frameStart : Nat) :
    Except ParseDiagnostic (FrameLocation × Nat) := do
  let (command, ptr) ← (readVarint bytes frameStart).mapError
    (truncatedFrameError frameIndex frameStart none)
  let (tick, ptr) ← (readVarint bytes ptr).mapError
    (truncatedFrameError frameIndex frameStart none)
  let (size, ptr) ← (readVarint bytes ptr).mapError
    (truncatedFrameError frameIndex frameStart (some (asI32 tick)))
  let _ ← (demoCmdTypeFromInt (commandNumber command)).mapError
    (unsupportedCommandError frameIndex frameStart (asI32 tick) (commandNumber command))
  let payloadEnd ← okOr
    (truncatedFrameError frameIndex frameStart (some (asI32 tick)) .outOfBytesError)
    (checkedAdd 64 ptr size.toNat)
  check (payloadEnd ≤ bytes.length)
    (truncatedFrameError frameIndex frameStart (some (asI32 tick)) (.demoEndsEarly
      ("declared frame payload ends at byte " ++ toString payloadEnd ++ ", file has " ++
        toString bytes.length ++ " bytes")))
  return (⟨frameIndex, frameStart, asI32 tick, commandNumber command⟩, payloadEnd)

-- The loop, for at most the given number of rounds. There is no value when they are used up.
def scanFrames (bytes : List UInt8) (frameIndex ptr : Nat) (locations : List FrameLocation) :
    Nat → Option (Except ParseDiagnostic (List FrameLocation))
  | 0          => if ptr < bytes.length then none else some (.ok locations)
  | rounds + 1 =>
    if ptr < bytes.length then
      match scanFrame bytes frameIndex ptr with
      | .error e => some (.error e)
      | .ok (location, payloadEnd) =>
        scanFrames bytes (saturatingAdd 64 frameIndex 1) payloadEnd (locations ++ [location]) rounds
    else
      some (.ok locations)

def scanFrameLocations (slice : Slice) (rounds : Nat) :
    Option (Except ParseDiagnostic (List FrameLocation)) :=
  if slice.bytes.length < 16 then
    some (.error { parserError .truncated .frameScan "file ended before the 16-byte Demo preamble" with
      byteOffset := some slice.bytes.length })
  else if slice.bytes.take DEMO_MAGIC.length ≠ DEMO_MAGIC then
    some (.error (parserError .unsupportedCommand .frameScan "unsupported Demo file signature"))
  else
    scanFrames slice.bytes 0 16 [] rounds

-- A frame as it stands in the file.
structure Frame where
  commandBytes : List UInt8
  tickBytes    : List UInt8
  sizeBytes    : List UInt8
  payload      : List UInt8
  command      : Nat
  tick         : Nat
  size         : Nat
  commandVarint : Varint 5 commandBytes command
  tickVarint    : Varint 5 tickBytes tick
  sizeVarint    : Varint 5 sizeBytes size
  known         : ∃ c, demoCmdTypeFromInt (commandNumber (.ofNat command)) = .ok c
  payloadLength : payload.length = (UInt32.ofNat size).toNat

def Frame.bytes (frame : Frame) : List UInt8 :=
  frame.commandBytes ++ frame.tickBytes ++ frame.sizeBytes ++ frame.payload

def Frame.location (frame : Frame) (index offset : Nat) : FrameLocation where
  index
  byteOffset := offset
  tick       := asI32 (.ofNat frame.tick)
  command    := commandNumber (.ofNat frame.command)

-- Where frames are, when they stand one after the other from an offset on.
def locate (index offset : Nat) : List Frame → List FrameLocation
  | []              => []
  | frame :: frames =>
    frame.location index offset :: locate (index + 1) (offset + frame.bytes.length) frames

end Import
