import OpenFrag.Library.Hex
import OpenFrag.Library.Lines
import OpenFrag.Library.Outcome

open Except

-- The configuration of the replay capture, and its file.
namespace Setup

-- The bytes of a path, which need not be UTF-8.
abbrev Path := List UInt8

inductive FileType
  | file
  | dir
  | symlink
  | other
  deriving DecidableEq, Repr

structure Metadata where
  fileType : FileType
  mode     : Nat
  deriving DecidableEq, Repr

abbrev IoError := String

-- What `symlink_metadata` answers for a path.
abbrev FileSystem := Path → Except IoError Metadata

inductive CaptureConfigError
  | invalidValue (name : String)
  | invalidPath (name : String)
  | unsafePath (name : String)
  | unsafeTarget
  | invalidFormat
  | io (error : IoError)
  deriving DecidableEq, Repr

def FORMAT_HEADER  := "OPENFRAG_CAPTURE_V1"
def REPLAY_SECONDS := 60

inductive CaptureRecorder
  | native (path : Path)
  | flatpak
  deriving DecidableEq, Repr

structure CaptureConfiguration where
  enabled         : Bool
  recorder        : CaptureRecorder
  captureTarget   : String
  outputDirectory : Path
  ffprobePath     : Path
  deriving DecidableEq, Repr

def SLASH : UInt8 := 0x2f
def DOT   : UInt8 := 0x2e

inductive Component
  | rootDir
  | curDir
  | parentDir
  | normal (name : Path)
  deriving DecidableEq, Repr

def Component.asOsStr : Component → Path
  | rootDir     => [SLASH]
  | curDir      => [DOT]
  | parentDir   => [DOT, DOT]
  | normal name => name

namespace Path

def isAbsolute (path : Path) : Bool :=
  path.head? = some SLASH

-- Repeated separators and the name `.` are left out, except for that name at the start.
def components (path : Path) : List Component :=
  let names := (path.splitOnP (· = SLASH)).filter (· ≠ [])
  let rest := (names.filter (· ≠ [DOT])).map fun name =>
    if name = [DOT, DOT] then .parentDir else .normal name
  if path.isAbsolute then .rootDir :: rest
  else if names.head? = some [DOT] then .curDir :: rest
  else rest

def push (path name : Path) : Path :=
  if name.isAbsolute then name
  else if path ≠ [] ∧ path.getLast? ≠ some SLASH then path ++ [SLASH] ++ name
  else path ++ name

end Path

def isAsciiControl (byte : UInt8) : Bool :=
  byte < 0x20 || byte = 0x7f

def requireAbsoluteCleanPath (path : Path) (name : String) : Except CaptureConfigError Unit :=
  check (path.isAbsolute ∧ path.length ≤ 4096 ∧
      ¬path.components.any (fun c => c = .parentDir || c = .curDir) ∧ ¬path.any isAsciiControl)
    (.unsafePath name)

def isTargetByte (c : Char) : Bool :=
  c.isAlphanum || c = '_' || c = '-' || c = '.' || c = ':'

def validateCaptureTarget (value : String) : Except CaptureConfigError Unit := do
  check (value.utf8ByteSize ≤ 128 ∧ value.toList.head?.any Char.isAlphanum)
    (.invalidValue "capture target")
  check (value.toList.tail.all isTargetByte) (.invalidValue "capture target")

variable (fs : FileSystem)

def requireNoSymlinkComponents (path : Path) (name : String) : Except CaptureConfigError Unit := do
  let _ ← path.components.foldlM (fun current component => do
    let current := current.push component.asOsStr
    let metadata ← (fs current).mapError .io
    check (metadata.fileType ≠ .symlink) (.unsafePath name)
    return current) ([] : Path)

def requireRealDirectory (path : Path) (name : String) : Except CaptureConfigError Unit := do
  requireAbsoluteCleanPath path name
  requireNoSymlinkComponents fs path name
  let metadata ← (fs path).mapError .io
  check (metadata.fileType = .dir) (.invalidPath name)

def requireExecutable (path : Path) (name : String) : Except CaptureConfigError Unit := do
  requireAbsoluteCleanPath path name
  requireNoSymlinkComponents fs path name
  let metadata ← (fs path).mapError .io
  check (metadata.fileType = .file ∧ metadata.mode &&& 0o111 ≠ 0) (.invalidPath name)

namespace CaptureConfiguration

def validate (c : CaptureConfiguration) : Except CaptureConfigError Unit := do
  validateCaptureTarget c.captureTarget
  requireRealDirectory fs c.outputDirectory "capture output directory"
  requireExecutable fs c.ffprobePath "ffprobe executable"
  match c.recorder with
  | .native path => requireExecutable fs path "gpu-screen-recorder executable"
  | .flatpak     => return ()

def new (enabled : Bool) (recorder : CaptureRecorder) (captureTarget : String)
    (outputDirectory ffprobePath : Path) : Except CaptureConfigError CaptureConfiguration := do
  let configuration : CaptureConfiguration :=
    { enabled, recorder, captureTarget, outputDirectory, ffprobePath }
  configuration.validate fs
  return configuration

end CaptureConfiguration

def encodeOs (value : Path) : String :=
  .ofList (Hex.encode value)

def encodeText (c : CaptureConfiguration) : String :=
  let (recorder, recorderPath) := match c.recorder with
    | .native path => ("native", encodeOs path)
    | .flatpak     => ("flatpak", "")
  FORMAT_HEADER ++ "\nenabled=" ++ (if c.enabled then "true" else "false") ++
    "\nrecorder=" ++ recorder ++ "\nrecorder_path=" ++ recorderPath ++
    "\ncapture_target=" ++ c.captureTarget ++
    "\noutput_directory=" ++ encodeOs c.outputDirectory ++
    "\nreplay_seconds=" ++ toString REPLAY_SECONDS ++
    "\nffprobe_path=" ++ encodeOs c.ffprobePath ++ "\n"

def encode (c : CaptureConfiguration) : ByteArray :=
  (encodeText c).toUTF8

-- The value of the next line, which has the given name, and the lines after it.
def field (lines : List (List Char)) (expected : String) :
    Except CaptureConfigError (List Char × List (List Char)) := do
  let line ← okOr .invalidFormat lines.head?
  let value ← okOr .invalidFormat
    ((Lines.stripPrefix expected.toList line).bind (Lines.stripPrefix ['=']))
  return (value, lines.tail)

def decodePath (value : List Char) : Except CaptureConfigError Path := do
  check (value.length % 2 = 0 ∧ value.all fun c => (Hex.value c).isSome) .invalidFormat
  okOr .invalidFormat (Hex.decode value)

def decodeEnabled (value : List Char) : Except CaptureConfigError Bool :=
  if value = "true".toList then return true
  else if value = "false".toList then return false
  else throw .invalidFormat

def decodeRecorder (kind path : List Char) : Except CaptureConfigError CaptureRecorder :=
  if kind = "flatpak".toList ∧ path = [] then return .flatpak
  else if kind = "native".toList ∧ path ≠ [] then return .native (← decodePath path)
  else throw .invalidFormat

def decode (bytes : ByteArray) : Except CaptureConfigError CaptureConfiguration := do
  let text ← okOr .invalidFormat (String.fromUTF8? bytes)
  let lines := Lines.lines text.toList
  check (lines.head? = some FORMAT_HEADER.toList) .invalidFormat
  let (value, lines) ← field lines.tail "enabled"
  let enabled ← decodeEnabled value
  let (recorderKind, lines) ← field lines "recorder"
  let (recorderPath, lines) ← field lines "recorder_path"
  let (captureTarget, lines) ← field lines "capture_target"
  let (value, lines) ← field lines "output_directory"
  let outputDirectory ← decodePath value
  let (value, lines) ← field lines "replay_seconds"
  check (value = (toString REPLAY_SECONDS).toList) .invalidFormat
  let (value, lines) ← field lines "ffprobe_path"
  let ffprobePath ← decodePath value
  check (lines = []) .invalidFormat
  let recorder ← decodeRecorder recorderKind recorderPath
  CaptureConfiguration.new fs enabled recorder (.ofList captureTarget) outputDirectory ffprobePath

end Setup
