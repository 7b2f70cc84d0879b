import Mathlib.Data.Finset.Basic
import OpenFrag.Library.Digits
import OpenFrag.Library.Hex

-- The setup of the daemon: what it keeps, what it observes of the host, and what it is asked to do.
namespace Setup

inductive ApiError
  | notFound
  | invalid (text : String)
  | conflict (text : String)
  | unavailable (text : String)
  deriving DecidableEq, Repr

structure CaptureSelection where
  recorder        : String
  recorderPath    : Option String
  target          : String
  outputDirectory : String
  ffprobePath     : String
  deriving DecidableEq, Repr

-- What the host answers while one part of a call is handled. A path is its text, and the check of a
-- configuration directory reports its error as the text that debugging shows.
structure SetupHost where
  cs2CfgCandidates           : List String
  installGsi                 : String → Except String Unit
  gsiInstalled               : String → Bool
  gsiActive                  : Bool
  identityVerified           : Bool
  executable                 : String → Option String
  validateExecutable         : String → Bool
  flatpakRecorderAvailable   : Bool
  captureConfigured          : Bool
  configureCapture           : CaptureSelection → Except String Unit
  runTestCapture             : Except String Unit
  manualFlagAvailable        : Bool
  validateCs2CfgDirectory    : String → Except String Unit

structure PersistedSetup where
  revision          : UInt64
  skipped           : Finset String
  selectedCfg       : Option String
  backgroundEnabled : Option Bool
  testCapturePassed : Bool
  ffprobePath       : Option String
  deriving DecidableEq

instance : Inhabited PersistedSetup where
  default := ⟨0, ∅, none, none, false, none⟩

structure SetupDiscovery where
  candidates        : List String
  gsiInstalled      : Bool
  identityVerified  : Bool
  nativeRecorder    : Option String
  flatpakRecorder   : Bool
  ffprobe           : Option String
  captureConfigured : Bool
  deriving DecidableEq, Repr

structure SetupActionRequest where
  action              : String
  expectedFingerprint : String
  consent             : Bool
  step                : Option String
  path                : Option String
  recorder            : Option String
  captureTarget       : Option String
  outputDirectory     : Option String
  ffprobePath         : Option String
  deriving DecidableEq, Repr

structure SetupAction where
  id              : String
  label           : String
  requiresConsent : Bool
  deriving DecidableEq, Repr

structure SetupCheck where
  id      : String
  status  : String
  summary : String
  actions : List SetupAction
  deriving DecidableEq, Repr

structure SetupCandidate where
  path   : String
  source : String
  deriving DecidableEq, Repr

structure SetupResponse where
  fingerprint      : String
  complete         : Bool
  checks           : List SetupCheck
  cs2CfgCandidates : List SetupCandidate
  deriving DecidableEq, Repr

-- The hash of the state and of what is observed next to it.
abbrev Digest := PersistedSetup → SetupDiscovery → UInt64

def fingerprintText (hash : UInt64) : String :=
  "setup-" ++ String.ofList ((Digits.fixed 16 16 hash.toNat).map Hex.digit)

end Setup
