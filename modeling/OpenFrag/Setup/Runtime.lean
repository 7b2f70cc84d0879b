import OpenFrag.Library.Machine
import OpenFrag.Library.MachineInt
import OpenFrag.Setup.Checks

-- The runtime of the setup: the state in memory, and the file that keeps it.
namespace Setup

-- An action changes the state in place, and keeps what it has done when it fails.
abbrev Mutation := EStateM ApiError PersistedSetup

def required (value : Option String) (text : String) : Mutation String :=
  match value with
  | some value => pure value
  | none       => throw (.invalid text)

def ensure (condition : Prop) [Decidable condition] (error : ApiError) : Mutation Unit :=
  if condition then pure () else throw error

def asked (reply : Except String Unit) (error : String → ApiError) : Mutation Unit :=
  match reply with
  | .ok ()      => pure ()
  | .error text => throw (error text)

def unskip (step : String) : Mutation Unit :=
  modify fun state => { state with skipped := state.skipped.erase step }

variable (host : SetupHost) (request : SetupActionRequest)

def applyCaptureConfiguration : Mutation Unit := do
  ensure request.consent (.invalid "saving capture paths requires explicit consent")
  let recorder ← required request.recorder "choose a recorder"
  let target ← required request.captureTarget "enter an explicit capture target"
  let outputDirectory ← required request.outputDirectory "choose a capture output directory"
  let ffprobePath ← required request.ffprobePath "choose the ffprobe executable"
  let selection : CaptureSelection :=
    { recorder, recorderPath := request.path, target, outputDirectory, ffprobePath }
  asked (host.configureCapture selection) .invalid
  unskip "capture"
  unskip "ffprobe"
  modify fun state =>
    { state with testCapturePassed := false, ffprobePath := some selection.ffprobePath }

def applyAction : Mutation Unit :=
  match request.action with
  | "install_gsi" => do
    ensure request.consent (.invalid "installing the CS2 cfg requires explicit consent")
    let cfg ← required request.path "select a CS2 cfg directory"
    asked (host.validateCs2CfgDirectory cfg) fun error =>
      .invalid ("invalid CS2 cfg directory: " ++ error)
    asked (host.installGsi cfg) .unavailable
    modify fun state => { state with selectedCfg := some cfg }
    unskip "gsi"
  | "skip" => do
    let step ← required request.step "select a setup step to defer"
    ensure (step ∈ optionalSteps) (.invalid (step ++ " cannot be deferred"))
    modify fun state => { state with skipped := insert step state.skipped }
  | "set_background" =>
    modify fun state => { state with backgroundEnabled := some request.consent }
  | "check_identity" => do
    ensure host.identityVerified
      (.unavailable "No verified local identity is available from GSI or a Demo yet")
    unskip "local_identity"
  | "configure_capture" => applyCaptureConfiguration host request
  | "set_ffprobe" => do
    let path ← required request.ffprobePath "choose the ffprobe executable"
    ensure (host.validateExecutable path) (.invalid "ffprobe must be an absolute executable file")
    modify fun state => { state with ffprobePath := some path }
    unskip "ffprobe"
  | "run_test_capture" => do
    ensure request.consent (.invalid "the bounded capture test requires explicit consent")
    asked host.runTestCapture .unavailable
    modify fun state => { state with testCapturePassed := true }
    unskip "test_capture"
  | "request_manual_flag" => do
    ensure request.consent (.invalid "Manual Flag approval requires explicit consent")
    ensure host.manualFlagAvailable
      (.unavailable "Global Shortcuts portal approval is unavailable in this session")
  | other => throw (.invalid ("unknown setup action: " ++ other))

-- The steps of the writing of the file, each of which may fail on its own.
inductive PersistStep
  | parent
  | createDirectory
  | symlinks
  | protectDirectory
  | encode
  | openTemporary
  | write
  | sync
  | rename
  | protect
  deriving DecidableEq, Repr

structure PersistFault where
  step  : PersistStep
  error : String
  deriving DecidableEq, Repr

abbrev StateFile := Option PersistedSetup

variable (fault : Option PersistFault)

def reach (step : PersistStep) (text : String → String) : EStateM ApiError StateFile Unit :=
  match fault.filter (·.step = step) with
  | none       => pure ()
  | some fault => throw (.unavailable (text fault.error))

-- The state is written to a temporary file, which then takes the place of the file.
def persist (state : PersistedSetup) : EStateM ApiError StateFile Unit := do
  reach fault .parent fun _ => "setup state path has no parent"
  reach fault .createDirectory ("cannot create setup state directory: " ++ ·)
  reach fault .symlinks fun _ => "setup state directory cannot contain symlinks"
  reach fault .protectDirectory ("cannot protect setup state directory: " ++ ·)
  reach fault .encode ("cannot encode setup state: " ++ ·)
  reach fault .openTemporary ("cannot persist setup state: " ++ ·)
  reach fault .write ("cannot persist setup state: " ++ ·)
  reach fault .sync ("cannot persist setup state: " ++ ·)
  reach fault .rename ("cannot persist setup state: " ++ ·)
  set (some state : StateFile)
  reach fault .protect ("cannot persist setup state: " ++ ·)

structure SetupRuntime where
  memory : PersistedSetup
  file   : StateFile
  deriving DecidableEq

def load (file : StateFile) : PersistedSetup :=
  file.getD default

namespace SetupRuntime

def new (file : StateFile) : SetupRuntime where
  memory := load file
  file

end SetupRuntime

-- What surrounds one action: the host as the fingerprint is compared, as the action is applied and
-- as the response is made, and the step of the writing that fails.
structure Environment where
  observed : SetupHost
  applied  : SetupHost
  reported : SetupHost
  fault    : Option PersistFault

inductive Call
  | act (env : Environment) (request : SetupActionRequest)
  | response (host : SetupHost)
  | restart

variable (digest : Digest)

def act (env : Environment) (runtime : SetupRuntime) :
    Except ApiError SetupResponse × SetupRuntime :=
  if request.expectedFingerprint ≠ (responseFor env.observed runtime.memory digest).fingerprint then
    (.error (.conflict "setup changed; reload before applying this action"), runtime)
  else
    match applyAction env.applied request runtime.memory with
    | .error error memory => (.error error, { runtime with memory })
    | .ok () applied      =>
      let revision := MachineInt.saturatingAdd 64 applied.revision.toNat 1
      let memory := { applied with revision := UInt64.ofNat revision }
      match persist env.fault memory runtime.file with
      | .error error file => (.error error, ⟨memory, file⟩)
      | .ok () file       => (.ok (responseFor env.reported memory digest), ⟨memory, file⟩)

inductive Reply
  | responded (result : Except ApiError SetupResponse)
  | restarted

-- The calls of the clients, one at a time under the lock, and the restarts of the daemon.
def answer : Call → SetupRuntime → Reply × SetupRuntime
  | .act env request, runtime => (act request digest env runtime).map .responded id
  | .response host, runtime   => (.responded (.ok (responseFor host runtime.memory digest)), runtime)
  | .restart, runtime         => (.restarted, .new runtime.file)

end Setup
