import OpenFrag.Setup.Model

-- The checks that a setup response lists.
namespace Setup

def action (id label : String) (requiresConsent : Bool) : SetupAction where
  id
  label
  requiresConsent

def check (id status summary : String) (actions : List SetupAction) : SetupCheck where
  id
  status
  summary
  actions

def deferred (id summary : String) : SetupCheck :=
  check id "not_tested" summary [action "skip" "Deferred" false]

def optionalSteps : List String :=
  ["gsi", "local_identity", "capture", "ffprobe", "test_capture", "manual_flag"]

variable (host : SetupHost) (state : PersistedSetup) (discovery : SetupDiscovery)

def optionalCheck (id status summary : String) (actions : List SetupAction) : SetupCheck :=
  if id ∈ state.skipped
  then deferred id (summary ++ ". Deferred by choice")
  else check id status summary actions

def gsiCheck : SetupCheck :=
  if discovery.gsiInstalled then
    check "gsi" "ready" "Private loopback GSI is installed" []
  else if "gsi" ∈ state.skipped then
    deferred "gsi" "Live GSI setup was deferred"
  else
    check "gsi" "needs_action"
      (if discovery.candidates.isEmpty
        then "Choose the exact CS2 game/csgo/cfg directory"
        else "Install the loopback GSI config in a discovered CS2 directory")
      [action "install_gsi" "Install GSI config" true, action "skip" "Do this later" false]

def initialChecks : List SetupCheck := [
  check "storage" "ready" "Private local storage is ready" [],
  gsiCheck state discovery,
  optionalCheck state "local_identity"
    (if discovery.identityVerified then "ready" else "needs_action")
    "Identity is verified from GSI or an imported Demo, never free-form input"
    [action "check_identity" "Check verified evidence" false, action "skip" "Verify later" false]]

def recorderSummary : String :=
  match discovery.nativeRecorder, discovery.flatpakRecorder with
  | some path, true  => "Choose native " ++ path ++ " or the Flatpak recorder"
  | some path, false => "Native recorder found at " ++ path
  | none, true       => "Flatpak recorder found"
  | none, false      => "gpu-screen-recorder was not found"

def captureChecks : List SetupCheck := [
  optionalCheck state "capture"
    (if discovery.captureConfigured then "ready"
      else if discovery.nativeRecorder.isSome || discovery.flatpakRecorder then "needs_action"
      else "unavailable")
    (if discovery.captureConfigured then "Replay capture paths are configured"
      else recorderSummary discovery)
    [action "configure_capture" "Configure replay capture" true,
      action "skip" "Use Demo import without capture" false],
  optionalCheck state "ffprobe"
    (if discovery.ffprobe.isSome then "ready" else "unavailable")
    (discovery.ffprobe.elim "ffprobe was not found" ("ffprobe found at " ++ ·))
    [action "set_ffprobe" "Use this ffprobe path" false, action "skip" "Configure later" false],
  optionalCheck state "test_capture"
    (if state.testCapturePassed then "ready" else "not_tested")
    (if state.testCapturePassed
      then "Bounded replay test passed"
      else "No bounded replay test has run")
    [action "run_test_capture" "Run bounded test" true, action "skip" "Test later" false]]

def backgroundCheck : SetupCheck :=
  match state.backgroundEnabled with
  | some enabled =>
    check "background" "ready"
      (if enabled
        then "Background start is enabled; capture still requires an explicit session"
        else "Background start is disabled")
      [action "set_background" "Change preference" false]
  | none =>
    check "background" "needs_action" "Choose whether openfrag starts in the background"
      [action "set_background" "Enable background start" true,
        action "set_background" "Keep disabled" false]

def checksFor : List SetupCheck :=
  initialChecks state discovery ++ captureChecks state discovery ++ [
    check "demo_import" "ready" "A local Demo can be selected from the dashboard" [],
    optionalCheck state "manual_flag"
      (if host.manualFlagAvailable then "needs_action" else "unavailable")
      "Approve Manual Flag through the desktop Global Shortcuts portal"
      [action "request_manual_flag" "Request portal approval" true,
        action "skip" "Approve later" false],
    backgroundCheck state]

def isComplete (checks : List SetupCheck) : Bool :=
  checks.all fun check => ["ready", "not_tested", "unavailable"].contains check.status

def gsiInstalled : Bool :=
  host.gsiActive || state.selectedCfg.any host.gsiInstalled ||
    host.cs2CfgCandidates.any host.gsiInstalled

def discover : SetupDiscovery where
  candidates        := host.cs2CfgCandidates
  gsiInstalled      := gsiInstalled host state
  identityVerified  := host.identityVerified
  nativeRecorder    := host.executable "gpu-screen-recorder"
  flatpakRecorder   := host.flatpakRecorderAvailable
  ffprobe           :=
    (state.ffprobePath.filter host.validateExecutable).or (host.executable "ffprobe")
  captureConfigured := host.captureConfigured

def fingerprint (digest : Digest) : String :=
  fingerprintText (digest state (discover host state))

def responseFor (digest : Digest) : SetupResponse :=
  let discovery := discover host state
  let checks := checksFor host state discovery
  {
    fingerprint      := fingerprint host state digest
    complete         := isComplete checks
    checks
    cs2CfgCandidates := discovery.candidates.map (⟨·, "steam_library"⟩)
  }

end Setup
