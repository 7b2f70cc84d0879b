import OpenFrag.Setup.Serial
import OpenFrag.Setup.Theorems.Runtime

open Machine

namespace Setup

variable {digest : Digest} {env : Environment} {request : SetupActionRequest} {call : Call}
variable {applied : PersistedSetup} {runtime : SetupRuntime} {fault : PersistFault}
variable {steps : List SetupStep} {step : SetupStep}

-- The state that is written once an action has been applied.
def revised (applied : PersistedSetup) : PersistedSetup :=
  { applied with revision := UInt64.ofNat (MachineInt.saturatingAdd 64 applied.revision.toNat 1) }

theorem revised_revision : (revised applied).revision.toNat =
    min (applied.revision.toNat + 1) (2 ^ 64 - 1) := by
  have hlt : MachineInt.saturatingAdd 64 applied.revision.toNat 1 < 2 ^ 64 := by
    simp only [MachineInt.saturatingAdd]
    omega
  change (UInt64.ofNat _).toNat = _
  rw [UInt64.toNat_ofNat_of_lt' hlt]
  rfl

theorem revised_eq_self (h : applied.revision.toNat + 1 = 2 ^ 64) : revised applied = applied := by
  have hrevision : (revised applied).revision = applied.revision := by
    apply UInt64.toNat_inj.mp
    rw [revised_revision]
    omega
  cases applied
  simpa [revised] using hrevision

-- What is left as it is: the calls that are not actions, and the actions that are refused.
theorem act_refused (h : ∀ applied, ¬Applies digest env request runtime applied) :
    ∃ error, act request digest env runtime = (.error error, runtime) := by
  unfold act
  split
  case isTrue => exact ⟨_, rfl⟩
  case isFalse hcurrent =>
    have hmutates := applyAction_mutates env.applied request runtime.memory
    cases happlied : applyAction env.applied request runtime.memory
    case ok applied => exact absurd ⟨of_not_not hcurrent, happlied⟩ (h applied)
    case error error memory =>
      simp only [happlied] at hmutates
      exact ⟨error, by rw [hmutates]⟩

namespace Applies

variable (h : Applies digest env request runtime applied)

include h in
theorem act_ok (hfault : env.fault = none) : act request digest env runtime =
    (.ok (responseFor env.reported (revised applied) digest),
      ⟨revised applied, some (revised applied)⟩) := by
  have hcurrent : ¬request.expectedFingerprint ≠
      (responseFor env.observed runtime.memory digest).fingerprint := not_not.mpr h.current
  simp only [act, if_neg hcurrent, h.applied, hfault]
  rfl

include h in
theorem act_error (hfault : env.fault = some fault) : ∃ error, act request digest env runtime =
    (.error error, ⟨revised applied,
      if fault.step = .protect then some (revised applied) else runtime.file⟩) := by
  have hcurrent : ¬request.expectedFingerprint ≠
      (responseFor env.observed runtime.memory digest).fingerprint := not_not.mpr h.current
  have ⟨error, hpersist⟩ := persist_eq_error fault (revised applied) runtime.file
  refine ⟨error, ?_⟩
  simp only [revised] at hpersist
  simp only [act, if_neg hcurrent, h.applied, hfault, hpersist]
  rfl

end Applies

-- What an action does, by how it ends.
inductive Acts (digest : Digest) (env : Environment) (request : SetupActionRequest)
    (runtime : SetupRuntime) : Except ApiError SetupResponse × SetupRuntime → Prop
  | refused {error} (h : ∀ applied, ¬Applies digest env request runtime applied) :
    Acts digest env request runtime (.error error, runtime)
  | lost {applied fault error} (h : Applies digest env request runtime applied)
    (hfault : env.fault = some fault) :
    Acts digest env request runtime (.error error,
      ⟨revised applied, if fault.step = .protect then some (revised applied) else runtime.file⟩)
  | written {applied response} (h : Applies digest env request runtime applied)
    (hfault : env.fault = none) :
    Acts digest env request runtime (.ok response, ⟨revised applied, some (revised applied)⟩)

theorem act_acts : Acts digest env request runtime (act request digest env runtime) := by
  by_cases h : ∃ applied, Applies digest env request runtime applied
  case neg =>
    have hrefused : ∀ applied, ¬Applies digest env request runtime applied :=
      fun applied happlies => h ⟨applied, happlies⟩
    have ⟨error, hact⟩ := act_refused hrefused
    rw [hact]
    exact .refused hrefused
  case pos =>
    have ⟨applied, happlies⟩ := h
    cases hfault : env.fault
    case none =>
      rw [happlies.act_ok hfault]
      exact .written happlies hfault
    case some fault =>
      have ⟨error, hact⟩ := happlies.act_error hfault
      rw [hact]
      exact .lost happlies hfault

-- A step of a run is what the runtime makes of its call.
def Genuine (digest : Digest) (step : SetupStep) : Prop :=
  step = Machine.step (answer digest) step.before step.call

theorem Genuine.acts (h : Genuine digest step) (hcall : step.call = .act env request) :
    ∃ result, step.reply = .responded result ∧
      Acts digest env request step.before (result, step.after) := by
  rw [h, hcall]
  exact ⟨_, rfl, act_acts⟩

theorem Genuine.current (h : Genuine digest step) (hsucceeds : step.succeeds request) :
    ∃ env, step.call = .act env request ∧
      request.expectedFingerprint = fingerprint env.observed step.before.memory digest := by
  have ⟨env, response, hcall, hreply⟩ := hsucceeds
  have ⟨result, hresult, hacts⟩ := h.acts hcall
  rw [hreply, Reply.responded.injEq] at hresult
  subst hresult
  refine ⟨env, hcall, ?_⟩
  generalize hok : (Except.ok response, step.after) = result at hacts
  cases hacts
  case written happlies hfault => exact happlies.current
  all_goals simp at hok

-- What holds in the runs whose writings succeed: the file keeps what is in memory, and the
-- revisions tell the actions apart.
structure Serial (digest : Digest) (steps : List SetupStep) (runtime : SetupRuntime) : Prop where
  serialised : Serialised digest steps runtime
  loaded     : runtime.memory = load runtime.file
  genuine    : ∀ step ∈ steps, Genuine digest step
  older      : ∀ step ∈ steps, ∀ request, step.succeeds request →
    step.before.memory.revision.toNat < runtime.memory.revision.toNat

theorem Tested.append (h : Tested steps)
    (hstep : ∀ request, step.succeeds request → request.action ≠ "configure_capture") :
    Tested (steps ++ [step]) := by
  have ⟨before, test, since, hsteps, htest, hsince⟩ := h
  refine ⟨before, test, since ++ [step], by simp [hsteps], htest, ?_⟩
  intro step' hstep'
  cases List.mem_append.mp hstep'
  case inl hmem => exact hsince step' hmem
  case inr hmem => exact List.mem_singleton.mp hmem ▸ hstep

theorem SetupStep.not_succeeds_of_fails (h : step.fails) : ¬step.succeeds request := by
  intro ⟨env, response, _, hreply⟩
  have ⟨error, herror⟩ := h
  simp [herror] at hreply

namespace Serial

theorem start : Serial digest [] (.new none) where
  serialised := ⟨by simp, List.Pairwise.nil, nofun⟩
  loaded     := rfl
  genuine    := by simp
  older      := by simp

-- A step that does not succeed with an action leaves the runtime as it is.
theorem idle (h : Serial digest steps runtime)
    (hidle : ∀ request, ¬SetupStep.succeeds (Machine.step (answer digest) runtime call) request)
    (hafter : (Machine.step (answer digest) runtime call).after = runtime) :
    Serial digest (steps ++ [Machine.step (answer digest) runtime call]) runtime where
  serialised := {
    atomic    := by
      intro step hstep
      cases List.mem_append.mp hstep
      case inl hmem => exact h.serialised.atomic step hmem
      case inr hmem =>
        cases List.mem_singleton.mp hmem
        exact ⟨fun _ => ⟨hafter, fun _ => by rw [hafter]; rfl⟩,
          fun request hsucceeds => absurd hsucceeds (hidle request)⟩
    exclusive := by
      apply List.pairwise_append.mpr ⟨h.serialised.exclusive, List.pairwise_singleton _ _, ?_⟩
      intro step _ step' hstep' _ request' _ hsucceeds
      cases List.mem_singleton.mp hstep'
      exact absurd hsucceeds (hidle request')
    tested    := fun hpassed =>
      (h.serialised.tested hpassed).append fun request hsucceeds =>
        absurd hsucceeds (hidle request) }
  loaded  := h.loaded
  genuine := by
    intro step hstep
    cases List.mem_append.mp hstep
    case inl hmem => exact h.genuine step hmem
    case inr hmem => cases List.mem_singleton.mp hmem; rfl
  older   := by
    intro step hstep request hsucceeds
    cases List.mem_append.mp hstep
    case inl hmem => exact h.older step hmem request hsucceeds
    case inr hmem =>
      cases List.mem_singleton.mp hmem
      exact absurd hsucceeds (hidle request)

-- An action that fails and leaves the runtime as it is.
theorem failed (h : Serial digest steps runtime) {error : ApiError}
    (hact : act request digest env runtime = (.error error, runtime)) :
    Serial digest (steps ++ [Machine.step (answer digest) runtime (.act env request)])
      (Machine.step (answer digest) runtime (.act env request)).after := by
  have hafter : (Machine.step (answer digest) runtime (.act env request)).after = runtime :=
    congrArg Prod.snd hact
  have hreply : (Machine.step (answer digest) runtime (.act env request)).reply =
      .responded (.error error) := congrArg Reply.responded (congrArg Prod.fst hact)
  rw [hafter]
  apply h.idle
  case hidle => exact fun request' => SetupStep.not_succeeds_of_fails ⟨error, hreply⟩
  case hafter => exact hafter

-- An earlier action has been compared with another fingerprint.
theorem exclusive (h : Serial digest steps runtime)
    (hfair : NoCollision digest steps runtime (.act env request))
    (hcurrent : request.expectedFingerprint = fingerprint env.observed runtime.memory digest) :
    ∀ step ∈ steps, ∀ request', step.succeeds request' →
      request'.expectedFingerprint ≠ request.expectedFingerprint := by
  intro step hstep request' hsucceeds heq
  have ⟨env', hcall, hcurrent'⟩ := (h.genuine step hstep).current hsucceeds
  have hhash : digest.uncurry (hashed env' step.before) = digest.uncurry (hashed env runtime) := by
    apply fingerprintText_injective
    exact hcurrent'.symm.trans (heq.trans hcurrent)
  have hmemory := congrArg Prod.fst (hfair step hstep env' request' hcall hhash)
  have holder := h.older step hstep request' hsucceeds
  simp only [hashed] at hmemory
  simp [hmemory] at holder

-- A step that succeeds, and is written under a greater revision.
theorem written (h : Serial digest steps runtime)
    (hfair : NoCollision digest steps runtime (.act env request))
    (happlies : Applies digest env request runtime applied) (hfault : env.fault = none)
    (hrevision : runtime.memory.revision.toNat + 1 < 2 ^ 64) :
    Serial digest (steps ++ [Machine.step (answer digest) runtime (.act env request)])
      (Machine.step (answer digest) runtime (.act env request)).after := by
  have hact := happlies.act_ok hfault
  have hkeeps := applyAction_keeps happlies.applied
  have hrevised : (revised applied).revision.toNat = runtime.memory.revision.toNat + 1 := by
    rw [revised_revision, hkeeps.1]
    omega
  have ⟨step, hstep⟩ : ∃ step : SetupStep,
      Machine.step (answer digest) runtime (.act env request) = step := ⟨_, rfl⟩
  rw [hstep]
  have hbefore : step.before = runtime := hstep ▸ rfl
  have hcall : step.call = .act env request := hstep ▸ rfl
  have hreply : step.reply =
      .responded (.ok (responseFor env.reported (revised applied) digest)) :=
    hstep ▸ congrArg Reply.responded (congrArg Prod.fst hact)
  have hafter : step.after = ⟨revised applied, some (revised applied)⟩ :=
    hstep ▸ congrArg Prod.snd hact
  have hrequest {request'} (hsucceeds : step.succeeds request') : request' = request := by
    have ⟨env', _, hcall', _⟩ := hsucceeds
    simp only [hcall, Call.act.injEq] at hcall'
    exact hcall'.2.symm
  have hmem {step'} (hstep' : step' ∈ steps ++ [step]) : step' ∈ steps ∨ step' = step := by
    simpa using hstep'
  rw [hafter]
  constructor
  case serialised =>
    constructor
    case atomic =>
      intro step' hstep'
      cases hmem hstep'
      case inl hold => exact h.serialised.atomic step' hold
      case inr heq =>
        subst heq
        constructor
        case failed =>
          intro ⟨error, herror⟩
          simp [hreply] at herror
        case succeeded =>
          intro _ _
          rw [hafter, hbefore]
          exact ⟨rfl, hrevised⟩
    case exclusive =>
      apply List.pairwise_append.mpr ⟨h.serialised.exclusive, List.pairwise_singleton _ _, ?_⟩
      intro old hold new hnew request₁ request₂ hsucceeds₁ hsucceeds₂
      cases List.mem_singleton.mp hnew
      rw [hrequest hsucceeds₂]
      exact h.exclusive hfair happlies.current old hold request₁ hsucceeds₁
    case tested =>
      intro hpassed
      cases hkeeps.2 hpassed
      case inl htest =>
        have hsucceeds : step.succeeds request := ⟨env, _, hcall, hreply⟩
        exact ⟨steps, step, [], rfl, ⟨request, hsucceeds, htest⟩, by simp⟩
      case inr hbefore =>
        apply (h.serialised.tested hbefore.1).append
        intro request' hsucceeds
        exact hrequest hsucceeds ▸ hbefore.2
  case loaded => rfl
  case genuine =>
    intro step' hstep'
    cases hmem hstep'
    case inl hold => exact h.genuine step' hold
    case inr heq => rw [heq, Genuine, hbefore, hcall, hstep]
  case older =>
    intro step' hstep' request' hsucceeds
    change _ < (revised applied).revision.toNat
    cases hmem hstep'
    case inl hold =>
      have := h.older step' hold request' hsucceeds
      omega
    case inr heq =>
      rw [heq, hbefore]
      omega

theorem preserved (h : Serial digest steps runtime) (hfair : NoCollision digest steps runtime call)
    (hwritten : Written digest steps runtime call) :
    Serial digest (steps ++ [Machine.step (answer digest) runtime call])
      (Machine.step (answer digest) runtime call).after := by
  cases call
  case response host =>
    apply h.idle
    case hidle => exact fun request ⟨env, response, hcall, _⟩ => nomatch hcall
    case hafter => rfl
  case restart =>
    have hsame : SetupRuntime.new runtime.file = runtime := by
      cases runtime
      simpa [SetupRuntime.new] using h.loaded.symm
    have hafter : (Machine.step (answer digest) runtime .restart).after = runtime := hsame
    rw [hafter]
    apply h.idle
    case hidle => exact fun request ⟨env, response, hcall, _⟩ => nomatch hcall
    case hafter => exact hsame
  case act env request =>
    by_cases happlies : ∃ applied, Applies digest env request runtime applied
    case neg =>
      have ⟨error, hact⟩ := act_refused fun applied happlies' => happlies ⟨applied, happlies'⟩
      exact h.failed hact
    case pos =>
      have ⟨applied, happlies⟩ := happlies
      have hfault := hwritten applied happlies
      cases hnone : env.fault
      case none =>
        simp only [hnone] at hfault
        exact h.written hfair happlies hnone hfault
      case some fault =>
        simp only [hnone] at hfault
        have ⟨hmax, hsame, hfile⟩ := hfault
        have ⟨error, hact⟩ := happlies.act_error hnone
        rw [hsame, revised_eq_self hmax] at hact
        have hfile : (if fault.step = .protect then some runtime.memory else runtime.file) =
            runtime.file := by
          split
          case isTrue hprotect => exact (hfile hprotect).symm
          case isFalse => rfl
        rw [hfile] at hact
        exact h.failed hact

-- An action that is applied and not written as it should be breaks what is asked of the runs.
theorem written_of (happlies : Applies digest env request runtime applied)
    (hatomic : Atomic digest (Machine.step (answer digest) runtime (.act env request))) :
    match env.fault with
    | none       => runtime.memory.revision.toNat + 1 < 2 ^ 64
    | some fault => runtime.memory.revision.toNat + 1 = 2 ^ 64 ∧ applied = runtime.memory ∧
      (fault.step = .protect → runtime.file = some runtime.memory) := by
  have hkeeps := applyAction_keeps happlies.applied
  have hrevised : (revised applied).revision.toNat =
      min (runtime.memory.revision.toNat + 1) (2 ^ 64 - 1) := hkeeps.1 ▸ revised_revision
  have hlt := runtime.memory.revision.toNat_lt
  split
  case h_1 hfault =>
    have hact := happlies.act_ok hfault
    have hafter : (answer digest (.act env request) runtime).2 =
        ⟨revised applied, some (revised applied)⟩ := congrArg Prod.snd hact
    have hsucceeds := hatomic.succeeded request
      ⟨env, _, rfl, congrArg Reply.responded (congrArg Prod.fst hact)⟩
    simp only [Machine.step, hafter] at hsucceeds
    omega
  case h_2 fault hfault =>
    have ⟨error, hact⟩ := happlies.act_error hfault
    have hafter := (hatomic.failed
      ⟨error, congrArg Reply.responded (congrArg Prod.fst hact)⟩).1
    have hsame := (congrArg Prod.snd hact).symm.trans hafter
    have hmemory : revised applied = runtime.memory := congrArg SetupRuntime.memory hsame
    have hfile := congrArg SetupRuntime.file hsame
    simp only [Machine.step] at hmemory hfile
    have hmax : runtime.memory.revision.toNat + 1 = 2 ^ 64 := by
      rw [hmemory] at hrevised
      omega
    have happlied : applied = runtime.memory := by
      rw [← hmemory, revised_eq_self]
      rw [hkeeps.1]
      exact hmax
    refine ⟨hmax, happlied, fun hprotect => ?_⟩
    rw [if_pos hprotect, hmemory] at hfile
    exact hfile.symm

end Serial

-- The runs of actions that are atomic and serialised are those in which no action is applied
-- without being written.
theorem serialised_iff (digest : Digest) (calls : List Call)
    (hfair : Each (answer digest) (NoCollision digest) [] (.new none) calls) :
    Always (answer digest) (Serialised digest) [] (.new none) calls ↔
      Each (answer digest) (Written digest) [] (.new none) calls := by
  apply always_iff_each (I := Serial digest)
  case hI => exact fun _ _ h => h.serialised
  case hstep => exact fun _ _ _ h hfair hwritten => h.preserved hfair hwritten
  case hfine =>
    intro steps runtime call h _ hserialised
    cases call
    case act env request =>
      intro applied happlies
      exact Serial.written_of happlies (hserialised.atomic _ (by simp))
    case response => exact True.intro
    case restart  => exact True.intro
  case hs => exact Serial.start
  case hfair => exact hfair

-- A host without a game, whose recorder passes its test.
def demoHost : SetupHost where
  cs2CfgCandidates         := []
  installGsi               := fun _ => .error "no game"
  gsiInstalled             := fun _ => false
  gsiActive                := false
  identityVerified         := false
  executable               := fun _ => none
  validateExecutable       := fun _ => false
  flatpakRecorderAvailable := true
  captureConfigured        := true
  configureCapture         := fun _ => .ok ()
  runTestCapture           := .ok ()
  manualFlagAvailable      := false
  validateCs2CfgDirectory  := fun _ => .error "NotFound"

def revisionDigest : Digest :=
  fun state _ => state.revision

def demoRequest (action : String) (state : PersistedSetup) : SetupActionRequest where
  action
  expectedFingerprint := fingerprint demoHost state revisionDigest
  consent             := true
  step                := none
  path                := none
  recorder            := none
  captureTarget       := none
  outputDirectory     := none
  ffprobePath         := none

def demoEnvironment (fault : Option PersistFault) : Environment where
  observed := demoHost
  applied  := demoHost
  reported := demoHost
  fault

-- The capture is tested, and then the background start is chosen.
def testDemo : List Call := [
  .act (demoEnvironment none) (demoRequest "run_test_capture" default),
  .act (demoEnvironment none) (demoRequest "set_background" { (default : PersistedSetup) with
    revision := 1, testCapturePassed := true })]

theorem serialised_testDemo :
    Always (answer revisionDigest) (Serialised revisionDigest) [] (.new none) testDemo := by
  have hrevision : (answer revisionDigest (.act (demoEnvironment none)
      (demoRequest "run_test_capture" default)) (.new none)).2.memory.revision = 1 := by
    decide +kernel
  refine (serialised_iff revisionDigest testDemo ⟨?_, ?_, True.intro⟩).mpr ⟨?_, ?_, True.intro⟩
  case refine_1 => simp [NoCollision]
  case refine_2 =>
    intro step hstep env' request' _ hhash
    cases List.mem_singleton.mp hstep
    have hzero : (0 : UInt64) = 1 := hhash.trans hrevision
    exact absurd hzero (by decide)
  case refine_3 =>
    intro applied _
    change (0 : UInt64).toNat + 1 < 2 ^ 64
    decide
  case refine_4 =>
    intro applied _
    change (answer revisionDigest _ _).2.memory.revision.toNat + 1 < 2 ^ 64
    rw [hrevision]
    decide

-- The temporary file cannot be created: the choice is in memory, and not in the file.
def fullDiskDemo : List Call :=
  [.act (demoEnvironment (some ⟨.openTemporary, "No space left on device"⟩))
    (demoRequest "set_background" default)]

theorem not_serialised_fullDiskDemo :
    Each (answer revisionDigest) (NoCollision revisionDigest) [] (.new none) fullDiskDemo ∧
      ¬Always (answer revisionDigest) (Serialised revisionDigest) [] (.new none) fullDiskDemo := by
  refine ⟨⟨by simp [NoCollision], True.intro⟩, fun ⟨_, h⟩ => ?_⟩
  have hsame := ((h.atomic _ List.mem_cons_self).failed ⟨_, rfl⟩).1
  have hbackground := congrArg (·.memory.backgroundEnabled) hsame
  revert hbackground
  decide +kernel

end Setup
