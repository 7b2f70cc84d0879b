import OpenFrag.Setup.Runtime

open Machine

namespace Setup

variable {digest : Digest} {host : SetupHost} {env : Environment} {request : SetupActionRequest}
variable {state applied : PersistedSetup} {runtime : SetupRuntime} {file : StateFile}
variable {fault : PersistFault} {call : Call}

-- The text of a hash has all of its bits.
theorem fingerprintText_injective {hash hash' : UInt64}
    (h : fingerprintText hash = fingerprintText hash') : hash = hash' := by
  have hdigits : (Digits.fixed 16 16 hash.toNat).map Hex.digit =
      (Digits.fixed 16 16 hash'.toNat).map Hex.digit := by
    simpa [fingerprintText] using congrArg String.toList h
  apply UInt64.toNat_inj.mp
  exact Digits.fixed_injective (by decide) Hex.digit_injective hash.toNat_lt hash'.toNat_lt hdigits

section Mutations

variable {α β : Type} {x : Mutation α} {f : α → Mutation β}
variable {R : PersistedSetup → PersistedSetup → Prop}

-- A mutation fails before it changes anything, and else changes the state as described.
def Mutates (x : Mutation α) (R : PersistedSetup → PersistedSetup → Prop) : Prop :=
  ∀ state, match x state with
    | .ok _ state'    => R state state'
    | .error _ state' => state' = state

namespace Mutates

theorem check (hx : Mutates x (· = ·)) (hf : ∀ a, Mutates (f a) R) : Mutates (x >>= f) R := by
  intro state
  have h := hx state
  simp only [bind, EStateM.bind]
  cases hstate : x state
  case ok a state' =>
    simp only [hstate] at h
    exact h ▸ hf a state
  case error => simpa only [hstate] using h

theorem required (value : Option String) (text : String) :
    Mutates (Setup.required value text) (· = ·) := by
  intro state
  cases value <;> rfl

theorem ensure (condition : Prop) [Decidable condition] (error : ApiError) :
    Mutates (Setup.ensure condition error) (· = ·) := by
  intro state
  by_cases h : condition
  case pos => rw [Setup.ensure, if_pos h]; rfl
  case neg => rw [Setup.ensure, if_neg h]; rfl

theorem asked (reply : Except String Unit) (error : String → ApiError) :
    Mutates (Setup.asked reply error) (· = ·) := by
  intro state
  cases reply <;> rfl

theorem mono {R' : PersistedSetup → PersistedSetup → Prop} (hx : Mutates x R)
    (h : ∀ state state', R state state' → R' state state') : Mutates x R' := by
  intro state
  have hstate := hx state
  cases hx' : x state <;> simp only [hx'] at hstate ⊢
  case ok => exact h _ _ hstate
  case error => exact hstate

theorem change {g : PersistedSetup → PersistedSetup} {x : Mutation Unit}
    (hx : ∀ state, x state = .ok () (g state)) (h : ∀ state, R state (g state)) : Mutates x R := by
  intro state
  simp only [hx]
  exact h state

end Mutates

end Mutations

-- What an action does with what the run is about: the revision, and the test of the capture.
def Keeps (request : SetupActionRequest) (state applied : PersistedSetup) : Prop :=
  applied.revision = state.revision ∧
    (applied.testCapturePassed → request.action = "run_test_capture" ∨
      state.testCapturePassed ∧ request.action ≠ "configure_capture")

theorem applyCaptureConfiguration_mutates :
    Mutates (applyCaptureConfiguration host request) fun state applied =>
      applied.revision = state.revision ∧ ¬applied.testCapturePassed := by
  apply Mutates.check (.ensure _ _)
  intro _
  apply Mutates.check (.required _ _)
  intro recorder
  apply Mutates.check (.required _ _)
  intro target
  apply Mutates.check (.required _ _)
  intro outputDirectory
  apply Mutates.check (.required _ _)
  intro ffprobePath
  apply Mutates.check (.asked _ _)
  intro _
  exact .change (fun _ => rfl) fun _ => ⟨rfl, by simp⟩

theorem applyAction_mutates (host : SetupHost) (request : SetupActionRequest) :
    Mutates (applyAction host request) (Keeps request) := by
  unfold applyAction
  split
  case h_1 h =>
    apply Mutates.check (.ensure _ _)
    intro _
    apply Mutates.check (.required _ _)
    intro cfg
    apply Mutates.check (.asked _ _)
    intro _
    apply Mutates.check (.asked _ _)
    intro _
    exact .change (fun _ => rfl) fun _ => ⟨rfl, fun hpassed => .inr ⟨hpassed, by simp [h]⟩⟩
  case h_2 h =>
    apply Mutates.check (.required _ _)
    intro step
    apply Mutates.check (.ensure _ _)
    intro _
    exact .change (fun _ => rfl) fun _ => ⟨rfl, fun hpassed => .inr ⟨hpassed, by simp [h]⟩⟩
  case h_3 h =>
    exact .change (fun _ => rfl) fun _ => ⟨rfl, fun hpassed => .inr ⟨hpassed, by simp [h]⟩⟩
  case h_4 h =>
    apply Mutates.check (.ensure _ _)
    intro _
    exact .change (fun _ => rfl) fun _ => ⟨rfl, fun hpassed => .inr ⟨hpassed, by simp [h]⟩⟩
  case h_5 =>
    apply applyCaptureConfiguration_mutates.mono
    intro state applied ⟨hrevision, hfailed⟩
    exact ⟨hrevision, fun hpassed => absurd hpassed hfailed⟩
  case h_6 h =>
    apply Mutates.check (.required _ _)
    intro path
    apply Mutates.check (.ensure _ _)
    intro _
    exact .change (fun _ => rfl) fun _ => ⟨rfl, fun hpassed => .inr ⟨hpassed, by simp [h]⟩⟩
  case h_7 h =>
    apply Mutates.check (.ensure _ _)
    intro _
    apply Mutates.check (.asked _ _)
    intro _
    exact .change (fun _ => rfl) fun _ => ⟨rfl, fun _ => .inl h⟩
  case h_8 h =>
    apply Mutates.check (.ensure _ _)
    intro _
    apply (Mutates.ensure _ _).mono
    intro state applied hsame
    exact hsame ▸ ⟨rfl, fun hpassed => .inr ⟨hpassed, by simp [h]⟩⟩
  case h_9 => exact fun _ => rfl

theorem applyAction_keeps (h : applyAction host request state = .ok () applied) :
    Keeps request state applied := by
  have hmutates := applyAction_mutates host request state
  simpa only [h] using hmutates

-- Only the last step comes after the file has been replaced.
theorem persist_eq_error (fault : PersistFault) (state : PersistedSetup) (file : StateFile) :
    ∃ error, persist (some fault) state file =
      .error error (if fault.step = .protect then some state else file) := by
  cases fault with
  | mk step text => cases step <;> exact ⟨_, rfl⟩

end Setup
