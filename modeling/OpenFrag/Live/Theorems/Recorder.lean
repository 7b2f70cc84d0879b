import OpenFrag.Capture.Theorems.Supervisor
import OpenFrag.Library.Decimal
import OpenFrag.Live.Theorems.Clock
import OpenFrag.Live.Theorems.Coordinator

open EStateM
open Capture (Effect PendingSave SaveAcknowledgement SaveProvenance SaveRequestOutcome silent)

namespace Live

variable {W α : Type}

-- The recorder as it runs in the world of the runtime.
def Host.capturing (host : Host W) : Capture.Host String W :=
  ⟨host.runtime.recorder.capture, host.world⟩

@[simp]
theorem Host.capturing_supervisor (host : Host W) :
    host.capturing.supervisor = host.runtime.recorder.capture := rfl

@[simp]
theorem Host.capturing_world (host : Host W) : host.capturing.world = host.world := rfl

def Host.captured (host : Host W) (h : Capture.Host String W) : Host W where
  runtime := {
    coordinator := host.runtime.coordinator
    recorder    := { host.runtime.recorder with capture := h.supervisor } }
  world   := h.world

theorem onRecorder_apply (x : Capture.Method String W α) (host : Host W) :
    onRecorder x host =
      .ok (x host.capturing).toExcept (host.captured (x host.capturing).state) := by
  unfold onRecorder Host.capturing Host.captured
  cases x ⟨host.runtime.recorder.capture, host.world⟩ <;> rfl

theorem get_apply {host : Host W} : (get : Method W _) host = .ok host host := rfl

theorem withCapture_ok {x : Capture.Method String W α} {host : Host W} {a : α}
    {h : Capture.Host String W} (hx : x host.capturing = .ok a h) :
    LiveRuntime.withCapture x host = .ok a (host.captured h) := by
  unfold LiveRuntime.withCapture
  rw [bind_ok (onRecorder_apply x host), hx]
  rfl

theorem withCapture_error {x : Capture.Method String W α} {host : Host W} {e : Capture.Error}
    {h : Capture.Host String W} (hx : x host.capturing = .error e h) :
    LiveRuntime.withCapture x host = .error (.recorder e) (host.captured h) := by
  unfold LiveRuntime.withCapture
  rw [bind_ok (onRecorder_apply x host), hx]
  rfl

theorem withCapture_state (x : Capture.Method String W α) (host : Host W) :
    (LiveRuntime.withCapture x host).state = host.captured (x host.capturing).state := by
  unfold LiveRuntime.withCapture
  rw [bind_ok (onRecorder_apply x host)]
  cases x host.capturing <;> rfl

namespace RecorderFacade

def numbered (host : Host W) : Host W :=
  { host with runtime.recorder.requestOrdinal := host.runtime.recorder.requestOrdinal + 1 }

theorem requestSave_apply (ports : Ports W) (captureId : String) (provenance : SaveProvenance)
    (host : Host W) :
    requestSave ports captureId provenance host =
      let result := Capture.Supervisor.requestSave ports.capture
        (requestId captureId (host.runtime.recorder.requestOrdinal + 1)) provenance host.capturing
      .ok result.toExcept ((numbered host).captured result.state) :=
  onRecorder_apply _ (numbered host)

theorem requestId_toList (captureId : String) (ordinal : Nat) :
    (requestId captureId ordinal).toList =
      (captureId.toList ++ ":request".toList) ++ ':' :: (Nat.repr ordinal).toList := by
  simp [requestId, toString]

theorem requestId_injective {captureId captureId' : String} {ordinal ordinal' : Nat}
    (h : requestId captureId ordinal = requestId captureId' ordinal') : ordinal = ordinal' := by
  have hlist := congrArg String.toList h
  simp only [requestId_toList] at hlist
  exact Decimal.repr_suffix_injective rfl rfl hlist

-- The identity is that of one of the first requests.
def Issued (requestOrdinal : Nat) (recorderRequestId : String) : Prop :=
  ∃ captureId, ∃ ordinal ≤ requestOrdinal, recorderRequestId = requestId captureId ordinal

namespace Issued

variable {requestOrdinal requestOrdinal' : Nat} {recorderRequestId : String}

theorem mono (h : Issued requestOrdinal recorderRequestId)
    (hle : requestOrdinal ≤ requestOrdinal') : Issued requestOrdinal' recorderRequestId :=
  have ⟨captureId, ordinal, hordinal, heq⟩ := h
  ⟨captureId, ordinal, hordinal.trans hle, heq⟩

theorem next (captureId : String) :
    Issued (requestOrdinal + 1) (requestId captureId (requestOrdinal + 1)) :=
  ⟨captureId, _, Nat.le_refl _, rfl⟩

-- The next request has an identity of its own.
theorem ne_next (h : Issued requestOrdinal recorderRequestId) (captureId : String) :
    recorderRequestId ≠ requestId captureId (requestOrdinal + 1) := by
  intro heq
  have ⟨_, ordinal, hle, hid⟩ := h
  have hordinal := requestId_injective (hid.symm.trans heq)
  omega

end Issued

end RecorderFacade

-- What the discovery of an output, and its finalization, can do. The output is consumed before it is
-- finalized.
inductive Finalizes (host : Host (Observed W)) : Host (Observed W) → Prop
  | rests (w : W) (clock : Nat) :
    Finalizes host
      { host with world := ((w, { host.world.1.2 with clock }), host.world.2) }
  | served {pending : PendingSave String} (clip : Option FinalizedClip) (w : W) (clock : Nat)
      (inFlight : host.runtime.recorder.capture.inFlight = some pending)
      (queued : host.runtime.recorder.capture.queued = none) :
    Finalizes host {
      runtime := { host.runtime with recorder.capture.inFlight := none }
      world   := ((w, {
        finalizations := host.world.1.2.finalizations ++ [⟨pending.recorderRequestId, clip⟩]
        clock }), host.world.2) }
  | followed {pending next : PendingSave String} (clip : Option FinalizedClip) (wall now : Nat)
      (w : W) (clock : Nat)
      (inFlight : host.runtime.recorder.capture.inFlight = some pending)
      (queued : host.runtime.recorder.capture.queued = some next) :
    Finalizes host {
      runtime := { host.runtime with recorder.capture := { host.runtime.recorder.capture with
        inFlight := some ⟨next.recorderRequestId, next.provenance, wall, now⟩
        queued   := none } }
      world   := ((w, {
        finalizations := host.world.1.2.finalizations ++ [⟨pending.recorderRequestId, clip⟩]
        clock }), host.world.2 ++ [.delivered .user1]) }
  | dropped {pending next : PendingSave String} (w : W) (clock : Nat)
      (inFlight : host.runtime.recorder.capture.inFlight = some pending)
      (queued : host.runtime.recorder.capture.queued = some next) :
    Finalizes host {
      runtime := { host.runtime with recorder.capture := { host.runtime.recorder.capture with
        inFlight := none
        queued   := none } }
      world   := ((w, { host.world.1.2 with clock }), host.world.2) }

theorem finalizeCapture_state (ports : Ports W) (acknowledgement : SaveAcknowledgement String)
    (host : Host (Observed W)) :
    ∃ clip w', (Coordinator.finalizeCapture ports.observed acknowledgement host).state =
      ⟨host.runtime, (w', { host.world.1.2 with
        finalizations :=
          host.world.1.2.finalizations ++ [⟨acknowledgement.recorderRequestId, clip⟩] }),
        host.world.2⟩ := by
  rcases h : ports.finalizeCapture acknowledgement host.world.1.1 with ⟨e | clip, w'⟩
  · exact ⟨none, w', by simp [Coordinator.finalizeCapture, port, Ports.observed, silent, finalizing,
      h, Except.toOption]⟩
  · exact ⟨some clip, w', by simp [Coordinator.finalizeCapture, port, Ports.observed, silent,
      finalizing, h, Except.toOption]⟩

theorem finalizeDiscoveredSave_error {ports : Ports W} {host : Host W} {e : Capture.Error}
    {h : Capture.Host String W} (hflight : host.runtime.recorder.capture.inFlight.isSome)
    (hx : Capture.Supervisor.discoverSave ports.capture host.capturing = .error e h) :
    LiveRuntime.finalizeDiscoveredSave ports host = .error (.recorder e) (host.captured h) := by
  unfold LiveRuntime.finalizeDiscoveredSave LiveRuntime.discoverSave
  rw [bind_ok get_apply, if_neg (by simp [Capture.Supervisor.hasSaveInFlight, hflight]),
    bind_error (withCapture_error hx)]

theorem finalizeDiscoveredSave_none {ports : Ports W} {host : Host W}
    {h : Capture.Host String W} (hflight : host.runtime.recorder.capture.inFlight.isSome)
    (hx : Capture.Supervisor.discoverSave ports.capture host.capturing = .ok none h) :
    LiveRuntime.finalizeDiscoveredSave ports host = .ok none (host.captured h) := by
  unfold LiveRuntime.finalizeDiscoveredSave LiveRuntime.discoverSave
  rw [bind_ok get_apply, if_neg (by simp [Capture.Supervisor.hasSaveInFlight, hflight]),
    bind_ok (withCapture_ok hx)]
  rfl

theorem finalizeDiscoveredSave_some {ports : Ports W} {host : Host W}
    {acknowledgement : SaveAcknowledgement String} {h : Capture.Host String W}
    (hflight : host.runtime.recorder.capture.inFlight.isSome)
    (hx : Capture.Supervisor.discoverSave ports.capture host.capturing =
      .ok (some acknowledgement) h) :
    (LiveRuntime.finalizeDiscoveredSave ports host).state =
      (Coordinator.finalizeCapture ports acknowledgement (host.captured h)).state := by
  unfold LiveRuntime.finalizeDiscoveredSave LiveRuntime.discoverSave
  rw [bind_ok get_apply, if_neg (by simp [Capture.Supervisor.hasSaveInFlight, hflight]),
    bind_ok (withCapture_ok hx)]
  exact state_bind_pure

-- The finalization of an output changes nothing but the store.
theorem finalizeDiscoveredSave_discovers (ports : Ports W) {host : Host (Observed W)}
    (hflight : host.runtime.recorder.capture.inFlight.isSome) :
    let discovered := host.captured
      (Capture.Supervisor.discoverSave ports.observed.capture host.capturing).state
    let host' := (LiveRuntime.finalizeDiscoveredSave ports.observed host).state
    host'.runtime = discovered.runtime ∧ host'.world.2 = discovered.world.2 ∧
      host'.world.1.2.clock = discovered.world.1.2.clock := by
  dsimp only
  cases hdiscover : Capture.Supervisor.discoverSave ports.observed.capture host.capturing with
  | error e h =>
    rw [finalizeDiscoveredSave_error hflight hdiscover]
    exact ⟨rfl, rfl, rfl⟩
  | ok a h =>
    cases a with
    | none =>
      rw [finalizeDiscoveredSave_none hflight hdiscover]
      exact ⟨rfl, rfl, rfl⟩
    | some a =>
      have ⟨clip, w, hstate⟩ := finalizeCapture_state ports a (host.captured h)
      rw [finalizeDiscoveredSave_some hflight hdiscover, hstate]
      exact ⟨rfl, rfl, rfl⟩

theorem finalizeDiscoveredSave_finalizes (ports : Ports W) (host : Host (Observed W)) :
    Finalizes host (LiveRuntime.finalizeDiscoveredSave ports.observed host).state := by
  by_cases hflight : host.runtime.recorder.capture.inFlight.isSome
  case neg =>
    unfold LiveRuntime.finalizeDiscoveredSave
    rw [bind_ok get_apply, if_pos (by simp [Capture.Supervisor.hasSaveInFlight, hflight])]
    exact .rests host.world.1.1 host.world.1.2.clock
  case pos =>
    have htimed := Capture.Timed.discoverSave ports host.capturing
    have hdiscovers : Capture.Supervisor.Discovers host.runtime.recorder.capture host.world.2
        (Capture.Supervisor.discoverSave ports.observed.capture host.capturing) :=
      Capture.Supervisor.discoverSave_discovers ports.recorder _ host.world.1 _
    generalize hresult : Capture.Supervisor.discoverSave ports.observed.capture host.capturing =
      result at htimed hdiscovers
    cases hdiscovers with
    | failed e w =>
      obtain ⟨w, ⟨_, clock⟩⟩ := w
      cases htimed.finalizations
      rw [finalizeDiscoveredSave_error hflight hresult]
      exact .rests w clock
    | nothing w =>
      obtain ⟨w, ⟨_, clock⟩⟩ := w
      cases htimed.finalizations
      rw [finalizeDiscoveredSave_none hflight hresult]
      exact .rests w clock
    | served a w inFlight queued id =>
      obtain ⟨w, ⟨_, clock⟩⟩ := w
      cases htimed.finalizations
      rw [finalizeDiscoveredSave_some hflight hresult]
      have ⟨clip, w', h⟩ := finalizeCapture_state ports a
        (host.captured ⟨{ host.runtime.recorder.capture with inFlight := none },
          (w, { host.world.1.2 with clock }), host.world.2⟩)
      exact h ▸ id ▸ .served clip w' clock inFlight queued
    | @followed pending next a wall now w inFlight queued id =>
      obtain ⟨w, ⟨_, clock⟩⟩ := w
      cases htimed.finalizations
      rw [finalizeDiscoveredSave_some hflight hresult]
      have ⟨clip, w', h⟩ := finalizeCapture_state ports a
        (host.captured ⟨{ host.runtime.recorder.capture with
          inFlight := some ⟨next.recorderRequestId, next.provenance, wall, now⟩
          queued   := none }, (w, { host.world.1.2 with clock }),
          host.world.2 ++ [.delivered .user1]⟩)
      exact h ▸ id ▸ .followed clip wall now w' clock inFlight queued
    | dropped e w inFlight queued =>
      obtain ⟨w, ⟨_, clock⟩⟩ := w
      cases htimed.finalizations
      rw [finalizeDiscoveredSave_error hflight hresult]
      exact .dropped w clock inFlight queued

-- The first recorder has nothing to save.
structure Started (captureSessionId : String) (s : Session) : Prop where
  coordinator    : s.runtime.coordinator = .new captureSessionId
  inFlight       : s.runtime.recorder.capture.inFlight = none
  queued         : s.runtime.recorder.capture.queued = none
  requestOrdinal : s.runtime.recorder.requestOrdinal = 0
  available      : s.runtime.recorder.availableFromMs ≤ s.clock

theorem production_started {ports : Ports W} {config : Capture.Config} {captureSessionId : String}
    {w : W} {s : Session} (h : production ports config captureSessionId w = some s) :
    Started captureSessionId s := by
  let host₀ : Capture.Host String (Observed W) :=
    ⟨.new config, ((ports.nowMs w).2, ⟨[], max 0 (ports.nowMs w).1⟩), []⟩
  unfold production at h
  dsimp only at h
  split at h
  case h_1 => cases h
  case h_2 availableFromMs host hstarted =>
    cases h
    have htimed := Capture.Timed.spawn ports host₀
    obtain ⟨spawns, hspawns⟩ : ∃ spawns, Capture.Supervisor.Spawns host₀ spawns
        (Capture.Supervisor.spawn ports.observed.capture host₀).state :=
      ⟨_, Capture.Supervisor.spawn_spawns ports.recorder _ _ _⟩
    change (Capture.Supervisor.spawn ports.observed.capture >>= fun _ =>
      pure host₀.world.1.2.clock) host₀ = _ at hstarted
    rcases hspawn : Capture.Supervisor.spawn ports.observed.capture host₀ with ⟨_, host'⟩ | ⟨e, host'⟩
    case error =>
      rw [bind_error hspawn] at hstarted
      cases hstarted
    case ok =>
      rw [bind_ok hspawn] at hstarted
      cases hstarted
      rw [hspawn] at hspawns htimed
      exact ⟨rfl, hspawns.saves.1, hspawns.saves.2, rfl, htimed.clock⟩

end Live
