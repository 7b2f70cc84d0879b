import Mathlib.Data.List.Nodup
import OpenFrag.Live.Theorems.Recorder

open EStateM
open Capture (Effect PendingSave SaveProvenance silent)
open Gsi (EvidenceReceipt)
open Machine (final step trace)

namespace Live

variable {W α : Type}

-- The requests that the recorder has still to answer, in the order of their signals.
def RecorderFacade.pending (recorder : RecorderFacade) : List String :=
  (recorder.capture.inFlight.toList ++ recorder.capture.queued.toList).map (·.recorderRequestId)

-- No request has been finalized twice, and none that is still pending has been finalized.
structure Distinct (finalized : List String) (recorder : RecorderFacade) : Prop where
  nodup  : (finalized ++ recorder.pending).Nodup
  issued : ∀ id ∈ finalized ++ recorder.pending, RecorderFacade.Issued recorder.requestOrdinal id
  queued : recorder.capture.inFlight = none → recorder.capture.queued = none

namespace Distinct

variable {finalized : List String} {recorder recorder' : RecorderFacade}

-- A request that is lost, or finalized, is not asked for again.
theorem of_sublist {finalized' : List String} (h : Distinct finalized recorder)
    (hsub : (finalized' ++ recorder'.pending).Sublist (finalized ++ recorder.pending))
    (hordinal : recorder.requestOrdinal ≤ recorder'.requestOrdinal)
    (hqueued : recorder'.capture.inFlight = none → recorder'.capture.queued = none) :
    Distinct finalized' recorder' where
  nodup  := h.nodup.sublist hsub
  issued := fun id hid => (h.issued id (hsub.subset hid)).mono hordinal
  queued := hqueued

theorem add (h : Distinct finalized recorder) (captureId : String)
    (hpending : recorder'.pending =
      recorder.pending ++ [RecorderFacade.requestId captureId (recorder.requestOrdinal + 1)])
    (hordinal : recorder'.requestOrdinal = recorder.requestOrdinal + 1)
    (hqueued : recorder'.capture.inFlight = none → recorder'.capture.queued = none) :
    Distinct finalized recorder' where
  nodup  := by
    rw [hpending, ← List.append_assoc]
    apply List.nodup_append.mpr ⟨h.nodup, List.nodup_singleton _, ?_⟩
    intro id hid id' hid'
    rw [List.mem_singleton.mp hid']
    exact (h.issued id hid).ne_next captureId
  issued := by
    intro id hid
    rw [hpending, ← List.append_assoc, List.mem_append, List.mem_singleton] at hid
    rw [hordinal]
    cases hid
    case inl hid => exact (h.issued id hid).mono (Nat.le_succ _)
    case inr hid => exact hid ▸ .next captureId
  queued := hqueued

end Distinct

-- The finalizations of a call follow those of the calls before.
def Sound (past : List Finalization) (host : Host (Observed W)) : Prop :=
  Distinct ((past ++ host.world.1.2.finalizations).map (·.recorderRequestId)) host.runtime.recorder

namespace Sound

variable {past : List Finalization} {ports : Ports W}

theorem of_recorder {host host' : Host (Observed W)} (h : Sound past host)
    (hrecorder : host'.runtime.recorder = host.runtime.recorder)
    (hfinalizations : host'.world.1.2.finalizations = host.world.1.2.finalizations) :
    Sound past host' := by
  unfold Sound
  rw [hrecorder, hfinalizations]
  exact h

theorem allows : Allows (W := W) fun host host' => Sound past host → Sound past host' where
  waits    := fun _ _ hwaits h =>
    h.of_recorder (congrArg LiveRuntime.recorder hwaits.runtime) hwaits.finalizations
  marks    := fun _ _ h => h
  numbers  := fun _ _ h => h
  proposes := fun _ _ _ _ _ _ _ h => h
  drafts   := fun _ _ _ _ _ _ _ _ _ _ h => h
  cancels  := fun _ _ _ _ _ h => h

theorem requestSave (captureId : String) (provenance : SaveProvenance) :
    Preserves (Sound past) (RecorderFacade.requestSave ports.observed captureId provenance) := by
  intro host h
  rw [RecorderFacade.requestSave_apply]
  have htimed := Capture.Timed.requestSave ports
    (RecorderFacade.requestId captureId (host.runtime.recorder.requestOrdinal + 1)) provenance
    host.capturing
  have hrequests : Capture.Supervisor.Requests host.runtime.recorder.capture host.world.2
      (RecorderFacade.requestId captureId (host.runtime.recorder.requestOrdinal + 1)) provenance
      (Capture.Supervisor.requestSave ports.observed.capture _ provenance host.capturing) :=
    Capture.Supervisor.requestSave_requests ports.recorder _ host.world.1 _ _ _
  dsimp only
  generalize Capture.Supervisor.requestSave ports.observed.capture _ provenance host.capturing =
    result at htimed hrequests
  show Distinct ((past ++ result.state.world.1.2.finalizations).map (·.recorderRequestId))
    ((RecorderFacade.numbered host).captured result.state).runtime.recorder
  rw [htimed.finalizations]
  cases hrequests with
  | refused => exact Distinct.of_sublist h (List.Sublist.refl _) (Nat.le_succ _) h.queued
  | sent running inFlight =>
    apply Distinct.add h captureId
    · simp [RecorderFacade.pending, Host.captured, RecorderFacade.numbered, inFlight, h.queued inFlight]
    · rfl
    · simp [Host.captured]
  | @coalesced pending queued w inFlight queued_eq =>
    cases hqueued : host.runtime.recorder.capture.queued with
    | none =>
      apply Distinct.add h captureId
      · simp [RecorderFacade.pending, Host.captured, RecorderFacade.numbered, inFlight, hqueued,
          ← queued_eq]
      · rfl
      · simp [Host.captured, inFlight]
    | some waiting =>
      have hsame : waiting = queued := by simpa [hqueued] using queued_eq
      apply Distinct.of_sublist h
      · simp [RecorderFacade.pending, Host.captured, Host.capturing, RecorderFacade.numbered, inFlight,
          hqueued, ← hsame]
      · exact Nat.le_succ _
      · simp [Host.captured, inFlight]

theorem waiting {x : Method (Observed W) α} (h : Within Waits x) : Preserves (Sound past) x :=
  allows.waiting h

theorem store (capture : CaptureRecord) (captureId : String) :
    Preserves (Sound past) (Coordinator.store ports.observed capture captureId) :=
  (waiting (port_waits _)).bind fun _ => update_within fun _ h => h

theorem requestCaptureSave (captureId : String) :
    Preserves (Sound past) (Coordinator.requestCaptureSave ports.observed captureId) := by
  refine Within.bind Within.self fun c => ?_
  cases c.captures.get? captureId
  case none => exact Within.throw
  case some capture =>
    refine (waiting (nowMs_waits ports)).bind fun nowMs =>
      (waiting availableFrom_waits).bind fun availableFromMs => ?_
    cases Coordinator.covered capture nowMs availableFromMs
    case error => exact Within.throw
    case ok capture =>
      refine (requestSave _ _).bind fun result => ?_
      cases result
      case ok => exact (store _ _).bind fun _ => Within.pure
      case error => exact (store _ _).bind fun _ => Within.throw

theorem onTimer (timer : TimerId) :
    Preserves (Sound past) (Coordinator.onTimer ports.observed timer) := by
  refine Within.bind Within.self fun c => ?_
  cases c.timers.get? timer.value
  case none => exact Within.throw
  case some captureId =>
    refine Within.bind Within.self fun c => ?_
    cases c.captures.get? captureId
    case none => exact Within.throw
    case some capture =>
      dsimp only
      cases capture.deadlineMs
      case none => exact Within.pure
      case some =>
        refine (waiting (nowMs_waits ports)).bind fun _ => Within.ite (fun _ => Within.pure)
          fun _ => Within.ite (fun _ => Within.pure) fun _ => requestCaptureSave captureId

theorem manualFlag : Preserves (Sound past) (Coordinator.manualFlag ports.observed) := by
  refine (waiting (nowMs_waits ports)).bind fun _ => ?_
  refine Within.bind (update_within fun _ h => h) fun _ => Within.bind Within.self fun _ => ?_
  refine (waiting availableFrom_waits).bind fun _ => (store _ _).bind fun _ => ?_
  exact (requestCaptureSave _).bind fun _ => Within.pure

theorem of_saves {host host' : Host (Observed W)} (h : Sound past host)
    (hinFlight : host'.runtime.recorder.capture.inFlight = host.runtime.recorder.capture.inFlight)
    (hqueued : host'.runtime.recorder.capture.queued = host.runtime.recorder.capture.queued)
    (hordinal : host'.runtime.recorder.requestOrdinal = host.runtime.recorder.requestOrdinal)
    (hfinalizations : host'.world.1.2.finalizations = host.world.1.2.finalizations) :
    Sound past host' := by
  apply Distinct.of_sublist h
  · simp [RecorderFacade.pending, hinFlight, hqueued, hfinalizations]
  · exact hordinal.ge
  · simpa only [hinFlight, hqueued] using h.queued

theorem pollCapture : Preserves (Sound past) (LiveRuntime.pollCapture ports.observed) := by
  intro host h
  obtain ⟨spawns, hspawns⟩ : ∃ spawns, Capture.Supervisor.Spawns host.capturing spawns
      (Capture.Supervisor.poll ports.observed.capture host.capturing).state :=
    ⟨_, Capture.Supervisor.poll_spawns ports.recorder _ host.world.1 _⟩
  have htimed := Capture.Timed.poll ports host.capturing
  unfold LiveRuntime.pollCapture
  rw [withCapture_state]
  exact h.of_saves hspawns.saves.1 hspawns.saves.2 rfl htimed.finalizations

theorem finalizeDiscoveredSave :
    Preserves (Sound past) (LiveRuntime.finalizeDiscoveredSave ports.observed) := by
  intro host h
  have hfinalizes := finalizeDiscoveredSave_finalizes ports host
  generalize (LiveRuntime.finalizeDiscoveredSave ports.observed host).state = host' at hfinalizes
  cases hfinalizes with
  | rests => exact h
  | served clip w clock inFlight queued =>
    apply Distinct.of_sublist h
    · simp [RecorderFacade.pending, inFlight, queued]
    · exact Nat.le_refl _
    · simpa using queued
  | followed clip wall now w clock inFlight queued =>
    apply Distinct.of_sublist h
    · simp [RecorderFacade.pending, inFlight, queued]
    · exact Nat.le_refl _
    · simp
  | dropped w clock inFlight queued =>
    apply Distinct.of_sublist h
    · simp [RecorderFacade.pending]
    · exact Nat.le_refl _
    · simp

theorem driveOnce (takeDue : Nat → W → List TimerId × W) :
    Preserves (Sound past)
      (RuntimeDriver.driveOnce ports.observed fun now => silent (aside (takeDue now))) := by
  refine (waiting (nowMs_waits ports)).bind fun _ => (waiting (reading_waits _)).bind fun due => ?_
  refine (Within.forM (fun timer => (onTimer timer).bind fun _ => Within.pure) due).bind fun _ => ?_
  exact pollCapture.bind fun _ => finalizeDiscoveredSave.bind fun _ => Within.pure

theorem drive (takeDue : Nat → W → List TimerId × W) (call : DriverCall) :
    Preserves (Sound past)
      (drive ports.observed (fun now => silent (aside (takeDue now))) call) := by
  cases call
  case driveOnce => exact (driveOnce takeDue).bind fun _ => Within.pure
  case manualFlag => exact manualFlag.bind fun _ => Within.pure
  case ingestReceipt receipt => exact (allows.ingest receipt).bind fun _ => Within.pure

end Sound

abbrev DriverStep (W : Type) :=
  Machine.Step (DriverCall × W) Answer Session

def finalizations (steps : List (DriverStep W)) : List Finalization :=
  steps.flatMap (·.reply.finalizations)

variable {ports : Ports W} {takeDue : Nat → W → List TimerId × W} {s : Session}

-- The clips that the steps have made of a request.
def clips (steps : List (DriverStep W)) (recorderRequestId : String) : List FinalizedClip :=
  ((finalizations steps).filter (·.recorderRequestId = recorderRequestId)).filterMap (·.clip)

end Live
