import OpenFrag.Domain.Theorems.Highlight
import OpenFrag.Live.Theorems.HashMap
import OpenFrag.Live.Coverage
import OpenFrag.Live.Theorems.Recorder

open Capture (Effect PendingSave SaveProvenance)
open Domain (CaptureWindow HighlightCandidate)
open EStateM
open MachineInt (saturatingAdd)

namespace Live

variable {W α : Type}

-- The window and the coverage of a capture whose request has been made at a time.
structure Shaped (availableFromMs t : Nat) (capture : CaptureRecord) : Prop where
  available : availableFromMs ≤ t
  coverage  : capture.rawCoverage = some (rawCoverage t availableFromMs)
  window    : ∃ window, capture.window = some window ∧
    window.available.startMs = max (desiredStart capture t) availableFromMs ∧
    window.available.startMs ≤ window.available.endMs ∧ window.available.endMs ≤ t

namespace Shaped

variable {availableFromMs t : Nat} {capture : CaptureRecord} {save : Save}

theorem rawCoverage_start_le (h : availableFromMs ≤ t) :
    (rawCoverage t availableFromMs).startMs ≤ (rawCoverage t availableFromMs).endMs :=
  max_le (Nat.sub_le _ _) h

theorem rawCoverage_inside (ht : t ≤ save.signalledAtMs) {desiredStartMs : Nat}
    (hserves : Serves availableFromMs save t desiredStartMs) :
    Inside (rawCoverage t availableFromMs) save.kept := by
  refine ⟨?_, ht⟩
  simp only [Save.kept, rawCoverage]
  cases hserves <;> omega

theorem window_inside {window : CaptureWindow} (ht : t ≤ save.signalledAtMs)
    (hserves : Serves availableFromMs save t (desiredStart capture t))
    (hstart : window.available.startMs = max (desiredStart capture t) availableFromMs)
    (hend : window.available.endMs ≤ t) : Inside window.available save.kept := by
  refine ⟨?_, hend.trans ht⟩
  simp only [Save.kept, hstart]
  cases hserves <;> omega

theorem restated (h : Shaped availableFromMs t capture) (status : CaptureStatus) :
    Shaped availableFromMs t { capture with status } :=
  ⟨h.available, h.coverage, h.window⟩

theorem honest {saves : List Save} {recorderRequestId : String}
    (h : Shaped availableFromMs t capture)
    (hserves : ∀ save ∈ saves, save.recorderRequestId = recorderRequestId →
      t ≤ save.signalledAtMs ∧ Serves availableFromMs save t (desiredStart capture t)) :
    Honest saves recorderRequestId capture := by
  have ⟨window, hwindow, hstart, hle, hend⟩ := h.window
  refine ⟨window, _, hwindow, h.coverage, hle, rawCoverage_start_le h.available, ?_⟩
  intro save hmem hid
  have ⟨ht, hsave⟩ := hserves save hmem hid
  exact ⟨window_inside ht hsave hstart hend, rawCoverage_inside ht hsave⟩

end Shaped

-- What is known of a capture record, next to the saves that have been signalled so far.
structure Kept (saves : List Save) (availableFromMs clock requestOrdinal : Nat)
    (capture : CaptureRecord) : Prop where
  auto     : capture.kind = .autoRoundEnd → ∃ candidate roundEndMs,
    capture.candidate = some candidate ∧ capture.roundEndMs = some roundEndMs ∧
    capture.deadlineMs = some (saturatingAdd 64 roundEndMs Domain.autoPostRollMs) ∧
    candidate.range.startMs ≤ saturatingAdd 64 roundEndMs Domain.autoPostRollMs
  manual   : capture.kind = .manualFlag → capture.deadlineMs = none ∧
    ∃ t ≤ clock, Shaped availableFromMs t capture
  due      : ∀ e, capture.status = .retryable e → ∀ d ∈ capture.deadlineMs, d ≤ clock
  accepted : ∀ outcome ∈ capture.status.accepted,
    RecorderFacade.Issued requestOrdinal outcome.recorderRequestId ∧
    ∃ t ≤ clock, Shaped availableFromMs t capture ∧
      ∀ save ∈ saves, save.recorderRequestId = outcome.recorderRequestId →
        t ≤ save.signalledAtMs ∧ Serves availableFromMs save t (desiredStart capture t)

namespace Kept

variable {saves : List Save} {availableFromMs clock clock' requestOrdinal requestOrdinal' : Nat}
variable {capture : CaptureRecord}

theorem later (h : Kept saves availableFromMs clock requestOrdinal capture) (hclock : clock ≤ clock')
    (hordinal : requestOrdinal ≤ requestOrdinal') :
    Kept saves availableFromMs clock' requestOrdinal' capture where
  auto     := h.auto
  manual   := fun hkind =>
    have ⟨hdeadline, t, ht, hshaped⟩ := h.manual hkind
    ⟨hdeadline, t, ht.trans hclock, hshaped⟩
  due      := fun e he d hd => (h.due e he d hd).trans hclock
  accepted := fun outcome houtcome =>
    have ⟨hissued, t, ht, hshaped⟩ := h.accepted outcome houtcome
    ⟨hissued.mono hordinal, t, ht.trans hclock, hshaped⟩

-- A new save serves the captures that have waited for it.
theorem signal {save : Save} (h : Kept saves availableFromMs clock requestOrdinal capture)
    (hclock : clock ≤ save.signalledAtMs)
    (hserves : ∀ outcome ∈ capture.status.accepted,
      outcome.recorderRequestId = save.recorderRequestId → ∀ coverage ∈ capture.rawCoverage,
        Serves availableFromMs save coverage.endMs (desiredStart capture coverage.endMs)) :
    Kept (saves ++ [save]) availableFromMs clock requestOrdinal capture where
  auto     := h.auto
  manual   := h.manual
  due      := h.due
  accepted := by
    intro outcome houtcome
    have ⟨hissued, t, ht, hshaped, hsaves⟩ := h.accepted outcome houtcome
    refine ⟨hissued, t, ht, hshaped, ?_⟩
    intro save' hmem hid
    rcases List.mem_append.mp hmem with hmem | hmem
    case inl => exact hsaves save' hmem hid
    case inr =>
      cases List.mem_singleton.mp hmem
      exact ⟨ht.trans hclock, hserves outcome houtcome hid.symm _ hshaped.coverage⟩

theorem restated {status : CaptureStatus}
    (h : Kept saves availableFromMs clock requestOrdinal capture)
    (hdue : ∀ e, status = .retryable e → ∀ d ∈ capture.deadlineMs, d ≤ clock)
    (haccepted : status.accepted = none) :
    Kept saves availableFromMs clock requestOrdinal { capture with status } where
  auto     := h.auto
  manual   := fun hkind =>
    have ⟨hdeadline, t, ht, hshaped⟩ := h.manual hkind
    ⟨hdeadline, t, ht, hshaped.restated status⟩
  due      := hdue
  accepted := by simp [haccepted]

theorem cancelled (h : Kept saves availableFromMs clock requestOrdinal capture)
    (reason : CancelReason) :
    Kept saves availableFromMs clock requestOrdinal
      { capture with status := .cancelled reason } :=
  h.restated nofun rfl

theorem flagged {id : String} {t : Nat} (havailable : availableFromMs ≤ t) (ht : t ≤ clock) :
    Kept saves availableFromMs clock requestOrdinal
      (Coordinator.manualCapture id t availableFromMs) where
  auto     := nofun
  manual   := fun _ => ⟨rfl, t, ht, {
    available := havailable
    coverage  := rfl
    window    := ⟨_, rfl, rfl, max_le (Nat.sub_le _ _) havailable, Nat.le_refl _⟩ }⟩
  due      := nofun
  accepted := nofun

end Kept

section Covered

variable {saves : List Save} {availableFromMs clock requestOrdinal t : Nat}
variable {capture capture' : CaptureRecord}

theorem covered_cases (h : Coordinator.covered capture t availableFromMs = .ok capture') :
    (capture.kind = .manualFlag ∧ capture' = capture) ∨
    (capture.kind = .autoRoundEnd ∧ ∃ candidate window, capture.candidate = some candidate ∧
      Domain.autoCaptureWindow candidate.range.startMs capture.roundEndMs availableFromMs =
        .save window ∧
      capture' = { capture with
        window      := some window
        rawCoverage := some (rawCoverage t availableFromMs) }) := by
  unfold Coordinator.covered at h
  split at h
  case isFalse hkind =>
    cases h
    cases hcapture : capture.kind
    case autoRoundEnd => exact absurd hcapture hkind
    case manualFlag => exact .inl ⟨rfl, rfl⟩
  case isTrue hkind =>
    split at h
    case h_1 => cases h
    case h_2 candidate hcandidate =>
      split at h
      case h_1 => cases h
      case h_2 window hwindow =>
        cases h
        exact .inr ⟨hkind, candidate, window, hcandidate, hwindow, rfl⟩

-- The windows of the recorder are never later than the readings that they are asked for at.
theorem Kept.covered_shaped (h : Kept saves availableFromMs clock requestOrdinal capture)
    (hcovered : Coordinator.covered capture t availableFromMs = .ok capture') (ht : t ≤ clock)
    (havailable : availableFromMs ≤ t) (hdue : ∀ d ∈ capture.deadlineMs, d ≤ t)
    (hdeadline : ∀ d ∈ capture.deadlineMs, availableFromMs ≤ d) :
    coverageEnd capture t ≤ clock ∧ Shaped availableFromMs (coverageEnd capture t) capture' ∧
      desiredStart capture' (coverageEnd capture t) = desiredStart capture (coverageEnd capture t) := by
  rcases covered_cases hcovered with ⟨hkind, rfl⟩ | ⟨hkind, candidate, window, hcandidate, hwindow, rfl⟩
  case inl =>
    have ⟨_, t', ht', hshaped⟩ := h.manual hkind
    have hend : coverageEnd capture' t = t' := by simp [coverageEnd, hkind, hshaped.coverage, rawCoverage]
    exact ⟨hend ▸ ht', hend ▸ hshaped, rfl⟩
  case inr =>
    have ⟨_, roundEndMs, hcandidate', hroundEnd, hdeadlineMs, hstart⟩ := h.auto hkind
    have hend : coverageEnd capture t = t := by simp [coverageEnd, hkind]
    rw [hend]
    refine ⟨ht, ⟨havailable, rfl, window, rfl, ?_⟩, rfl⟩
    have hd := hdue _ hdeadlineMs
    have hd' := hdeadline _ hdeadlineMs
    rw [hcandidate] at hcandidate'
    cases hcandidate'
    simp only [Domain.autoCaptureWindow, hroundEnd, Domain.AutoCaptureDecision.save.injEq] at hwindow
    simp only [desiredStart, hkind, hcandidate, hroundEnd, ← hwindow]
    generalize saturatingAdd 64 roundEndMs Domain.autoPostRollMs = deadlineMs at hstart hd hd' ⊢
    refine ⟨True.intro, ?_, hd⟩
    omega

theorem Kept.covered_retryable (h : Kept saves availableFromMs clock requestOrdinal capture)
    (hcovered : Coordinator.covered capture t availableFromMs = .ok capture')
    (hdue : ∀ d ∈ capture.deadlineMs, d ≤ clock) (e : Capture.Error) :
    Kept saves availableFromMs clock requestOrdinal
      { capture' with status := .retryable e } := by
  rcases covered_cases hcovered with ⟨_, rfl⟩ | ⟨hkind, _, _, _, _, rfl⟩
  case inl => exact h.restated (fun _ _ => hdue) rfl
  case inr =>
    exact {
      auto     := h.auto
      manual   := fun hkind' => nomatch hkind.symm.trans hkind'
      due      := fun _ _ => hdue
      accepted := nofun }

theorem Kept.covered_accepted (h : Kept saves availableFromMs clock requestOrdinal capture)
    (hcovered : Coordinator.covered capture t availableFromMs = .ok capture')
    {outcome : Capture.SaveRequestOutcome String} {t' : Nat} (ht' : t' ≤ clock)
    (hshaped : Shaped availableFromMs t' capture')
    (hissued : RecorderFacade.Issued requestOrdinal outcome.recorderRequestId)
    (hserves : ∀ save ∈ saves, save.recorderRequestId = outcome.recorderRequestId →
      t' ≤ save.signalledAtMs ∧ Serves availableFromMs save t' (desiredStart capture' t')) :
    Kept saves availableFromMs clock requestOrdinal
      { capture' with status := .saveRequested outcome } := by
  have haccepted : ∀ outcome' ∈ (CaptureStatus.saveRequested outcome).accepted,
      RecorderFacade.Issued requestOrdinal outcome'.recorderRequestId ∧
      ∃ t ≤ clock, Shaped availableFromMs t { capture' with status := .saveRequested outcome } ∧
        ∀ save ∈ saves, save.recorderRequestId = outcome'.recorderRequestId →
          t ≤ save.signalledAtMs ∧ Serves availableFromMs save t (desiredStart capture' t) := by
    intro outcome' houtcome
    cases houtcome
    exact ⟨hissued, t', ht', hshaped.restated _, hserves⟩
  rcases covered_cases hcovered with ⟨_, rfl⟩ | ⟨hkind, _, _, _, _, rfl⟩
  case inl =>
    exact {
      auto     := h.auto
      manual   := fun hkind =>
        have ⟨hdeadline, t, ht, hshaped⟩ := h.manual hkind
        ⟨hdeadline, t, ht, hshaped.restated _⟩
      due      := nofun
      accepted := haccepted }
  case inr =>
    exact {
      auto     := h.auto
      manual   := fun hkind' => nomatch hkind.symm.trans hkind'
      due      := nofun
      accepted := haccepted }

end Covered

-- The records, the recorder and the saves that have been signalled agree.
structure Faithful (saves : List Save) (host : Host (Observed W)) : Prop where
  candidates : ∀ entry ∈ host.coordinator.candidates,
    entry.2.candidate.captureSessionId = host.coordinator.captureSessionId ∧
    entry.2.candidate.roundId = entry.1 ∧ entry.2.candidate.ruleVersion = "highlight-rules-1"
  captures   : ∀ capture ∈ host.coordinator.captures.values,
    Kept saves host.runtime.recorder.availableFromMs host.world.1.2.clock
      host.runtime.recorder.requestOrdinal capture
  available  : host.runtime.recorder.availableFromMs ≤ host.world.1.2.clock
  issued     : ∀ save ∈ saves,
    RecorderFacade.Issued host.runtime.recorder.requestOrdinal save.recorderRequestId
  inFlight   : ∀ pending ∈ host.runtime.recorder.capture.inFlight,
    ∃ save ∈ saves, save.recorderRequestId = pending.recorderRequestId
  queued     : ∀ next ∈ host.runtime.recorder.capture.queued,
    RecorderFacade.Issued host.runtime.recorder.requestOrdinal next.recorderRequestId ∧
    ∀ save ∈ saves, save.recorderRequestId ≠ next.recorderRequestId

-- The recorder has been called.
structure Follows (host host' : Host (Observed W)) : Prop where
  coordinator     : host'.coordinator = host.coordinator
  availableFromMs :
    host'.runtime.recorder.availableFromMs = host.runtime.recorder.availableFromMs
  requestOrdinal  : host.runtime.recorder.requestOrdinal ≤ host'.runtime.recorder.requestOrdinal
  clock           : host.world.1.2.clock ≤ host'.world.1.2.clock

namespace Faithful

variable {saves : List Save} {host host' : Host (Observed W)}

-- The recorder has not been signalled for a save.
theorem call (h : Faithful saves host) (hfollows : Follows host host')
    (hinFlight : ∀ pending ∈ host'.runtime.recorder.capture.inFlight,
      pending ∈ host.runtime.recorder.capture.inFlight)
    (hqueued : ∀ next ∈ host'.runtime.recorder.capture.queued,
      RecorderFacade.Issued host'.runtime.recorder.requestOrdinal next.recorderRequestId ∧
        ∀ save ∈ saves, save.recorderRequestId ≠ next.recorderRequestId) : Faithful saves host' where
  candidates := hfollows.coordinator ▸ h.candidates
  captures   := by
    rw [hfollows.coordinator, hfollows.availableFromMs]
    exact fun capture hmem => (h.captures capture hmem).later hfollows.clock hfollows.requestOrdinal
  available  := hfollows.availableFromMs ▸ h.available.trans hfollows.clock
  issued     := fun save hmem => (h.issued save hmem).mono hfollows.requestOrdinal
  inFlight   := fun pending hmem => h.inFlight pending (hinFlight pending hmem)
  queued     := hqueued

theorem narrow (h : Faithful saves host) (hfollows : Follows host host')
    (hinFlight : ∀ pending ∈ host'.runtime.recorder.capture.inFlight,
      pending ∈ host.runtime.recorder.capture.inFlight)
    (hqueued : ∀ next ∈ host'.runtime.recorder.capture.queued,
      next ∈ host.runtime.recorder.capture.queued) : Faithful saves host' := by
  apply h.call hfollows hinFlight
  intro next hmem
  have ⟨hissued, hne⟩ := h.queued next (hqueued next hmem)
  exact ⟨hissued.mono hfollows.requestOrdinal, hne⟩

theorem later (h : Faithful saves host) (hruntime : host'.runtime = host.runtime)
    (hclock : host.world.1.2.clock ≤ host'.world.1.2.clock) : Faithful saves host' := by
  apply h.narrow
  · exact ⟨congrArg LiveRuntime.coordinator hruntime, by rw [hruntime], by rw [hruntime], hclock⟩
  · rw [hruntime]
    exact fun _ => id
  · rw [hruntime]
    exact fun _ => id

-- The recorder has been signalled for a save that nothing has been signalled for before.
theorem signal {save : Save} (h : Faithful saves host) (hfollows : Follows host host')
    (hclock : host.world.1.2.clock ≤ save.signalledAtMs)
    (hissued : RecorderFacade.Issued host'.runtime.recorder.requestOrdinal save.recorderRequestId)
    (hinFlight : ∀ pending ∈ host'.runtime.recorder.capture.inFlight,
      save.recorderRequestId = pending.recorderRequestId)
    (hqueued : ∀ next ∈ host'.runtime.recorder.capture.queued,
      next ∈ host.runtime.recorder.capture.queued ∧
        save.recorderRequestId ≠ next.recorderRequestId)
    (hserves : ∀ capture ∈ host.coordinator.captures.values, ∀ outcome ∈ capture.status.accepted,
      outcome.recorderRequestId = save.recorderRequestId → ∀ coverage ∈ capture.rawCoverage,
        Serves host.runtime.recorder.availableFromMs save coverage.endMs
          (desiredStart capture coverage.endMs)) :
    Faithful (saves ++ [save]) host' where
  candidates := hfollows.coordinator ▸ h.candidates
  captures   := by
    rw [hfollows.coordinator, hfollows.availableFromMs]
    intro capture hmem
    have hkept := (h.captures capture hmem).signal hclock (hserves capture hmem)
    exact hkept.later hfollows.clock hfollows.requestOrdinal
  available  := hfollows.availableFromMs ▸ h.available.trans hfollows.clock
  issued     := by
    intro save' hmem
    rcases List.mem_append.mp hmem with hmem | hmem
    case inl => exact (h.issued save' hmem).mono hfollows.requestOrdinal
    case inr => exact List.mem_singleton.mp hmem ▸ hissued
  inFlight   := fun pending hmem => ⟨save, by simp, hinFlight pending hmem⟩
  queued     := by
    intro next hmem
    have ⟨hnext, hnew⟩ := hqueued next hmem
    have ⟨hissued, hne⟩ := h.queued next hnext
    refine ⟨hissued.mono hfollows.requestOrdinal, ?_⟩
    intro save' hmem
    rcases List.mem_append.mp hmem with hmem | hmem
    case inl => exact hne save' hmem
    case inr => exact List.mem_singleton.mp hmem ▸ hnew

theorem capture (h : Faithful saves host) {captureId : String} {capture : CaptureRecord}
    (timers : HashMap String)
    (hcapture : Kept saves host.runtime.recorder.availableFromMs host.world.1.2.clock
      host.runtime.recorder.requestOrdinal capture) :
    Faithful saves (host.coordinate { host.coordinator with
      timers   := timers
      captures := host.coordinator.captures.insert captureId capture }) where
  candidates := h.candidates
  captures   := by
    intro capture' hmem
    rcases HashMap.mem_values_insert hmem with rfl | hmem
    case inl => exact hcapture
    case inr => exact h.captures capture' hmem
  available  := h.available
  issued     := h.issued
  inFlight   := h.inFlight
  queued     := h.queued

theorem draft_start_le {official candidate : HighlightCandidate} {roundId receiptId : String}
    {roundEndMs : Nat} (h : Faithful saves host)
    (hofficial : HighlightCandidate.new host.coordinator.captureSessionId roundId
      ⟨roundEndMs, roundEndMs⟩ .officialRoundEndCapture receiptId = .ok official)
    (hcandidate : Coordinator.roundCandidate (host.coordinator.candidates.get? roundId) official
      roundEndMs = .ok candidate) : candidate.range.startMs ≤ roundEndMs := by
  simp only [HighlightCandidate.new, gt_iff_lt, lt_irrefl, if_false, Except.ok.injEq] at hofficial
  subst hofficial
  unfold Coordinator.roundCandidate at hcandidate
  split at hcandidate
  case h_1 =>
    cases hcandidate
    exact Nat.le_refl _
  case h_2 existing hexisting =>
    have ⟨hsession, hround, hrule⟩ := h.candidates _ (HashMap.mem_of_get? hexisting)
    dsimp only at hcandidate
    split at hcandidate
    case h_1 => cases hcandidate
    case h_2 hmerge =>
      cases hcandidate
      exact HighlightCandidate.mergeCandidates_start_le ⟨hsession, hround, hrule⟩ hmerge

theorem draft_kept {roundId captureId receiptId : String} {receipt : Gsi.EvidenceReceipt}
    {official candidate : HighlightCandidate} (h : Faithful saves host)
    (hofficial : HighlightCandidate.new host.coordinator.captureSessionId roundId
      ⟨durationMs receipt, durationMs receipt⟩ .officialRoundEndCapture receiptId = .ok official)
    (hcandidate : Coordinator.roundCandidate (host.coordinator.candidates.get? roundId) official
      (durationMs receipt) = .ok candidate) :
    Kept saves host.runtime.recorder.availableFromMs host.world.1.2.clock
      host.runtime.recorder.requestOrdinal
      (Coordinator.autoCapture captureId roundId candidate (durationMs receipt)) where
  auto     := fun _ => ⟨candidate, durationMs receipt, rfl, rfl, rfl,
    (h.draft_start_le hofficial hcandidate).trans
      (le_min (Nat.le_add_right _ _) (min_le_right _ _))⟩
  manual   := nofun
  due      := nofun
  accepted := nofun

end Faithful

section RequestCaptureSave

variable {ports : Ports W} {host host' : Host (Observed W)} {captureId : String}
variable {capture capture' : CaptureRecord}

theorem requestCaptureSave_uncovered {e : LiveDiagnostic}
    (hcapture : host.coordinator.captures.get? captureId = some capture)
    (hcovered : Coordinator.covered capture (host.ticked ports).world.1.2.clock
      host.runtime.recorder.availableFromMs = .error e) :
    Coordinator.requestCaptureSave ports.observed captureId host =
      .error e (host.ticked ports) := by
  unfold Coordinator.requestCaptureSave
  rw [bind_ok self_apply, hcapture]
  dsimp only
  rw [bind_ok (nowMs_apply ports host), bind_ok (availableFrom_apply _)]
  dsimp only [Host.ticked] at hcovered ⊢
  rw [hcovered]
  rfl

theorem requestCaptureSave_refused {e : Capture.Error}
    (hcapture : host.coordinator.captures.get? captureId = some capture)
    (hcovered : Coordinator.covered capture (host.ticked ports).world.1.2.clock
      host.runtime.recorder.availableFromMs = .ok capture')
    (hrequest : RecorderFacade.requestSave ports.observed capture'.id capture'.provenance
      (host.ticked ports) = .ok (.error e) host') :
    Coordinator.requestCaptureSave ports.observed captureId host =
      (do
        Coordinator.store ports.observed { capture' with status := .retryable e } captureId
        throw (.recorder e) : Method (Observed W) TimerOutcome) host' := by
  unfold Coordinator.requestCaptureSave
  rw [bind_ok self_apply, hcapture]
  dsimp only
  rw [bind_ok (nowMs_apply ports host), bind_ok (availableFrom_apply _)]
  dsimp only [Host.ticked] at hcovered hrequest ⊢
  rw [hcovered]
  exact bind_ok hrequest

theorem requestCaptureSave_accepted {outcome : Capture.SaveRequestOutcome String}
    (hcapture : host.coordinator.captures.get? captureId = some capture)
    (hcovered : Coordinator.covered capture (host.ticked ports).world.1.2.clock
      host.runtime.recorder.availableFromMs = .ok capture')
    (hrequest : RecorderFacade.requestSave ports.observed capture'.id capture'.provenance
      (host.ticked ports) = .ok (.ok outcome) host') :
    Coordinator.requestCaptureSave ports.observed captureId host =
      (do
        Coordinator.store ports.observed
          { capture' with status := .saveRequested outcome } captureId
        return .saveRequested : Method (Observed W) TimerOutcome) host' := by
  unfold Coordinator.requestCaptureSave
  rw [bind_ok self_apply, hcapture]
  dsimp only
  rw [bind_ok (nowMs_apply ports host), bind_ok (availableFrom_apply _)]
  dsimp only [Host.ticked] at hcovered hrequest ⊢
  rw [hcovered]
  exact bind_ok hrequest

end RequestCaptureSave

-- The saves of the calls before are followed by that of the running one.
def Accounts (past : List Save) (host : Host (Observed W)) : Prop :=
  Faithful (past ++ (signalled host.world.2 host.runtime.recorder).toList) host

namespace Accounts

variable {past : List Save} {ports : Ports W} {host host' : Host (Observed W)}

theorem later (h : Accounts past host) (hruntime : host'.runtime = host.runtime)
    (heffects : host'.world.2 = host.world.2)
    (hclock : host.world.1.2.clock ≤ host'.world.1.2.clock) : Accounts past host' := by
  unfold Accounts
  rw [hruntime, heffects]
  exact Faithful.later h hruntime hclock

theorem allows : Allows (W := W) fun host host' => Accounts past host → Accounts past host' where
  waits    := fun _ _ hwaits h => h.later hwaits.runtime hwaits.effects hwaits.clock
  marks    := fun _ _ h => { h with }
  numbers  := fun _ _ h => { h with }
  proposes := by
    intro host roundId range trigger receiptId candidate hnew h
    refine { h with candidates := ?_ }
    intro entry hmem
    rcases HashMap.mem_insert hmem with rfl | hmem
    case inr => exact h.candidates entry hmem
    case inl =>
      unfold HighlightCandidate.new at hnew
      split at hnew
      case isTrue => cases hnew
      case isFalse =>
        cases hnew
        exact ⟨rfl, rfl, rfl⟩
  drafts   := fun _ _ _ _ _ _ _ _ hofficial hcandidate h =>
    Faithful.capture h _ (Faithful.draft_kept h hofficial hcandidate)
  cancels  := fun _ _ _ reason hcapture h =>
    Faithful.capture h _ ((h.captures _ (HashMap.mem_values_of_get? hcapture)).cancelled reason)

theorem faithful (h : Accounts past host) (heffects : host.world.2 = []) : Faithful past host := by
  simpa [Accounts, signalled, heffects] using h

theorem of_silent (h : Faithful past host) (hsilent : .delivered .user1 ∉ host.world.2) :
    Accounts past host := by
  simpa [Accounts, signalled, hsilent] using h

theorem captured_follows {h : Capture.Host String (Observed W)}
    (htimed : Capture.Timed host.capturing h) : Follows host (host.captured h) :=
  ⟨rfl, rfl, Nat.le_refl _, htimed.clock⟩

-- The recorder has been called, and not signalled for a save.
theorem captured {h' : Capture.Host String (Observed W)} (h : Accounts past host)
    (heffects : host.world.2 = []) (htimed : Capture.Timed host.capturing h')
    (hsilent : .delivered .user1 ∉ h'.world.2)
    (hinFlight : ∀ pending ∈ h'.supervisor.inFlight,
      pending ∈ host.runtime.recorder.capture.inFlight)
    (hqueued : ∀ next ∈ h'.supervisor.queued, next ∈ host.runtime.recorder.capture.queued) :
    Accounts past (host.captured h') :=
  of_silent ((h.faithful heffects).narrow (captured_follows htimed) hinFlight hqueued) hsilent

theorem pollCapture (h : Accounts past host) (heffects : host.world.2 = []) :
    Accounts past (LiveRuntime.pollCapture ports.observed host).state := by
  obtain ⟨spawns, hspawns⟩ : ∃ spawns, Capture.Supervisor.Spawns host.capturing spawns
      (Capture.Supervisor.poll ports.observed.capture host.capturing).state :=
    ⟨_, Capture.Supervisor.poll_spawns ports.recorder _ host.world.1 _⟩
  unfold LiveRuntime.pollCapture
  rw [withCapture_state]
  apply h.captured heffects (Capture.Timed.poll ports host.capturing)
  · rcases hspawns.effects with hlog | hlog <;> simp [hlog, heffects]
  · exact fun _ hmem => hspawns.saves.1 ▸ hmem
  · exact fun _ hmem => hspawns.saves.2 ▸ hmem

theorem shutdownCapture (h : Accounts past host) (heffects : host.world.2 = []) :
    Accounts past (LiveRuntime.shutdownCapture ports.observed host).state := by
  obtain ⟨w, log, hlog, hstate⟩ : ∃ w log,
      (log = host.world.2 ∨ log = host.world.2 ++ [.delivered .interrupt]) ∧
      (Capture.Supervisor.shutdown ports.observed.capture host.capturing).state =
        ⟨{ host.runtime.recorder.capture with shuttingDown := true, nextRestartMs := none }, w, log⟩ :=
    Capture.Supervisor.shutdown_cases ports.recorder _ host.world.1 _
  have htimed := Capture.Timed.shutdown ports host.capturing
  unfold LiveRuntime.shutdownCapture
  rw [withCapture_state]
  rw [hstate] at htimed ⊢
  apply h.captured heffects htimed
  · rcases hlog with rfl | rfl <;> simp [heffects]
  · exact fun _ => id
  · exact fun _ => id

-- The recorder has been called, and signalled for a save.
theorem captured_signal {h' : Capture.Host String (Observed W)} {pending : PendingSave String}
    (h : Accounts past host) (heffects : host.world.2 = [])
    (htimed : Capture.Timed host.capturing h') (hsignal : .delivered .user1 ∈ h'.world.2)
    (hinFlight : h'.supervisor.inFlight = some pending)
    (hnew : host.runtime.recorder.capture.inFlight ≠ some pending)
    (hissued : RecorderFacade.Issued host.runtime.recorder.requestOrdinal pending.recorderRequestId)
    (hqueued : ∀ next ∈ h'.supervisor.queued,
      next ∈ host.runtime.recorder.capture.queued ∧
        pending.recorderRequestId ≠ next.recorderRequestId)
    (hserves : ∀ save ∈ signalled h'.world.2 (host.captured h').runtime.recorder,
      ∀ capture ∈ host.coordinator.captures.values, ∀ outcome ∈ capture.status.accepted,
      outcome.recorderRequestId = save.recorderRequestId → ∀ coverage ∈ capture.rawCoverage,
        Serves host.runtime.recorder.availableFromMs save coverage.endMs
          (desiredStart capture coverage.endMs)) : Accounts past (host.captured h') := by
  have hsave : signalled h'.world.2 (host.captured h').runtime.recorder =
      some ⟨pending.recorderRequestId, pending.requestedAtMs, h'.supervisor.startedMs⟩ := by
    simp [signalled, Host.captured, hsignal, hinFlight]
  have hclock := (htimed.inFlight pending hinFlight).resolve_left hnew
  rw [hsave] at hserves
  show Faithful (past ++ (signalled h'.world.2 (host.captured h').runtime.recorder).toList) _
  rw [hsave, Option.toList_some]
  apply (h.faithful heffects).signal (captured_follows htimed)
  · exact hclock.1
  · exact hissued
  · intro pending' hmem
    cases hinFlight.symm.trans hmem
    rfl
  · exact hqueued
  · exact hserves _ rfl

-- The next save is signalled with the discovery of the output of the one in flight.
theorem discovered (h : Accounts past host) (heffects : host.world.2 = [])
    (hserves :
      let h' := (Capture.Supervisor.discoverSave ports.observed.capture host.capturing).state
      ∀ save ∈ signalled h'.world.2 (host.captured h').runtime.recorder,
      ∀ capture ∈ host.coordinator.captures.values, ∀ outcome ∈ capture.status.accepted,
      outcome.recorderRequestId = save.recorderRequestId → ∀ coverage ∈ capture.rawCoverage,
        Serves host.runtime.recorder.availableFromMs save coverage.endMs
          (desiredStart capture coverage.endMs)) :
    Accounts past (host.captured
      (Capture.Supervisor.discoverSave ports.observed.capture host.capturing).state) := by
  have htimed := Capture.Timed.discoverSave ports host.capturing
  have hdiscovers : Capture.Supervisor.Discovers host.runtime.recorder.capture host.world.2
      (Capture.Supervisor.discoverSave ports.observed.capture host.capturing) :=
    Capture.Supervisor.discoverSave_discovers ports.recorder _ host.world.1 _
  dsimp only at hserves
  generalize Capture.Supervisor.discoverSave ports.observed.capture host.capturing = result
    at htimed hdiscovers hserves
  cases hdiscovers with
  | failed e w => exact h.captured heffects htimed (by simp [heffects]) (fun _ => id) (fun _ => id)
  | nothing w => exact h.captured heffects htimed (by simp [heffects]) (fun _ => id) (fun _ => id)
  | served a w inFlight queued hid =>
    exact h.captured heffects htimed (by simp [heffects]) nofun (fun _ => id)
  | @followed pending next a wall now w inFlight queued hid =>
    have ⟨hissued, hne⟩ := (h.faithful heffects).queued next queued
    apply h.captured_signal heffects htimed (by simp) rfl _ hissued nofun hserves
    intro heq
    have ⟨save, hmem, hsame⟩ := (h.faithful heffects).inFlight _ heq
    exact hne save hmem hsame
  | dropped e w inFlight queued =>
    exact h.captured heffects htimed (by simp [heffects]) nofun nofun

theorem numbered (h : Accounts past host) : Accounts past (RecorderFacade.numbered host) :=
  Faithful.narrow h ⟨rfl, rfl, Nat.le_succ _, Nat.le_refl _⟩ (fun _ => id) (fun _ => id)

-- An accepted request is served by a save of its own call, or by one that is still to come.
structure Requested (past : List Save) (host host' : Host (Observed W))
    (result : Except Capture.Error (Capture.SaveRequestOutcome String)) : Prop where
  accounts : Accounts past host'
  follows  : Follows host host'
  issued   : ∀ outcome, result = .ok outcome →
    RecorderFacade.Issued host'.runtime.recorder.requestOrdinal outcome.recorderRequestId
  saves    : ∀ outcome, result = .ok outcome →
    ∀ save ∈ past ++ (signalled host'.world.2 host'.runtime.recorder).toList,
      save.recorderRequestId = outcome.recorderRequestId →
        save ∈ signalled host'.world.2 host'.runtime.recorder ∧
          host.world.1.2.clock ≤ save.signalledAtMs

theorem requestSave (ports : Ports W) (h : Accounts past host) (heffects : host.world.2 = []) (captureId : String)
    (provenance : SaveProvenance) :
    ∃ result host', RecorderFacade.requestSave ports.observed captureId provenance host =
      .ok result host' ∧ Requested past host host' result := by
  let newId := RecorderFacade.requestId captureId (host.runtime.recorder.requestOrdinal + 1)
  have htimed := Capture.Timed.requestSave ports newId provenance host.capturing
  have hrequests : Capture.Supervisor.Requests host.runtime.recorder.capture host.world.2 newId
      provenance (Capture.Supervisor.requestSave ports.observed.capture newId provenance
        host.capturing) :=
    Capture.Supervisor.requestSave_requests ports.recorder _ host.world.1 _ _ _
  refine ⟨_, _, RecorderFacade.requestSave_apply _ _ _ _, ?_⟩
  generalize Capture.Supervisor.requestSave ports.observed.capture _ provenance host.capturing =
    result at htimed hrequests
  have hfollows : Follows host ((RecorderFacade.numbered host).captured result.state) :=
    ⟨rfl, rfl, Nat.le_succ _, htimed.clock⟩
  cases hrequests with
  | refused =>
    exact ⟨h.numbered.captured heffects htimed (by simp [heffects]) (fun _ => id) (fun _ => id),
      hfollows, nofun, nofun⟩
  | @sent wall now w running inFlight =>
    have hfaithful := h.faithful heffects
    have hnew : host.runtime.recorder.capture.inFlight ≠ some ⟨newId, provenance, wall, now⟩ := by
      simp [inFlight]
    refine ⟨?_, hfollows, ?_, ?_⟩
    · apply h.numbered.captured_signal heffects htimed (by simp) rfl hnew (.next captureId)
      · intro next hmem
        exact ⟨hmem, ((hfaithful.queued next hmem).1.ne_next captureId).symm⟩
      · intro save hsave capture hmem outcome houtcome hid
        have hsame : save.recorderRequestId = newId := by
          simp [signalled, Host.captured] at hsave
          rw [← hsave]
        exact absurd (hid.trans hsame)
          (((hfaithful.captures capture hmem).accepted outcome houtcome).1.ne_next captureId)
    · intro outcome heq
      cases heq
      exact .next captureId
    · intro outcome heq save hmem hid
      cases heq
      rcases List.mem_append.mp hmem with hmem | hmem
      case inl => exact absurd hid ((hfaithful.issued save hmem).ne_next captureId)
      case inr =>
        have hsave := Option.mem_toList.mp hmem
        refine ⟨hsave, ?_⟩
        simp [signalled, Host.captured] at hsave
        rw [← hsave]
        exact ((htimed.inFlight _ rfl).resolve_left hnew).1
  | @coalesced pending queued w inFlight queued_eq =>
    have hfaithful := h.faithful heffects
    have hnext : RecorderFacade.Issued (host.runtime.recorder.requestOrdinal + 1)
        queued.recorderRequestId ∧
        ∀ save ∈ past, save.recorderRequestId ≠ queued.recorderRequestId := by
      cases hqueued : host.runtime.recorder.capture.queued with
      | none =>
        rw [hqueued] at queued_eq
        cases queued_eq
        exact ⟨.next captureId, fun save hmem => (hfaithful.issued save hmem).ne_next captureId⟩
      | some next =>
        rw [hqueued] at queued_eq
        cases queued_eq
        have ⟨hissued, hne⟩ := hfaithful.queued next hqueued
        exact ⟨hissued.mono (Nat.le_succ _), hne⟩
    refine ⟨of_silent (hfaithful.call hfollows (fun _ => id) ?_) (by simp [Host.captured, heffects]),
      hfollows, ?_, ?_⟩
    · intro next hmem
      cases hmem
      rw [Capture.Supervisor.upgrade_recorderRequestId]
      exact hnext
    · intro outcome heq
      cases heq
      exact hnext.1
    · intro outcome heq save hmem hid
      cases heq
      simp [signalled, Host.captured, heffects] at hmem
      exact absurd hid (hnext.2 save hmem)

theorem store (h : Accounts past host) {captureId : String} {capture : CaptureRecord}
    (hkept : Kept (past ++ (signalled host.world.2 host.runtime.recorder).toList)
      host.runtime.recorder.availableFromMs host.world.1.2.clock
      host.runtime.recorder.requestOrdinal capture) :
    Accounts past (host.coordinate { host.coordinator with
      captures := host.coordinator.captures.insert captureId capture }) :=
  Faithful.capture h _ hkept

theorem requestCaptureSave (h : Accounts past host) (heffects : host.world.2 = [])
    {captureId : String} {capture : CaptureRecord}
    (hcapture : host.coordinator.captures.get? captureId = some capture)
    (hdue : ∀ d ∈ capture.deadlineMs, d ≤ host.world.1.2.clock)
    (hserves :
      let t := coverageEnd capture (host.ticked ports).world.1.2.clock
      let host' := (Coordinator.requestCaptureSave ports.observed captureId host).state
      ∀ save ∈ signalled host'.world.2 host'.runtime.recorder,
        Serves host.runtime.recorder.availableFromMs save t (desiredStart capture t))
    (haccepted : ∀ host', Coordinator.requestCaptureSave ports.observed captureId host =
      .ok .saveRequested host' →
      ∀ d ∈ capture.deadlineMs, host.runtime.recorder.availableFromMs ≤ d) :
    Accounts past (Coordinator.requestCaptureSave ports.observed captureId host).state := by
  have hwaits := ticked_waits host ports
  have h₁ := h.later hwaits.runtime hwaits.effects hwaits.clock
  cases hcovered : Coordinator.covered capture (host.ticked ports).world.1.2.clock
    host.runtime.recorder.availableFromMs with
  | error e =>
    rw [requestCaptureSave_uncovered hcapture hcovered]
    exact h₁
  | ok capture' =>
    obtain ⟨result, host₂, hrequest, hrequested⟩ :=
      h₁.requestSave ports heffects capture'.id capture'.provenance
    have hcoordinator : host₂.coordinator = host.coordinator := hrequested.follows.coordinator
    have havailable : host₂.runtime.recorder.availableFromMs =
      host.runtime.recorder.availableFromMs := hrequested.follows.availableFromMs
    have hmem : capture ∈ host.coordinator.captures.values := HashMap.mem_values_of_get? hcapture
    have hclock : host.world.1.2.clock ≤ host₂.world.1.2.clock :=
      hwaits.clock.trans hrequested.follows.clock
    have hstored : ∀ status host₃, Waits host₂ host₃ →
        Kept (past ++ (signalled host₃.world.2 host₃.runtime.recorder).toList)
          host₃.runtime.recorder.availableFromMs host₃.world.1.2.clock
          host₃.runtime.recorder.requestOrdinal { capture' with status } →
        Accounts past (host₃.coordinate { host₃.coordinator with
          captures := host₃.coordinator.captures.insert captureId { capture' with status } }) :=
      fun _ _ hw hkept =>
        (hrequested.accounts.later hw.runtime hw.effects hw.clock).store hkept
    have hold : ∀ host₃, Waits host₂ host₃ →
        Kept (past ++ (signalled host₃.world.2 host₃.runtime.recorder).toList)
          host₃.runtime.recorder.availableFromMs host₃.world.1.2.clock
          host₃.runtime.recorder.requestOrdinal capture := by
      intro host₃ hw
      apply (hrequested.accounts.later hw.runtime hw.effects hw.clock).captures
      rwa [Host.coordinator, hw.runtime, ← Host.coordinator, hcoordinator]
    cases result with
    | error e =>
      rw [requestCaptureSave_refused hcapture hcovered hrequest]
      rcases store_cases ports { capture' with status := .retryable e } captureId host₂ with
        ⟨e', host₃, hw, hstore⟩ | ⟨host₃, hw, hstore⟩
      · simp only [bind_error hstore]
        exact hrequested.accounts.later hw.runtime hw.effects hw.clock
      · simp only [bind_ok hstore]
        have hkept := hold host₃ hw
        apply hstored _ _ hw
        rw [hw.runtime, havailable] at hkept ⊢
        exact hkept.covered_retryable hcovered (fun d hd => (hdue d hd).trans (hclock.trans hw.clock)) e
    | ok outcome =>
      rw [requestCaptureSave_accepted hcapture hcovered hrequest] at hserves haccepted ⊢
      rcases store_cases ports { capture' with status := .saveRequested outcome } captureId host₂
        with ⟨e', host₃, hw, hstore⟩ | ⟨host₃, hw, hstore⟩
      · simp only [bind_error hstore]
        exact hrequested.accounts.later hw.runtime hw.effects hw.clock
      · simp only [bind_ok hstore] at hserves haccepted ⊢
        have hkept := hold host₃ hw
        obtain ⟨hend, hshaped, hstart⟩ := (h₁.captures capture hmem).covered_shaped hcovered
          (Nat.le_refl _) h₁.available (fun d hd => (hdue d hd).trans hwaits.clock)
          (haccepted _ rfl)
        have hend₃ := hend.trans (hrequested.follows.clock.trans hw.clock)
        apply hstored _ _ hw
        rw [hw.effects, hw.runtime, havailable] at hkept ⊢
        apply hkept.covered_accepted hcovered hend₃ hshaped (hrequested.issued outcome rfl)
        intro save hsave hid
        obtain ⟨hsignalled, hle⟩ := hrequested.saves outcome rfl save hsave hid
        refine ⟨hend.trans hle, hstart ▸ hserves save ?_⟩
        show save ∈ signalled host₃.world.2 host₃.runtime.recorder
        rwa [hw.effects, hw.runtime]

theorem ticked (ports : Ports W) (h : Accounts past host) : Accounts past (host.ticked ports) :=
  have hwaits := ticked_waits host ports
  h.later hwaits.runtime hwaits.effects hwaits.clock

theorem onTimer (h : Accounts past host) (heffects : host.world.2 = []) (timer : TimerId)
    (hserves :
      let host' := (Coordinator.onTimer ports.observed timer host).state
      ∀ save ∈ signalled host'.world.2 host'.runtime.recorder, ∀ captureId capture,
        host.coordinator.timers.get? timer.value = some captureId →
        host.coordinator.captures.get? captureId = some capture →
        let t := coverageEnd capture ((host.ticked ports).ticked ports).world.1.2.clock
        Serves host.runtime.recorder.availableFromMs save t (desiredStart capture t))
    (haccepted : ∀ host', Coordinator.onTimer ports.observed timer host = .ok .saveRequested host' →
      ∀ captureId capture, host.coordinator.timers.get? timer.value = some captureId →
        host.coordinator.captures.get? captureId = some capture →
        ∀ d ∈ capture.deadlineMs, host.runtime.recorder.availableFromMs ≤ d) :
    Accounts past (Coordinator.onTimer ports.observed timer host).state := by
  unfold Coordinator.onTimer at hserves haccepted ⊢
  rw [bind_ok self_apply] at hserves haccepted ⊢
  cases htimer : host.coordinator.timers.get? timer.value with
  | none => exact h
  | some captureId =>
    simp only [htimer] at hserves haccepted ⊢
    rw [bind_ok self_apply] at hserves haccepted ⊢
    cases hcapture : host.coordinator.captures.get? captureId with
    | none => exact h
    | some capture =>
      simp only [hcapture] at hserves haccepted ⊢
      cases hdeadline : capture.deadlineMs with
      | none => exact h
      | some deadlineMs =>
        simp only [hdeadline] at hserves haccepted ⊢
        rw [bind_ok (nowMs_apply ports host)] at hserves haccepted ⊢
        split
        case isTrue => exact h.ticked ports
        case isFalse hdue =>
          rw [if_neg hdue] at hserves haccepted
          split
          case isTrue => exact h.ticked ports
          case isFalse hstatus =>
            rw [if_neg hstatus] at hserves haccepted
            apply (h.ticked ports).requestCaptureSave heffects hcapture
            · intro d hd
              cases hdeadline.symm.trans hd
              exact Nat.le_of_not_lt hdue
            · exact fun save hsave => hserves save hsave captureId capture rfl hcapture
            · exact fun host' hok => haccepted host' hok captureId capture rfl hcapture

theorem retryCapture (h : Accounts past host) (heffects : host.world.2 = []) (captureId : String)
    (hserves :
      let host' := (Coordinator.retryCapture ports.observed captureId host).state
      ∀ save ∈ signalled host'.world.2 host'.runtime.recorder, ∀ capture,
        host.coordinator.captures.get? captureId = some capture →
        let t := coverageEnd capture (host.ticked ports).world.1.2.clock
        Serves host.runtime.recorder.availableFromMs save t (desiredStart capture t))
    (haccepted : ∀ host', Coordinator.retryCapture ports.observed captureId host =
      .ok .saveRequested host' →
      ∀ capture, host.coordinator.captures.get? captureId = some capture →
        ∀ d ∈ capture.deadlineMs, host.runtime.recorder.availableFromMs ≤ d) :
    Accounts past (Coordinator.retryCapture ports.observed captureId host).state := by
  unfold Coordinator.retryCapture at hserves haccepted ⊢
  rw [bind_ok self_apply] at hserves haccepted ⊢
  cases hcapture : host.coordinator.captures.get? captureId with
  | none => exact h
  | some capture =>
    simp only [hcapture] at hserves haccepted ⊢
    cases hstatus : capture.status with
    | retryable e =>
      simp only [hstatus] at hserves haccepted ⊢
      apply h.requestCaptureSave heffects hcapture
      · exact (h.captures capture (HashMap.mem_values_of_get? hcapture)).due e hstatus
      · exact fun save hsave => hserves save hsave capture rfl
      · exact fun host' hok => haccepted host' hok capture rfl
    | _ => exact h

theorem manualFlag (h : Accounts past host) (heffects : host.world.2 = [])
    (hserves :
      let host' := (Coordinator.manualFlag ports.observed host).state
      let t := (host.ticked ports).world.1.2.clock
      ∀ save ∈ signalled host'.world.2 host'.runtime.recorder,
        Serves host.runtime.recorder.availableFromMs save t (t - Domain.desiredPreRollMs)) :
    Accounts past (Coordinator.manualFlag ports.observed host).state := by
  let t := (host.ticked ports).world.1.2.clock
  let c : Coordinator := { host.coordinator with
    manualOrdinal := saturatingAdd 64 host.coordinator.manualOrdinal 1 }
  let flagged := (host.ticked ports).coordinate c
  let id := s!"manual:{t}:{c.manualOrdinal}"
  let capture := Coordinator.manualCapture id t host.runtime.recorder.availableFromMs
  have hrun : Coordinator.manualFlag ports.observed host =
      (Coordinator.store ports.observed capture id >>= fun _ =>
        Coordinator.requestCaptureSave ports.observed id >>= fun _ => pure id) flagged := rfl
  have hflagged : Accounts past flagged := { h.ticked ports with }
  rw [hrun] at hserves ⊢
  rcases store_cases ports capture id flagged with ⟨e, host', hw, hstore⟩ | ⟨host', hw, hstore⟩
  · rw [bind_error hstore]
    exact hflagged.later hw.runtime hw.effects hw.clock
  · rw [bind_ok hstore] at hserves ⊢
    simp only [state_bind_pure] at hserves ⊢
    have havailable : host.runtime.recorder.availableFromMs ≤ t := (h.ticked ports).available
    have hrecorder := congrArg LiveRuntime.recorder hw.runtime
    change host'.runtime.recorder = host.runtime.recorder at hrecorder
    have hkept : Kept (past ++ (signalled host'.world.2 host'.runtime.recorder).toList)
        host'.runtime.recorder.availableFromMs host'.world.1.2.clock
        host'.runtime.recorder.requestOrdinal capture := by
      rw [hrecorder]
      exact Kept.flagged havailable hw.clock
    apply ((hflagged.later hw.runtime hw.effects hw.clock).store hkept).requestCaptureSave
      (hw.effects.trans heffects) (HashMap.get?_insert_self)
    · nofun
    · rw [Host.coordinate_recorder, hrecorder]
      exact hserves
    · exact fun _ _ => nofun

theorem discoverSave (h : Accounts past host) (heffects : host.world.2 = [])
    (hserves :
      let host' := (LiveRuntime.discoverSave ports.observed host).state
      ∀ save ∈ signalled host'.world.2 host'.runtime.recorder,
      ∀ capture ∈ host.coordinator.captures.values, ∀ outcome ∈ capture.status.accepted,
      outcome.recorderRequestId = save.recorderRequestId → ∀ coverage ∈ capture.rawCoverage,
        Serves host.runtime.recorder.availableFromMs save coverage.endMs
          (desiredStart capture coverage.endMs)) :
    Accounts past (LiveRuntime.discoverSave ports.observed host).state := by
  unfold LiveRuntime.discoverSave at hserves ⊢
  rw [withCapture_state] at hserves ⊢
  exact h.discovered heffects hserves

theorem finalizeDiscoveredSave (h : Accounts past host) (heffects : host.world.2 = [])
    (hserves :
      let host' := (LiveRuntime.finalizeDiscoveredSave ports.observed host).state
      ∀ save ∈ signalled host'.world.2 host'.runtime.recorder,
      ∀ capture ∈ host.coordinator.captures.values, ∀ outcome ∈ capture.status.accepted,
      outcome.recorderRequestId = save.recorderRequestId → ∀ coverage ∈ capture.rawCoverage,
        Serves host.runtime.recorder.availableFromMs save coverage.endMs
          (desiredStart capture coverage.endMs)) :
    Accounts past (LiveRuntime.finalizeDiscoveredSave ports.observed host).state := by
  by_cases hflight : host.runtime.recorder.capture.inFlight.isSome
  case neg =>
    unfold LiveRuntime.finalizeDiscoveredSave
    rw [bind_ok get_apply, if_pos (by simp [Capture.Supervisor.hasSaveInFlight, hflight])]
    exact h
  case pos =>
    obtain ⟨hruntime, hlog, hclock⟩ := finalizeDiscoveredSave_discovers ports hflight
    dsimp only at hserves
    rw [hruntime, hlog] at hserves
    exact (h.discovered heffects hserves).later hruntime hlog hclock.ge

end Accounts

section Run

variable {ports : Ports W} {past : List Save} {s : Session}

theorem answered_eq (x : Method (Observed W) Reply) (w : W) (s : Session) :
    answered x w s = (⟨(x (s.host w)).toExcept, (x (s.host w)).state.world.1.2.finalizations,
      (x (s.host w)).state.world.2⟩, .of (x (s.host w)).state) := by
  unfold answered
  cases x (s.host w) <;> rfl

-- Each call is made in a world of its own, which the records do not depend on.
theorem Faithful.session {host : Host (Observed W)} (h : Faithful past host) (w : W) :
    Faithful past ((Session.of host).host w) :=
  h.later rfl (Nat.le_refl _)

theorem asked_dispatchTimer {timer : TimerId} {captureId : String} {capture : CaptureRecord} {w : W}
    (htimer : s.runtime.coordinator.timers.get? timer.value = some captureId)
    (hcapture : s.runtime.coordinator.captures.get? captureId = some capture) :
    (capture, secondReading ports s w) ∈ asked ports s (.dispatchTimer timer, w) := by
  simp [asked, htimer, hcapture]

theorem asked_retryCapture {captureId : String} {capture : CaptureRecord} {w : W}
    (hcapture : s.runtime.coordinator.captures.get? captureId = some capture) :
    (capture, firstReading ports s w) ∈ asked ports s (.retryCapture captureId, w) := by
  simp [asked, hcapture]

theorem saves_append {steps : List (Step W)} {step : Step W} :
    saves (steps ++ [step]) = saves steps ++ (saveOf step).toList := by
  cases h : saveOf step <;> simp [saves, h]

theorem step_accounts (call : Call × W) (h : Accounts past (s.host call.2))
    (htimely : Timely ports s call) :
    Accounts past (perform ports.observed call.1 (s.host call.2)).state := by
  have heffects : (s.host call.2).world.2 = [] := rfl
  obtain ⟨call, w⟩ := call
  unfold Timely at htimely
  simp only [saveOf, Machine.step, answer, answered_eq] at htimely
  obtain ⟨hdirect, hwaiting, haccepted⟩ := htimely
  cases call with
  | ingestReceipt receipt =>
    simp only [perform, state_bind_pure]
    exact Accounts.allows.ingest receipt _ h
  | dispatchTimer timer =>
    simp only [perform, state_bind_pure] at hdirect ⊢
    apply h.onTimer heffects timer
    · intro host' save hsave captureId capture htimer hcapture
      exact hdirect save hsave _ (asked_dispatchTimer htimer hcapture)
    · intro host' hok captureId capture htimer hcapture
      have hperform : perform ports.observed (.dispatchTimer timer) (s.host w) =
        .ok (.timed .saveRequested) host' := bind_ok hok
      rw [hperform] at haccepted
      exact haccepted rfl _ (asked_dispatchTimer htimer hcapture)
  | manualFlag =>
    simp only [perform, state_bind_pure] at hdirect ⊢
    apply h.manualFlag heffects
    intro host' t save hsave
    exact hdirect save hsave _ rfl
  | retryCapture captureId =>
    simp only [perform, state_bind_pure] at hdirect ⊢
    apply h.retryCapture heffects captureId
    · intro host' save hsave capture hcapture
      exact hdirect save hsave _ (asked_retryCapture hcapture)
    · intro host' hok capture hcapture
      have hperform : perform ports.observed (.retryCapture captureId) (s.host w) =
        .ok (.timed .saveRequested) host' := bind_ok hok
      rw [hperform] at haccepted
      exact haccepted rfl _ (asked_retryCapture hcapture)
  | pollCapture =>
    simp only [perform, state_bind_pure]
    exact h.pollCapture heffects
  | discoverSave =>
    simp only [perform, state_bind_pure] at hwaiting ⊢
    exact h.discoverSave heffects hwaiting
  | finalizeDiscoveredSave =>
    simp only [perform, state_bind_pure] at hwaiting ⊢
    exact h.finalizeDiscoveredSave heffects hwaiting
  | shutdownCapture =>
    simp only [perform, state_bind_pure]
    exact h.shutdownCapture heffects

theorem step_faithful (call : Call × W) (h : Faithful past (s.host call.2))
    (htimely : Timely ports s call) (w : W) :
    Faithful (past ++ (saveOf (Machine.step (answer ports) s call)).toList)
      ((Machine.step (answer ports) s call).after.host w) := by
  have hstep := step_accounts call (Accounts.of_silent h (by simp [Session.host])) htimely
  simp only [saveOf, Machine.step, answer, answered_eq]
  exact Faithful.session hstep w

theorem Faithful.covered {steps : List (Step W)} {w : W} (h : Faithful (saves steps) (s.host w)) :
    Covered steps s := by
  intro capture hmem outcome houtcome
  have ⟨_, t, _, hshaped, hserves⟩ := (h.captures capture hmem).accepted outcome houtcome
  exact hshaped.honest hserves

theorem Started.faithful {captureSessionId : String} (h : Started captureSessionId s) (w : W) :
    Faithful [] (s.host w) where
  candidates := by simp [Host.coordinator, Session.host, h.coordinator, Coordinator.new]
  captures   := by
    simp [Host.coordinator, Session.host, h.coordinator, Coordinator.new, HashMap.values]
  available  := h.available
  issued     := nofun
  inFlight   := by simp [Session.host, h.inFlight]
  queued     := by simp [Session.host, h.queued]

-- Every record of an accepted save is honest, as long as each save serves what has been asked for.
theorem covered_of_timely {config : Capture.Config} {captureSessionId : String} {w : W}
    (calls : List (Call × W)) (h : production ports config captureSessionId w = some s)
    (hcalls : Machine.Each (answer ports) (fun _ s call => Timely ports s call) [] s calls) :
    Machine.Always (answer ports) Covered [] s calls := by
  apply hcalls.always (I := fun steps s => ∀ w, Faithful (saves steps) (s.host w))
  · exact fun steps s hs => (hs w).covered
  · intro steps s call hs htimely w
    have hstep := step_faithful call (hs call.2) htimely w
    rwa [saves_append]
  · exact (production_started h).faithful

end Run

-- A flag in the first minute of the recorder, and the discovery of its output.
def firstFlagDemo : List (Call × FakeWorld) :=
  [(.manualFlag, { recorder := { clock := 20000 } }),
    (.finalizeDiscoveredSave, { recorder := {
      clock   := 21000
      outputs := [[.rootDir, .normal "clips", .normal "one.mp4"]] } })]

theorem covered_of_timely_firstFlag :
    Machine.Always (answer fakePorts) Covered [] fakeSession firstFlagDemo :=
  covered_of_timely firstFlagDemo fake_production
    ⟨by decide +kernel, by decide +kernel, True.intro⟩

-- The recorder exits and is restarted, and the moment is flagged a second later.
def restartDemo : List (Call × FakeWorld) :=
  [(.pollCapture, { recorder := { clock := 100000, exit := some 1 } }),
    (.pollCapture, { recorder := { clock := 101000 } }),
    (.manualFlag, { recorder := { clock := 102000 } })]

def restartedCapture : CaptureRecord :=
  { Coordinator.manualCapture "manual:102000:1" 102000 0 with
    status := .saveRequested ⟨"manual:102000:1:request:1", .signalled⟩ }

def restartedSave : Save where
  recorderRequestId := "manual:102000:1:request:1"
  signalledAtMs     := 102000
  childStartedMs    := 101000

theorem covered_fails_restart :
    ¬Machine.Always (answer fakePorts) Covered [] fakeSession restartDemo := by
  intro ⟨_, _, _, h⟩
  have ⟨window, coverage, _, hcoverage, _, _, hinside⟩ :=
    h restartedCapture (by decide +kernel) ⟨"manual:102000:1:request:1", .signalled⟩ rfl
  have ⟨_, hstart, _⟩ := hinside restartedSave (by decide +kernel) rfl
  cases hcoverage
  exact absurd hstart (by decide)

end Live
