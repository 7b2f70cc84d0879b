import OpenFrag.Library.Within
import OpenFrag.Live.Run

open EStateM
open Capture (Effect SaveProvenance silent)
open Domain (HighlightCandidate)
open Gsi (EvidenceReceipt)

namespace Live

variable {W α β : Type}

abbrev Host.coordinator (host : Host W) : Coordinator :=
  host.runtime.coordinator

def Host.coordinate (host : Host W) (c : Coordinator) : Host W :=
  { host with runtime.coordinator := c }

@[simp]
theorem Host.coordinate_recorder (host : Host W) (c : Coordinator) :
    (host.coordinate c).runtime.recorder = host.runtime.recorder := rfl

-- Time may pass, and nothing else.
structure Waits (host host' : Host (Observed W)) : Prop where
  runtime       : host'.runtime = host.runtime
  finalizations : host'.world.1.2.finalizations = host.world.1.2.finalizations
  effects       : host'.world.2 = host.world.2
  clock         : host.world.1.2.clock ≤ host'.world.1.2.clock

instance : Std.Refl (Waits (W := W)) where
  refl _ := ⟨rfl, rfl, rfl, Nat.le_refl _⟩

instance : IsTrans (Host (Observed W)) Waits where
  trans _ _ _ h h' := {
    runtime       := h'.runtime.trans h.runtime
    finalizations := h'.finalizations.trans h.finalizations
    effects       := h'.effects.trans h.effects
    clock         := h.clock.trans h'.clock }

theorem port_waits (f : W → Except LiveDiagnostic α × W) :
    Within Waits (port (silent (aside f))) := by
  intro host
  rcases h : f host.world.1.1 with ⟨e | a, w'⟩ <;>
    simp only [port, silent, aside, h, Result.state] <;>
    exact ⟨rfl, rfl, rfl, Nat.le_refl _⟩

theorem attempt_waits (f : W → Except LiveDiagnostic α × W) :
    Within Waits (attempt (silent (aside f))) :=
  fun _ => ⟨rfl, rfl, rfl, Nat.le_refl _⟩

theorem reading_waits (f : W → α × W) : Within Waits (reading (silent (aside f))) :=
  fun _ => ⟨rfl, rfl, rfl, Nat.le_refl _⟩

-- The clock has been read.
def Host.ticked (host : Host (Observed W)) (ports : Ports W) : Host (Observed W) :=
  { host with world := (((ports.nowMs host.world.1.1).2, { host.world.1.2 with
      clock := max host.world.1.2.clock (ports.nowMs host.world.1.1).1 }), host.world.2) }

theorem ticked_waits (host : Host (Observed W)) (ports : Ports W) : Waits host (host.ticked ports) :=
  ⟨rfl, rfl, rfl, Nat.le_max_left _ _⟩

theorem nowMs_apply (ports : Ports W) (host : Host (Observed W)) :
    reading ports.observed.nowMs host =
      .ok (host.ticked ports).world.1.2.clock (host.ticked ports) := rfl

theorem nowMs_waits (ports : Ports W) : Within Waits (reading ports.observed.nowMs) :=
  fun host => ticked_waits host ports

theorem availableFrom_apply (host : Host W) :
    RecorderFacade.availableFrom host = .ok host.runtime.recorder.availableFromMs host := rfl

theorem availableFrom_waits : Within Waits (RecorderFacade.availableFrom (W := Observed W)) :=
  fun _ => ⟨rfl, rfl, rfl, Nat.le_refl _⟩

theorem self_apply {host : Host W} : (self : Method W _) host = .ok host.coordinator host := rfl

theorem update_within {R : Host W → Host W → Prop} {f : Coordinator → Coordinator}
    (h : ∀ host, R host (host.coordinate (f host.coordinator))) : Within R (update f) :=
  h

-- What the coordinator does without the recorder is allowed.
structure Allows (R : Host (Observed W) → Host (Observed W) → Prop) : Prop where
  waits    : ∀ host host', Waits host host' → R host host'
  marks    : ∀ host receiptIds, R host
    (host.coordinate { host.coordinator with processedReceipts := receiptIds })
  numbers  : ∀ host ordinal, R host
    (host.coordinate { host.coordinator with manualOrdinal := ordinal })
  proposes : ∀ host roundId range trigger receiptId candidate,
    HighlightCandidate.new host.coordinator.captureSessionId roundId range trigger receiptId =
      .ok candidate →
    R host (host.coordinate { host.coordinator with
      candidates := host.coordinator.candidates.insert roundId { candidate, finalLabels := [] } })
  drafts   : ∀ host captureId roundId receipt receiptId official candidate timers,
    HighlightCandidate.new host.coordinator.captureSessionId roundId
      ⟨durationMs receipt, durationMs receipt⟩ .officialRoundEndCapture receiptId = .ok official →
    Coordinator.roundCandidate (host.coordinator.candidates.get? roundId) official
      (durationMs receipt) = .ok candidate →
    R host (host.coordinate { host.coordinator with
      timers   := timers
      captures := host.coordinator.captures.insert captureId
        (Coordinator.autoCapture captureId roundId candidate (durationMs receipt)) })
  cancels  : ∀ host id capture reason, host.coordinator.captures.get? id = some capture →
    R host (host.coordinate { host.coordinator with
      captures := host.coordinator.captures.insert id { capture with status := .cancelled reason } })

-- A record is stored, or the store fails.
theorem store_cases (ports : Ports W) (capture : CaptureRecord) (captureId : String)
    (host : Host (Observed W)) :
    (∃ e host', Waits host host' ∧
      Coordinator.store ports.observed capture captureId host = .error e host') ∨
    (∃ host', Waits host host' ∧ Coordinator.store ports.observed capture captureId host =
      .ok () (host'.coordinate { host'.coordinator with
        captures := host'.coordinator.captures.insert captureId capture })) := by
  unfold Coordinator.store
  have hwaits := port_waits (ports.upsertCapture capture) host
  cases hport : port (silent (aside (ports.upsertCapture capture))) host with
  | error e host' =>
    rw [hport] at hwaits
    exact .inl ⟨e, host', hwaits, bind_error hport⟩
  | ok a host' =>
    rw [hport] at hwaits
    exact .inr ⟨host', hwaits, bind_ok hport⟩

theorem Within.self {R : Host W → Host W → Prop} [Std.Refl R] : Within R (Live.self : Method W _) :=
  fun host => Std.Refl.refl host

namespace Allows

variable {R : Host (Observed W) → Host (Observed W) → Prop} {ports : Ports W}

theorem waiting (hR : Allows R) {x : Method (Observed W) α} (h : Within Waits x) : Within R x :=
  h.mono hR.waits

variable [Std.Refl R] [IsTrans (Host (Observed W)) R]

omit [Std.Refl R] in
theorem port_bind (hR : Allows R) (f : W → Except LiveDiagnostic α × W)
    {k : α → Method (Observed W) β} {host : Host (Observed W)}
    (hk : ∀ a host', Waits host host' → R host' (k a host').state) :
    R host ((port (silent (aside f)) >>= k) host).state :=
  Within.bind_at (hR.waits _ _ (port_waits f host)) fun a host' h =>
    hk a host' ((port_waits f).ok h)

theorem createCandidate (hR : Allows R) (receipt : EvidenceReceipt) (receiptId : String)
    (kills : Int) :
    Within R (Coordinator.createCandidate ports.observed receipt receiptId kills) := by
  unfold Coordinator.createCandidate
  split
  case h_2 => exact Within.pure
  case h_1 mapHash round contextRoundKills _ _ _ =>
    refine Within.ite (fun _ => Within.pure) fun _ => ?_
    split
    case h_1 => exact Within.pure
    case h_2 trigger _ =>
      intro host
      rw [bind_ok self_apply]
      dsimp only
      split
      case isTrue => exact Within.pure host
      case isFalse =>
        cases hcandidate : HighlightCandidate.new host.coordinator.captureSessionId
            (roundId mapHash round) ⟨durationMs receipt, durationMs receipt⟩ trigger receiptId
        case error => exact Within.throw host
        case ok candidate =>
          apply hR.port_bind
          intro _ host' h
          simp only [Host.coordinator, ← h.runtime] at hcandidate
          exact hR.proposes host' _ _ _ _ _ hcandidate

theorem scheduleCapture (hR : Allows R) {captureId roundId receiptId : String}
    {receipt : EvidenceReceipt} {official candidate : HighlightCandidate} (timer : TimerId)
    (deadlineMs : Nat) {host : Host (Observed W)}
    (hofficial : HighlightCandidate.new host.coordinator.captureSessionId roundId
      ⟨durationMs receipt, durationMs receipt⟩ .officialRoundEndCapture receiptId = .ok official)
    (hcandidate : Coordinator.roundCandidate (host.coordinator.candidates.get? roundId) official
      (durationMs receipt) = .ok candidate) :
    R host (Coordinator.scheduleCapture ports.observed
      (Coordinator.autoCapture captureId roundId candidate (durationMs receipt)) timer deadlineMs
        host).state := by
  unfold Coordinator.scheduleCapture
  apply hR.port_bind
  intro _ host₁ h₁
  have hattempt := attempt_waits (ports.upsertCapture
    (Coordinator.autoCapture captureId roundId candidate (durationMs receipt))) host₁
  apply Within.bind_at (hR.waits _ _ hattempt)
  intro result host₂ hresult
  have h₂ : Waits host₁ host₂ := Within.ok (attempt_waits _) hresult
  cases result
  case error e =>
    exact Within.bind (hR.waiting (attempt_waits _)) (fun _ => Within.throw) host₂
  case ok =>
    simp only [Host.coordinator, ← h₁.runtime, ← h₂.runtime] at hofficial hcandidate
    exact hR.drafts host₂ _ _ _ _ _ _ _ hofficial hcandidate

theorem scheduleRoundCapture (hR : Allows R) (receipt : EvidenceReceipt) (receiptId : String)
    (completedRound : Nat) :
    Within R (Coordinator.scheduleRoundCapture ports.observed receipt receiptId completedRound) := by
  unfold Coordinator.scheduleRoundCapture
  split
  case h_2 => exact Within.pure
  case h_1 mapHash _ _ _ =>
    intro host
    rw [bind_ok self_apply]
    dsimp only
    split
    case isTrue => exact Within.pure host
    case isFalse =>
      cases hofficial : HighlightCandidate.new host.coordinator.captureSessionId
          (roundId mapHash completedRound) ⟨durationMs receipt, durationMs receipt⟩
          .officialRoundEndCapture receiptId
      case error => exact Within.throw host
      case ok official =>
        dsimp only
        cases hcandidate : Coordinator.roundCandidate
            (host.coordinator.candidates.get? (roundId mapHash completedRound)) official
            (durationMs receipt)
        case error => exact Within.throw host
        case ok => exact hR.scheduleCapture _ _ hofficial hcandidate

omit [Std.Refl R] in
theorem store_cancelled (ports : Ports W) (hR : Allows R) {id : String} {capture : CaptureRecord}
    (reason : CancelReason) {host : Host (Observed W)}
    (h : host.coordinator.captures.get? id = some capture) :
    R host (Coordinator.store ports.observed { capture with status := .cancelled reason } id
      host).state := by
  apply hR.port_bind
  intro _ host' hwaits
  simp only [Host.coordinator, ← hwaits.runtime] at h
  exact hR.cancels host' _ _ reason h

theorem cancelCapture (hR : Allows R) (reason : CancelReason) (id : String) :
    Within R (Coordinator.cancelCapture ports.observed reason id) := by
  intro host
  unfold Coordinator.cancelCapture
  rw [bind_ok self_apply]
  cases hcapture : host.coordinator.captures.get? id
  case none => exact Within.throw host
  case some capture =>
    dsimp only
    cases htimer : capture.timer
    case none =>
      have hstore := hR.store_cancelled ports reason hcapture
      rwa [htimer] at hstore
    case some timer =>
      apply hR.port_bind
      intro _ host' hwaits
      simp only [Host.coordinator, ← hwaits.runtime] at hcapture
      have hstore := hR.store_cancelled ports reason hcapture
      rwa [htimer] at hstore

theorem cancelUnsaved (hR : Allows R) (reason : CancelReason) :
    Within R (Coordinator.cancelUnsaved ports.observed reason) := by
  refine Within.bind Within.self fun _ => (hR.waiting (reading_waits _)).bind fun _ => ?_
  exact (Within.forM (hR.cancelCapture reason) _).bind fun _ => Within.pure

theorem ingestFact (hR : Allows R) (receipt : EvidenceReceipt) (receiptId : String)
    (outcome : IngestOutcome) (fact : Gsi.TransitionFact) :
    Within R (Coordinator.ingestFact ports.observed receipt receiptId outcome fact) := by
  cases fact
  case roundKillDelta =>
    refine Within.ite (fun _ => ?_) fun _ => Within.pure
    exact (hR.createCandidate receipt receiptId _).bind fun _ => Within.pure
  case roundEnd => exact (hR.scheduleRoundCapture receipt receiptId _).bind fun _ => Within.pure
  all_goals exact Within.pure

-- The recorder has no part in the ingestion of a receipt.
theorem ingest (hR : Allows R) (receipt : EvidenceReceipt) :
    Within R (Coordinator.ingest ports.observed receipt) := by
  have hfacts : ∀ outcome, Within R (do
      let outcome ←
        receipt.facts.foldlM (Coordinator.ingestFact ports.observed receipt (receiptId receipt)) outcome
      update fun c => { c with processedReceipts := receiptId receipt :: c.processedReceipts }
      pure outcome) := by
    intro outcome
    refine (Within.foldlM (hR.ingestFact receipt _) _ _).bind fun _ => ?_
    exact (update_within fun host => hR.marks host _).bind fun _ => Within.pure
  refine (hR.waiting (port_waits _)).bind fun _ => Within.bind Within.self fun c =>
    Within.ite (fun _ => Within.pure) fun _ => ?_
  dsimp only
  cases receipt.output
  case stale => exact (hR.cancelUnsaved .stale).bind fun _ => hfacts _
  case sessionReset => exact (hR.cancelUnsaved .sessionReset).bind fun _ => hfacts _
  all_goals exact Within.bind Within.pure fun _ => hfacts _

end Allows

end Live
