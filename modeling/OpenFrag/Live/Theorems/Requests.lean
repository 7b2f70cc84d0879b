import OpenFrag.Live.Requests
import OpenFrag.Live.Theorems.HashMap
import OpenFrag.Live.Theorems.Recorder

open Capture (SaveRequestOutcome)
open Domain (HighlightCandidate)
open EStateM
open Gsi (EvidenceReceipt)
open MachineInt (saturatingAdd)

namespace Live

variable {W α : Type} {ports : Ports W}

section

theorem port_keeps (f : W → Except LiveDiagnostic α × W) : Keeps Host.runtime (port f) := by
  intro host
  rcases h : f host.world with ⟨e | a, w⟩ <;> simp [port, h]

theorem attempt_keeps (f : W → Except LiveDiagnostic α × W) : Keeps Host.runtime (attempt f) :=
  fun _ => rfl

theorem reading_keeps (f : W → α × W) : Keeps Host.runtime (reading f) :=
  fun _ => rfl

theorem availableFrom_keeps : Keeps Host.runtime (RecorderFacade.availableFrom (W := W)) :=
  fun _ => rfl

theorem self_keeps : Keeps Host.runtime (self (W := W)) :=
  fun _ => rfl

theorem Keeps.coordinator {x : Method W α} (h : Keeps Host.runtime x) : Keeps Host.coordinator x :=
  h.mono fun _ _ heq => congrArg LiveRuntime.coordinator heq

end

theorem port_ok {f : W → Except LiveDiagnostic α × W} {host : Host W} {a : α} {w : W}
    (h : f host.world = (.ok a, w)) : port f host = .ok a { host with world := w } := by
  simp [port, h]

theorem port_error {f : W → Except LiveDiagnostic α × W} {host : Host W} {e : LiveDiagnostic} {w : W}
    (h : f host.world = (.error e, w)) : port f host = .error e { host with world := w } := by
  simp [port, h]

namespace Coordinator

-- A record is stored, or the store fails, by its answer.
theorem store_state (ports : Ports W) (capture : CaptureRecord) (captureId : String) (host : Host W) :
    (store ports capture captureId host).state.coordinator =
      if (ports.upsertCapture capture host.world).1.isOk then
        { host.coordinator with captures := host.coordinator.captures.insert captureId capture }
      else
        host.coordinator := by
  unfold store
  rcases h : ports.upsertCapture capture host.world with ⟨e | _, w⟩
  · rw [bind_error (port_error h)]
    rfl
  · rw [bind_ok (port_ok h)]
    rfl

theorem store_result (ports : Ports W) (capture : CaptureRecord) (captureId : String) (host : Host W) :
    (∃ e host', store ports capture captureId host = .error e host' ∧
      host'.coordinator = host.coordinator) ∨
    (∃ host', store ports capture captureId host = .ok () host' ∧
      host'.coordinator = { host.coordinator with
        captures := host.coordinator.captures.insert captureId capture }) := by
  unfold store
  rcases h : ports.upsertCapture capture host.world with ⟨e | _, w⟩
  · rw [bind_error (port_error h)]
    exact .inl ⟨e, _, rfl, rfl⟩
  · rw [bind_ok (port_ok h)]
    exact .inr ⟨_, rfl, rfl⟩

theorem requestCaptureSave_eq (captureId : String) :
    requestCaptureSave ports captureId = askRecorder ports captureId >>= keepAnswer ports captureId := by
  unfold requestCaptureSave askRecorder
  rw [bind_assoc]
  congr
  funext c
  cases c.captures.get? captureId
  case none => rfl
  case some capture =>
    dsimp only
    rw [bind_assoc]
    congr
    funext nowMs
    rw [bind_assoc]
    congr
    funext availableFromMs
    cases covered capture nowMs availableFromMs
    case error => rfl
    case ok capture =>
      dsimp only
      rw [bind_assoc]
      congr
      funext answer
      cases answer <;> rfl

-- The rest of a call, after what it does before a request.
def afterwards (ports : Ports W) : EStateM.Result LiveDiagnostic (Host W) (Option String) → Host W
  | .ok (some captureId) host => (requestCaptureSave ports captureId host).state
  | .ok none host             => host
  | .error _ host             => host

theorem reading_apply (f : W → α × W) (host : Host W) :
    reading f host = .ok (f host.world).1 { host with world := (f host.world).2 } :=
  rfl

theorem onTimer_state (timer : TimerId) (host : Host W) :
    (onTimer ports timer host).state = afterwards ports (dueCapture ports timer host) := by
  unfold onTimer dueCapture
  rw [bind_ok self_apply, bind_ok self_apply]
  cases host.coordinator.timers.get? timer.value
  case none => rfl
  case some captureId =>
    dsimp only
    rw [bind_ok self_apply, bind_ok self_apply]
    cases host.coordinator.captures.get? captureId
    case none => rfl
    case some capture =>
      dsimp only
      cases capture.deadlineMs
      case none => rfl
      case some deadlineMs =>
        dsimp only
        rw [bind_ok (reading_apply _ host), bind_ok (reading_apply _ host)]
        by_cases hnow : (ports.nowMs host.world).1 < deadlineMs
        case pos => simp only [hnow]; rfl
        case neg =>
          by_cases hstatus : capture.status = .scheduled
          case pos => simp only [hnow, hstatus]; rfl
          case neg =>
            rw [if_neg hnow, if_neg hnow, if_pos hstatus, if_pos hstatus]
            rfl

theorem retryCapture_state (captureId : String) (host : Host W) :
    (retryCapture ports captureId host).state =
      afterwards ports (retryableCapture captureId host) := by
  unfold retryCapture retryableCapture
  rw [bind_ok self_apply, bind_ok self_apply]
  cases host.coordinator.captures.get? captureId
  case none => rfl
  case some capture =>
    dsimp only
    cases capture.status <;> rfl

-- The record of a flag, and its state.
def flagId (ports : Ports W) (host : Host W) : String :=
  s!"manual:{(ports.nowMs host.world).1}:{saturatingAdd 64 host.coordinator.manualOrdinal 1}"

def flagRecord (ports : Ports W) (host : Host W) : CaptureRecord :=
  manualCapture (flagId ports host) (ports.nowMs host.world).1 host.runtime.recorder.availableFromMs

def flagHost (ports : Ports W) (host : Host W) : Host W where
  runtime := { host.runtime with
    coordinator := { host.coordinator with
      manualOrdinal := saturatingAdd 64 host.coordinator.manualOrdinal 1 } }
  world   := (ports.nowMs host.world).2

theorem flaggedCapture_apply (host : Host W) :
    flaggedCapture ports host =
      (store ports (flagRecord ports host) (flagId ports host) >>= fun _ =>
        pure (some (flagId ports host))) (flagHost ports host) :=
  rfl

theorem manualFlag_apply (host : Host W) :
    manualFlag ports host =
      (store ports (flagRecord ports host) (flagId ports host) >>= fun _ =>
        requestCaptureSave ports (flagId ports host) >>= fun _ =>
          pure (flagId ports host)) (flagHost ports host) :=
  rfl

theorem manualFlag_state (host : Host W) :
    (manualFlag ports host).state = afterwards ports (flaggedCapture ports host) := by
  rw [manualFlag_apply, flaggedCapture_apply]
  cases hstore : store ports (flagRecord ports host) (flagId ports host) (flagHost ports host)
  case ok _ host' =>
    rw [bind_ok hstore, bind_ok hstore, state_bind_pure (f := fun _ => flagId ports host)]
    rfl
  case error => rw [bind_error hstore, bind_error hstore]; rfl

end Coordinator

-- What is requested of the recorder, and what becomes of the records then.
inductive Settles (c : Coordinator) (captureId : String) : Option Request → Coordinator → Prop
  | unasked : Settles c captureId none c
  | stored (capture : CaptureRecord) (answer : Except Capture.Error (SaveRequestOutcome String))
      (captures : HashMap CaptureRecord) (h : captures = c.captures.insert captureId
        { capture with status := Coordinator.answeredStatus answer }) :
    Settles c captureId (some ⟨captureId, answer, true⟩) { c with captures := captures }
  | lost (answer : Except Capture.Error (SaveRequestOutcome String)) :
    Settles c captureId (some ⟨captureId, answer, false⟩) c

namespace Coordinator

theorem requestSave_keeps (captureId : String) (provenance : Capture.SaveProvenance) :
    Keeps Host.coordinator (RecorderFacade.requestSave ports captureId provenance) := by
  intro host
  rw [RecorderFacade.requestSave_apply]
  rfl

theorem askRecorder_keeps (ports : Ports W) (captureId : String) :
    Keeps Host.coordinator (askRecorder ports captureId) := by
  refine Within.bind (Keeps.coordinator self_keeps) fun c => ?_
  cases c.captures.get? captureId
  case none => exact Within.throw
  case some capture =>
    refine Within.bind (Keeps.coordinator (reading_keeps _)) fun nowMs => ?_
    refine Within.bind (Keeps.coordinator availableFrom_keeps) fun availableFromMs => ?_
    cases covered capture nowMs availableFromMs
    case error => exact Within.throw
    case ok    => exact Within.bind (requestSave_keeps _ _) fun _ => Within.pure

theorem keepAnswer_state (captureId : String) (capture : CaptureRecord)
    (answer : Except Capture.Error (SaveRequestOutcome String)) (host : Host W) :
    (keepAnswer ports captureId (capture, answer) host).state =
      (store ports { capture with status := answeredStatus answer } captureId host).state := by
  unfold keepAnswer
  cases hstore : store ports { capture with status := answeredStatus answer } captureId host
  case ok =>
    rw [bind_ok hstore]
    cases answer <;> rfl
  case error => rw [bind_error hstore]; rfl

theorem requestCaptureSave_settles (ports : Ports W) (captureId : String) (host : Host W) :
    Settles host.coordinator captureId (requestAt ports captureId host)
      (requestCaptureSave ports captureId host).state.coordinator := by
  have hkeeps := askRecorder_keeps ports captureId host
  rw [requestCaptureSave_eq]
  unfold requestAt
  cases hask : askRecorder ports captureId host
  case error e host' =>
    rw [hask] at hkeeps
    rw [bind_error hask]
    exact hkeeps ▸ .unasked
  case ok answered host' =>
    obtain ⟨capture, answer⟩ := answered
    rw [hask] at hkeeps
    rw [bind_ok hask, keepAnswer_state, store_state]
    dsimp only
    simp only [Result.state_ok] at hkeeps
    rw [hkeeps]
    cases (ports.upsertCapture { capture with status := answeredStatus answer } host'.world).1.isOk
    case true  => exact .stored capture answer _ rfl
    case false => exact .lost answer

end Coordinator

-- What happens to the captures when the recorder is not asked.
structure Spares (c c' : Coordinator) : Prop where
  ordinal  : c.manualOrdinal ≤ c'.manualOrdinal
  keyed    : c'.captures.Keyed
  captures : ∀ key, c'.captures.get? key = c.captures.get? key ∨
    (c.captures.get? key = none ∧ ∃ roundId : String, key = s!"auto:{roundId}") ∨
    ∃ capture, c.captures.get? key = some capture ∧ Coordinator.unsaved capture

abbrev Sparing (host host' : Host W) : Prop :=
  host.coordinator.captures.Keyed → Spares host.coordinator host'.coordinator

theorem Spares.of_eq {c c' : Coordinator} (hkeyed : c.captures.Keyed)
    (hcaptures : c'.captures = c.captures) (hordinal : c.manualOrdinal ≤ c'.manualOrdinal) :
    Spares c c' where
  ordinal  := hordinal
  keyed    := hcaptures ▸ hkeyed
  captures := fun _ => .inl (by rw [hcaptures])

theorem Spares.trans {c c' c'' : Coordinator} (h : Spares c c') (h' : Spares c' c'') :
    Spares c c'' where
  ordinal  := h.ordinal.trans h'.ordinal
  keyed    := h'.keyed
  captures := fun key => by
    rcases h.captures key with heq | hkey
    · exact heq ▸ h'.captures key
    · exact .inr hkey

-- One capture is written that has been missing, or that has not been saved.
theorem Spares.insert {c c' : Coordinator} {key : String} (h : Spares c c') (capture : CaptureRecord)
    (timers : HashMap String)
    (hkey : (c.captures.get? key = none ∧ ∃ roundId : String, key = s!"auto:{roundId}") ∨
      ∃ capture, c.captures.get? key = some capture ∧ Coordinator.unsaved capture) :
    Spares c { c' with captures := c'.captures.insert key capture, timers := timers } where
  ordinal  := h.ordinal
  keyed    := h.keyed.insert
  captures := fun key' => by
    by_cases heq : key' = key
    · exact .inr (heq ▸ hkey)
    · rw [HashMap.get?_insert_of_ne heq]
      exact h.captures key'

instance : Std.Refl (Sparing (W := W)) where
  refl _ hkeyed := .of_eq hkeyed rfl (Nat.le_refl _)

instance : IsTrans (Host W) Sparing where
  trans _ _ _ h h' hkeyed := (h hkeyed).trans (h' (h hkeyed).keyed)

theorem Sparing.of_keeps {x : Method W α}
    (h : Keeps (fun host => (host.coordinator.captures, host.coordinator.manualOrdinal)) x) :
    Within Sparing x :=
  h.mono fun _ _ heq hkeyed => .of_eq hkeyed (Prod.mk.inj heq).1 (Prod.mk.inj heq).2.ge

theorem Sparing.of_runtime {x : Method W α} (h : Keeps Host.runtime x) : Within Sparing x :=
  .of_keeps (h.mono fun _ _ heq => by simp only [Host.coordinator, heq])

namespace Sparing

open Coordinator

theorem createCandidate (receipt : EvidenceReceipt) (receiptId : String) (kills : Int) :
    Within (Sparing (W := W)) (Coordinator.createCandidate ports receipt receiptId kills) := by
  unfold Coordinator.createCandidate
  split
  case h_2 => exact Within.pure
  case h_1 =>
    refine Within.ite (fun _ => Within.pure) fun _ => ?_
    split
    case h_1 => exact Within.pure
    case h_2 =>
      refine Within.bind (.of_runtime self_keeps) fun c => ?_
      refine Within.ite (fun _ => Within.pure) fun _ => ?_
      dsimp only
      split
      case h_1 => exact Within.throw
      case h_2 =>
        refine Within.bind (.of_runtime (port_keeps _)) fun _ => ?_
        exact Within.bind (.of_keeps fun _ => rfl) fun _ => Within.pure

theorem scheduleCapture {host : Host W} {roundId : String} {capture : CaptureRecord}
    (hid : capture.id = s!"auto:{roundId}")
    (hnew : host.coordinator.captures.get? capture.id = none) (timer : TimerId) (deadlineMs : Nat) :
    Sparing host (Coordinator.scheduleCapture ports capture timer deadlineMs host).state := by
  unfold Coordinator.scheduleCapture
  apply Within.bind_at (Sparing.of_runtime (port_keeps _) host)
  intro _ host₁ h₁
  apply Within.bind_at (Sparing.of_runtime (attempt_keeps _) host₁)
  intro result host₂ h₂
  cases result
  case error e =>
    exact Within.bind (Sparing.of_runtime (attempt_keeps _)) (fun _ => Within.throw) host₂
  case ok =>
    have hruntime : host₂.runtime = host.runtime :=
      ((attempt_keeps _).ok h₂).trans ((port_keeps _).ok h₁)
    have hnew' : host₂.coordinator.captures.get? capture.id = none := by
      simpa only [Host.coordinator, hruntime] using hnew
    intro hkeyed
    have hspares : Spares host₂.coordinator host₂.coordinator :=
      .of_eq hkeyed rfl (Nat.le_refl _)
    exact hspares.insert capture _ (.inl ⟨hnew', roundId, hid⟩)

theorem scheduleRoundCapture (receipt : EvidenceReceipt) (receiptId : String)
    (completedRound : Nat) :
    Within (Sparing (W := W))
      (Coordinator.scheduleRoundCapture ports receipt receiptId completedRound) := by
  unfold Coordinator.scheduleRoundCapture
  split
  case h_2 => exact Within.pure
  case h_1 mapHash _ _ _ =>
    intro host
    rw [bind_ok self_apply]
    dsimp only
    split
    case isTrue => exact Within.pure host
    case isFalse hnew =>
      cases HighlightCandidate.new host.coordinator.captureSessionId (roundId mapHash completedRound)
        ⟨durationMs receipt, durationMs receipt⟩ .officialRoundEndCapture receiptId
      case error => exact Within.throw host
      case ok official =>
        dsimp only
        cases roundCandidate (host.coordinator.candidates.get? (roundId mapHash completedRound))
          official (durationMs receipt)
        case error => exact Within.throw host
        case ok    => exact scheduleCapture rfl (by simpa [HashMap.containsKey, autoCapture] using hnew) _ _

-- The capture that is cancelled has not been saved when the receipt came in.
theorem cancelCapture (reason : CancelReason) {id : String} {start : Coordinator}
    (hid : ∃ capture, start.captures.get? id = some capture ∧ unsaved capture) :
    Preserves (fun host => Spares start host.coordinator)
      (Coordinator.cancelCapture ports reason id) := by
  have hruntime {β : Type} {x : Method W β} (hx : Keeps Host.runtime x) :
      Preserves (fun host => Spares start host.coordinator) x :=
    hx.mono fun _ _ heq h => by simpa only [Host.coordinator, heq] using h
  have hstore : ∀ capture, Preserves (fun host => Spares start host.coordinator)
      (store ports capture id) := by
    intro capture host h
    rw [store_state]
    split
    case isTrue  => exact h.insert capture _ (.inr hid)
    case isFalse => exact h
  refine Within.bind (hruntime self_keeps) fun c => ?_
  cases c.captures.get? id
  case none => exact Within.throw
  case some capture =>
    dsimp only
    cases capture.timer
    case none       => exact hstore _
    case some timer => exact Within.bind (hruntime (port_keeps _)) fun _ => hstore _

theorem cancelUnsaved (reason : CancelReason) :
    Within (Sparing (W := W)) (Coordinator.cancelUnsaved ports reason) := by
  intro host hkeyed
  unfold Coordinator.cancelUnsaved
  rw [bind_ok self_apply, bind_ok (reading_apply _ host), state_bind_pure]
  have hloop (p : String × CaptureRecord → Bool) (hp : ∀ entry, p entry = unsaved entry.2)
      (order : String → String → Bool) :
      Preserves (fun host' => Spares host.coordinator host'.coordinator)
        ((((host.coordinator.captures.filter p).map Prod.fst).mergeSort order).forM
          (Coordinator.cancelCapture ports reason)) := by
    refine Within.forM_mem fun id hid => cancelCapture reason ?_
    rw [List.mem_mergeSort, List.mem_map] at hid
    obtain ⟨⟨_, capture⟩, hmem, rfl⟩ := hid
    obtain ⟨hmem, hunsaved⟩ := List.mem_filter.mp hmem
    exact ⟨capture, hkeyed.get?_of_mem hmem, (hp _).symm.trans hunsaved⟩
  exact hloop _ (fun _ => rfl) _ _ (.of_eq hkeyed rfl (Nat.le_refl _))

theorem ingestFact (receipt : EvidenceReceipt) (receiptId : String) (outcome : IngestOutcome)
    (fact : Gsi.TransitionFact) :
    Within (Sparing (W := W)) (Coordinator.ingestFact ports receipt receiptId outcome fact) := by
  cases fact
  case roundKillDelta =>
    refine Within.ite (fun _ => ?_) fun _ => Within.pure
    exact Within.bind (createCandidate receipt receiptId _) fun _ => Within.pure
  case roundEnd =>
    exact Within.bind (scheduleRoundCapture receipt receiptId _) fun _ => Within.pure
  all_goals exact Within.pure

theorem ingest (receipt : EvidenceReceipt) :
    Within (Sparing (W := W)) (Coordinator.ingest ports receipt) := by
  have hfacts : ∀ outcome, Within (Sparing (W := W)) (do
      let outcome ←
        receipt.facts.foldlM (Coordinator.ingestFact ports receipt (receiptId receipt)) outcome
      update fun c => { c with processedReceipts := receiptId receipt :: c.processedReceipts }
      pure outcome) := by
    intro outcome
    refine Within.bind (Within.foldlM (ingestFact receipt _) _ _) fun _ => ?_
    exact Within.bind (.of_keeps fun _ => rfl) fun _ => Within.pure
  refine Within.bind (.of_runtime (port_keeps _)) fun _ => ?_
  refine Within.bind (.of_runtime self_keeps) fun c => ?_
  refine Within.ite (fun _ => Within.pure) fun _ => ?_
  dsimp only
  cases receipt.output
  case stale        => exact Within.bind (cancelUnsaved .stale) fun _ => hfacts _
  case sessionReset => exact Within.bind (cancelUnsaved .sessionReset) fun _ => hfacts _
  all_goals exact Within.bind Within.pure fun _ => hfacts _

end Sparing

-- The numbered identities of flags.
def manualId (nowMs ordinal : Nat) : String :=
  s!"manual:{nowMs}:{ordinal}"

theorem manualId_injective {nowMs nowMs' ordinal ordinal' : Nat}
    (h : manualId nowMs ordinal = manualId nowMs' ordinal') : ordinal = ordinal' := by
  have hlist {nowMs ordinal : Nat} : (manualId nowMs ordinal).toList =
      ("manual:".toList ++ (Nat.repr nowMs).toList) ++ ':' :: (Nat.repr ordinal).toList := by
    simp [manualId, toString]
  have h := congrArg String.toList h
  rw [hlist, hlist] at h
  exact Decimal.repr_suffix_injective rfl rfl h

theorem manualId_ne_auto {nowMs ordinal : Nat} {roundId : String} :
    manualId nowMs ordinal ≠ s!"auto:{roundId}" := by
  intro h
  have h := congrArg (fun s => s.toList.head?) h
  simp [manualId, toString] at h

-- What a call does before it asks the recorder.
inductive Prepares (c : Coordinator) : String → Coordinator → Prop
  | pending {captureId : String} (capture : CaptureRecord)
      (hcapture : c.captures.get? captureId = some capture)
      (hstatus : ∀ outcome, capture.status ≠ .saveRequested outcome) :
    Prepares c captureId c
  | flagged (nowMs : Nat) (record : CaptureRecord) :
    Prepares c (manualId nowMs (c.manualOrdinal + 1)) { c with
      manualOrdinal := c.manualOrdinal + 1
      captures      := c.captures.insert (manualId nowMs (c.manualOrdinal + 1)) record }

-- What a call makes of the records of the captures.
inductive Moves (c : Coordinator) : Option Request → Coordinator → Prop
  | spared {c' : Coordinator} (h : c.captures.Keyed → Spares c c') : Moves c none c'
  | asked {captureId : String} {c' c'' : Coordinator} {request : Option Request}
      (hprepares : Prepares c captureId c') (hsettles : Settles c' captureId request c'') :
    Moves c request c''

namespace Moves

open Coordinator

variable {call : Call × W} {host : Host W}

theorem idle (host : Host W) {x : Method W Reply} (h : Within Sparing x) :
    Moves host.coordinator none (x host).state.coordinator :=
  .spared (h host)

-- A call that first looks at the capture, and asks for it if it has not been saved.
theorem of_pending (ports : Ports W) (host : Host W) {x : Method W (Option String)} (hx : Keeps Host.runtime x)
    (hpending : ∀ captureId host', x host = .ok (some captureId) host' → ∃ capture,
      host.coordinator.captures.get? captureId = some capture ∧
        ∀ outcome, capture.status ≠ .saveRequested outcome) :
    Moves host.coordinator
      (requestFrom ports (x host))
      (afterwards ports (x host)).coordinator := by
  have hruntime := hx host
  cases hresult : x host
  case error e host' =>
    rw [hresult] at hruntime
    exact .spared fun hkeyed => .of_eq hkeyed (by simp only [afterwards, Host.coordinator, ← hruntime,
      Result.state_error]) (by simp [afterwards, Host.coordinator, ← hruntime])
  case ok captureId? host' =>
    rw [hresult] at hruntime
    simp only [Result.state_ok] at hruntime
    cases captureId?
    case none =>
      exact .spared fun hkeyed => .of_eq hkeyed (by simp [afterwards, Host.coordinator, hruntime])
        (by simp [afterwards, Host.coordinator, hruntime])
    case some captureId =>
      obtain ⟨capture, hcapture, hstatus⟩ := hpending captureId host' hresult
      have hsettles := requestCaptureSave_settles ports captureId host'
      rw [Host.coordinator, hruntime] at hsettles
      exact .asked (.pending capture hcapture hstatus) hsettles

theorem dueCapture_keeps (ports : Ports W) (timer : TimerId) : Keeps Host.runtime (dueCapture ports timer) := by
  refine Within.bind self_keeps fun c => ?_
  cases c.timers.get? timer.value
  case none => exact Within.throw
  case some captureId =>
    refine Within.bind self_keeps fun c => ?_
    cases c.captures.get? captureId
    case none => exact Within.throw
    case some capture =>
      dsimp only
      cases capture.deadlineMs
      case none => exact Within.pure
      case some =>
        refine Within.bind (reading_keeps _) fun _ => Within.ite (fun _ => Within.pure) fun _ => ?_
        exact Within.ite (fun _ => Within.pure) fun _ => Within.pure

theorem dueCapture_pending (ports : Ports W) (timer : TimerId) (captureId : String) (host' : Host W)
    (h : dueCapture ports timer host = .ok (some captureId) host') : ∃ capture,
      host.coordinator.captures.get? captureId = some capture ∧
        ∀ outcome, capture.status ≠ .saveRequested outcome := by
  unfold dueCapture at h
  rw [bind_ok self_apply] at h
  cases htimer : host.coordinator.timers.get? timer.value
  case none =>
    rw [htimer] at h
    cases h
  case some id =>
    rw [htimer] at h
    dsimp only at h
    rw [bind_ok self_apply] at h
    cases hcapture : host.coordinator.captures.get? id
    case none =>
      rw [hcapture] at h
      cases h
    case some capture =>
      rw [hcapture] at h
      dsimp only at h
      cases hdeadline : capture.deadlineMs
      case none =>
        rw [hdeadline] at h
        cases h
      case some =>
        rw [hdeadline] at h
        dsimp only at h
        rw [bind_ok (reading_apply _ host)] at h
        by_cases hstatus : capture.status = .scheduled
        case neg =>
          simp only [hstatus, ne_eq, not_false_eq_true, if_true, ite_self] at h
          cases h
        case pos =>
          split at h
          case isTrue => cases h
          case isFalse =>
            rw [if_neg (not_not.mpr hstatus)] at h
            cases h
            exact ⟨capture, hcapture, by simp [hstatus]⟩

theorem retryableCapture_keeps (captureId : String) :
    Keeps Host.runtime (retryableCapture (W := W) captureId) := by
  refine Within.bind self_keeps fun c => ?_
  cases c.captures.get? captureId
  case none => exact Within.throw
  case some capture =>
    dsimp only
    cases capture.status <;> exact Within.pure

theorem retryableCapture_pending (captureId id : String) (host' : Host W)
    (h : retryableCapture captureId host = .ok (some id) host') : ∃ capture,
      host.coordinator.captures.get? id = some capture ∧
        ∀ outcome, capture.status ≠ .saveRequested outcome := by
  unfold retryableCapture at h
  rw [bind_ok self_apply] at h
  cases hcapture : host.coordinator.captures.get? captureId
  case none =>
    rw [hcapture] at h
    cases h
  case some capture =>
    rw [hcapture] at h
    dsimp only at h
    cases hstatus : capture.status <;> rw [hstatus] at h <;> cases h
    exact ⟨capture, hcapture, by simp [hstatus]⟩

theorem flagged (ports : Ports W) (host : Host W)
    (hordinal : host.coordinator.manualOrdinal + 1 < 2 ^ 64) :
    Moves host.coordinator
      (requestFrom ports (flaggedCapture ports host))
      (afterwards ports (flaggedCapture ports host)).coordinator := by
  have hnext : saturatingAdd 64 host.coordinator.manualOrdinal 1 =
      host.coordinator.manualOrdinal + 1 := by
    simp only [saturatingAdd]
    omega
  have hflag : (flagHost ports host).coordinator = { host.coordinator with
      manualOrdinal := host.coordinator.manualOrdinal + 1 } := by
    simp only [Host.coordinator, flagHost, hnext]
  have hid : flagId ports host =
      manualId (ports.nowMs host.world).1 (host.coordinator.manualOrdinal + 1) := by
    simp only [flagId, manualId, hnext]
  rw [flaggedCapture_apply]
  rcases store_result ports (flagRecord ports host) (flagId ports host)
    (flagHost ports host) with ⟨e, host', hstore, hcoordinator⟩ | ⟨host', hstore, hcoordinator⟩
  · rw [bind_error hstore]
    rw [hflag] at hcoordinator
    simp only [afterwards, hcoordinator]
    exact .spared fun hkeyed => .of_eq hkeyed rfl (Nat.le_succ _)
  · rw [bind_ok hstore]
    have hsettles := requestCaptureSave_settles ports (flagId ports host) host'
    rw [hcoordinator, hflag, hid] at hsettles
    rw [hid]
    exact .asked (.flagged _ (flagRecord ports host)) hsettles

theorem withCapture_keeps (x : Capture.Method String W α) :
    Keeps Host.coordinator (LiveRuntime.withCapture x) := by
  intro host
  rw [withCapture_state]
  rfl

theorem finalizeDiscoveredSave_keeps :
    Keeps Host.coordinator (LiveRuntime.finalizeDiscoveredSave ports) := by
  refine Within.bind Within.get fun host => Within.ite (fun _ => Within.pure) fun _ => ?_
  refine Within.bind (withCapture_keeps _) fun acknowledgement => ?_
  cases acknowledgement
  case none => exact Within.pure
  case some => exact Within.bind (Keeps.coordinator (port_keeps _)) fun _ => Within.pure

theorem sparing_of_coordinator {x : Method W α} (h : Keeps Host.coordinator x) : Within Sparing x :=
  .of_keeps (h.mono fun _ _ heq => by simp only [heq])

-- Every call of the runtime makes one of the moves.
theorem served (call : Call × W) (runtime : LiveRuntime)
    (hordinal : call.1 = .manualFlag → runtime.coordinator.manualOrdinal + 1 < 2 ^ 64) :
    Moves runtime.coordinator (requestOf ports call runtime)
      (served ports call runtime).2.coordinator := by
  obtain ⟨call, w⟩ := call
  cases call
  case ingestReceipt receipt =>
    exact idle ⟨runtime, w⟩ (Within.bind (Sparing.ingest receipt) fun _ => Within.pure)
  case dispatchTimer timer =>
    have hmoves := of_pending ports ⟨runtime, w⟩ (dueCapture_keeps ports timer)
      (dueCapture_pending ports timer)
    rw [← onTimer_state] at hmoves
    simp only [Live.served, perform, state_bind_pure]
    exact hmoves
  case retryCapture captureId =>
    have hmoves := of_pending ports ⟨runtime, w⟩ (retryableCapture_keeps captureId)
      (retryableCapture_pending captureId)
    rw [← retryCapture_state] at hmoves
    simp only [Live.served, perform, state_bind_pure]
    exact hmoves
  case manualFlag =>
    have hmoves := flagged ports ⟨runtime, w⟩ (hordinal rfl)
    rw [← manualFlag_state] at hmoves
    simp only [Live.served, perform, state_bind_pure]
    exact hmoves
  case pollCapture =>
    exact idle ⟨runtime, w⟩ (Within.bind (sparing_of_coordinator (withCapture_keeps _))
      fun _ => Within.pure)
  case discoverSave =>
    exact idle ⟨runtime, w⟩ (Within.bind (sparing_of_coordinator (withCapture_keeps _))
      fun _ => Within.pure)
  case finalizeDiscoveredSave =>
    exact idle ⟨runtime, w⟩
      (Within.bind (sparing_of_coordinator finalizeDiscoveredSave_keeps) fun _ => Within.pure)
  case shutdownCapture =>
    exact idle ⟨runtime, w⟩ (Within.bind (sparing_of_coordinator (withCapture_keeps _))
      fun _ => Within.pure)

end Moves

def Named (c : Coordinator) (key : String) : Prop :=
  (∃ roundId : String, key = s!"auto:{roundId}") ∨
    ∃ nowMs ordinal, ordinal ≤ c.manualOrdinal ∧ key = manualId nowMs ordinal

theorem Named.mono {c c' : Coordinator} {key : String} (h : Named c key)
    (hordinal : c.manualOrdinal ≤ c'.manualOrdinal) : Named c' key :=
  h.imp_right fun ⟨nowMs, ordinal, hle, heq⟩ => ⟨nowMs, ordinal, hle.trans hordinal, heq⟩

-- The next flag has an identity of its own.
theorem Named.ne_next {c : Coordinator} {key : String} (h : Named c key) (nowMs : Nat) :
    key ≠ manualId nowMs (c.manualOrdinal + 1) := by
  rcases h with ⟨roundId, rfl⟩ | ⟨nowMs', ordinal, hle, rfl⟩
  · exact manualId_ne_auto.symm
  · intro heq
    have := manualId_injective heq
    omega

-- The requests and the records of the captures agree.
structure Agrees (requests : List Request) (runtime : LiveRuntime) : Prop where
  savedOnce : SavedOnce requests runtime
  keyed     : runtime.coordinator.captures.Keyed
  named     : ∀ key capture, runtime.coordinator.captures.get? key = some capture →
    Named runtime.coordinator key

namespace Agrees

variable {requests : List Request} {runtime runtime' : LiveRuntime} {captureId : String}

-- No accepted save belongs to the capture.
def Unaccepted (requests : List Request) (captureId : String) : Prop :=
  ∀ request ∈ requests, request.accepted.isSome → captureId ≠ request.captureId

theorem unaccepted (h : Agrees requests runtime)
    (hcapture : ∀ capture outcome, runtime.coordinator.captures.get? captureId = some capture →
      capture.status ≠ .saveRequested outcome) : Unaccepted requests captureId := by
  rintro request hmem haccepted rfl
  obtain ⟨outcome, houtcome⟩ := Option.isSome_iff_exists.mp haccepted
  obtain ⟨capture, hget, hstatus⟩ := h.savedOnce.kept request hmem outcome houtcome
  exact hcapture capture outcome hget hstatus

theorem spared (h : Agrees requests runtime)
    (hspares : Spares runtime.coordinator runtime'.coordinator) : Agrees requests runtime' where
  savedOnce := {
    once := h.savedOnce.once
    kept := by
      intro request hmem outcome houtcome
      obtain ⟨capture, hget, hstatus⟩ := h.savedOnce.kept request hmem outcome houtcome
      rcases hspares.captures request.captureId with heq | ⟨hnone, _⟩ | ⟨other, hother, hunsaved⟩
      · exact ⟨capture, heq.trans hget, hstatus⟩
      · simp [hget] at hnone
      · obtain rfl := Option.some.inj (hget.symm.trans hother)
        simp [Coordinator.unsaved, hstatus] at hunsaved }
  keyed     := hspares.keyed
  named     := by
    intro key capture hget
    rcases hspares.captures key with heq | ⟨_, hauto⟩ | ⟨other, hother, _⟩
    · exact (h.named key capture (heq.symm.trans hget)).mono hspares.ordinal
    · exact .inl hauto
    · exact (h.named key other hother).mono hspares.ordinal

-- A record is written of a capture without an accepted save.
theorem insert (h : Agrees requests runtime) (hunaccepted : Unaccepted requests captureId)
    {record : CaptureRecord} {ordinal : Nat}
    (hordinal : runtime.coordinator.manualOrdinal ≤ ordinal)
    (hruntime : runtime'.coordinator = { runtime.coordinator with
      manualOrdinal := ordinal
      captures      := runtime.coordinator.captures.insert captureId record })
    (hnamed : Named runtime'.coordinator captureId) : Agrees requests runtime' where
  savedOnce := {
    once := h.savedOnce.once
    kept := by
      intro request hmem outcome houtcome
      have hne : request.captureId ≠ captureId :=
        (hunaccepted request hmem (Option.isSome_iff_exists.mpr ⟨outcome, houtcome⟩)).symm
      obtain ⟨capture, hget, hstatus⟩ := h.savedOnce.kept request hmem outcome houtcome
      exact ⟨capture, by rw [hruntime, HashMap.get?_insert_of_ne hne, hget], hstatus⟩ }
  keyed     := by
    rw [hruntime]
    exact h.keyed.insert
  named     := by
    intro key capture hget
    by_cases hkey : key = captureId
    · exact hkey ▸ hnamed
    · rw [hruntime, HashMap.get?_insert_of_ne hkey] at hget
      refine (h.named key capture hget).mono ?_
      rw [hruntime]
      exact hordinal

-- The answer to a request is known of a capture without an accepted save.
theorem answered (h : Agrees requests runtime) {request : Request}
    (hunaccepted : Unaccepted requests request.captureId)
    (hkept : ∀ outcome ∈ request.accepted, ∃ capture,
      runtime.coordinator.captures.get? request.captureId = some capture ∧
        capture.status = .saveRequested outcome) : Agrees (requests ++ [request]) runtime where
  savedOnce := {
    once := by
      refine List.pairwise_append.mpr ⟨h.savedOnce.once, List.pairwise_singleton _ _, ?_⟩
      intro earlier hmem later hlater
      obtain rfl := List.mem_singleton.mp hlater
      exact hunaccepted earlier hmem
    kept := by
      intro other hmem
      rcases List.mem_append.mp hmem with hmem | hmem
      · exact h.savedOnce.kept other hmem
      · obtain rfl := List.mem_singleton.mp hmem
        exact hkept }
  keyed     := h.keyed
  named     := h.named

theorem unaccepted_next (h : Agrees requests runtime) (nowMs : Nat) :
    Unaccepted requests (manualId nowMs (runtime.coordinator.manualOrdinal + 1)) := by
  intro request hmem haccepted
  obtain ⟨outcome, houtcome⟩ := Option.isSome_iff_exists.mp haccepted
  obtain ⟨capture, hget, _⟩ := h.savedOnce.kept request hmem outcome houtcome
  exact ((h.named _ capture hget).ne_next nowMs).symm

theorem prepared (h : Agrees requests runtime) {c : Coordinator}
    (hprepares : Prepares runtime.coordinator captureId c) (hruntime : runtime'.coordinator = c) :
    Agrees requests runtime' ∧ Unaccepted requests captureId ∧
      Named runtime'.coordinator captureId := by
  cases hprepares with
  | pending capture hcapture hstatus =>
    refine ⟨h.spared ?_, h.unaccepted ?_, ?_⟩
    · rw [hruntime]
      exact .of_eq h.keyed rfl (Nat.le_refl _)
    · intro other outcome hother
      obtain rfl := Option.some.inj (hcapture.symm.trans hother)
      exact hstatus outcome
    · rw [hruntime]
      exact h.named captureId capture hcapture
  | flagged nowMs record =>
    have hnamed : Named runtime'.coordinator
        (manualId nowMs (runtime.coordinator.manualOrdinal + 1)) :=
      .inr ⟨nowMs, _, by simp [hruntime], rfl⟩
    have hnext := h.unaccepted_next nowMs
    exact ⟨h.insert hnext (Nat.le_succ _) hruntime hnamed, hnext, hnamed⟩

theorem settled (h : Agrees requests runtime) (hunaccepted : Unaccepted requests captureId)
    (hnamed : Named runtime.coordinator captureId) {request : Option Request}
    (hsettles : Settles runtime.coordinator captureId request runtime'.coordinator)
    (hstored : ∀ r ∈ request, r.accepted.isSome → r.stored) :
    Agrees (requests ++ request.toList) runtime' := by
  generalize hc : runtime'.coordinator = c at hsettles
  cases hsettles
  case unasked =>
    have h' : Agrees requests runtime' := h.spared (hc.symm ▸ .of_eq h.keyed rfl (Nat.le_refl _))
    simpa using h'
  case stored capture answer captures hcaptures =>
    have hinserted : Agrees requests runtime' :=
      h.insert hunaccepted (Nat.le_refl _) (by rw [hc, hcaptures])
        (hnamed.mono (by rw [hc]))
    refine hinserted.answered hunaccepted ?_
    intro outcome houtcome
    refine ⟨_, by rw [hc, hcaptures, HashMap.get?_insert_self], ?_⟩
    cases answer
    case ok    => simpa [Request.accepted, Except.toOption, Coordinator.answeredStatus] using houtcome
    case error => simp [Request.accepted, Except.toOption] at houtcome
  case lost answer =>
    have h' : Agrees requests runtime' := h.spared (hc.symm ▸ .of_eq h.keyed rfl (Nat.le_refl _))
    have hlost := hstored _ rfl
    refine h'.answered hunaccepted ?_
    intro outcome houtcome
    have haccepted := hlost (Option.isSome_of_mem houtcome)
    cases haccepted

theorem moves (h : Agrees requests runtime) {request : Option Request}
    (hmoves : Moves runtime.coordinator request runtime'.coordinator)
    (hstored : ∀ r ∈ request, r.accepted.isSome → r.stored) :
    Agrees (requests ++ request.toList) runtime' := by
  generalize hc : runtime'.coordinator = c at hmoves
  cases hmoves
  case spared hspares => simpa using h.spared (hc ▸ hspares h.keyed)
  case asked captureId c' hprepares hsettles =>
    obtain ⟨hprepared, hunaccepted, hnamed⟩ :=
      h.prepared hprepares (show LiveRuntime.coordinator { runtime with coordinator := c' } = c' from rfl)
    exact hprepared.settled hunaccepted hnamed (hc ▸ hsettles) hstored

theorem step {steps : List (Service W)} {call : Call × W}
    (h : Agrees (Live.requests ports steps) runtime) (hrecorded : Recorded ports call runtime) :
    Agrees (Live.requests ports (steps ++ [Machine.step (served ports) runtime call]))
      (Machine.step (served ports) runtime call).after := by
  have h' := h.moves (Moves.served call runtime hrecorded.2) hrecorded.1
  simp only [Live.requests, List.filterMap_append]
  cases hrequest : requestOf ports call runtime
  case none   => simpa [Machine.step, Live.requests, hrequest] using h'
  case some r => simpa [Machine.step, Live.requests, hrequest] using h'

theorem start (captureSessionId : String) (recorder : RecorderFacade) :
    Agrees [] ⟨.new captureSessionId, recorder⟩ where
  savedOnce := ⟨.nil, fun _ hmem => by cases hmem⟩
  keyed     := List.nodup_nil
  named     := fun _ _ hget => by cases hget

end Agrees

-- In a run whose accepted saves are all recorded, every capture is saved once and stays saved.
theorem savedOnce_of_recorded (ports : Ports W) (captureSessionId : String)
    (recorder : RecorderFacade) (calls : List (Call × W))
    (hrecorded : Machine.Each (served ports) (fun _ runtime call => Recorded ports call runtime) []
      ⟨.new captureSessionId, recorder⟩ calls) :
    Machine.Always (served ports) (fun steps runtime => SavedOnce (requests ports steps) runtime) []
      ⟨.new captureSessionId, recorder⟩ calls :=
  Machine.Each.always (I := fun steps runtime => Agrees (requests ports steps) runtime)
    (fun _ _ h => h.savedOnce) (fun _ _ _ h hcall => h.step hcall)
    (Agrees.start captureSessionId recorder) hrecorded

-- The round is saved, and then the session is reset.
def resetDemo (storeFails : Bool) : List (Call × FakeWorld) :=
  [(.ingestReceipt (fakeReceipt 1 .healthy [.roundEnd 1 2]), { recorder := { clock := 1000 } }),
    (.dispatchTimer ⟨"timer:auto:map:1"⟩, { recorder := { clock := 12000 }, storeFails }),
    (.ingestReceipt (fakeReceipt 13 .sessionReset []), { recorder := { clock := 13000 } })]

theorem savedOnce_of_recorded_reset :
    Machine.Always (served fakePorts)
      (fun steps runtime => SavedOnce (requests fakePorts steps) runtime) []
      fakeSession.runtime (resetDemo false) :=
  savedOnce_of_recorded fakePorts "session" fakeSession.runtime.recorder (resetDemo false)
    ⟨by decide +kernel, by decide +kernel, by decide +kernel, True.intro⟩

-- A store that may lose the record of a save.
def losingPorts : Ports FakeWorld :=
  { fakePorts with
    upsertCapture := fun capture w =>
      (if w.storeFails && capture.status matches .saveRequested _ then .error (.persistence "disk full")
        else .ok (), w) }

def lostRequest : Request where
  captureId := "auto:map:1"
  answer    := .ok ⟨"auto:map:1:request:1", .signalled⟩
  stored    := false

theorem savedOnce_fails_reset :
    ¬Machine.Always (served losingPorts)
      (fun steps runtime => SavedOnce (requests losingPorts steps) runtime) []
      fakeSession.runtime (resetDemo true) := by
  intro ⟨_, _, _, h⟩
  obtain ⟨capture, hget, hstatus⟩ := h.kept lostRequest (by decide +kernel)
    ⟨"auto:map:1:request:1", .signalled⟩ rfl
  have hcancelled : ∀ capture ∈ (Machine.final (served losingPorts)
      fakeSession.runtime (resetDemo true)).coordinator.captures.get? "auto:map:1",
      capture.status = .cancelled .sessionReset := by
    decide +kernel
  have := (hcancelled capture hget).symm.trans hstatus
  cases this

end Live
