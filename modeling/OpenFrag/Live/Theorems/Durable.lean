import OpenFrag.Capture.Theorems.Worlds
import OpenFrag.Live.Theorems.Backed
import OpenFrag.Live.Theorems.Requests

open Capture (SaveAcknowledgement SaveProvenance)
open Domain (HighlightCandidate)
open EStateM
open Gsi (EvidenceReceipt)
open Storage (Database)

namespace Live

variable {W α β : Type} {env : Environment W}

namespace Durable

variable {c : Coordinator} {s s' : StorageEvidenceStore}

theorem extend (h : Durable c s) (hextends : Extends s s') (hbacked : Backed s') :
    Durable c s' where
  backed     := hbacked
  receipts   := by
    intro receiptId hreceipt
    obtain ⟨metadata, hmetadata, hrow⟩ := h.receipts receiptId hreceipt
    exact ⟨metadata, hextends.receipts _ metadata hmetadata,
      hextends.session ▸ hrow.retained hextends.storage⟩
  candidates := fun roundId record hrecord =>
    (h.candidates roundId record hrecord).imp_right (·.extend hextends)
  captures   := fun captureId capture hcapture =>
    (h.captures captureId capture hcapture).imp_right (·.extend hextends)

theorem addReceipt (h : Durable c s) {receiptId : String} {metadata : ReceiptMetadata}
    (hmetadata : s.receipts.get? receiptId = some metadata) :
    Durable { c with processedReceipts := receiptId :: c.processedReceipts } s :=
  { h with
    receipts := by
      intro receiptId' hreceipt
      cases hreceipt
      case head => exact ⟨metadata, hmetadata, h.backed.receipts _ metadata hmetadata⟩
      case tail hreceipt => exact h.receipts receiptId' hreceipt }

theorem setCandidate (h : Durable c s) {record : CandidateRecord}
    (hproposed : IsProposed s record.candidate) :
    Durable { c with
      candidates := c.candidates.insert record.candidate.roundId record } s :=
  { h with
    candidates := by
      intro roundId record' hrecord
      cases HashMap.get?_insert_cases hrecord
      case inl heq =>
        obtain ⟨rfl, rfl⟩ := heq
        exact ⟨rfl, hproposed⟩
      case inr hold => exact h.candidates roundId record' hold.2 }

theorem setCapture (h : Durable c s) {capture : CaptureRecord} (timers : HashMap String)
    (hrow : capture.IsIn s) :
    Durable { c with timers := timers, captures := c.captures.insert capture.id capture } s :=
  { h with
    captures := by
      intro captureId capture' hcapture
      cases HashMap.get?_insert_cases hcapture
      case inl heq =>
        obtain ⟨rfl, rfl⟩ := heq
        exact ⟨rfl, hrow⟩
      case inr hold => exact h.captures captureId capture' hold.2 }

theorem start (hbacked : Backed s) (captureSessionId : String) :
    Durable (.new captureSessionId) s where
  backed     := hbacked
  receipts   := by simp [Coordinator.new]
  candidates := by simp [Coordinator.new, HashMap.get?]
  captures   := by simp [Coordinator.new, HashMap.get?]

end Durable

-- What has been durable is so still, and nothing is lost of what is in the database.
def Lasts (host host' : Host (Backend W)) : Prop :=
  Durable host.coordinator host.world.store →
    Extends host.world.store host'.world.store ∧ Durable host'.coordinator host'.world.store

instance lasts_refl : Std.Refl (Lasts (W := W)) where
  refl _ h := ⟨.refl _, h⟩

instance lasts_trans : IsTrans (Host (Backend W)) Lasts where
  trans _ _ _ h h' hdurable :=
    have hfirst := h hdurable
    have hsecond := h' hfirst.2
    ⟨hfirst.1.trans hsecond.1, hsecond.2⟩

namespace Lasts

variable {host host' : Host (Backend W)}

theorem of_advancing (hcoordinator : host'.coordinator = host.coordinator)
    (h : Advancing host.world host'.world) : Lasts host host' := by
  intro hdurable
  obtain ⟨hextends, hbacked⟩ := h hdurable.backed
  exact ⟨hextends, hcoordinator ▸ hdurable.extend hextends hbacked⟩

-- Neither the coordinator nor the store has been called.
theorem of_eq (hcoordinator : host'.coordinator = host.coordinator)
    (hstore : host'.world.store = host.world.store) : Lasts host host' := by
  apply of_advancing hcoordinator
  intro hbacked
  rw [hstore]
  exact ⟨.refl _, hbacked⟩

theorem self : Within Lasts (Live.self : Method (Backend W) _) :=
  fun host => Std.Refl.refl host

theorem availableFrom : Within Lasts (RecorderFacade.availableFrom (W := Backend W)) :=
  fun host => Std.Refl.refl host

theorem port {x : Adapter W α} (hx : Within Advancing x) :
    Within Lasts (Live.port (Backend.calling x)) := by
  intro host
  have hadvancing := hx host.world
  cases hrun : x host.world
  all_goals
    rw [hrun] at hadvancing
    simp only [Live.port, Backend.calling, hrun, Result.toExcept]
    exact of_advancing rfl hadvancing

theorem attempt {x : Adapter W α} (hx : Within Advancing x) :
    Within Lasts (Live.attempt (Backend.calling x)) :=
  fun host => of_advancing rfl (hx host.world)

theorem port_ok {x : Adapter W α} {a : α} (h : Live.port (Backend.calling x) host = .ok a host') :
    x host.world = .ok a host'.world ∧ host'.runtime = host.runtime := by
  unfold Live.port Backend.calling at h
  cases hrun : x host.world
  case ok =>
    simp only [hrun, Result.toExcept] at h
    cases h
    exact ⟨rfl, rfl⟩
  case error =>
    simp only [hrun, Result.toExcept] at h
    cases h

theorem attempt_ok {x : Adapter W α} {a : α}
    (h : Live.attempt (Backend.calling x) host = .ok (.ok a) host') :
    x host.world = .ok a host'.world ∧ host'.runtime = host.runtime := by
  unfold Live.attempt Backend.calling at h
  cases hrun : x host.world
  all_goals
    simp only [hrun, Result.toExcept] at h
    cases h
  exact ⟨rfl, rfl⟩

-- The recorder knows nothing of the store.
theorem capture_within (env : Environment W) :
    env.ports.capture.Within fun b b' => b'.store = b.store where
  spawn _ _          := rfl
  tryWait _          := rfl
  signal _ _         := rfl
  drainStderr _      := rfl
  outputsSince _ _ _ := rfl
  isSymlink _ _      := rfl
  isRegularFile _ _  := rfl
  isContained _ _ _  := rfl
  nowMs _            := rfl
  wallMs _           := rfl
  verify _ _         := rfl

theorem onRecorder {x : Capture.Method String (Backend W) α}
    (hx : Within (Capture.Besides fun b b' => b'.store = b.store) x) :
    Within Lasts (Live.onRecorder x) := by
  intro host
  rw [onRecorder_apply]
  exact of_eq rfl (hx host.capturing)

theorem withCapture {x : Capture.Method String (Backend W) α}
    (hx : Within (Capture.Besides fun b b' => b'.store = b.store) x) :
    Within Lasts (LiveRuntime.withCapture x) := by
  refine Within.bind (onRecorder hx) fun result => ?_
  cases result
  case error => exact Within.throw
  case ok => exact Within.pure

theorem requestSave (captureId : String) (provenance : SaveProvenance) :
    Within Lasts (RecorderFacade.requestSave env.ports captureId provenance) := by
  refine Within.bind (fun host => of_eq rfl rfl) fun _ => Within.bind ?_ fun host => ?_
  · exact fun host => Std.Refl.refl host
  · exact onRecorder (Capture.Besides.requestSave (capture_within env) _ _)

theorem command (operation : Operation) (c : DeadlineCommand) :
    Within Advancing (Live.command env operation c) := by
  refine Within.bind (Writing.within (Writing.guarded _ _)) fun _ b => ?_
  exact Std.Refl.refl (r := Advancing) b

theorem update_within {f : Coordinator → Coordinator}
    (h : ∀ host : Host (Backend W), Durable host.coordinator host.world.store →
      Durable (f host.coordinator) host.world.store) :
    Within Lasts (update f : Method (Backend W) Unit) :=
  fun host hdurable => ⟨.refl _, h host hdurable⟩

-- A record is kept under its own identity.
theorem store (capture : CaptureRecord) :
    Within Lasts (Coordinator.store env.ports capture capture.id) := by
  intro host hdurable
  refine Within.bind_at (R := Lasts) (port (upsertCapture_advancing capture) host) ?_ hdurable
  intro _ host' hstored
  obtain ⟨hstored, hruntime⟩ := port_ok hstored
  exact fun hdurable' => ⟨.refl _,
    hdurable'.setCapture _ (upsertCapture_isIn hdurable.backed hstored)⟩

theorem new_roundId {captureSessionId roundId receiptId : String} {range : Domain.TimeRange}
    {trigger : Domain.CandidateTrigger} {candidate : HighlightCandidate}
    (h : HighlightCandidate.new captureSessionId roundId range trigger receiptId = .ok candidate) :
    candidate.roundId = roundId := by
  unfold HighlightCandidate.new at h
  split at h
  case isTrue => cases h
  case isFalse =>
    cases h
    rfl

theorem createCandidate (receipt : EvidenceReceipt) (receiptId : String) (kills : Int) :
    Within Lasts (Coordinator.createCandidate env.ports receipt receiptId kills) := by
  unfold Coordinator.createCandidate
  split
  case h_2 => exact Within.pure
  case h_1 =>
    refine Within.ite (fun _ => Within.pure) fun _ => ?_
    split
    case h_1 => exact Within.pure
    case h_2 =>
      refine Within.bind self fun c => Within.ite (fun _ => Within.pure) fun _ => ?_
      dsimp only
      split
      case h_1 => exact Within.throw
      case h_2 candidate hcandidate =>
        intro host hdurable
        refine Within.bind_at (R := Lasts) (port (upsertCandidate_advancing _) host) ?_ hdurable
        intro _ host' hupserted
        obtain ⟨hupserted, -⟩ := port_ok hupserted
        have hproposed := upsertCandidate_isProposed hdurable.backed hupserted
        rw [← new_roundId hcandidate]
        exact fun hdurable' => ⟨.refl _, hdurable'.setCandidate hproposed⟩

-- A capture that is scheduled is kept when the store has taken it.
theorem scheduleCapture (capture : CaptureRecord) (timer : TimerId) (deadlineMs : Nat) :
    Within Lasts (Coordinator.scheduleCapture env.ports capture timer deadlineMs) := by
  unfold Coordinator.scheduleCapture
  refine Within.bind (port (command _ _)) fun _ host hdurable => ?_
  refine Within.bind_at (R := Lasts) (attempt (upsertCapture_advancing capture) host) ?_ hdurable
  intro result host' hstored
  cases result
  case error =>
    exact Within.bind (attempt (command _ _)) (fun _ => Within.throw) host'
  case ok =>
    obtain ⟨hstored, -⟩ := attempt_ok hstored
    exact fun hdurable' => ⟨.refl _,
      hdurable'.setCapture _ (upsertCapture_isIn hdurable.backed hstored)⟩

theorem scheduleRoundCapture (receipt : EvidenceReceipt) (receiptId : String)
    (completedRound : Nat) :
    Within Lasts (Coordinator.scheduleRoundCapture env.ports receipt receiptId completedRound) := by
  unfold Coordinator.scheduleRoundCapture
  split
  case h_2 => exact Within.pure
  case h_1 =>
    refine Within.bind self fun c => Within.ite (fun _ => Within.pure) fun _ => ?_
    dsimp only
    split
    case h_1 => exact Within.throw
    case h_2 =>
      split
      case h_1 => exact Within.throw
      case h_2 => exact scheduleCapture _ _ _

-- The capture that is looked up has the identity that it is looked up by.
theorem bind_capture {f : CaptureRecord → Method (Backend W) α} {captureId : String}
    (h : ∀ capture, capture.id = captureId → Within Lasts (f capture)) :
    Within Lasts (do
      match (← Live.self).captures.get? captureId with
      | none         => throw (.missingCapture captureId)
      | some capture => f capture) := by
  intro host hdurable
  rw [bind_ok self_apply]
  cases hcapture : host.coordinator.captures.get? captureId
  case none => exact Within.throw (R := Lasts) host hdurable
  case some capture => exact h capture (hdurable.captures _ capture hcapture).1 host hdurable

theorem cancelCapture (reason : CancelReason) (id : String) :
    Within Lasts (Coordinator.cancelCapture env.ports reason id) := by
  apply bind_capture
  rintro capture rfl
  cases capture.timer
  case none => exact store _
  case some timer => exact Within.bind (port (command _ _)) fun _ => store _

theorem cancelUnsaved (reason : CancelReason) :
    Within Lasts (Coordinator.cancelUnsaved env.ports reason) := by
  refine Within.bind self fun c => Within.bind (fun host => of_eq rfl rfl) fun rank => ?_
  exact Within.bind (Within.forM (cancelCapture reason) _) fun _ => Within.pure

theorem ingestFact (receipt : EvidenceReceipt) (receiptId : String) (outcome : IngestOutcome)
    (fact : Gsi.TransitionFact) :
    Within Lasts (Coordinator.ingestFact env.ports receipt receiptId outcome fact) := by
  cases fact
  case roundKillDelta =>
    refine Within.ite (fun _ => ?_) fun _ => Within.pure
    exact Within.bind (createCandidate receipt receiptId _) fun _ => Within.pure
  case roundEnd =>
    exact Within.bind (scheduleRoundCapture receipt receiptId _) fun _ => Within.pure
  all_goals exact Within.pure

-- A receipt that the store knows is marked as processed.
def Marks (receiptId : String) (host host' : Host (Backend W)) : Prop :=
  (∃ metadata, host.world.store.receipts.get? receiptId = some metadata) → Lasts host host'

instance marks_refl {receiptId : String} : Std.Refl (Marks (W := W) receiptId) where
  refl host _ := Std.Refl.refl host

instance marks_trans {receiptId : String} : IsTrans (Host (Backend W)) (Marks receiptId) where
  trans _ _ _ h h' hknown hdurable := by
    have hfirst := h hknown hdurable
    obtain ⟨metadata, hmetadata⟩ := hknown
    have hsecond := h' ⟨metadata, hfirst.1.receipts _ metadata hmetadata⟩ hfirst.2
    exact ⟨hfirst.1.trans hsecond.1, hsecond.2⟩

theorem marks {receiptId : String} {x : Method (Backend W) α} (hx : Within Lasts x) :
    Within (Marks receiptId) x :=
  hx.mono fun _ _ h _ => h

theorem ingestFacts (receipt : EvidenceReceipt) (outcome : IngestOutcome) :
    Within (Marks (W := W) (receiptId receipt)) (do
      let outcome ← receipt.facts.foldlM
        (Coordinator.ingestFact env.ports receipt (receiptId receipt)) outcome
      update fun c => { c with processedReceipts := receiptId receipt :: c.processedReceipts }
      pure outcome) := by
  refine Within.bind (marks (Within.foldlM (ingestFact receipt _) _ _)) fun outcome => ?_
  refine Within.bind (fun host hknown hdurable => ?_) fun _ => Within.pure
  obtain ⟨metadata, hmetadata⟩ := hknown
  exact ⟨.refl _, hdurable.addReceipt hmetadata⟩

-- The store knows a receipt that it has persisted.
theorem ingest (receipt : EvidenceReceipt) :
    Within Lasts (Coordinator.ingest env.ports receipt) := by
  intro host hdurable
  refine Within.bind_at (R := Lasts) (port (persistReceipt_advancing receipt) host) ?_ hdurable
  intro _ host₁ hpersisted
  have hknown := persistReceipt_ok (port_ok hpersisted).1
  refine (?_ : Within (Marks (receiptId receipt)) _) host₁ hknown
  refine Within.bind (marks self) fun c => Within.ite (fun _ => Within.pure) fun _ => ?_
  dsimp only
  cases receipt.output
  case stale => exact Within.bind (marks (cancelUnsaved .stale)) fun _ => ingestFacts receipt _
  case sessionReset =>
    exact Within.bind (marks (cancelUnsaved .sessionReset)) fun _ => ingestFacts receipt _
  all_goals exact Within.bind Within.pure fun _ => ingestFacts receipt _

theorem covered_id {capture capture' : CaptureRecord} {nowMs availableFromMs : Nat}
    (h : Coordinator.covered capture nowMs availableFromMs = .ok capture') :
    capture'.id = capture.id := by
  unfold Coordinator.covered at h
  split at h
  case isFalse =>
    cases h
    rfl
  case isTrue =>
    split at h
    case h_1 => cases h
    case h_2 =>
      split at h
      case h_1 => cases h
      case h_2 =>
        cases h
        rfl

theorem requestCaptureSave (captureId : String) :
    Within Lasts (Coordinator.requestCaptureSave env.ports captureId) := by
  apply bind_capture
  rintro capture rfl
  refine Within.bind (fun host => of_eq rfl rfl) fun nowMs => ?_
  refine Within.bind availableFrom fun availableFromMs => ?_
  cases hcovered : Coordinator.covered capture nowMs availableFromMs
  case error => exact Within.throw
  case ok capture' =>
    rw [← covered_id hcovered]
    refine Within.bind (requestSave _ _) fun answer => ?_
    cases answer
    case ok => exact Within.bind (store { capture' with status := _ }) fun _ => Within.pure
    case error => exact Within.bind (store { capture' with status := _ }) fun _ => Within.throw

theorem onTimer (timer : TimerId) : Within Lasts (Coordinator.onTimer env.ports timer) := by
  refine Within.bind self fun c => ?_
  cases c.timers.get? timer.value
  case none => exact Within.throw
  case some captureId =>
    refine Within.bind self fun c => ?_
    cases c.captures.get? captureId
    case none => exact Within.throw
    case some capture =>
      dsimp only
      cases capture.deadlineMs
      case none => exact Within.pure
      case some =>
        refine Within.bind (fun host => of_eq rfl rfl) fun nowMs => ?_
        refine Within.ite (fun _ => Within.pure) fun _ => ?_
        exact Within.ite (fun _ => Within.pure) fun _ => requestCaptureSave captureId

theorem retryCapture (captureId : String) :
    Within Lasts (Coordinator.retryCapture env.ports captureId) := by
  refine Within.bind self fun c => ?_
  cases c.captures.get? captureId
  case none => exact Within.throw
  case some capture =>
    dsimp only
    cases capture.status
    case retryable => exact requestCaptureSave captureId
    all_goals exact Within.pure

theorem manualFlag : Within Lasts (Coordinator.manualFlag env.ports) := by
  refine Within.bind (fun host => of_eq rfl rfl) fun nowMs => ?_
  refine Within.bind (update_within fun _ hdurable => { hdurable with }) fun _ => ?_
  refine Within.bind self fun c => Within.bind availableFrom fun availableFromMs => ?_
  refine Within.bind (store (Coordinator.manualCapture _ nowMs availableFromMs)) fun _ => ?_
  exact Within.bind (requestCaptureSave _) fun _ => Within.pure

theorem finalizeDiscoveredSave :
    Within Lasts (LiveRuntime.finalizeDiscoveredSave env.ports) := by
  refine Within.bind (fun host => Std.Refl.refl host) fun host => ?_
  refine Within.ite (fun _ => Within.pure) fun _ => ?_
  refine Within.bind (withCapture (Capture.Besides.discoverSave (capture_within env))) fun found => ?_
  cases found
  case none => exact Within.pure
  case some acknowledgement =>
    refine Within.bind (port ?_) fun _ => Within.pure
    exact Writing.within (finalizeCapture_writing acknowledgement)

theorem perform (call : Call) : Within Lasts (Live.perform env.ports call) := by
  cases call
  case ingestReceipt receipt => exact Within.bind (ingest receipt) fun _ => Within.pure
  case dispatchTimer timer => exact Within.bind (onTimer timer) fun _ => Within.pure
  case manualFlag => exact Within.bind manualFlag fun _ => Within.pure
  case retryCapture captureId => exact Within.bind (retryCapture captureId) fun _ => Within.pure
  case pollCapture =>
    refine Within.bind (withCapture ?_) fun _ => Within.pure
    exact Capture.Besides.poll (capture_within env)
  case discoverSave =>
    refine Within.bind (withCapture ?_) fun _ => Within.pure
    exact Capture.Besides.discoverSave (capture_within env)
  case finalizeDiscoveredSave => exact Within.bind finalizeDiscoveredSave fun _ => Within.pure
  case shutdownCapture =>
    refine Within.bind (withCapture ?_) fun _ => Within.pure
    exact Capture.Besides.shutdown (capture_within env)

end Lasts

section Run

variable {turns : List (Turn W)} {a : Assembly}

-- What the coordinator takes for done at the end of a turn is in the database.
theorem turn_durable (h : Durable a.runtime.coordinator a.store) (t : Turn W) :
    Durable (turn env t a).2.runtime.coordinator (turn env t a).2.store := by
  cases t
  case call call w => exact (Lasts.perform call (a.host w) h).2
  case other writer =>
    have hretains := writer.retains a.store.storage
    exact h.extend (.write hretains) (h.backed.write hretains)

theorem run_durable (h : Durable a.runtime.coordinator a.store) :
    let a' := Machine.final (turn env) a turns
    Durable a'.runtime.coordinator a'.store := by
  induction turns generalizing a
  case nil => exact h
  case cons t turns ih => exact ih (turn_durable h t)

theorem new_backed {storage : Database} {localSteamId : Import.SteamId} {w : W}
    {store : StorageEvidenceStore}
    (h : StorageEvidenceStore.new env storage localSteamId w = .ok store) : Backed store := by
  unfold StorageEvidenceStore.new Storage.createCaptureSession at h
  cases h
  constructor
  case session => simp [StorageEvidenceStore.of, Storage.hasSession]
  case joins => simp [StorageEvidenceStore.of]
  all_goals simp [StorageEvidenceStore.of, HashMap.get?]

-- In every state that a runtime reaches over a new store, whatever fails on the way and whatever
-- else is written meanwhile, each receipt, candidate and capture that is taken for done has its rows.
theorem durable_of_run (env : Environment W) {storage : Database} {localSteamId : Import.SteamId}
    {w : W} {store : StorageEvidenceStore} (recorder : RecorderFacade) (turns : List (Turn W))
    (h : StorageEvidenceStore.new env storage localSteamId w = .ok store) :
    let a := Machine.final (turn env) (.start store recorder) turns
    Durable a.runtime.coordinator a.store :=
  run_durable (.start (new_backed h) _)

-- A world in which one kind of call fails, or none.
def failingEnvironment : Environment (Option Operation) where
  fault operation failing :=
    (if failing = some operation then some "disk I/O error" else none, failing)
  wallMs w                := (0, w)
  nowMs w                 := (0, w)
  rank w                  := (fun _ => 0, w)
  digest receipt          := receipt.sequence
  byteLength _            := 1
  presenceText _          := "[]"
  isPlainFile _ w         := (.ok true, w)
  stageFile _ w           := (.ok (0, 1), w)
  removeFile _ w          := (.ok (), w)
  capture                 := {
    spawn _ w          := (.ok (), w)
    tryWait w          := (.ok none, w)
    signal _ w         := (.ok (), w)
    drainStderr w      := (.ok [], w)
    outputsSince _ _ w := (.ok [], w)
    isSymlink _ w      := (.ok false, w)
    isRegularFile _ w  := (.ok true, w)
    isContained _ _ w  := (.ok true, w)
    nowMs w            := (0, w)
    wallMs w           := (0, w)
    verify _ w         := (.error "no media", w) }

def firstSession : StorageEvidenceStore :=
  .of 0 { Database.empty with captureSessions := [⟨0, 7, 0, "active"⟩] }

-- A round end whose candidate cannot be created is posted again, after an import.
def retriedTurns : List (Turn (Option Operation)) := [
  .call (.ingestReceipt (fakeReceipt 3 .healthy [])) none,
  .call (.ingestReceipt (fakeReceipt 4 .healthy [.roundEnd 2 0])) (some .createCandidate),
  .other (Storage.Statement.writer (Storage.commitArtifact 9 1 "dem" none 0)
    fun _ _ => Storage.Retains.commitArtifact),
  .call (.ingestReceipt (fakeReceipt 4 .healthy [.roundEnd 2 0])) none]

theorem durable_of_run_retried :
    let a := Machine.final (turn failingEnvironment)
      (.start firstSession fakeSession.runtime.recorder) retriedTurns
    a.runtime.coordinator.processedReceipts = ["hash:4", "hash:3"] ∧
      ∃ metadata, a.store.receipts.get? "hash:4" = some metadata ∧
        metadata.IsIn a.store.storage a.store.session := by
  have hnew : StorageEvidenceStore.new failingEnvironment Database.empty 7 none =
      .ok firstSession := rfl
  have hdurable := durable_of_run failingEnvironment fakeSession.runtime.recorder retriedTurns hnew
  have hprocessed : (Machine.final (turn failingEnvironment)
      (.start firstSession fakeSession.runtime.recorder)
        retriedTurns).runtime.coordinator.processedReceipts = ["hash:4", "hash:3"] := by
    decide +kernel
  exact ⟨hprocessed, hdurable.receipts _ (by simp [hprocessed])⟩

end Run

end Live
