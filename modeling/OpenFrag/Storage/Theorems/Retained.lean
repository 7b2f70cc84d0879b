import OpenFrag.Storage.Retained
import OpenFrag.Storage.Theorems.Review

open Import Table Except

namespace Storage

variable {db db' db'' : Database} {sha256 : Digest} {attempt : SaveAttemptId} {now : Int}
variable {session : CaptureSessionId} {startNs endNs : Int}

theorem SaveAttemptRow.Continues.refl (row : SaveAttemptRow) : row.Continues row :=
  ⟨rfl, rfl, rfl, fun h => h⟩

theorem SaveAttemptRow.Continues.trans {row row' row'' : SaveAttemptRow} (h : row.Continues row')
    (h' : row'.Continues row'') : row.Continues row'' where
  id                := h'.id.trans h.id
  recorderRequestId := h'.recorderRequestId.trans h.recorderRequestId
  captureSessionId  := h'.captureSessionId.trans h.captureSessionId
  ended             := h'.ended ∘ h.ended

namespace Retains

theorem refl (db : Database) : Retains db db where
  captureSessions      := List.Subset.refl _
  gsiSnapshots         := List.Subset.refl _
  liveCandidates       := List.Subset.refl _
  candidateTriggers    := List.Subset.refl _
  candidateSaves       := List.Subset.refl _
  manualFlags          := List.Subset.refl _
  manualFlagSaves      := List.Subset.refl _
  recorderSaveAttempts := fun row hrow => ⟨row, hrow, .refl row⟩

theorem trans (h : Retains db db') (h' : Retains db' db'') : Retains db db'' where
  captureSessions      := List.Subset.trans h.captureSessions h'.captureSessions
  gsiSnapshots         := List.Subset.trans h.gsiSnapshots h'.gsiSnapshots
  liveCandidates       := List.Subset.trans h.liveCandidates h'.liveCandidates
  candidateTriggers    := List.Subset.trans h.candidateTriggers h'.candidateTriggers
  candidateSaves       := List.Subset.trans h.candidateSaves h'.candidateSaves
  manualFlags          := List.Subset.trans h.manualFlags h'.manualFlags
  manualFlagSaves      := List.Subset.trans h.manualFlagSaves h'.manualFlagSaves
  recorderSaveAttempts := by
    intro row hrow
    obtain ⟨row', hrow', hcontinues⟩ := h.recorderSaveAttempts row hrow
    obtain ⟨row'', hrow'', hcontinues'⟩ := h'.recorderSaveAttempts row' hrow'
    exact ⟨row'', hrow'', hcontinues.trans hcontinues'⟩

theorem hasSession (h : Retains db db') (hsession : hasSession db session) :
    Storage.hasSession db' session := by
  simp only [Storage.hasSession, List.any_eq_true] at *
  obtain ⟨row, hrow, hid⟩ := hsession
  exact ⟨row, h.captureSessions hrow, hid⟩

theorem hasAttempt (h : Retains db db') (hattempt : hasAttempt db attempt) :
    Storage.hasAttempt db' attempt := by
  simp only [Storage.hasAttempt, List.any_eq_true, decide_eq_true_eq] at *
  obtain ⟨row, hrow, hid⟩ := hattempt
  obtain ⟨row', hrow', hcontinues⟩ := h.recorderSaveAttempts row hrow
  exact ⟨row', hrow', hcontinues.id.trans hid⟩

-- Rows of attempts that are written over go on as what they have been.
theorem update {p : SaveAttemptRow → Bool} {f : SaveAttemptRow → SaveAttemptRow}
    (h : ∀ row, p row → row.Continues (f row)) : ∀ row ∈ db.recorderSaveAttempts,
      ∃ row' ∈ Table.update p f db.recorderSaveAttempts, row.Continues row' := by
  intro row hrow
  refine ⟨_, mem_update.mpr ⟨row, hrow, rfl⟩, ?_⟩
  split
  case isTrue hp => exact h row hp
  case isFalse => exact .refl row

theorem commitArtifact {byteLength : Nat} {extension : String} {mediaType : Option String}
    {r : Digest × Database}
    (h : commitArtifact sha256 byteLength extension mediaType now db = .ok r) : Retains db r.2 := by
  obtain ⟨_, _, _, rfl⟩ := commitArtifact_eq_ok_iff.mp h
  exact { refl db with }

theorem recordGsiSnapshot {ordinal receivedAtMs : Int} {fields version : String}
    {r : Unit × Database}
    (h : recordGsiSnapshot session sha256 ordinal receivedAtMs fields version db = .ok r) :
    Retains db r.2 := by
  obtain ⟨_, _, _, _, _, rfl⟩ := recordGsiSnapshot_eq_ok_iff.mp h
  exact { refl db with gsiSnapshots := List.subset_cons_self _ _ }

theorem createCandidate {ruleVersion kind : String} {map : Option String} {round : Option Int}
    {firstNs lastNs : Int} {r : LiveCandidateId × Database}
    (h : createCandidate session ruleVersion kind map round firstNs lastNs startNs endNs db =
      .ok r) : Retains db r.2 := by
  obtain ⟨_, _, _, _, rfl⟩ := createCandidate_eq_ok_iff.mp h
  exact { refl db with liveCandidates := List.subset_cons_self _ _ }

theorem addCandidateTrigger {candidate : LiveCandidateId} {ordinal : Int} {kind : String}
    {monotonicNs : Int} {r : Unit × Database}
    (h : addCandidateTrigger candidate sha256 ordinal kind monotonicNs db = .ok r) :
    Retains db r.2 := by
  obtain ⟨_, _, _, rfl⟩ := addCandidateTrigger_eq_ok_iff.mp h
  exact { refl db with candidateTriggers := List.subset_cons_self _ _ }

theorem joinCandidateSave {candidate : LiveCandidateId} {r : Unit × Database}
    (h : joinCandidateSave candidate attempt startNs endNs db = .ok r) : Retains db r.2 := by
  obtain ⟨_, _, _, _, rfl⟩ := joinCandidateSave_eq_ok_iff.mp h
  exact { refl db with candidateSaves := List.subset_cons_self _ _ }

theorem createManualFlag {monotonicNs : Int} {r : ManualFlagId × Database}
    (h : createManualFlag session monotonicNs now db = .ok r) : Retains db r.2 := by
  obtain ⟨_, rfl⟩ := createManualFlag_eq_ok_iff.mp h
  exact { refl db with manualFlags := List.subset_cons_self _ _ }

theorem requestSave {recorderRequestId : String} {requestedNs : Int} {r : SaveAttemptId × Database}
    (h : requestSave session recorderRequestId requestedNs db = .ok r) : Retains db r.2 := by
  cases requestSave_eq_ok_iff.mp h
  case inl hfound =>
    obtain ⟨_, _, rfl⟩ := hfound
    exact refl db
  case inr hnew =>
    obtain ⟨_, _, rfl⟩ := hnew
    exact { refl db with
      recorderSaveAttempts := fun row hrow => ⟨row, List.mem_cons_of_mem _ hrow, .refl row⟩ }

theorem saveAttemptForRequest {recorderRequestId : String} {r : SaveAttemptId × Database}
    (h : saveAttemptForRequest recorderRequestId db = .ok r) : Retains db r.2 := by
  obtain ⟨_, _, rfl⟩ := saveAttemptForRequest_eq_ok_iff.mp h
  exact refl db

theorem failSave {errorCode : String} {r : Unit × Database}
    (h : failSave attempt errorCode db = .ok r) : Retains db r.2 := by
  cases h
  exact { refl db with
    recorderSaveAttempts := update fun _ _ => ⟨rfl, rfl, rfl, fun _ => .inl rfl⟩ }

-- A flag that has been joined to an attempt stays joined to it.
theorem joinManualFlagSave {flag : ManualFlagId} {r : Unit × Database}
    (h : joinManualFlagSave flag attempt startNs endNs db = .ok r) :
    Retains db r.2 ∧
      ∃ row ∈ r.2.manualFlagSaves, row.manualFlagId = flag ∧ row.saveAttemptId = attempt := by
  unfold Storage.joinManualFlagSave at h
  simp only [bind_eq_ok_iff, ensure_eq_ok_iff, exists_const] at h
  obtain ⟨_, h⟩ := h
  cases hflag : db.manualFlags.find? (·.id = flag)
  case none => simp [hflag, throw, throwThe, MonadExceptOf.throw] at h
  case some row =>
    cases hattempt : db.recorderSaveAttempts.find? (·.id = attempt)
    case none => simp [hflag, hattempt, throw, throwThe, MonadExceptOf.throw] at h
    case some row' =>
      simp only [hflag, hattempt, bind_eq_ok_iff, ensure_eq_ok_iff, exists_const] at h
      obtain ⟨_, h⟩ := h
      split at h
      case h_1 =>
        cases h
        exact ⟨{ refl db with manualFlagSaves := List.subset_cons_self _ _ }, _,
          List.mem_cons_self, rfl, rfl⟩
      case h_2 existing hexisting =>
        simp only [bind_eq_ok_iff, ensure_eq_ok_iff, exists_const, pure_eq_ok_iff] at h
        obtain ⟨_, rfl⟩ := h
        have hjoin := List.find?_some hexisting
        simp only [Bool.and_eq_true, decide_eq_true_eq] at hjoin
        exact ⟨refl db, existing, List.mem_of_find?_eq_some hexisting, hjoin⟩

theorem finalizeCapturedClip {provenance : String} {r : ClipId × Database}
    (h : finalizeCapturedClip attempt sha256 startNs endNs provenance now db = .ok r) :
    Retains db r.2 := by
  unfold Storage.finalizeCapturedClip at h
  simp only [bind_eq_ok_iff, ensure_eq_ok_iff, exists_const] at h
  obtain ⟨_, _, h⟩ := h
  split at h
  case h_1 =>
    simp only [bind_eq_ok_iff, ensure_eq_ok_iff, exists_const, pure_eq_ok_iff] at h
    exact h.2 ▸ refl db
  case h_2 =>
    simp only [bind_eq_ok_iff, ensure_eq_ok_iff, exists_const] at h
    obtain ⟨_, h⟩ := h
    split at h
    case h_1 => simp [throw, throwThe, MonadExceptOf.throw] at h
    case h_2 =>
      simp only [bind_eq_ok_iff, ensure_eq_ok_iff, exists_const, pure_eq_ok_iff] at h
      obtain ⟨_, rfl⟩ := h
      exact { refl db with
        recorderSaveAttempts := update fun _ _ => ⟨rfl, rfl, rfl, fun _ => .inr rfl⟩ }

theorem completeClipModelMetadata {clip : ClipId} {durationMs : Nat}
    {origin : DurableClipOriginInput} {r : Unit × Database}
    (h : completeClipModelMetadata clip durationMs origin db = .ok r) : Retains db r.2 := by
  obtain ⟨_, _, _, _, _, _, _, rfl⟩ := completeClipModelMetadata_eq_ok_iff.mp h
  exact { refl db with }

end Retains

-- A statement that is made next to the calls of live capture, and may fail.
def Statement.writer {α : Type} (op : Statement α) (h : ∀ db r, op db = .ok r → Retains db r.2) :
    Writer where
  write db   := (op.perform db).2
  retains db := by
    unfold Statement.perform
    cases hop : op db
    case error => exact .refl db
    case ok r => exact h db r hop

end Storage
