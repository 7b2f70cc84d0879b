import OpenFrag.Library.Outcome
import OpenFrag.Storage.Derivatives
import OpenFrag.Storage.Theorems.Review

open Except Table MachineInt

namespace Storage

variable {fails : DerivativeStep → Bool} {request : DerivativeClipCommit} {clock : DerivativeClock}
variable {s s' : Store} {source : DurableClipModelRecord} {staged : StagedFile} {id : ClipId}

-- The file at a path after an operation on files.
theorem fileAt_filter_ne (files : List File) (path other : ArtifactPath) :
    fileAt (files.filter (·.path ≠ path)) other =
      if other = path then none else fileAt files other := by
  induction files
  case nil => simp [fileAt]
  case cons file files ih =>
    simp only [fileAt] at ih ⊢
    by_cases hfile : file.path = path <;> by_cases hother : file.path = other <;> simp_all

@[simp]
theorem Store.fileAt_removeFile (s : Store) (path other : ArtifactPath) :
    fileAt (s.removeFile path).files other =
      if other = path then none else fileAt s.files other :=
  fileAt_filter_ne s.files path other

@[simp]
theorem Store.fileAt_promote (s : Store) (staged : StagedFile) (path other : ArtifactPath) :
    fileAt (s.promote staged path).files other =
      if other = path then some ⟨path, staged.content⟩ else fileAt s.files other := by
  have hkept := fileAt_filter_ne s.files path other
  by_cases h : other = path
  · simp [fileAt, Store.promote, h]
  · rw [if_neg h] at hkept ⊢
    rw [← hkept]
    simp [fileAt, Store.promote, Ne.symm h]

@[simp]
theorem reach_eq_ok_iff {step : DerivativeStep} {u : Unit} :
    reach fails step = .ok u ↔ fails step = false := by
  simp [reach]

-- What the checks of a commit ask for.
structure Checked (fails : DerivativeStep → Bool) (request : DerivativeClipCommit) (s : Store)
    (source : DurableClipModelRecord) (staged : StagedFile) : Prop where
  metadata  : validateReviewMetadata (some request.title) (some request.note) request.tags = .ok ()
  trim      : request.trimStartMs < request.trimEndMs
  read      : fails .readSource = false
  model     : durableClipModel s request.sourceClipId = .ok source
  within    : request.trimEndMs ≤ source.durationMs
  artifact  : fails .readArtifact ∨ ¬hasArtifact s.db request.staged.sha256
  extension : '/' ∉ request.extension.toList ∧ '\\' ∉ request.extension.toList
  duration  : request.durationMs ≠ 0 ∧ Signed 64 request.durationMs
  start     : Signed 64 request.trimStartMs
  stop      : Signed 64 request.trimEndMs
  bytes     : Signed 64 request.staged.byteLength
  directory : fails .createDirectory = false
  target    : fails .lookAtTarget ∨ (fileAt s.files request.target).isNone
  rename    : fails .rename = false
  file      : s.staging.find? (·.name = request.staged.name) = some staged

theorem checkDerivative_eq_ok_iff :
    checkDerivative fails request s = .ok (source, staged) ↔
      Checked fails request s source staged := by
  simp only [checkDerivative, bind_eq_ok_iff, ensure_eq_ok_iff, reach_eq_ok_iff, exists_const]
  simp only [Unique.exists_iff]
  cases hfile : s.staging.find? (·.name = request.staged.name)
  case none =>
    refine iff_of_false (by simp) fun h => ?_
    simpa [hfile] using h.file
  case some found =>
    simp only [pure_eq_ok_iff, Prod.mk.injEq]
    constructor
    · rintro ⟨metadata, trim, read, _, model, within, artifact, extension, duration, start, stop,
        bytes, directory, target, rename, rfl, rfl⟩
      exact ⟨metadata, trim, read, model, within, artifact, extension, duration, start, stop,
        bytes, directory, target, rename, hfile⟩
    · intro h
      have hfound : found = staged := by simpa [hfile] using h.file
      exact ⟨h.metadata, h.trim, h.read, source, h.model, h.within, h.artifact, h.extension,
        h.duration, h.start, h.stop, h.bytes, h.directory, h.target, h.rename, rfl, hfound⟩

-- The database with the rows of a derivative.
def withDerivative (request : DerivativeClipCommit) (clock : DerivativeClock)
    (source : DurableClipModelRecord) (db : Database) : Database :=
  let derived := fresh (db.clips.map (·.id))
  { db with
    artifacts          := derivativeArtifact request clock :: db.artifacts
    clips              := derivativeClip request clock source derived :: db.clips
    clipTags           := retagged derived request.tags db.clipTags
    clipOriginReceipts := (db.clipOriginReceipts.filter (·.clipId = request.sourceClipId)).map
        (fun row => { row with clipId := derived }) ++ db.clipOriginReceipts
    clipDerivations    := ⟨derived, request.sourceClipId, "trim", some request.trimStartMs,
      some request.trimEndMs, clock.derivationCreated⟩ :: db.clipDerivations }

-- The steps of the transaction.
def transactionSteps : List DerivativeStep :=
  [.begin, .insertArtifact, .insertClip, .insertTags, .insertReceipts, .insertDerivation, .commit]

theorem insertDerivative_eq_ok_iff {db : Database} {r : ClipId × Database} :
    insertDerivative fails request clock source db = .ok r ↔
      (∀ step ∈ transactionSteps, fails step = false) ∧
      (¬hasArtifact db request.staged.sha256) ∧
      (¬db.artifacts.any (·.relativePath = some request.target)) ∧
      (∀ flagTimeMs ∈ source.origin.flagTimeMs, Signed 64 flagTimeMs) ∧ 0 ≤ clock.reviewed ∧
      (∀ tag ∈ request.tags, hasText tag) ∧
      (fresh (db.clips.map (·.id)), withDerivative request clock source db) = r := by
  simp only [insertDerivative, bind_eq_ok_iff, ensure_eq_ok_iff, reach_eq_ok_iff, exists_const,
    replaceClipTags_eq_ok_iff, and_assoc, exists_and_left, exists_eq_left', pure_eq_ok_iff,
    transactionSteps, List.forall_mem_cons, withDerivative]
  tauto

-- A commit that succeeds has moved the file and added the rows.
theorem commitClipDerivative_ok (h : commitClipDerivative fails request clock s = .ok id s') :
    ∃ source staged, checkDerivative fails request s = .ok (source, staged) ∧
      ∃ db, insertDerivative fails request clock source s.db = .ok (id, db) ∧
        s' = { s.promote staged request.target with db } := by
  unfold commitClipDerivative at h
  split at h
  case h_1 => cases h
  case h_2 source staged hcheck =>
    split at h
    case h_1 => cases h
    case h_2 =>
      split at h
      case h_1 => cases h
      case h_2 derived db hinsert =>
        cases h
        exact ⟨source, staged, hcheck, db, hinsert, rfl⟩

-- A commit that fails leaves the database as it was, and has at most moved the file.
theorem commitClipDerivative_error {e : Error}
    (h : commitClipDerivative fails request clock s = .error e s') :
    s' = s ∨ ∃ source staged, checkDerivative fails request s = .ok (source, staged) ∧
      (s' = s.promote staged request.target ∨
        s' = (s.promote staged request.target).removeFile request.target) := by
  unfold commitClipDerivative at h
  split at h
  case h_1 =>
    cases h
    exact .inl rfl
  case h_2 source staged hcheck =>
    refine .inr ⟨source, staged, hcheck, ?_⟩
    split at h
    case h_1 =>
      cases h
      exact .inl rfl
    case h_2 =>
      split at h
      case h_1 =>
        cases h
        split
        case isTrue => exact .inl rfl
        case isFalse => exact .inr rfl
      case h_2 => cases h

end Storage
