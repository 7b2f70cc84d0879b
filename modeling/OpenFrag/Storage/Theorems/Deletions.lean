import OpenFrag.Storage.Deletions
import OpenFrag.Storage.Theorems.Derivatives
import OpenFrag.Storage.Theorems.Review
import OpenFrag.Storage.Theorems.Saves

open Except Machine Table

namespace Storage

variable {gone gone' : List ArtifactPath} {s s' : Store} {db : Database} {clip : ClipId}
variable {attempt : SaveAttemptId} {sha256 : Digest} {provenance : String} {now now' : Int}
variable {fails : DeletionStep → Bool}

theorem isPresent_iff : isPresent db sha256 ↔
    ∃ row ∈ db.artifacts, row.sha256 = sha256 ∧ row.availability = .present := by
  simp [isPresent]

theorem isUndeleted_iff {row : ClipRow} :
    isUndeleted clip row ↔ row.id = clip ∧ row.deletedAtMs = none := by
  simp [isUndeleted]

theorem ClipRow.isLive_iff {row : ClipRow} : row.isLive ↔ row.disposition ≠ "deleted" := by
  simp [ClipRow.isLive]

theorem any_isLive_iff : db.clips.any (isLive clip) ↔
    ∃ row ∈ db.clips, row.id = clip ∧ row.isLive := by
  simp [isLive, ClipRow.isLive]

theorem mem_liveClips {row : ClipRow} : row ∈ liveClips db sha256 ↔
    row ∈ db.clips ∧ row.artifactSha256 = sha256 ∧ row.deletedAtMs = none := by
  simp [liveClips]

theorem safeArtifactPath_ok {files : List File} {relativePath path : ArtifactPath}
    {byteLength : Int} (h : safeArtifactPath files sha256 relativePath byteLength = .ok path) :
    path = relativePath := by
  unfold safeArtifactPath at h
  split at h
  case h_1 =>
    simp only [bind_eq_ok_iff, ensure_eq_ok_iff, exists_const] at h
    obtain ⟨_, h⟩ := h
    split at h
    case h_1 => simp at h
    case h_2 =>
      simp only [bind_eq_ok_iff, ensure_eq_ok_iff, exists_const, pure_eq_ok_iff] at h
      exact h.2.2.symm
  case h_2 => simp at h

theorem ArtifactRow.info_present_iff {row : ArtifactRow} :
    row.info.availability = .present ↔ row.availability = .present := by
  cases ha : row.availability
  case missing =>
    simp only [ArtifactRow.info, ha]
    split <;> simp
  all_goals simp [ArtifactRow.info, ha]

@[simp]
theorem ArtifactRow.info_relativePath (row : ArtifactRow) :
    row.info.relativePath = row.relativePath := rfl

@[simp]
theorem ArtifactRow.info_byteLength (row : ArtifactRow) :
    row.info.byteLength = row.byteLength := rfl

-- What a save does to the clips and the artifacts: it may make a clip of an artifact.
theorem createClip_cases {r : ClipId × Database}
    (h : createClip attempt provenance now db = .ok r) : r.2 = db ∨
      ∃ sha256 session links, verifiedArtifact db attempt = some sha256 ∧
        provenance ∈ ["raw_auto", "raw_manual"] ∧ r.2 = { db with
          clips := capturedClip (fresh (db.clips.map (·.id))) sha256 session provenance now ::
            db.clips
          saveAttemptClips := links } := by
  simp only [createClip, bind_eq_ok_iff, ensure_eq_ok_iff, exists_const] at h
  obtain ⟨hprovenance, h⟩ := h
  split at h
  case h_1 =>
    simp only [bind_eq_ok_iff, ensure_eq_ok_iff, exists_const, pure_eq_ok_iff] at h
    exact .inl (congrArg Prod.snd h.2.symm)
  case h_2 =>
    split at h
    case h_1 => simp at h
    case h_2 row hrow =>
      split at h
      case h_1 => simp at h
      case h_2 sha256 hverified =>
        simp only [bind_eq_ok_iff, ensure_eq_ok_iff, exists_const, pure_eq_ok_iff] at h
        obtain ⟨hnone, rfl⟩ := h
        refine .inr ⟨sha256, row.captureSessionId, _, ?_, hprovenance, rfl⟩
        rw [verifiedArtifact, if_neg hnone, hrow]
        exact hverified

theorem createClip_verified (now : Int) (hprovenance : provenance ∈ ["raw_auto", "raw_manual"])
    (h : verifiedArtifact db attempt = some sha256) : ∃ session links,
      createClip attempt provenance now db = .ok (fresh (db.clips.map (·.id)), { db with
        clips := capturedClip (fresh (db.clips.map (·.id))) sha256 session provenance now ::
          db.clips
        saveAttemptClips := links }) := by
  unfold verifiedArtifact at h
  split at h
  case isTrue => cases h
  case isFalse hnone =>
    obtain ⟨row, hrow, hverified⟩ := Option.bind_eq_some_iff.mp h
    have hexisting : existingClip db attempt = none := by
      have hlink : db.saveAttemptClips.find? (·.saveAttemptId = attempt) = none := by
        simpa using hnone
      simp [existingClip, hlink]
    refine ⟨row.captureSessionId, ⟨attempt, fresh (db.clips.map (·.id))⟩ :: db.saveAttemptClips, ?_⟩
    simp only [createClip, bind_eq_ok_iff, ensure_eq_ok_iff, exists_const, hexisting, hrow,
      hverified, pure_eq_ok_iff]
    exact ⟨hprovenance, hnone, trivial⟩

-- The clip that a save has made, if it has made one.
structure Made (db db' : Database) (row : ClipRow) : Prop where
  clips     : db'.clips = row :: db.clips
  artifacts : db'.artifacts = db.artifacts
  id        : row.id = fresh (db.clips.map (·.id))
  live      : row.isLive
  undeleted : row.deletedAtMs = none

theorem capturedClip_made {db' : Database} {session : CaptureSessionId}
    (hclips : db'.clips = capturedClip (fresh (db.clips.map (·.id))) sha256 session provenance now ::
      db.clips) (hartifacts : db'.artifacts = db.artifacts) :
    Made db db'
      (capturedClip (fresh (db.clips.map (·.id))) sha256 session provenance now) where
  clips     := hclips
  artifacts := hartifacts
  id        := rfl
  live      := by simp [ClipRow.isLive, capturedClip]
  undeleted := rfl

-- The artifact of which a save may make a clip.
def SaveCall.source (db : Database) : SaveCall → Digest → Prop
  | .createClip attempt provenance _, sha256 =>
    provenance ∈ ["raw_auto", "raw_manual"] ∧ verifiedArtifact db attempt = some sha256
  | _, sha256 => isPresent db sha256

def SaveCall.Changes (call : SaveCall) (db db' : Database) : Prop :=
  (db'.clips = db.clips ∧ db'.artifacts = db.artifacts) ∨
    ∃ row, Made db db' row ∧ call.source db row.artifactSha256

theorem SaveCall.serve_changes (call : SaveCall) (db : Database) :
    call.Changes db (call.serve db).2 := by
  cases call
  all_goals
    apply answering_after (P := fun _ db' => Changes _ db db') (fun _ _ => .inl ⟨rfl, rfl⟩)
    intro _ _ hop
  case requestSave =>
    rcases requestSave_eq_ok_iff.mp hop with ⟨_, _, heq⟩ | ⟨_, _, heq⟩ <;> cases heq <;>
      exact .inl ⟨rfl, rfl⟩
  case acknowledgeSave => cases hop; exact .inl ⟨rfl, rfl⟩
  case failSave => cases hop; exact .inl ⟨rfl, rfl⟩
  case completeSave =>
    obtain ⟨_, _, heq⟩ := completeSave_eq_ok_iff.mp hop
    cases heq
    exact .inl ⟨rfl, rfl⟩
  case createClip attempt provenance now id db' =>
    rcases createClip_cases hop with heq | ⟨sha256, session, links, hverified, hprovenance, heq⟩
    · cases heq
      exact .inl ⟨rfl, rfl⟩
    · cases heq
      exact .inr ⟨_, capturedClip_made rfl rfl, hprovenance, hverified⟩
  case finalizeCapturedClip =>
    obtain ⟨_, _, hop⟩ := finalizeCapturedClip_eq_ok_iff.mp hop
    split at hop
    case h_1 =>
      cases hop.2
      exact .inl ⟨rfl, rfl⟩
    case h_2 =>
      obtain ⟨hpresent, row, _, _, heq⟩ := hop
      cases heq
      exact .inr ⟨_, capturedClip_made rfl rfl, hpresent⟩

-- The clips that stay live when one is deleted.
theorem mem_liveClips_deleteClipRow {row : ClipRow} :
    row ∈ liveClips (s.deleteClipRow clip now).db sha256 ↔
      row ∈ liveClips s.db sha256 ∧ row.id ≠ clip := by
  simp only [mem_liveClips, Store.deleteClipRow, mem_update]
  constructor
  · rintro ⟨⟨old, hold, rfl⟩, hsha, hnone⟩
    split at hnone
    case isTrue => simp at hnone
    case isFalse h =>
      rw [if_neg h] at hsha ⊢
      exact ⟨⟨hold, hsha, hnone⟩, fun hid => h (isUndeleted_iff.mpr ⟨hid, hnone⟩)⟩
  · rintro ⟨⟨hrow, hsha, hnone⟩, hid⟩
    have hkept : ¬isUndeleted clip row := fun h => hid (isUndeleted_iff.mp h).1
    exact ⟨⟨row, hrow, (if_neg hkept).symm⟩, hsha, hnone⟩

theorem liveClips_deleteClipRow_ne_nil : liveClips (s.deleteClipRow clip now).db sha256 ≠ [] ↔
    ∃ other ∈ liveClips s.db sha256, other.id ≠ clip := by
  simp only [ne_eq, List.eq_nil_iff_forall_not_mem, not_forall, not_not,
    mem_liveClips_deleteClipRow]

theorem deletedFile_eq_ok_iff {row : ClipRow} {path? : Option ArtifactPath} :
    deletedFile s row = .ok path? ↔
      if ∃ other ∈ liveClips s.db row.artifactSha256, other.id ≠ row.id then path? = none
      else ∃ artifact, artifactOf s.db row = some artifact ∧
        if artifact.availability = .present then ∃ path, artifact.relativePath = some path ∧
          safeArtifactPath s.files row.artifactSha256 path artifact.byteLength = .ok path ∧
          path? = some path
        else path? = none := by
  have hany : (liveClips s.db row.artifactSha256).any (·.id ≠ row.id) ↔
      ∃ other ∈ liveClips s.db row.artifactSha256, other.id ≠ row.id := by simp
  unfold deletedFile
  simp only [hany]
  split
  case isTrue => exact pure_eq_ok_iff.trans eq_comm
  case isFalse =>
    simp only [bind_eq_ok_iff, artifact_eq_ok_iff, artifactOf]
    constructor
    · rintro ⟨_, ⟨artifact, hartifact, rfl⟩, h⟩
      refine ⟨artifact, hartifact, ?_⟩
      simp only [ne_eq, ArtifactRow.info_present_iff] at h
      by_cases hpresent : artifact.availability = .present
      · simp only [hpresent, not_true, if_false, if_true] at h ⊢
        cases hpath : artifact.relativePath
        case none => simp [hpath] at h
        case some path =>
          simp only [ArtifactRow.info_relativePath, ArtifactRow.info_byteLength, hpath,
            bind_eq_ok_iff, pure_eq_ok_iff] at h
          obtain ⟨safe, hsafe, rfl⟩ := h
          obtain rfl := safeArtifactPath_ok hsafe
          exact ⟨_, rfl, hsafe, rfl⟩
      · simp only [hpresent, not_false_eq_true, if_true, if_false, pure_eq_ok_iff] at h ⊢
        exact h.symm
    · rintro ⟨artifact, hartifact, h⟩
      refine ⟨_, ⟨artifact, hartifact, rfl⟩, ?_⟩
      simp only [ne_eq, ArtifactRow.info_present_iff]
      by_cases hpresent : artifact.availability = .present
      · simp only [hpresent, not_true, if_false, if_true] at h ⊢
        obtain ⟨path, hpath, hsafe, rfl⟩ := h
        simp only [ArtifactRow.info_relativePath, ArtifactRow.info_byteLength, hpath,
          bind_eq_ok_iff, pure_eq_ok_iff]
        exact ⟨path, hsafe, rfl⟩
      · simp only [hpresent, not_false_eq_true, if_true, if_false, pure_eq_ok_iff] at h ⊢
        exact h.symm

-- A store without the file that goes with a clip.
def Store.without (s : Store) : Option ArtifactPath → Store
  | none      => s
  | some path => s.removeFile path

-- How a deletion may end.
inductive Deletes (fails : DeletionStep → Bool) (clip : ClipId) (now now' : Int) (s : Store) :
    EStateM.Result Error Store DeleteResult → Prop
  | refused (e : Error) : Deletes fails clip now now' s (.error e s)
  | shared (row : ClipRow) (hrow : s.db.clips.find? (isUndeleted clip) = some row)
    (hother : ∃ other ∈ liveClips s.db row.artifactSha256, other.id ≠ clip) :
    Deletes fails clip now now' s (.ok ⟨true, false⟩ (s.deleteClipRow clip now))
  | removed (row : ClipRow) (path? : Option ArtifactPath)
    (hrow : s.db.clips.find? (isUndeleted clip) = some row)
    (hlast : ∀ other ∈ liveClips s.db row.artifactSha256, other.id = clip)
    (hpath : deletedFile s row = .ok path?) :
    Deletes fails clip now now' s (.ok ⟨true, true⟩
      (((s.deleteClipRow clip now).without path?).deleteArtifactRow row.artifactSha256 now'))
  | failed (row : ClipRow) (path : ArtifactPath) (e : Error) (s' : Store)
    (hrow : s.db.clips.find? (isUndeleted clip) = some row)
    (hlast : ∀ other ∈ liveClips s.db row.artifactSha256, other.id = clip)
    (hpath : deletedFile s row = .ok (some path)) (hfails : fails .remove ∨ fails .sync)
    (hdb : s'.db = (s.deleteClipRow clip now).db) : Deletes fails clip now now' s (.error e s')

theorem deleteClip_deletes (fails : DeletionStep → Bool) (clip : ClipId) (now now' : Int)
    (s : Store) : Deletes fails clip now now' s (deleteClip fails clip now now' s) := by
  unfold deleteClip
  split
  case h_1 => exact .refused _
  case h_2 row hrow =>
    split
    case h_1 => exact .refused _
    case h_2 path? hpath =>
      dsimp only
      split
      case isTrue hother => exact .shared row hrow (liveClips_deleteClipRow_ne_nil.mp hother)
      case isFalse hnone =>
        have hlast : ∀ other ∈ liveClips s.db row.artifactSha256, other.id = clip := by
          simpa [liveClips_deleteClipRow_ne_nil] using hnone
        cases path?
        case none => exact .removed row none hrow hlast hpath
        case some path =>
          cases hremove : fails .remove
          case true =>
            simp only [removeDeletedFile, hremove]
            exact .failed row path _ _ hrow hlast hpath (.inl hremove) rfl
          case false =>
            cases hsync : fails .sync
            case true =>
              simp only [removeDeletedFile, hremove, hsync]
              exact .failed row path _ _ hrow hlast hpath (.inr hsync) rfl
            case false =>
              simp only [removeDeletedFile, hremove, hsync]
              exact .removed row (some path) hrow hlast hpath

theorem id_of_isUndeleted {row : ClipRow} (h : s.db.clips.find? (isUndeleted clip) = some row) :
    row ∈ s.db.clips ∧ row.id = clip ∧ row.deletedAtMs = none :=
  ⟨List.mem_of_find?_eq_some h, isUndeleted_iff.mp (List.find?_some h)⟩

theorem takesFile_iff {row : ClipRow} (h : s.db.clips.find? (isUndeleted clip) = some row) :
    TakesFile s clip ↔ (∀ other ∈ liveClips s.db row.artifactSha256, other.id = clip) ∧
      ∃ path, deletedFile s row = .ok (some path) := by
  have ⟨_, hid, _⟩ := id_of_isUndeleted h
  simp only [TakesFile, h, Option.mem_def, Option.some.injEq, exists_eq_left']
  refine and_congr_right fun hlast => ?_
  have hnone : ¬∃ other ∈ liveClips s.db row.artifactSha256, other.id ≠ row.id := by
    simpa [hid] using hlast
  simp only [deletedFile_eq_ok_iff, if_neg hnone]
  constructor
  · rintro ⟨artifact, hartifact, hpresent, path, hpath, hsafe⟩
    exact ⟨path, artifact, hartifact, by simpa [hpresent] using ⟨hpath, hsafe⟩⟩
  · rintro ⟨path, artifact, hartifact, h⟩
    split at h
    case isTrue hpresent =>
      obtain ⟨_, hpath, hsafe, heq⟩ := h
      cases heq
      exact ⟨artifact, hartifact, hpresent, path, hpath, hsafe⟩
    case isFalse => cases h

theorem ArtifactRow.InPlace.mono {files files' : List File} {row : ArtifactRow}
    (h : row.InPlace gone files) (hgone : ∀ path ∈ gone, path ∈ gone')
    (hfiles : ∀ path ∈ row.relativePath, (fileAt files path).isSome →
      path ∈ gone' ∨ (fileAt files' path).isSome) : row.InPlace gone' files' := by
  obtain ⟨path, hpath, hfile⟩ := h
  refine ⟨path, hpath, ?_⟩
  cases hfile
  case inl hold => exact .inl (hgone path hold)
  case inr hfile => exact hfiles path hpath hfile

-- What is asked of a clip: that it is deleted in both columns or in none, and that its artifact is
-- present when it is live.
structure ClipRow.Sound (db : Database) (clip : ClipRow) : Prop where
  marked : clip.disposition = "deleted" ↔ clip.deletedAtMs.isSome
  held   : clip.isLive → isPresent db clip.artifactSha256

theorem ClipRow.Sound.isLive_iff {row : ClipRow} (h : row.Sound db) :
    row.isLive ↔ row.deletedAtMs = none := by
  rw [ClipRow.isLive_iff, ne_eq, h.marked]
  simp

namespace ClipsSound

theorem sound (h : ClipsSound gone s) {row : ClipRow} (hrow : row ∈ s.db.clips) :
    row.Sound s.db where
  marked := h.kept.marked row hrow
  held   := by
    intro hlive
    obtain ⟨artifact, hmem, hsha, hpresent, _⟩ := h.kept.held row hrow hlive
    exact isPresent_iff.mpr ⟨artifact, hmem, hsha, hpresent⟩

theorem of_clips (hclips : (s.db.clips.map (·.id)).Nodup)
    (hartifacts : (s.db.artifacts.map (·.sha256)).Nodup)
    (hpaths : ∀ row ∈ s.db.artifacts, ∀ other ∈ s.db.artifacts, ∀ path ∈ row.relativePath,
      path ∈ other.relativePath → row.sha256 = other.sha256)
    (hpresent : ∀ row ∈ s.db.artifacts, row.availability = .present → row.InPlace gone s.files)
    (hsound : ∀ row ∈ s.db.clips, row.Sound s.db) : ClipsSound gone s where
  clips     := hclips
  artifacts := hartifacts
  paths     := hpaths
  present   := hpresent
  kept      := {
    marked := fun row hrow => (hsound row hrow).marked
    held   := by
      intro row hrow hlive
      obtain ⟨artifact, hmem, hsha, hhere⟩ := isPresent_iff.mp ((hsound row hrow).held hlive)
      exact ⟨artifact, hmem, hsha, hhere, hpresent artifact hmem hhere⟩ }

-- A change of the clips, and of files that no artifact needs or that are gone.
theorem change (h : ClipsSound gone s) (hartifacts : s'.db.artifacts = s.db.artifacts)
    (hgone : ∀ path ∈ gone, path ∈ gone')
    (hfiles : ∀ path, (fileAt s.files path).isSome → path ∈ gone' ∨ (fileAt s'.files path).isSome)
    (hids : (s'.db.clips.map (·.id)).Nodup) (hsound : ∀ row ∈ s'.db.clips, row.Sound s.db) :
    ClipsSound gone' s' := by
  apply of_clips
  case hclips => exact hids
  case hartifacts => exact hartifacts ▸ h.artifacts
  case hpaths => exact hartifacts ▸ h.paths
  case hpresent =>
    intro row hrow hpresent
    exact (h.present row (hartifacts ▸ hrow) hpresent).mono hgone fun path _ => hfiles path
  case hsound =>
    intro row hrow
    have hrow := hsound row hrow
    refine ⟨hrow.marked, fun hlive => ?_⟩
    simpa only [isPresent, hartifacts] using hrow.held hlive

-- A change that keeps the clips and the artifacts, and loses no file.
theorem keep (h : ClipsSound gone s) (hclips : s'.db.clips = s.db.clips)
    (hartifacts : s'.db.artifacts = s.db.artifacts)
    (hfiles : ∀ path, (fileAt s.files path).isSome → (fileAt s'.files path).isSome) :
    ClipsSound gone s' :=
  h.change hartifacts (fun _ hpath => hpath) (fun path hfile => .inr (hfiles path hfile))
    (hclips ▸ h.clips) fun _ hrow => h.sound (hclips ▸ hrow)

-- A removal from outside.
theorem lose (h : ClipsSound gone s) (path : ArtifactPath) :
    ClipsSound (gone ++ [path]) (s.removeFile path) := by
  have hartifacts : (s.removeFile path).db.artifacts = s.db.artifacts := rfl
  apply h.change hartifacts
  case hgone => exact fun _ hmem => List.mem_append_left _ hmem
  case hfiles =>
    intro other hfile
    by_cases heq : other = path
    · exact .inl (by simp [heq])
    · exact .inr (by simpa [heq] using hfile)
  case hids => exact h.clips
  case hsound => exact fun _ hrow => h.sound hrow

-- A review of live clips that does not delete them.
theorem review (h : ClipsSound gone s) {p : ClipRow → Bool} {f : ClipRow → ClipRow}
    (hclips : s'.db.clips = update p f s.db.clips) (hartifacts : s'.db.artifacts = s.db.artifacts)
    (hfiles : s'.files = s.files) (hp : ∀ row, p row → row.isLive)
    (hf : ∀ row, p row → (f row).artifactSha256 = row.artifactSha256 ∧
      (f row).deletedAtMs = row.deletedAtMs ∧ (f row).isLive)
    (hid : ∀ row, (f row).id = row.id) : ClipsSound gone s' := by
  apply h.change hartifacts (fun _ hpath => hpath)
  case hfiles =>
    intro path hfile
    exact .inr (hfiles ▸ hfile)
  case hids => exact hclips ▸ nodup_update h.clips hid
  case hsound =>
    intro row hrow
    obtain ⟨old, hold, rfl⟩ := mem_update.mp (hclips ▸ hrow)
    have hsound := h.sound hold
    split
    case isFalse => exact hsound
    case isTrue hpold =>
      have ⟨hsha, htime, hlive⟩ := hf old hpold
      have hnone := hsound.isLive_iff.mp (hp old hpold)
      constructor
      case marked =>
        have hnot := ClipRow.isLive_iff.mp hlive
        simp [hnot, htime, hnone]
      case held => exact fun _ => hsha ▸ hsound.held (hp old hpold)

-- A clip that is made of a present artifact.
theorem make (h : ClipsSound gone s) {row : ClipRow} (hmade : Made s.db s'.db row)
    (hfiles : s'.files = s.files) (hpresent : isPresent s.db row.artifactSha256) :
    ClipsSound gone s' := by
  apply h.change hmade.artifacts (fun _ hpath => hpath)
  case hfiles =>
    intro path hfile
    exact .inr (hfiles ▸ hfile)
  case hids =>
    simp only [hmade.clips, List.map_cons, hmade.id]
    exact List.nodup_cons.mpr ⟨fresh_notMem _, h.clips⟩
  case hsound =>
    simp only [hmade.clips, List.forall_mem_cons]
    refine ⟨⟨?_, fun _ => hpresent⟩, fun _ hrow => h.sound hrow⟩
    have hnot := ClipRow.isLive_iff.mp hmade.live
    simp [hnot, hmade.undeleted]

-- The rows of a clip that is deleted.
theorem deleted_sound (h : ClipsSound gone s) {row : ClipRow}
    (hrow : row ∈ (s.deleteClipRow clip now).db.clips) : row.Sound s.db := by
  obtain ⟨old, hold, rfl⟩ := mem_update.mp hrow
  split
  case isTrue => exact ⟨by simp, fun hlive => absurd rfl (ClipRow.isLive_iff.mp hlive)⟩
  case isFalse => exact h.sound hold

theorem deleteClipRow (h : ClipsSound gone s) (clip : ClipId) (now : Int) :
    ClipsSound gone (s.deleteClipRow clip now) := by
  have hartifacts : (s.deleteClipRow clip now).db.artifacts = s.db.artifacts := rfl
  apply h.change hartifacts (fun _ hpath => hpath) (fun _ hfile => .inr hfile)
  case hids => exact nodup_update h.clips fun _ => rfl
  case hsound => exact fun _ hrow => h.deleted_sound hrow

-- A deletion of an artifact without live clips, with its file.
theorem deleteArtifactRow (h : ClipsSound gone s) {path? : Option ArtifactPath}
    (hlast : ∀ row ∈ s.db.clips, row.artifactSha256 = sha256 → ¬row.isLive)
    (hpath : ∀ path ∈ path?, ∃ row ∈ s.db.artifacts, row.sha256 = sha256 ∧
      row.relativePath = some path) :
    ClipsSound gone ((s.without path?).deleteArtifactRow sha256 now) := by
  have hfiles : ∀ path, path ∉ path? →
      fileAt ((s.without path?).deleteArtifactRow sha256 now).files path =
        fileAt s.files path := by
    intro path hne
    cases path?
    case none => rfl
    case some removed =>
      have hne : path ≠ removed := fun heq => hne (by simp [heq])
      exact (s.fileAt_removeFile removed path).trans (if_neg hne)
  have hartifacts : ((s.without path?).deleteArtifactRow sha256 now).db.artifacts =
      (s.deleteArtifactRow sha256 now).db.artifacts := by cases path? <;> rfl
  have hclips : ((s.without path?).deleteArtifactRow sha256 now).db.clips = s.db.clips := by
    cases path? <;> rfl
  apply of_clips
  case hclips => exact hclips ▸ h.clips
  case hartifacts =>
    rw [hartifacts]
    exact nodup_update h.artifacts fun _ => rfl
  case hpaths =>
    rw [hartifacts]
    intro row hrow other hother path hmem hmem'
    obtain ⟨old, hold, rfl⟩ := mem_update.mp hrow
    obtain ⟨old', hold', rfl⟩ := mem_update.mp hother
    have hsame := h.paths old hold old' hold' path
    split at hmem <;> split at hmem' <;> simp_all
  case hpresent =>
    rw [hartifacts]
    intro row hrow hpresent
    obtain ⟨old, hold, rfl⟩ := mem_update.mp hrow
    split at hpresent
    case isTrue => cases hpresent
    case isFalse hsha =>
      rw [if_neg hsha]
      apply (h.present old hold hpresent).mono fun _ hmem => hmem
      intro path hmem hfile
      have hkept : path ∉ path? := by
        intro hremoved
        obtain ⟨row, hrow, hrowsha, hrowpath⟩ := hpath path hremoved
        have hsame := h.paths old hold row hrow path hmem hrowpath
        exact hsha (decide_eq_true (hsame.trans hrowsha))
      exact .inr (by rwa [hfiles path hkept])
  case hsound =>
    rw [hclips]
    intro row hrow
    have hsound := h.sound hrow
    refine ⟨hsound.marked, fun hlive => ?_⟩
    obtain ⟨artifact, hmem, hsha, hpresent⟩ := isPresent_iff.mp (hsound.held hlive)
    have hne : ¬artifact.sha256 = sha256 := fun heq => hlast row hrow (hsha ▸ heq) hlive
    rw [isPresent_iff, hartifacts]
    refine ⟨artifact, mem_update.mpr ⟨artifact, hmem, ?_⟩, hsha, hpresent⟩
    simp [hne]

-- The rows of a derivative are added when its file is in place.
theorem derive (h : ClipsSound gone s) {fails : DerivativeStep → Bool}
    {request : DerivativeClipCommit} {clock : DerivativeClock} {source : DurableClipModelRecord}
    {staged : StagedFile} {id : ClipId}
    (hinsert : insertDerivative fails request clock source s.db = .ok (id, db)) :
    ClipsSound gone { s.promote staged request.target with db } := by
  obtain ⟨_, hsha, hpath, _, _, _, heq⟩ := insertDerivative_eq_ok_iff.mp hinsert
  cases heq
  have hfiles : ∀ path, (fileAt s.files path).isSome →
      (fileAt (s.promote staged request.target).files path).isSome := by
    intro path hfile
    by_cases heq : path = request.target <;> simp [heq, hfile]
  apply of_clips
  case hclips => exact List.nodup_cons.mpr ⟨fresh_notMem _, h.clips⟩
  case hartifacts =>
    refine List.nodup_cons.mpr ⟨?_, h.artifacts⟩
    simpa [hasArtifact, derivativeArtifact] using hsha
  case hpaths =>
    have hnew : ∀ row ∈ s.db.artifacts, request.target ∉ row.relativePath := by
      simpa using hpath
    simp only [withDerivative, derivativeArtifact, List.forall_mem_cons, Option.mem_def,
      Option.some.injEq, forall_eq']
    refine ⟨⟨fun _ => trivial, fun row hrow hmem => absurd hmem (hnew row hrow)⟩, fun row hrow => ?_⟩
    refine ⟨?_, fun other hother => h.paths row hrow other hother⟩
    rintro path hmem rfl
    exact absurd hmem (hnew row hrow)
  case hpresent =>
    simp only [withDerivative, List.forall_mem_cons]
    refine ⟨fun _ => ⟨request.target, rfl, .inr (by simp)⟩, fun row hrow hpresent => ?_⟩
    exact (h.present row hrow hpresent).mono (fun _ hmem => hmem) fun path _ hfile =>
      .inr (hfiles path hfile)
  case hsound =>
    have hgrow : ∀ sha256, isPresent s.db sha256 →
        isPresent (withDerivative request clock source s.db) sha256 := by
      intro sha256 hpresent
      simp only [isPresent, withDerivative, List.any_cons, Bool.or_eq_true] at hpresent ⊢
      exact .inr hpresent
    simp only [withDerivative, List.forall_mem_cons]
    refine ⟨⟨by simp [derivativeClip], fun _ => ?_⟩, fun row hrow => ?_⟩
    · simp [isPresent, derivativeArtifact, derivativeClip]
    · exact ⟨(h.sound hrow).marked, fun hlive => hgrow _ ((h.sound hrow).held hlive)⟩

end ClipsSound

-- The live clips of a store stay live.
def StaysLive (s s' : Store) : Prop :=
  ∀ clip ∈ s.db.clips, clip.isLive → ∃ clip' ∈ s'.db.clips, clip'.id = clip.id ∧ clip'.isLive

namespace StaysLive

theorem refl (s : Store) : StaysLive s s :=
  fun clip hclip hlive => ⟨clip, hclip, rfl, hlive⟩

theorem grow (h : ∀ clip ∈ s.db.clips, clip ∈ s'.db.clips) : StaysLive s s' :=
  fun clip hclip hlive => ⟨clip, h clip hclip, rfl, hlive⟩

theorem review {p : ClipRow → Bool} {f : ClipRow → ClipRow}
    (hclips : s'.db.clips = update p f s.db.clips) (hlive : ∀ row, p row → (f row).isLive)
    (hid : ∀ row, (f row).id = row.id) : StaysLive s s' := by
  intro clip hclip hold
  refine ⟨_, hclips ▸ mem_update.mpr ⟨clip, hclip, rfl⟩, ?_⟩
  split
  case isTrue hp => exact ⟨hid clip, hlive clip hp⟩
  case isFalse => exact ⟨rfl, hold⟩

theorem takesArtifact {step : ClipStep} (h : StaysLive step.before step.after) :
    step.TakesArtifact := by
  intro clip hclip hlive hdead
  obtain ⟨clip', hclip', hid, hlive'⟩ := h clip hclip hlive
  exact absurd hlive' (hdead clip' hclip' hid)

end StaysLive

theorem Statement.on_cases {α : Type} {op : Statement α} {P : Except Error Unit × Store → Prop}
    (herror : ∀ e, P (.error e, s))
    (hok : ∀ r, op s.db = .ok r → P (.ok (), { s with db := r.2 })) : P (op.on s) := by
  cases hop : op s.db
  case error e => simpa [Statement.on, Statement.perform, hop, Except.map] using herror e
  case ok r => simpa [Statement.on, Statement.perform, hop, Except.map] using hok r hop

theorem asStr_isLive {disposition : ClipDisposition} (h : disposition ≠ .deleted) :
    disposition.asStr ≠ "deleted" := by
  cases disposition
  case deleted => exact absurd rfl h
  all_goals decide

theorem reviewed_isLive {title note : Option String} {decision : ClipReviewDecision}
    {favorite : Bool} {revision : Option Int} (row : ClipRow) :
    (reviewed title note decision favorite revision now row).isLive := by
  rw [ClipRow.isLive_iff]
  apply asStr_isLive
  cases decision <;> simp [reviewDisposition]

-- A clip that a deletion kills is the one that it is about.
theorem ClipsSound.killed (h : ClipsSound gone s) {row other : ClipRow}
    (hrow : s.db.clips.find? (isUndeleted clip) = some row) (hother : other ∈ s.db.clips)
    (hlive : other.isLive)
    (hdead : ∀ row' ∈ (s.deleteClipRow clip now).db.clips, row'.id = other.id → ¬row'.isLive) :
    other = row := by
  have ⟨hmem, hid, _⟩ := id_of_isUndeleted hrow
  by_cases hmarked : isUndeleted clip other
  · have hother' := (isUndeleted_iff.mp hmarked).1
    exact List.inj_on_of_nodup_map h.clips hother hmem (hother'.trans hid.symm)
  · have hkept : other ∈ (s.deleteClipRow clip now).db.clips :=
      mem_update.mpr ⟨other, hother, (if_neg hmarked).symm⟩
    exact absurd hlive (hdead other hkept rfl)

-- What a call does: the store stays sound, and the promises about deletion are kept.
structure ClipStep.Good (gone : List ArtifactPath) (step : ClipStep) : Prop where
  sound  : ClipsSound gone step.after
  takes  : step.TakesArtifact
  spares : step.SparesClip

namespace ClipStep

theorem Good.of_live {step : ClipStep} (hsound : ClipsSound gone step.after)
    (hlive : StaysLive step.before step.after) : step.Good gone where
  sound  := hsound
  takes  := hlive.takesArtifact
  spares := by
    unfold SparesClip
    split
    case h_1 =>
      intro hany
      obtain ⟨row, hrow, hid, hrowlive⟩ := any_isLive_iff.mp hany
      obtain ⟨row', hrow', hid', hlive'⟩ := hlive row hrow hrowlive
      exact any_isLive_iff.mpr ⟨row', hrow', hid'.trans hid, hlive'⟩
    case h_2 => trivial

theorem good_deleteClip (h : ClipsSound gone s)
    (hclean : TakesFile s clip → ¬fails .remove ∧ ¬fails .sync) :
    Good gone (step ClipCall.serve s (.deleteClip fails clip now now')) := by
  have hends := deleteClip_deletes fails clip now now' s
  simp only [step, ClipCall.serve, Action.on]
  generalize deleteClip fails clip now now' s = result at hends ⊢
  cases hends
  case refused e => exact .of_live h (.refl s)
  case shared row hrow hother =>
    refine ⟨h.deleteClipRow clip now, ?_, trivial⟩
    intro other hmem hlive hdead hlast
    obtain rfl := h.killed hrow hmem hlive hdead
    obtain ⟨kept, hkept, hid⟩ := hother
    have hstays : kept ∈ liveClips (s.deleteClipRow clip now).db other.artifactSha256 :=
      mem_liveClips_deleteClipRow.mpr ⟨hkept, hid⟩
    obtain ⟨hkept, hsha, hnone⟩ := mem_liveClips.mp hkept
    have hkeptlive := (h.sound hkept).isLive_iff.mpr hnone
    exact absurd hkeptlive (hlast kept (mem_liveClips.mp hstays).1 hsha)
  case removed row path? hrow hlast hpath =>
    have hmarked := h.deleteClipRow clip now
    have hdead : ∀ other ∈ (s.deleteClipRow clip now).db.clips,
        other.artifactSha256 = row.artifactSha256 → ¬other.isLive := by
      intro other hother hsha hlive
      have hnone := (hmarked.sound hother).isLive_iff.mp hlive
      have hlives := mem_liveClips_deleteClipRow.mp (mem_liveClips.mpr ⟨hother, hsha, hnone⟩)
      exact hlives.2 (hlast other hlives.1)
    refine ⟨hmarked.deleteArtifactRow hdead ?_, ?_, trivial⟩
    · intro path hmem
      obtain rfl := hmem
      rw [deletedFile_eq_ok_iff] at hpath
      split at hpath
      case isTrue => cases hpath
      case isFalse =>
        obtain ⟨artifact, hartifact, hpath⟩ := hpath
        split at hpath
        case isFalse => cases hpath
        case isTrue =>
          obtain ⟨_, hrelative, _, heq⟩ := hpath
          cases heq
          exact ⟨artifact, List.mem_of_find?_eq_some hartifact,
            by simpa using List.find?_some hartifact, hrelative⟩
    · intro other hmem hlive hkilled _ artifact hartifact hsha
      have hclips : (((s.deleteClipRow clip now).without path?).deleteArtifactRow
          row.artifactSha256 now').db.clips = (s.deleteClipRow clip now).db.clips := by
        cases path? <;> rfl
      have hartifacts : (((s.deleteClipRow clip now).without path?).deleteArtifactRow
          row.artifactSha256 now').db.artifacts =
            (s.deleteArtifactRow row.artifactSha256 now').db.artifacts := by
        cases path? <;> rfl
      obtain rfl := h.killed hrow hmem hlive (hclips ▸ hkilled)
      obtain ⟨old, _, rfl⟩ := mem_update.mp (hartifacts ▸ hartifact)
      split at hsha
      case isTrue hsame => rw [if_pos hsame]
      case isFalse hne => exact absurd (decide_eq_true hsha) hne
  case failed row path e s' hrow hlast hpath hfails hdb =>
    obtain ⟨hremove, hsync⟩ := hclean ((takesFile_iff hrow).mpr ⟨hlast, path, hpath⟩)
    exact absurd hfails (by simp [hremove, hsync])

-- A commit of a derivative: only the removal of its file may fail on its own.
theorem good_commitClipDerivative (h : ClipsSound gone s) (removalFails : Bool)
    (request : DerivativeClipCommit) (clock : DerivativeClock) :
    Good gone (step ClipCall.serve s (.commitClipDerivative removalFails request clock)) := by
  simp only [step, ClipCall.serve, Action.on]
  cases hcommit : commitClipDerivative (fun step => removalFails && step = .removeTarget) request
    clock s
  case ok id s' =>
    obtain ⟨source, staged, _, db, hinsert, rfl⟩ := commitClipDerivative_ok hcommit
    apply Good.of_live (h.derive hinsert)
    obtain ⟨_, _, _, _, _, _, heq⟩ := insertDerivative_eq_ok_iff.mp hinsert
    cases heq
    exact .grow fun _ hclip => List.mem_cons_of_mem _ hclip
  case error e s' =>
    have hkeep : s'.db = s.db ∧
        ∀ path, (fileAt s.files path).isSome → (fileAt s'.files path).isSome := by
      rcases commitClipDerivative_error hcommit with rfl | ⟨source, staged, hcheck, hmoved⟩
      · exact ⟨rfl, fun _ hfile => hfile⟩
      · have hnone : fileAt s.files request.target = none := by
          simpa using (checkDerivative_eq_ok_iff.mp hcheck).target
        rcases hmoved with rfl | rfl
        all_goals
          refine ⟨rfl, fun path hfile => ?_⟩
          have hne : path ≠ request.target := by
            rintro rfl
            simp [hnone] at hfile
          simpa [hne] using hfile
    apply Good.of_live (h.keep (congrArg _ hkeep.1) (congrArg _ hkeep.1) hkeep.2)
    exact .grow fun _ hclip => hkeep.1 ▸ hclip

theorem good_save (h : ClipsSound gone s) {call : SaveCall} (hclean : (ClipCall.save call).clean s) :
    Good gone (step ClipCall.serve s (.save call)) := by
  rcases call.serve_changes s.db with ⟨hclips, hartifacts⟩ | ⟨row, hmade, hsource⟩
  · apply Good.of_live (h.keep hclips hartifacts fun _ hfile => hfile)
    exact .grow fun _ hclip => hclips ▸ hclip
  · have hpresent : isPresent s.db row.artifactSha256 := by
      cases call
      case createClip attempt provenance now => exact hclean hsource.1 _ hsource.2
      all_goals exact hsource
    apply Good.of_live (h.make hmade rfl hpresent)
    exact .grow fun _ hclip => hmade.clips ▸ List.mem_cons_of_mem _ hclip

-- A review that does not delete.
theorem good_review (h : ClipsSound gone s) {α : Type} {op : Statement α} {call : ClipCall}
    (hcall : call.serve s = op.on s) {p : ClipRow → Bool} {f : ClipRow → ClipRow}
    (hop : ∀ r, op s.db = .ok r → ∃ tags, r.2 = { s.db with
      clips := update p f s.db.clips, clipTags := tags })
    (hp : ∀ row, p row → row.isLive) (hid : ∀ row, (f row).id = row.id)
    (hf : ∀ row, p row → (f row).artifactSha256 = row.artifactSha256 ∧
      (f row).deletedAtMs = row.deletedAtMs ∧ (f row).isLive) :
    Good gone (step ClipCall.serve s call) := by
  simp only [step, hcall]
  apply Statement.on_cases (P := fun r => Good gone ⟨s, call, r.1, r.2⟩)
  case herror => exact fun _ => .of_live h (.refl s)
  case hok =>
    intro r hr
    obtain ⟨tags, htags⟩ := hop r hr
    apply Good.of_live
    case hsound => exact h.review (by rw [htags]) (by rw [htags]) rfl hp hf hid
    case hlive => exact .review (by rw [htags]) (fun row hrow => (hf row hrow).2.2) hid

end ClipStep

theorem isLive_of_isLive {row : ClipRow} (h : isLive clip row) : row.isLive :=
  ClipRow.isLive_iff.mpr (isLive_iff.mp h).2

-- A clean call keeps the promises. A removal from outside takes a file.
theorem ClipCall.serve_good (h : ClipsSound gone s) {call : ClipCall} (hclean : call.clean s) :
    ClipStep.Good (gone ++ removedOutside [step ClipCall.serve s call])
      (step ClipCall.serve s call) := by
  have hsame : ∀ call', (∀ path, call' ≠ ClipCall.removeFile path) →
      gone ++ removedOutside [step ClipCall.serve s call'] = gone := by
    intro call' hne
    cases call' <;> simp_all [removedOutside, step]
  cases call
  case removeFile path =>
    exact .of_live (h.lose path) (.grow fun _ hclip => hclip)
  all_goals rw [hsame _ (by simp)]
  case save call => exact ClipStep.good_save h hclean
  case commitClipDerivative removalFails request clock =>
    exact ClipStep.good_commitClipDerivative h removalFails request clock
  case deleteClip => exact ClipStep.good_deleteClip h hclean
  case setClipReview clip disposition title favorite now =>
    by_cases hdisposition : disposition = .deleted
    · subst hdisposition
      simp only [step, ClipCall.serve]
      apply Statement.on_cases (P := fun r => ClipStep.Good gone ⟨s, _, r.1, r.2⟩)
      case herror => exact fun _ => .of_live h (.refl s)
      case hok =>
        intro r hr
        obtain ⟨hany, hnow, _⟩ := setClipReview_eq_ok_iff.mp hr
        exact absurd ⟨hany, hnow⟩ hclean
    · apply ClipStep.good_review h rfl (p := isLive clip)
        (f := setReview disposition title favorite now)
      case hop =>
        intro r hr
        obtain ⟨_, _, rfl⟩ := setClipReview_eq_ok_iff.mp hr
        exact ⟨s.db.clipTags, rfl⟩
      case hp => exact fun _ hrow => isLive_of_isLive hrow
      case hid => exact fun _ => rfl
      case hf =>
        exact fun _ _ => ⟨rfl, rfl, ClipRow.isLive_iff.mpr (asStr_isLive hdisposition)⟩
  case updateClipReview clip title note tags decision favorite now =>
    apply ClipStep.good_review h rfl (p := isLive clip)
      (f := updatedReview title note decision favorite now)
    case hop =>
      intro r hr
      obtain ⟨_, _, _, _, rfl⟩ := updateClipReview_eq_ok_iff.mp hr
      exact ⟨_, rfl⟩
    case hp => exact fun _ hrow => isLive_of_isLive hrow
    case hid => exact fun _ => rfl
    case hf => exact fun row _ => ⟨rfl, rfl, reviewed_isLive row⟩
  case compareAndSwapClipReview clip expectedRevision title note tags decision favorite now =>
    apply ClipStep.good_review h rfl (p := isAtRevision clip expectedRevision)
      (f := reviewed title note decision favorite (some (expectedRevision + 1)) now)
    case hop =>
      intro r hr
      obtain ⟨_, _, _, _, _, rfl⟩ := compareAndSwapClipReview_eq_ok_iff.mp hr
      exact ⟨_, rfl⟩
    case hp => exact fun _ hrow => isLive_of_isLive (isAtRevision_iff.mp hrow).1
    case hid => exact fun _ => rfl
    case hf => exact fun row _ => ⟨rfl, rfl, reviewed_isLive row⟩

-- A deletion whose file is not removed fails with its clip deleted.
theorem deleteClip_failed (now now' : Int) (h : TakesFile s clip) (hfails : fails .remove ∨ fails .sync) :
    ∃ e s', deleteClip fails clip now now' s = .error e s' ∧
      s'.db = (s.deleteClipRow clip now).db := by
  obtain ⟨row, hrow, _⟩ := id h
  have ⟨hlast, path, hpath⟩ := (takesFile_iff hrow).mp h
  have hnone : ¬liveClips (s.deleteClipRow clip now).db row.artifactSha256 ≠ [] := by
    simpa [liveClips_deleteClipRow_ne_nil] using hlast
  simp only [deleteClip, Option.mem_def.mp hrow, hpath, if_neg hnone]
  cases hremove : fails .remove
  case true =>
    refine ⟨.io "remove file", s.deleteClipRow clip now, ?_, rfl⟩
    simp only [removeDeletedFile, hremove]
    rfl
  case false =>
    have hsync : fails .sync = true := by simpa [hremove] using hfails
    refine ⟨.io "sync directory", (s.deleteClipRow clip now).removeFile path, ?_, rfl⟩
    simp only [removeDeletedFile, hremove, hsync]
    rfl

theorem deleteClipRow_not_isLive (h : ClipsSound gone s) :
    ¬(s.deleteClipRow clip now).db.clips.any (isLive clip) := by
  rw [any_isLive_iff]
  rintro ⟨row, hrow, hid, hlive⟩
  have hnone := ((h.deleteClipRow clip now).sound hrow).isLive_iff.mp hlive
  have hmem : row ∈ liveClips (s.deleteClipRow clip now).db row.artifactSha256 :=
    mem_liveClips.mpr ⟨hrow, rfl, hnone⟩
  exact (mem_liveClips_deleteClipRow.mp hmem).2 hid

-- A call after which the promises are kept is clean.
theorem ClipCall.clean_of_kept (h : ClipsSound gone s) {call : ClipCall}
    (hkept : Kept gone' (step ClipCall.serve s call).after)
    (hspares : ClipStep.SparesClip (step ClipCall.serve s call)) : call.clean s := by
  cases call
  case setClipReview clip disposition title favorite now =>
    cases disposition
    case deleted =>
      rintro ⟨hany, hnow⟩
      have hop : Storage.setClipReview clip .deleted title favorite now s.db = .ok ((), { s.db with
          clips := update (isLive clip) (setReview .deleted title favorite now) s.db.clips }) :=
        setClipReview_eq_ok_iff.mpr ⟨hany, hnow, rfl⟩
      obtain ⟨row, hrow, hlive⟩ := List.any_eq_true.mp hany
      have hafter : setReview .deleted title favorite now row ∈
          (step ClipCall.serve s (.setClipReview clip .deleted title favorite now)).after.db.clips := by
        simp only [step, serve, Statement.on, Statement.perform, hop]
        exact mem_update.mpr ⟨row, hrow, (if_pos hlive).symm⟩
      have hmarked := (hkept.marked _ hafter).mp rfl
      have hnone := (h.sound hrow).isLive_iff.mp (isLive_of_isLive hlive)
      simp [setReview, hnone] at hmarked
    all_goals trivial
  case save call =>
    cases call
    case createClip attempt provenance now =>
      intro hprovenance sha256 hverified
      obtain ⟨session, links, hop⟩ := createClip_verified now hprovenance hverified
      have hafter : (step ClipCall.serve s (.save (.createClip attempt provenance now))).after.db =
          { s.db with
            clips := capturedClip (fresh (s.db.clips.map (·.id))) sha256 session provenance now ::
              s.db.clips
            saveAttemptClips := links } := by
        simp only [step, serve, SaveCall.serve, answering, Statement.perform, hop]
      obtain ⟨row, hrow, hsha, hpresent, _⟩ := hkept.held
        (capturedClip (fresh (s.db.clips.map (·.id))) sha256 session provenance now)
        (by simp [hafter]) (by simp [ClipRow.isLive, capturedClip])
      rw [hafter] at hrow
      exact isPresent_iff.mpr ⟨row, hrow, hsha, hpresent⟩
    all_goals trivial
  case deleteClip fails clip now now' =>
    intro htakes
    by_contra hnot
    have hfails : fails .remove ∨ fails .sync := by rwa [not_and_or, not_not, not_not] at hnot
    obtain ⟨e, s', hop, hdb⟩ := deleteClip_failed now now' htakes hfails
    obtain ⟨row, hrow, _⟩ := htakes
    obtain ⟨hmem, hid, hnone⟩ := id_of_isUndeleted hrow
    simp only [ClipStep.SparesClip, step, serve, Action.on, hop] at hspares
    have hlive := any_isLive_iff.mpr ⟨row, hmem, hid, (h.sound hmem).isLive_iff.mpr hnone⟩
    exact deleteClipRow_not_isLive h (hdb ▸ hspares hlive)
  all_goals trivial

-- The promises about deletion are kept in the runs of clean calls, and in no others.
theorem always_deletions_iff (h : ClipsSound [] s) (calls : List ClipCall) :
    Always ClipCall.serve Deletions [] s calls ↔
      Each ClipCall.serve (fun _ s call => call.clean s) [] s calls := by
  have hfair : Each ClipCall.serve (fun _ _ _ => True) [] s calls := .trivial
  refine always_iff_each (I := fun steps s => Deletions steps s ∧ ClipsSound (removedOutside steps) s)
    ?_ ?_ ?_ ?_ hfair
  · exact fun _ _ h => h.1
  · intro steps s call ⟨hdone, hsound⟩ _ hclean
    have hgood := call.serve_good hsound hclean
    have hgone : removedOutside (steps ++ [step ClipCall.serve s call]) =
        removedOutside steps ++ removedOutside [step ClipCall.serve s call] :=
      List.filterMap_append
    rw [hgone]
    refine ⟨⟨hgone ▸ hgood.sound.kept, ?_, ?_⟩, hgood.sound⟩
    · simp only [List.forall_mem_append, List.forall_mem_singleton]
      exact ⟨hdone.takes, hgood.takes⟩
    · simp only [List.forall_mem_append, List.forall_mem_singleton]
      exact ⟨hdone.spares, hgood.spares⟩
  · intro steps s call ⟨_, hsound⟩ _ hafter
    exact ClipCall.clean_of_kept hsound hafter.kept (hafter.spares _ (by simp))
  · exact ⟨⟨h.kept, by simp, by simp⟩, h⟩

section Demo

def deletionsDemo : Store where
  root    := ""
  db      := { Database.empty with
    captureSessions := [⟨0, 76, 1, "active"⟩]
    artifacts       := [{
      sha256        := 7
      relativePath  := some (.committed 7 ['m', 'k', 'v'])
      byteLength    := 2
      mediaType     := none
      availability  := .present
      createdAtMs   := 2
      missingReason := none }] }
  files   := [⟨.committed 7 ['m', 'k', 'v'], [1, 2]⟩]
  staging := []

def deletionsDemoCalls (fails : DeletionStep → Bool) : List ClipCall :=
  [.save (.requestSave 0 "auto:1:1" 10), .save (.finalizeCapturedClip 0 7 1 2 "raw_auto" 3),
    .deleteClip fails 0 4 5]

theorem deletionsDemo_sound : ClipsSound [] deletionsDemo := by
  apply ClipsSound.of_clips
  case hpresent =>
    intro row hrow _
    obtain rfl := List.mem_singleton.mp hrow
    exact ⟨_, rfl, .inr rfl⟩
  all_goals simp [deletionsDemo, Database.empty]

theorem always_deletions_demo :
    Always ClipCall.serve Deletions [] deletionsDemo (deletionsDemoCalls fun _ => false) := by
  rw [always_deletions_iff deletionsDemo_sound]
  exact ⟨trivial, trivial, fun _ => by simp, trivial⟩

-- The removal of the file fails: the deletion fails, with the clip deleted.
theorem not_always_deletions :
    ¬Always ClipCall.serve Deletions [] deletionsDemo
      (deletionsDemoCalls fun step => step = .remove) := by
  intro h
  have hspares := h.2.2.2.spares _ (List.mem_append_right _ (List.mem_singleton_self _))
  exact absurd (hspares (by decide)) (by decide)

end Demo

end Storage
