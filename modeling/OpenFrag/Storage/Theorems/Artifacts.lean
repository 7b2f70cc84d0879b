import OpenFrag.Storage.Theorems.Catalogue
import OpenFrag.Storage.Theorems.Deletions

open EStateM Except Table MachineInt

-- What each operation leaves of the artifacts, however it ends.
namespace Storage

variable {hash : Content → Digest} {s s' : Store} {sha256 : Digest} {file : File}
variable {row : ArtifactRow} {path : ArtifactPath} {now : Int}

section Commit

variable {fails : ArtifactStep → Bool} {name : Nat} {target : ArtifactPath}
variable {staged : StagedArtifact}

-- A staged file is moved to its target, unless the target is there.
inductive Places (name : Nat) (target : ArtifactPath) (s : Store) : Store → Prop
  | dropped (staged : StagedFile) (hstaged : s.staging.find? (·.name = name) = some staged)
    (htarget : (fileAt s.files target).isSome) : Places name target s (s.unstage staged)
  | moved (staged : StagedFile) (hstaged : s.staging.find? (·.name = name) = some staged) :
    Places name target s (s.promote staged target)

-- What is demanded, or is attempted, leaves the store to what comes after it.
theorem demand_bind {α : Type} {c : Prop} [Decidable c] {error : Error} {x : Action α}
    {P : Result Error Store α → Prop} (herror : ∀ e, P (.error e s)) (hok : c → P (x s)) :
    P ((demand c error >>= fun _ => x) s) := by
  unfold demand
  split
  case isTrue hc => exact hok hc
  case isFalse => exact herror _

theorem attemptStep_bind {α : Type} {step : ArtifactStep} {x : Action α}
    {P : Result Error Store α → Prop} (herror : ∀ e, P (.error e s)) (hok : P (x s)) :
    P ((attemptStep fails step >>= fun _ => x) s) :=
  demand_bind herror fun _ => hok

theorem stagedFile_bind {α : Type} {f : StagedFile → Action α} {P : Result Error Store α → Prop}
    (herror : ∀ e, P (.error e s))
    (hok : ∀ staged, s.staging.find? (·.name = name) = some staged → P (f staged s)) :
    P ((stagedFile name >>= f) s) := by
  cases hstaged : s.staging.find? (·.name = name)
  case none =>
    have hnone : stagedFile name s = .error (.io "staged artifact") s := by
      simp only [stagedFile, bind_get, hstaged, throw_apply]
    rw [bind_error hnone]
    exact herror _
  case some staged =>
    have hsome : stagedFile name s = .ok staged s := by
      simp only [stagedFile, bind_get, hstaged]
      rfl
    rw [bind_ok hsome]
    exact hok staged hstaged

inductive PlaceEnds (name : Nat) (target : ArtifactPath) (s : Store) :
    Result Error Store Unit → Prop
  | placed {s' : Store} (h : Places name target s s') : PlaceEnds name target s (.ok () s')
  | refused (e : Error) : PlaceEnds name target s (.error e s)
  | failed (e : Error) {s' : Store} (h : Places name target s s') :
    PlaceEnds name target s (.error e s')

theorem placeArtifact_ends (fails : ArtifactStep → Bool) (name : Nat) (target : ArtifactPath)
    (s : Store) : PlaceEnds name target s (Store.placeArtifact fails name target s) := by
  refine attemptStep_bind .refused ?_
  rw [bind_get]
  split
  case isTrue htarget =>
    refine attemptStep_bind .refused (attemptStep_bind .refused (stagedFile_bind .refused ?_))
    exact fun staged hstaged => .placed (.dropped staged hstaged htarget.2)
  case isFalse =>
    refine attemptStep_bind .refused (stagedFile_bind .refused fun staged hstaged => ?_)
    have hmoved : Places name target s (s.promote staged target) := .moved staged hstaged
    rw [bind_ok modify_apply]
    refine attemptStep_bind (.failed · hmoved) ?_
    rw [← bind_pure (attemptStep fails .syncTarget)]
    exact attemptStep_bind (x := pure ()) (.failed · hmoved) (.placed hmoved)

-- A commit places the file, and then it writes the row.
inductive CommitEnds (staged : StagedArtifact) (extension : String) (mediaType : Option String)
    (now : Int) (s : Store) : Result Error Store Digest → Prop
  | committed {placed : Store} {r : Digest × Database}
    (h : Places staged.name (staged.targetPath extension) s placed)
    (hrow : commitArtifact staged.sha256 staged.byteLength extension mediaType now s.db = .ok r) :
    CommitEnds staged extension mediaType now s (.ok r.1 { placed with db := r.2 })
  | refused (e : Error) : CommitEnds staged extension mediaType now s (.error e s)
  | failed (e : Error) {s' : Store} (h : Places staged.name (staged.targetPath extension) s s') :
    CommitEnds staged extension mediaType now s (.error e s')

theorem Places.db (h : Places name target s s') : s'.db = s.db := by
  cases h <;> rfl

theorem commitArtifact_ends (fails : ArtifactStep → Bool) (staged : StagedArtifact)
    (extension : String) (mediaType : Option String) (now : Int) (s : Store) :
    CommitEnds staged extension mediaType now s
      (Store.commitArtifact fails staged extension mediaType now s) := by
  refine demand_bind .refused fun _ => ?_
  have hplace := placeArtifact_ends fails staged.name (staged.targetPath extension) s
  cases hresult : Store.placeArtifact fails staged.name (staged.targetPath extension) s
  case error e placed =>
    rw [hresult] at hplace
    rw [bind_error hresult]
    cases hplace
    case refused => exact .refused e
    case failed h => exact .failed e h
  case ok _ placed =>
    rw [hresult] at hplace
    rw [bind_ok hresult]
    obtain ⟨h⟩ := hplace
    refine demand_bind (.failed · h) fun _ => attemptStep_bind (.failed · h) ?_
    rw [h.db]
    split
    case h_1 hrow => exact .committed h hrow
    case h_2 e _ => exact .failed e h

theorem mem_paths_promote {stagedFile : StagedFile} {target : ArtifactPath}
    (h : path ∈ s.files.map (·.path)) :
    path ∈ (s.promote stagedFile target).files.map (·.path) := by
  by_cases heq : path = target
  case pos => simp [Store.promote, heq]
  case neg =>
    obtain ⟨file, hfile, rfl⟩ := List.mem_map.mp h
    exact List.mem_cons_of_mem _ (List.mem_map_of_mem (List.mem_filter.mpr ⟨hfile, by simpa⟩))

theorem Catalogued.promote (h : Catalogued hash s) {stagedFile : StagedFile}
    {target : ArtifactPath} (hdigest : ∀ sha256 ∈ target.digest?, hash stagedFile.content = sha256) :
    Catalogued hash (s.promote stagedFile target) :=
  h.put rfl rfl (.inl rfl) hdigest

theorem mem_staging {staging : List StagedFile} {stagedFile : StagedFile}
    (h : staging.find? (·.name = name) = some stagedFile) :
    stagedFile ∈ staging ∧ stagedFile.name = name :=
  ⟨List.mem_of_find?_eq_some h, by simpa using List.find?_some h⟩

namespace Places

variable {spared kept : Digest → Prop}

theorem keepsFiles (h : Places name target s s') : KeepsFiles kept s s' := by
  cases h
  case dropped => exact .of_eq rfl
  case moved => exact fun _ hpath _ _ _ => mem_paths_promote hpath

theorem leaves (h : Places name target s s') (hdigest : target.digest? = some sha256)
    (hstaged : ∀ file ∈ s.staging, file.name = name → hash file.content = sha256) :
    Leaves hash spared s s' := by
  cases h
  case dropped => exact .of_same (List.filter_subset_self _) rfl rfl
  case moved stagedFile hfile =>
    have ⟨hmem, hname⟩ := mem_staging hfile
    apply Leaves.of_files
    case hstaging => exact List.filter_subset_self _
    case hcatalogued =>
      refine fun h => h.promote fun other hother => ?_
      rw [hdigest] at hother
      exact (hstaged stagedFile hmem hname).trans (Option.some.inj hother)
    case hartifacts => rfl
    case hfiles => exact fun _ => (Places.moved stagedFile hfile).keepsFiles

theorem mem_target (h : Places name target s s') : target ∈ s'.files.map (·.path) := by
  cases h
  case dropped staged _ htarget =>
    obtain ⟨file, hfile⟩ := Option.isSome_iff_exists.mp htarget
    exact List.mem_map.mpr ⟨file, (Recovered.fileAt_mem hfile).1, (Recovered.fileAt_mem hfile).2⟩
  case moved => simp [Store.promote]

end Places

variable {spared : Digest → Prop} {extension : String} {byteLength : Nat}
variable {mediaType : Option String} {r : Digest × Database}

theorem mem_committed {artifacts : List ArtifactRow} {target : ArtifactPath} :
    ∃ row ∈ withArtifact sha256 target byteLength mediaType now artifacts, row.sha256 = sha256 ∧
      row.availability = .present ∧ row.relativePath = some target := by
  unfold withArtifact
  split
  case isTrue hany =>
    obtain ⟨old, hold, hkey⟩ := List.any_eq_true.mp hany
    refine ⟨_, mem_update.mpr ⟨old, hold, rfl⟩, ?_⟩
    rw [if_pos hkey]
    exact ⟨by simpa using hkey, rfl, rfl⟩
  case isFalse => exact ⟨_, List.mem_cons_self, rfl, rfl, rfl⟩

theorem commitArtifact_held
    (hrow : commitArtifact sha256 byteLength extension mediaType now s.db = .ok r)
    (hfile : ArtifactPath.committed sha256 (extension.toList.dropWhile (· = '.')) ∈
      s.files.map (·.path)) : IsHeld { s with db := r.2 } sha256 := by
  obtain ⟨_, _, _, rfl⟩ := commitArtifact_eq_ok_iff.mp hrow
  obtain ⟨row, hmem, hkey, hpresent, hpath⟩ := mem_committed
  exact ⟨row, hmem, hkey, hpresent, _, hpath, hfile⟩

-- The row of a commit whose file is in place.
theorem commitArtifact_leaves
    (hrow : commitArtifact sha256 byteLength extension mediaType now s.db = .ok r)
    (hfile : ArtifactPath.committed sha256 (extension.toList.dropWhile (· = '.')) ∈
      s.files.map (·.path)) : Leaves hash spared s { s with db := r.2 } := by
  obtain ⟨_, _, _, rfl⟩ := commitArtifact_eq_ok_iff.mp hrow
  unfold withArtifact
  split
  case isTrue =>
    apply Leaves.of_held
    case hstaging => exact List.Subset.refl _
    case hcatalogued =>
      refine fun h => h.updated rfl rfl (fun _ => rfl) fun row _ hrow => ?_
      have hkey : row.sha256 = sha256 := by simpa using hrow
      exact .of_path rfl (congrArg some hkey.symm)
    case hrows =>
      rintro _ row hmem _ hpresent ⟨path, hpath, _, hthere⟩
      refine ⟨_, mem_update.mpr ⟨row, hmem, rfl⟩, ?_⟩
      split
      case isTrue => exact ⟨rfl, rfl, _, rfl, hfile⟩
      case isFalse => exact ⟨rfl, hpresent, path, hpath, hthere⟩
  case isFalse hnone =>
    apply Leaves.of_held
    case hstaging => exact List.Subset.refl _
    case hcatalogued => exact fun h => h.added rfl rfl hnone (.of_path rfl rfl)
    case hrows =>
      rintro _ row hmem _ hpresent ⟨path, hpath, _, hthere⟩
      exact ⟨row, List.mem_cons_of_mem _ hmem, rfl, hpresent, path, hpath, hthere⟩

namespace CommitEnds

variable {result : Result Error Store Digest}

theorem leaves (h : CommitEnds staged extension mediaType now s result)
    (hstaged : ∀ file ∈ s.staging, file.name = staged.name → hash file.content = staged.sha256) :
    Leaves hash spared s result.state := by
  cases h
  case committed placed r h hrow =>
    rw [← h.db] at hrow
    exact (h.leaves rfl hstaged).trans (commitArtifact_leaves hrow h.mem_target)
  case refused => exact .refl s
  case failed s' h => exact h.leaves rfl hstaged

theorem keepsFiles {kept : Digest → Prop} (h : CommitEnds staged extension mediaType now s result) :
    KeepsFiles kept s result.state := by
  cases h
  case committed h _ => exact h.keepsFiles
  case refused => exact .of_eq rfl
  case failed h => exact h.keepsFiles

theorem held (h : CommitEnds staged extension mediaType now s (.ok sha256 s')) :
    IsHeld s' staged.sha256 := by
  cases h
  case committed placed r h hrow =>
    rw [← h.db] at hrow
    exact commitArtifact_held hrow h.mem_target

end CommitEnds

end Commit

section Quarantine

variable {fails : ArtifactStep → Bool} {reason : String} {number : Nat}

theorem quarantineArtifact_ok {db : Database} {r : ArtifactPath × Database}
    (h : quarantineArtifact sha256 reason number db = .ok r) :
    r.1 = .quarantined sha256 number ∧ r.2 = { db with
      artifacts := update (fun row => row.sha256 = sha256 && row.availability = .present)
        (fun row => { row with
          availability := .missing, relativePath := some (.quarantined sha256 number)
          missingReason := some ("quarantined:" ++ reason) })
        db.artifacts } := by
  simp only [quarantineArtifact, bind_eq_ok_iff, ensure_eq_ok_iff, exists_const,
    artifact_eq_ok_iff] at h
  obtain ⟨_, _, ⟨row, _, rfl⟩, _, _, _, hr⟩ := h
  obtain rfl := pure_eq_ok_iff.mp hr
  exact ⟨rfl, rfl⟩

-- The file of the artifact stays, or it is moved to the quarantine, and then its row is changed.
inductive QuarantineEnds (sha256 : Digest) (reason : String) (s : Store) : Store → Prop
  | refused : QuarantineEnds sha256 reason s s
  | moved {file : File} (hfile : file ∈ s.files) {row : ArtifactRow}
    (hrow : row ∈ s.db.artifacts) (hkey : row.sha256 = sha256)
    (hpath : row.relativePath = some file.path) :
    QuarantineEnds sha256 reason s (s.moveFile file (.quarantined sha256 s.quarantineNumber))
  | updated {file : File} (hfile : file ∈ s.files) {row : ArtifactRow}
    (hrow : row ∈ s.db.artifacts) (hkey : row.sha256 = sha256)
    (hpath : row.relativePath = some file.path) {r : ArtifactPath × Database}
    (h : quarantineArtifact sha256 reason s.quarantineNumber s.db = .ok r) :
    QuarantineEnds sha256 reason s
      { s.moveFile file (.quarantined sha256 s.quarantineNumber) with db := r.2 }

theorem quarantineArtifact_ends (fails : ArtifactStep → Bool) (sha256 : Digest) (reason : String)
    (s : Store) :
    QuarantineEnds sha256 reason s (Store.quarantineArtifact fails sha256 reason s).state := by
  unfold Store.quarantineArtifact
  split
  case h_1 => exact .refused
  case h_2 destination db hquarantine =>
    have hdestination := (quarantineArtifact_ok hquarantine).1
    subst hdestination
    dsimp only
    split
    case h_1 => exact .refused
    case h_2 file hfile =>
      obtain ⟨path, hpath, hat⟩ := Option.bind_eq_some_iff.mp hfile
      obtain ⟨row, hrow, hrowpath⟩ := Option.bind_eq_some_iff.mp hpath
      obtain ⟨hmem, rfl⟩ := Recovered.fileAt_mem hat
      have hkey : row.sha256 = sha256 := by simpa using List.find?_some hrow
      have hrow := List.mem_of_find?_eq_some hrow
      split
      case isTrue => exact .refused
      case isFalse =>
        split
        case isTrue =>
          split
          case isTrue => exact .moved hmem hrow hkey hrowpath
          case isFalse => exact .refused
        case isFalse =>
          split <;> exact .updated hmem hrow hkey hrowpath hquarantine

theorem quarantined_new (s : Store) (sha256 : Digest) :
    ArtifactPath.quarantined sha256 s.quarantineNumber ∉ s.files.map (·.path) := by
  intro hmem
  have hnumber : s.quarantineNumber ∈
      (s.files.map (·.path) ++ s.db.artifacts.filterMap (·.relativePath)).map
        ArtifactPath.quarantineNumber :=
    List.mem_map.mpr ⟨_, List.mem_append_left _ hmem, rfl⟩
  exact fresh_notMem _ hnumber

theorem moveFile_keepsFiles (h : Catalogued hash s) {row : ArtifactRow}
    (hrow : row ∈ s.db.artifacts) (hpath : row.relativePath = some file.path) :
    KeepsFiles (· ≠ row.sha256) s
      (s.moveFile file (.quarantined row.sha256 s.quarantineNumber)) := by
  apply KeepsFiles.of_filter (List.subset_cons_self _ _)
  intro sha256 hdigest hne
  exact hne ((h.rows row hrow).digest file.path hpath sha256 hdigest).symm

theorem moveFile_leaves {row : ArtifactRow} (hrow : row ∈ s.db.artifacts)
    (hpath : row.relativePath = some file.path) :
    Leaves hash (· ≠ row.sha256) s
      (s.moveFile file (.quarantined row.sha256 s.quarantineNumber)) := by
  apply Leaves.of_files
  case hstaging => exact List.Subset.refl _
  case hcatalogued =>
    refine fun h => h.put rfl rfl (.inr (quarantined_new s row.sha256)) ?_
    rintro _ ⟨⟩
  case hartifacts => rfl
  case hfiles => exact fun h => (moveFile_keepsFiles h hrow hpath).mono fun _ hyes => hyes.1

theorem QuarantineEnds.keepsFiles (hcat : Catalogued hash s)
    (h : QuarantineEnds sha256 reason s s') : KeepsFiles (· ≠ sha256) s s' := by
  cases h
  case refused => exact .of_eq rfl
  case moved file hfile row hrow hkey hpath =>
    subst hkey
    exact moveFile_keepsFiles hcat hrow hpath
  case updated file hfile row hrow hkey hpath r h =>
    subst hkey
    exact moveFile_keepsFiles hcat hrow hpath

theorem QuarantineEnds.leaves (h : QuarantineEnds sha256 reason s s') :
    Leaves hash (· ≠ sha256) s s' := by
  cases h
  case refused => exact .refl s
  case moved file hfile row hrow hkey hpath =>
    subst hkey
    exact moveFile_leaves hrow hpath
  case updated file hfile row hrow hkey hpath r h =>
    subst hkey
    refine (moveFile_leaves hrow hpath).trans ?_
    apply Leaves.of_updated
    case hstaging => exact List.Subset.refl _
    case hfiles => rfl
    case hartifacts => rw [(quarantineArtifact_ok h).2]; rfl
    case hkey => exact fun _ => rfl
    case hf => exact fun _ _ _ _ => .of_unnamed (by rintro _ ⟨⟩; rfl) (by simp)
    case hp =>
      intro other _ hne _ _ hyes
      simp at hyes
      exact hne hyes.1

end Quarantine

section Clips

variable {fails : DeletionStep → Bool} {clip : ClipId} {now' : Int}

theorem safeArtifactPath_digest {files : List File} {relativePath : ArtifactPath}
    {byteLength : Int} (h : safeArtifactPath files sha256 relativePath byteLength = .ok path) :
    path.digest? = some sha256 := by
  obtain rfl := safeArtifactPath_ok h
  unfold safeArtifactPath at h
  split at h
  case h_1 other _ =>
    simp only [bind_eq_ok_iff, ensure_eq_ok_iff, exists_const] at h
    exact congrArg some h.1
  case h_2 => simp at h

theorem deletedFile_digest {row : ClipRow} (h : deletedFile s row = .ok (some path)) :
    path.digest? = some row.artifactSha256 := by
  rw [deletedFile_eq_ok_iff] at h
  split at h
  case isTrue => cases h
  case isFalse =>
    obtain ⟨artifact, _, h⟩ := h
    split at h
    case isTrue =>
      obtain ⟨other, _, hsafe, heq⟩ := h
      cases heq
      exact safeArtifactPath_digest hsafe
    case isFalse => cases h

-- A deletion leaves the artifacts, or the clip is the last one of its artifact.
inductive DeleteEnds (clip : ClipId) (now now' : Int) (s : Store) : Store → Prop
  | refused : DeleteEnds clip now now' s s
  | marked : DeleteEnds clip now now' s (s.deleteClipRow clip now)
  | taken {row : ClipRow} {path? : Option ArtifactPath}
    (hrow : s.db.clips.find? (isUndeleted clip) = some row)
    (hlast : ∀ other ∈ liveClips s.db row.artifactSha256, other.id = clip)
    (hpath : deletedFile s row = .ok path?) :
    DeleteEnds clip now now' s ((s.deleteClipRow clip now).without path?)
  | removed {row : ClipRow} {path? : Option ArtifactPath}
    (hrow : s.db.clips.find? (isUndeleted clip) = some row)
    (hlast : ∀ other ∈ liveClips s.db row.artifactSha256, other.id = clip)
    (hpath : deletedFile s row = .ok path?) :
    DeleteEnds clip now now' s
      (((s.deleteClipRow clip now).without path?).deleteArtifactRow row.artifactSha256 now')

theorem deleteClip_ends (fails : DeletionStep → Bool) (clip : ClipId) (now now' : Int) (s : Store) :
    DeleteEnds clip now now' s (deleteClip fails clip now now' s).state := by
  unfold deleteClip
  split
  case h_1 => exact .refused
  case h_2 row hrow =>
    split
    case h_1 => exact .refused
    case h_2 path? hpath =>
      dsimp only
      split
      case isTrue => exact .marked
      case isFalse hnone =>
        have hlast : ∀ other ∈ liveClips s.db row.artifactSha256, other.id = clip := by
          simpa [liveClips_deleteClipRow_ne_nil] using hnone
        cases path?
        case none => exact .removed hrow hlast hpath
        case some path =>
          cases hremove : fails .remove
          case true =>
            simp only [removeDeletedFile, hremove]
            exact .marked
          case false =>
            cases hsync : fails .sync
            case true =>
              simp only [removeDeletedFile, hremove, hsync]
              exact .taken hrow hlast hpath
            case false =>
              simp only [removeDeletedFile, hremove, hsync]
              exact .removed hrow hlast hpath

theorem SparedBy.ne {row : ClipRow} (h : SparedBy clip s.db sha256)
    (hrow : s.db.clips.find? (isUndeleted clip) = some row)
    (hlast : ∀ other ∈ liveClips s.db row.artifactSha256, other.id = clip) :
    sha256 ≠ row.artifactSha256 := by
  rintro rfl
  obtain ⟨other, hother, hne⟩ :=
    h row (List.mem_of_find?_eq_some hrow) (List.find?_some hrow) rfl
  exact hne (hlast other hother)

-- The file of an artifact that is spared is not the one that goes with the clip.
theorem deletedFile_ne {row : ClipRow} (h : SparedBy clip s.db sha256)
    (hrow : s.db.clips.find? (isUndeleted clip) = some row)
    (hlast : ∀ other ∈ liveClips s.db row.artifactSha256, other.id = clip)
    (hpath : deletedFile s row = .ok (some path)) : path.digest? ≠ some sha256 := by
  intro hdigest
  have hsame := (deletedFile_digest hpath).symm.trans hdigest
  exact h.ne hrow hlast (Option.some.inj hsame).symm

theorem removeFile_keepsFiles {kept : Digest → Prop} (hpath : ∀ sha256, kept sha256 →
      path.digest? ≠ some sha256) : KeepsFiles kept s (s.removeFile path) :=
  .of_filter (List.Subset.refl _) fun sha256 hdigest hkept => hpath sha256 hkept hdigest

theorem removeFile_leaves {spared : Digest → Prop} (hpath : ∀ sha256, spared sha256 →
      path.digest? ≠ some sha256) : Leaves hash spared s (s.removeFile path) := by
  apply Leaves.of_files
  case hstaging => exact List.Subset.refl _
  case hcatalogued => exact fun h => h.removeFile path
  case hartifacts => rfl
  case hfiles => exact fun _ => (removeFile_keepsFiles hpath).mono fun _ hyes => hyes.1

theorem DeleteEnds.keepsFiles (h : DeleteEnds clip now now' s s') :
    KeepsFiles (SparedBy clip s.db) s s' := by
  have htaken {row : ClipRow} {path? : Option ArtifactPath}
      (hrow : s.db.clips.find? (isUndeleted clip) = some row)
      (hlast : ∀ other ∈ liveClips s.db row.artifactSha256, other.id = clip)
      (hpath : deletedFile s row = .ok path?) :
      KeepsFiles (SparedBy clip s.db) s ((s.deleteClipRow clip now).without path?) := by
    cases path?
    case none => exact .of_eq rfl
    case some path =>
      refine .trans (.of_eq rfl) (removeFile_keepsFiles (s := s.deleteClipRow clip now) ?_)
      exact fun sha256 hspared => deletedFile_ne hspared hrow hlast hpath
  cases h
  case refused => exact .of_eq rfl
  case marked => exact .of_eq rfl
  case taken row path? hrow hlast hpath => exact htaken hrow hlast hpath
  case removed row path? hrow hlast hpath => exact (htaken hrow hlast hpath).trans (.of_eq rfl)

theorem DeleteEnds.leaves (h : DeleteEnds clip now now' s s') :
    Leaves hash (SparedBy clip s.db) s s' := by
  have hmarked : Leaves hash (SparedBy clip s.db) s (s.deleteClipRow clip now) :=
    .of_same (List.Subset.refl _) rfl rfl
  have htaken {row : ClipRow} {path? : Option ArtifactPath}
      (hrow : s.db.clips.find? (isUndeleted clip) = some row)
      (hlast : ∀ other ∈ liveClips s.db row.artifactSha256, other.id = clip)
      (hpath : deletedFile s row = .ok path?) :
      Leaves hash (SparedBy clip s.db) s ((s.deleteClipRow clip now).without path?) := by
    refine hmarked.trans ?_
    cases path?
    case none => exact .refl _
    case some path =>
      exact removeFile_leaves fun sha256 hspared => deletedFile_ne hspared hrow hlast hpath
  cases h
  case refused => exact .refl s
  case marked => exact hmarked
  case taken row path? hrow hlast hpath => exact htaken hrow hlast hpath
  case removed row path? hrow hlast hpath =>
    refine (htaken hrow hlast hpath).trans ?_
    apply Leaves.of_updated
    case hstaging => exact List.Subset.refl _
    case hfiles => rfl
    case hartifacts => rfl
    case hkey => exact fun _ => rfl
    case hf => exact fun _ _ _ h => h.lose rfl rfl (by simp)
    case hp =>
      intro artifact _ hspared _ _ hyes
      exact hspared.ne hrow hlast (by simpa using hyes)

end Clips

section Derivatives

variable {fails : DerivativeStep → Bool} {request : DerivativeClipCommit}
variable {clock : DerivativeClock}

-- A look at the target that does not fail finds a file that is there, so the file that is removed
-- again is another one.
theorem Checked.keepsFiles {source : DurableClipModelRecord} {staged : StagedFile}
    {kept : Digest → Prop} (h : Checked fails request s source staged)
    (hlook : kept request.staged.sha256 → ¬fails .lookAtTarget) :
    KeepsFiles kept s ((s.promote staged request.target).removeFile request.target) := by
  intro path hpath sha256 hdigest hkept
  have hne : path ≠ request.target := by
    rintro rfl
    obtain rfl := Option.some.inj hdigest
    have hthere : (fileAt s.files request.target).isSome :=
      (fileAt_isSome_iff s.files request.target).mpr hpath
    exact hlook hkept (h.target.resolve_right (by simp [Option.isSome_iff_ne_none.mp hthere]))
  obtain ⟨file, hfile, rfl⟩ := List.mem_map.mp (mem_paths_promote hpath)
  exact List.mem_map_of_mem (List.mem_filter.mpr ⟨hfile, by simpa using hne⟩)

theorem commitClipDerivative_leaves (hstaged : ∀ file ∈ s.staging,
      file.name = request.staged.name → hash file.content = request.staged.sha256) :
    Leaves hash (request.Spares fails) s (commitClipDerivative fails request clock s).state := by
  have hmoved {source : DurableClipModelRecord} {staged : StagedFile}
      (hcheck : checkDerivative fails request s = .ok (source, staged)) :
      Leaves hash (request.Spares fails) s (s.promote staged request.target) :=
    (Places.moved staged (checkDerivative_eq_ok_iff.mp hcheck).file).leaves rfl hstaged
  cases hcommit : commitClipDerivative fails request clock s
  case ok id s' =>
    obtain ⟨source, staged, hcheck, db, hinsert, rfl⟩ := commitClipDerivative_ok hcommit
    refine (hmoved hcheck).trans ?_
    obtain ⟨_, hnew, _, _, _, _, heq⟩ := insertDerivative_eq_ok_iff.mp hinsert
    cases heq
    apply Leaves.of_held
    case hstaging => exact List.Subset.refl _
    case hcatalogued => exact fun h => h.added rfl rfl hnew (.of_path rfl rfl)
    case hrows =>
      rintro _ row hmem _ hpresent ⟨path, hpath, _, hthere⟩
      exact ⟨row, List.mem_cons_of_mem _ hmem, rfl, hpresent, path, hpath, hthere⟩
  case error e s' =>
    rcases commitClipDerivative_error hcommit with rfl | ⟨source, staged, hcheck, hends⟩
    · exact .refl _
    · rcases hends with rfl | rfl
      · exact hmoved hcheck
      · have hchecked := checkDerivative_eq_ok_iff.mp hcheck
        have ⟨hmem, hname⟩ := mem_staging hchecked.file
        apply Leaves.of_files
        case hstaging => exact List.filter_subset_self _
        case hcatalogued =>
          refine fun h => (h.promote fun other hother => ?_).removeFile _
          exact (hstaged staged hmem hname).trans (Option.some.inj hother)
        case hartifacts => rfl
        case hfiles =>
          refine fun _ => hchecked.keepsFiles ?_
          rintro ⟨hspared, hhas⟩ hlook
          exact hspared rfl ⟨hchecked.artifact.resolve_right (not_not_intro hhas), hlook⟩

end Derivatives

section Recovery

variable {spared : Digest → Prop} {files : List File}

theorem isRevivable_iff : isRevivable sha256 row ↔ row.sha256 = sha256 ∧
    (row.availability = .expected ∨ row.availability = .missing) := by
  simp [isRevivable]

-- A row that has the path of a file has its digest for a key.
theorem Catalogued.untaken (h : Catalogued hash s) (hdigest : file.path.digest? = some sha256) :
    ¬s.db.artifacts.any fun row => row.sha256 ≠ sha256 && row.relativePath = some file.path := by
  simp only [List.any_eq_true, not_exists, not_and]
  intro row hrow hyes
  simp only [Bool.and_eq_true, decide_eq_true_eq] at hyes
  exact hyes.1 ((h.rows row hrow).digest file.path hyes.2 sha256 hdigest)

theorem catalogueFile_leaves (hdigest : file.path.digest? = some sha256)
    (h : catalogueFile s file sha256 now = .ok s') : Leaves hash spared s s' := by
  rcases catalogueFile_cases h with ⟨_, rfl⟩ | ⟨hnone, rfl⟩
  · apply Leaves.of_updated
    case hstaging => exact List.Subset.refl _
    case hfiles => rfl
    case hartifacts => rfl
    case hkey => exact fun _ => rfl
    case hf =>
      intro row _ hrow _
      have hrevived : (revivedRow file row).relativePath = some file.path ∧
          (revivedRow file row).sha256 = sha256 := revivedRow_of_isRevivable hrow
      obtain ⟨hpath, hkey⟩ := hrevived
      exact .of_path hpath (hkey ▸ hdigest)
    case hp =>
      intro row _ _ hpresent _
      exact notRevivable_of_present hpresent
  · apply Leaves.of_held
    case hstaging => exact List.Subset.refl _
    case hcatalogued => exact fun h => h.added rfl rfl hnone (.of_path rfl hdigest)
    case hrows =>
      rintro _ row hmem _ hpresent ⟨path, hpath, _, hthere⟩
      exact ⟨row, List.mem_cons_of_mem _ hmem, rfl, hpresent, path, hpath, hthere⟩

-- What is put in quarantine is named by no digest.
theorem digest?_of_isOrphan (hnamed : file.IsNamed hash) (horphan : file.isOrphan hash) :
    file.path.digest? = none := by
  cases hdigest : file.path.digest?
  case none => rfl
  case some sha256 =>
    exact absurd (hdigest.trans (congrArg some (hnamed sha256 hdigest).symm))
      (File.isOrphan_iff.mp horphan).2

theorem quarantineOrphan_keepsFiles {kept : Digest → Prop} (hnamed : file.IsNamed hash)
    (horphan : file.isOrphan hash) : KeepsFiles kept s (s.quarantineOrphan file) := by
  apply KeepsFiles.of_filter (List.subset_cons_self _ _)
  intro sha256 hdigest
  rw [digest?_of_isOrphan hnamed horphan] at hdigest
  cases hdigest

theorem quarantineOrphan_leaves (hnamed : file.IsNamed hash) (horphan : file.isOrphan hash) :
    Leaves hash spared s (s.quarantineOrphan file) := by
  apply Leaves.of_files
  case hstaging => exact List.Subset.refl _
  case hcatalogued =>
    refine fun h => h.put rfl rfl (.inr s.quarantinePath_new) ?_
    rintro _ ⟨⟩
  case hartifacts => rfl
  case hfiles => exact fun _ => quarantineOrphan_keepsFiles hnamed horphan

theorem recoverFile_leaves (hnamed : file.IsNamed hash)
    (h : recoverFile hash now file s = .ok s') : Leaves hash spared s s' := by
  rcases recoverFile_cases h with ⟨_, rfl⟩ | ⟨horphan, rfl⟩ | ⟨hdigest, h⟩
  · exact .refl s'
  · exact quarantineOrphan_leaves hnamed horphan
  · exact catalogueFile_leaves hdigest h

theorem recoverFiles_leaves (hnamed : ∀ file ∈ files, file.IsNamed hash) :
    Leaves hash spared s (recoverFiles hash now files s).state := by
  induction files generalizing s
  case nil => exact .refl s
  case cons file files ih =>
    have ⟨hfile, hfiles⟩ := List.forall_mem_cons.mp hnamed
    unfold recoverFiles
    rw [bind_get]
    cases hrecover : recoverFile hash now file s
    case error e => exact .refl s
    case ok next =>
      exact (recoverFile_leaves hfile hrecover).trans (ih hfiles)

-- The rows that are marked have no file.
theorem marked_leaves {p : ArtifactRow → Bool} (hp : ∀ row, p row → s.lacksFile row) :
    Leaves hash spared s (s.withArtifacts (update p
      (fun row => { row with availability := .missing, missingReason := some "file_missing" })
      s.db.artifacts)) := by
  apply Leaves.of_updated
  case hstaging => exact List.Subset.refl _
  case hfiles => rfl
  case hartifacts => rfl
  case hkey => exact fun _ => rfl
  case hf => exact fun _ _ _ h => h.lose rfl rfl (by simp)
  case hp =>
    rintro row _ _ _ ⟨path, hpath, hmem⟩ hyes
    obtain ⟨_, other, hother, hnone⟩ := lacksFile_iff.mp (hp row hyes)
    obtain rfl := Option.some.inj (hpath.symm.trans hother)
    have hthere := (fileAt_isSome_iff s.files path).mpr hmem
    simp [hnone] at hthere

theorem markMissing_leaves : Leaves hash spared s s.markMissing :=
  marked_leaves fun _ h => h

theorem cleared_leaves {staging : List StagedFile} (h : staging ⊆ s.staging) :
    Leaves hash spared s { s with staging } :=
  .of_same h rfl rfl

theorem recoverArtifacts_state : (recoverArtifacts hash now s).state =
    (recoverFiles hash now s.files { s.markMissing with staging := [] }).state :=
  state_bind_pure (x := recoverFiles hash now s.files)

theorem recoverArtifacts_leaves (h : Catalogued hash s) :
    Leaves hash spared s (recoverArtifacts hash now s).state := by
  rw [recoverArtifacts_state]
  exact markMissing_leaves.trans
    ((cleared_leaves (List.nil_subset _)).trans (recoverFiles_leaves h.files))

theorem recoverUntil_leaves (h : Catalogued hash s) (stop : RecoveryStop) :
    Leaves hash spared s (recoverUntil hash now stop s).state := by
  cases stop
  case marking rows =>
    refine marked_leaves fun row hrow => ?_
    rw [Bool.and_eq_true] at hrow
    exact hrow.2
  case clearing names =>
    exact markMissing_leaves.trans (cleared_leaves (List.filter_subset_self _))
  case walking paths =>
    exact markMissing_leaves.trans
      ((cleared_leaves (List.nil_subset _)).trans (recoverFiles_leaves h.named_filter))

-- A recovery of a catalogued store succeeds, when no file is too long for its row.
theorem recoverFile_succeeds (h : Catalogued hash s) (hsize : Signed 64 file.content.length) :
    ∃ next, recoverFile hash now file s = .ok next := by
  unfold recoverFile
  split
  case isTrue => exact ⟨s, rfl⟩
  case isFalse =>
    split
    case h_1 => exact ⟨_, rfl⟩
    case h_2 sha256 hdigest =>
      split
      case isTrue => exact ⟨_, rfl⟩
      case isFalse =>
        have hfree := h.untaken hdigest
        unfold catalogueFile
        split <;> simp only [bind_eq_ok_iff, ensure_eq_ok_iff, exists_const, pure_eq_ok_iff]
        case isTrue => exact ⟨_, fun htaken => hfree htaken.2, rfl⟩
        case isFalse => exact ⟨_, hsize, hfree, rfl⟩

theorem recoverFiles_succeed (h : Catalogued hash s) (hnamed : ∀ file ∈ files, file.IsNamed hash)
    (hsize : ∀ file ∈ files, Signed 64 file.content.length) :
    ∃ s', recoverFiles hash now files s = .ok () s' := by
  induction files generalizing s
  case nil => exact ⟨s, rfl⟩
  case cons file files ih =>
    have ⟨hfile, hfiles⟩ := List.forall_mem_cons.mp hnamed
    have ⟨hone, hrest⟩ := List.forall_mem_cons.mp hsize
    have hone : ∃ next, recoverFile hash now file s = .ok next := recoverFile_succeeds h hone
    obtain ⟨next, hnext⟩ := hone
    have hleaves : Leaves hash (fun _ => True) s next := recoverFile_leaves hfile hnext
    obtain ⟨s', hs'⟩ := ih (hleaves.catalogued h) hfiles hrest
    exact ⟨s', recoverFiles_cons_iff.mpr ⟨next, hnext, hs'⟩⟩

-- What recovery makes of a catalogued store.
structure Restores (hash : Content → Digest) (s s' : Store) : Prop where
  restored : Restored hash s'
  adopted  : ∀ file ∈ s.files, file.path.digest?.isSome →
    ∃ row ∈ s'.db.artifacts, row.sha256 = hash file.content ∧
      (row.availability = .present ∨ row.availability = .deleted)

theorem recoverArtifacts_restores (h : Catalogued hash s)
    (hsize : ∀ file ∈ s.files, Signed 64 file.content.length) :
    ∃ result s', recoverArtifacts hash now s = .ok result s' ∧ Restores hash s s' := by
  have hmarked : Leaves hash (fun _ => True) s { s.markMissing with staging := [] } :=
    markMissing_leaves.trans (cleared_leaves (List.nil_subset _))
  have hwalk : ∃ s', recoverFiles hash now s.files { s.markMissing with staging := [] } =
      .ok () s' := recoverFiles_succeed (hmarked.catalogued h) h.files hsize
  obtain ⟨s', hfiles⟩ := hwalk
  have hok := recoverArtifacts_ok_iff.mpr ⟨hfiles, rfl⟩
  refine ⟨_, s', hok, ?_⟩
  have hrecovered := Recovered.of_ok h.keys h.paths hok
  have hthere {row : ArtifactRow} (hrow : row ∈ s'.db.artifacts)
      (hpresent : row.availability = .present) := hrecovered.restores
    (fun _ hold hyes => h.recoverable hold hyes) hrow hpresent
  constructor
  case restored =>
    constructor
    case present => exact fun _ => hthere
    case absent =>
      intro row hrow hnowhere hpresent
      obtain ⟨path, file, _, hfile, hin, hkey⟩ := hthere hrow hpresent
      exact hnowhere file (Recovered.fileAt_mem hfile).1
        ((Recovered.fileAt_mem hfile).2 ▸ hin) hkey
    case settled =>
      refine hrecovered.settled fun row hrow hlacks => ?_
      obtain ⟨hpresent, path, hpath, hnone⟩ := lacksFile_iff.mp hlacks
      obtain ⟨path', file, hpath', hfile, _⟩ := hthere hrow hpresent
      obtain rfl := Option.some.inj (hpath.symm.trans hpath')
      rw [hnone] at hfile
      cases hfile
  case adopted =>
    intro file hfile hsome
    obtain ⟨sha256, hdigest⟩ := Option.isSome_iff_exists.mp hsome
    obtain rfl := h.files file hfile sha256 hdigest
    obtain ⟨row, hrow, hkey, hsettled⟩ := hrecovered.walked.catalogued file hfile hdigest
    refine ⟨row, hrow, hkey, ?_⟩
    cases havailability : row.availability
    case present => exact .inl rfl
    case deleted => exact .inr rfl
    all_goals exact absurd (isRevivable_iff.mpr ⟨hkey, by simp [havailability]⟩) hsettled

end Recovery

end Storage
