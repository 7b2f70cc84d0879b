import Mathlib.Data.List.Nodup
import OpenFrag.Library.Within
import OpenFrag.Storage.Recovery
import OpenFrag.Storage.Theorems.Import

open Except Table

namespace Storage

variable {hash : Content → Digest} {now : Int} {s s' : Store} {file : File} {row : ArtifactRow}

theorem fileAt_eq_some_iff {files : List File} {path : ArtifactPath}
    (h : (files.map (·.path)).Nodup) :
    fileAt files path = some file ↔ file ∈ files ∧ file.path = path := by
  constructor
  · intro hfile
    exact ⟨List.mem_of_find?_eq_some hfile, by simpa using List.find?_some hfile⟩
  · rintro ⟨hmem, rfl⟩
    exact find?_key h hmem

theorem ArtifactPath.inTree_of_digest {path : ArtifactPath} {sha256 : Digest}
    (h : path.digest? = some sha256) : path.inTree := by
  cases path <;> simp_all [ArtifactPath.digest?, ArtifactPath.inTree]

@[simp]
theorem Store.quarantinePath_inTree : s.quarantinePath.inTree = false := rfl

theorem Store.quarantinePath_new (s : Store) : s.quarantinePath ∉ s.files.map (·.path) := by
  intro h
  obtain ⟨file, hfile, hpath⟩ := List.mem_map.mp h
  have hnumber : file.path.outsideNumber = fresh s.outsideNumbers :=
    congrArg ArtifactPath.outsideNumber hpath
  have hmem : file.path.outsideNumber ∈ s.outsideNumbers :=
    List.mem_append_left _ (List.mem_map.mpr ⟨file, hfile, rfl⟩)
  exact fresh_notMem _ (hnumber ▸ hmem)

-- A file of the tree that is not named by its content.
def File.isOrphan (hash : Content → Digest) (file : File) : Bool :=
  file.path.inTree && file.path.digest? ≠ some (hash file.content)

theorem File.isOrphan_iff : file.isOrphan hash ↔
    file.path.inTree ∧ file.path.digest? ≠ some (hash file.content) := by
  simp [File.isOrphan]

theorem recoverFile_cases (h : recoverFile hash now file s = .ok s') :
    (¬file.path.inTree ∧ s' = s) ∨ (file.isOrphan hash ∧ s' = s.quarantineOrphan file) ∨
    (file.path.digest? = some (hash file.content) ∧
      catalogueFile s file (hash file.content) now = .ok s') := by
  unfold recoverFile at h
  split at h
  case isTrue hout =>
    cases h
    exact .inl ⟨hout, rfl⟩
  case isFalse hin =>
    have hin : file.path.inTree := not_not.mp hin
    split at h
    case h_1 hnone =>
      cases h
      exact .inr (.inl ⟨by simp [File.isOrphan, hin, hnone], rfl⟩)
    case h_2 sha256 hsome =>
      split at h
      case isTrue hne =>
        cases h
        exact .inr (.inl ⟨by simp [File.isOrphan, hin, hsome, hne], rfl⟩)
      case isFalse heq =>
        obtain rfl := not_not.mp heq
        exact .inr (.inr ⟨hsome, h⟩)

def cataloguedRow (file : File) (sha256 : Digest) (now : Int) : ArtifactRow where
  sha256
  relativePath  := some file.path
  byteLength    := file.content.length
  mediaType     := none
  availability  := .present
  createdAtMs   := now
  missingReason := none

def revivedRow (file : File) (row : ArtifactRow) : ArtifactRow :=
  { row with availability := .present, relativePath := some file.path, missingReason := none }

theorem catalogueFile_cases {sha256 : Digest} (h : catalogueFile s file sha256 now = .ok s') :
    (s.db.artifacts.any (·.sha256 = sha256) ∧
      s' = s.withArtifacts (update (isRevivable sha256) (revivedRow file) s.db.artifacts)) ∨
    (¬s.db.artifacts.any (·.sha256 = sha256) ∧
      s' = s.withArtifacts (cataloguedRow file sha256 now :: s.db.artifacts)) := by
  unfold catalogueFile at h
  split at h
  case isTrue hany =>
    simp only [bind_eq_ok_iff, ensure_eq_ok_iff, exists_const, pure_eq_ok_iff] at h
    exact .inl ⟨hany, h.2.symm⟩
  case isFalse hnone =>
    simp only [bind_eq_ok_iff, ensure_eq_ok_iff, exists_const, pure_eq_ok_iff] at h
    exact .inr ⟨hnone, h.2.2.symm⟩

-- What the walk over some files of a store has done to it.
structure Walked (hash : Content → Digest) (start : Store) (done : List File) (s : Store) : Prop where
  staging    : s.staging = start.staging
  keys       : (s.db.artifacts.map (·.sha256)).Nodup
  paths      : (s.files.map (·.path)).Nodup
  kept       : ∀ file ∈ start.files, (file ∈ done → ¬file.isOrphan hash) → file ∈ s.files
  gone       : ∀ file ∈ done, file.isOrphan hash → file.path ∉ s.files.map (·.path)
  old        : ∀ file ∈ s.files, file.path.inTree → file ∈ start.files
  rows       : ∀ row ∈ s.db.artifacts, row.availability = .present → row ∈ start.db.artifacts ∨
    ∃ file ∈ done, file.path.digest? = some (hash file.content) ∧
      row.relativePath = some file.path ∧ row.sha256 = hash file.content
  present    : ∀ row ∈ start.db.artifacts, row.availability = .present → row ∈ s.db.artifacts
  catalogued : ∀ file ∈ done, file.path.digest? = some (hash file.content) →
    ∃ row ∈ s.db.artifacts, row.sha256 = hash file.content ∧
      ¬isRevivable (hash file.content) row

theorem Walked.start {start : Store} (hkeys : (start.db.artifacts.map (·.sha256)).Nodup)
    (hpaths : (start.files.map (·.path)).Nodup) : Walked hash start [] start := by
  constructor <;> simp_all

namespace Walked

variable {start : Store} {done : List File}

-- A file outside of the tree is passed over.
theorem skip (h : Walked hash start done s) (hout : ¬file.path.inTree) :
    Walked hash start (done ++ [file]) s := by
  have horphan : ¬file.isOrphan hash := by simp [File.isOrphan, hout]
  have hdigest : file.path.digest? ≠ some (hash file.content) :=
    fun hsome => hout (ArtifactPath.inTree_of_digest hsome)
  constructor
  case staging => exact h.staging
  case keys => exact h.keys
  case paths => exact h.paths
  case kept =>
    exact fun other hother hkeep => h.kept other hother fun hdone =>
      hkeep (List.mem_append_left _ hdone)
  case gone =>
    simp only [List.forall_mem_append, List.forall_mem_singleton]
    exact ⟨h.gone, fun hyes => absurd hyes horphan⟩
  case old => exact h.old
  case rows =>
    intro row hrow hpresent
    rcases h.rows row hrow hpresent with hold | ⟨other, hother, hrest⟩
    · exact .inl hold
    · exact .inr ⟨other, List.mem_append_left _ hother, hrest⟩
  case present => exact h.present
  case catalogued =>
    simp only [List.forall_mem_append, List.forall_mem_singleton]
    exact ⟨h.catalogued, fun hsome => absurd hsome hdigest⟩

theorem quarantine (h : Walked hash start done s) (hstart : (start.files.map (·.path)).Nodup)
    (hmem : file ∈ start.files) (horphan : file.isOrphan hash) :
    Walked hash start (done ++ [file]) (s.quarantineOrphan file) := by
  have ⟨hin, hdigest⟩ := File.isOrphan_iff.mp horphan
  have hother (other : File) (hin : other.path.inTree) : other.path ≠ s.quarantinePath :=
    fun heq => by simp [heq] at hin
  constructor
  case staging => exact h.staging
  case keys => exact h.keys
  case paths =>
    simp only [Store.quarantineOrphan, List.map_cons, List.nodup_cons]
    refine ⟨fun hnew => s.quarantinePath_new ?_, h.paths.sublist (List.filter_sublist.map _)⟩
    exact (List.filter_sublist.map _).mem hnew
  case kept =>
    intro other hother hkeep
    have hne : other.path ≠ file.path := by
      intro heq
      obtain rfl := List.inj_on_of_nodup_map hstart hother hmem heq
      exact hkeep (by simp) horphan
    have hold := h.kept other hother fun hdone => hkeep (List.mem_append_left _ hdone)
    exact List.mem_cons_of_mem _ (List.mem_filter.mpr ⟨hold, by simpa using hne⟩)
  case gone =>
    simp only [List.forall_mem_append, List.forall_mem_singleton]
    simp only [Store.quarantineOrphan, List.map_cons, List.mem_cons, not_or]
    constructor
    · intro other hdone hyes
      have hin := (File.isOrphan_iff.mp hyes).1
      refine ⟨hother other hin, fun hthere => h.gone other hdone hyes ?_⟩
      exact (List.filter_sublist.map _).mem hthere
    · exact fun _ => ⟨hother file hin, by simp⟩
  case old =>
    simp only [Store.quarantineOrphan, List.mem_cons, List.mem_filter]
    rintro other (rfl | ⟨hthere, _⟩) hin
    · simp at hin
    · exact h.old other hthere hin
  case rows =>
    intro row hrow hpresent
    rcases h.rows row hrow hpresent with hold | ⟨other, hother, hrest⟩
    · exact .inl hold
    · exact .inr ⟨other, List.mem_append_left _ hother, hrest⟩
  case present => exact h.present
  case catalogued =>
    simp only [List.forall_mem_append, List.forall_mem_singleton]
    exact ⟨h.catalogued, fun hsome => absurd hsome hdigest⟩

end Walked

theorem notRevivable_of_present {sha256 : Digest} (h : row.availability = .present) :
    ¬isRevivable sha256 row := by
  simp [isRevivable, h]

theorem revivedRow_of_isRevivable {sha256 : Digest} (h : isRevivable sha256 row) :
    (revivedRow file row).relativePath = some file.path ∧ (revivedRow file row).sha256 = sha256 := by
  simp only [isRevivable, Bool.and_eq_true, decide_eq_true_eq] at h
  exact ⟨rfl, h.1⟩

-- What the rows are when a file has got a row.
structure Catalogues (file : File) (sha256 : Digest) (rows rows' : List ArtifactRow) : Prop where
  keys    : (rows'.map (·.sha256)).Nodup
  old     : ∀ row ∈ rows', row ∈ rows ∨ row.relativePath = some file.path ∧ row.sha256 = sha256
  present : ∀ row ∈ rows, row.availability = .present → row ∈ rows'
  settled : ∀ sha256', (∃ row ∈ rows, row.sha256 = sha256' ∧ ¬isRevivable sha256' row) →
    ∃ row ∈ rows', row.sha256 = sha256' ∧ ¬isRevivable sha256' row
  new     : ∃ row ∈ rows', row.sha256 = sha256 ∧ ¬isRevivable sha256 row

theorem catalogueFile_catalogues {sha256 : Digest}
    (hkeys : (s.db.artifacts.map (·.sha256)).Nodup)
    (h : catalogueFile s file sha256 now = .ok s') :
    Catalogues file sha256 s.db.artifacts s'.db.artifacts ∧ s'.files = s.files ∧
      s'.staging = s.staging := by
  rcases catalogueFile_cases h with ⟨hany, rfl⟩ | ⟨hnone, rfl⟩
  · refine ⟨?_, rfl, rfl⟩
    -- a row that is revived keeps its key and is present
    have hsettles (sha256' : Digest) (row : ArtifactRow) (hkey : row.sha256 = sha256')
        (hsettled : isRevivable sha256 row ∨ ¬isRevivable sha256' row)
        (hrow : row ∈ s.db.artifacts) :
        ∃ row ∈ update (isRevivable sha256) (revivedRow file) s.db.artifacts,
          row.sha256 = sha256' ∧ ¬isRevivable sha256' row := by
      refine ⟨_, mem_update.mpr ⟨row, hrow, rfl⟩, ?_⟩
      split
      case isTrue => exact ⟨hkey, notRevivable_of_present rfl⟩
      case isFalse hnot => exact ⟨hkey, hsettled.resolve_left hnot⟩
    constructor
    case keys => exact nodup_update hkeys fun _ => rfl
    case old =>
      intro row hrow
      obtain ⟨old, hold, rfl⟩ := mem_update.mp hrow
      split
      case isTrue hrevived => exact .inr (revivedRow_of_isRevivable hrevived)
      case isFalse => exact .inl hold
    case present =>
      intro row hrow hpresent
      exact mem_update.mpr ⟨row, hrow, by rw [if_neg (notRevivable_of_present hpresent)]⟩
    case settled =>
      rintro sha256' ⟨row, hrow, hkey, hnot⟩
      exact hsettles sha256' row hkey (.inr hnot) hrow
    case new =>
      obtain ⟨row, hrow, hkey⟩ := List.any_eq_true.mp hany
      exact hsettles sha256 row (by simpa using hkey) (em _) hrow
  · refine ⟨?_, rfl, rfl⟩
    constructor
    case keys =>
      refine List.nodup_cons.mpr ⟨fun hmem => hnone ?_, hkeys⟩
      obtain ⟨row, hrow, hkey⟩ := List.mem_map.mp hmem
      exact List.any_eq_true.mpr ⟨row, hrow, decide_eq_true hkey⟩
    case old =>
      simp only [Store.withArtifacts, List.mem_cons]
      rintro row (rfl | hrow)
      · exact .inr ⟨rfl, rfl⟩
      · exact .inl hrow
    case present => exact fun row hrow _ => List.mem_cons_of_mem _ hrow
    case settled =>
      rintro sha256' ⟨row, hrow, hsettled⟩
      exact ⟨row, List.mem_cons_of_mem _ hrow, hsettled⟩
    case new => exact ⟨_, List.mem_cons_self, rfl, notRevivable_of_present rfl⟩

theorem recoverFiles_cons_iff {files : List File} {r : Unit} :
    recoverFiles hash now (file :: files) s = .ok r s' ↔
      ∃ next, recoverFile hash now file s = .ok next ∧
        recoverFiles hash now files next = .ok r s' := by
  cases hfile : recoverFile hash now file s
  case error e =>
    simp [recoverFiles, EStateM.bind_get, hfile, EStateM.bind_error EStateM.throw_apply]
  case ok next =>
    simp [recoverFiles, EStateM.bind_get, hfile, EStateM.bind_ok EStateM.set_apply]

namespace Walked

variable {start : Store} {done : List File}

-- A file that is named by its content gets a row, unless it has one.
theorem catalogue (h : Walked hash start done s)
    (hdigest : file.path.digest? = some (hash file.content))
    (hok : catalogueFile s file (hash file.content) now = .ok s') :
    Walked hash start (done ++ [file]) s' := by
  have horphan : ¬file.isOrphan hash := fun hyes => (File.isOrphan_iff.mp hyes).2 hdigest
  have ⟨hrows, hfiles, hstaging⟩ := catalogueFile_catalogues h.keys hok
  constructor
  case staging => exact hstaging.trans h.staging
  case keys => exact hrows.keys
  case paths => exact hfiles ▸ h.paths
  case kept =>
    rw [hfiles]
    exact fun other hother hkeep => h.kept other hother fun hdone =>
      hkeep (List.mem_append_left _ hdone)
  case gone =>
    simp only [List.forall_mem_append, List.forall_mem_singleton, hfiles]
    exact ⟨h.gone, fun hyes => absurd hyes horphan⟩
  case old => exact hfiles ▸ h.old
  case rows =>
    intro row hrow hpresent
    rcases hrows.old row hrow with hold | hnew
    · rcases h.rows row hold hpresent with hstart | ⟨other, hother, hrest⟩
      · exact .inl hstart
      · exact .inr ⟨other, List.mem_append_left _ hother, hrest⟩
    · exact .inr ⟨file, by simp, hdigest, hnew⟩
  case present => exact fun row hrow hyes => hrows.present row (h.present row hrow hyes) hyes
  case catalogued =>
    simp only [List.forall_mem_append, List.forall_mem_singleton]
    exact ⟨fun other hother hsome => hrows.settled _ (h.catalogued other hother hsome),
      fun _ => hrows.new⟩

theorem step (h : Walked hash start done s) (hstart : (start.files.map (·.path)).Nodup)
    (hmem : file ∈ start.files) (hok : recoverFile hash now file s = .ok s') :
    Walked hash start (done ++ [file]) s' := by
  rcases recoverFile_cases hok with ⟨hout, rfl⟩ | ⟨horphan, rfl⟩ | ⟨hdigest, hok⟩
  · exact h.skip hout
  · exact h.quarantine hstart hmem horphan
  · exact h.catalogue hdigest hok

theorem run {files : List File} {r : Unit} (h : Walked hash start done s)
    (hstart : (start.files.map (·.path)).Nodup) (hmem : ∀ file ∈ files, file ∈ start.files)
    (hok : recoverFiles hash now files s = .ok r s') :
    Walked hash start (done ++ files) s' := by
  induction files generalizing done s
  case nil =>
    cases hok
    simpa using h
  case cons file files ih =>
    have ⟨hfile, hfiles⟩ := List.forall_mem_cons.mp hmem
    obtain ⟨next, hnext, hrest⟩ := recoverFiles_cons_iff.mp hok
    have hwalked := ih (h.step hstart hfile hnext) hfiles hrest
    rwa [List.append_assoc] at hwalked

end Walked

theorem recoverArtifacts_ok_iff {result : RecoveryResult} :
    recoverArtifacts hash now s = .ok result s' ↔
      recoverFiles hash now s.files { s.markMissing with staging := [] } = .ok () s' ∧
        ⟨s.staging.length, s.db.artifacts.countP s.lacksFile⟩ = result := by
  have heq : recoverArtifacts hash now s = (do
      recoverFiles hash now s.files
      return ⟨s.staging.length, s.db.artifacts.countP s.lacksFile⟩ : Recovery RecoveryResult)
        { s.markMissing with staging := [] } :=
    rfl
  rw [heq, EStateM.bind_ok_iff]
  simp only [EStateM.pure_ok_iff]
  constructor
  · rintro ⟨_, _, hfiles, hresult, rfl⟩
    exact ⟨hfiles, hresult⟩
  · rintro ⟨hfiles, hresult⟩
    exact ⟨(), s', hfiles, hresult, rfl⟩

-- The rows that are present after the first pass: those whose file is there.
theorem mem_markMissing : (row ∈ s.markMissing.db.artifacts ∧ row.availability = .present) ↔
    row ∈ s.db.artifacts ∧ row.availability = .present ∧ ¬s.lacksFile row := by
  simp only [Store.markMissing, Store.withArtifacts, mem_update]
  constructor
  · rintro ⟨⟨old, hold, rfl⟩, hpresent⟩
    split at hpresent
    case isTrue => cases hpresent
    case isFalse hnot => simpa [hnot] using ⟨hold, hpresent⟩
  · rintro ⟨hrow, hpresent, hnot⟩
    exact ⟨⟨row, hrow, by rw [if_neg hnot]⟩, hpresent⟩

theorem lacksFile_iff : s.lacksFile row ↔ row.availability = .present ∧
    ∃ path, row.relativePath = some path ∧ fileAt s.files path = none := by
  cases hpath : row.relativePath <;> simp [Store.lacksFile, hpath]

-- A store that recovery has gone through.
structure Recovered (hash : Content → Digest) (s s' : Store) : Prop where
  keys   : (s.db.artifacts.map (·.sha256)).Nodup
  paths  : (s.files.map (·.path)).Nodup
  walked : Walked hash { s.markMissing with staging := [] } s.files s'

namespace Recovered

theorem of_ok {result : RecoveryResult} (hkeys : (s.db.artifacts.map (·.sha256)).Nodup)
    (hpaths : (s.files.map (·.path)).Nodup) (hok : recoverArtifacts hash now s = .ok result s') :
    Recovered hash s s' := by
  have hstart : Walked hash { s.markMissing with staging := [] } []
      { s.markMissing with staging := [] } :=
    .start (nodup_update hkeys fun _ => rfl) hpaths
  exact ⟨hkeys, hpaths, hstart.run hpaths (fun _ h => h) (recoverArtifacts_ok_iff.mp hok).1⟩

variable (h : Recovered hash s s')

include h

-- The files of the tree are those that are named by their content.
theorem mem_tree (hfile : file ∈ s'.files) (hin : file.path.inTree) :
    file ∈ s.files ∧ file.path.digest? = some (hash file.content) := by
  have hold : file ∈ s.files := h.walked.old file hfile hin
  refine ⟨hold, ?_⟩
  by_contra hdigest
  exact h.walked.gone file hold (File.isOrphan_iff.mpr ⟨hin, hdigest⟩) (List.mem_map_of_mem hfile)

theorem kept (hfile : file ∈ s.files) (hdigest : file.path.digest? = some (hash file.content)) :
    file ∈ s'.files :=
  h.walked.kept file hfile fun _ horphan => (File.isOrphan_iff.mp horphan).2 hdigest

-- The artifacts that are present afterwards: those that were, and those of the files of the tree.
theorem present (hrow : row ∈ s'.db.artifacts) (hpresent : row.availability = .present) :
    (row ∈ s.db.artifacts ∧ ¬s.lacksFile row) ∨
    ∃ file ∈ s'.files, file.path.digest? = some (hash file.content) ∧
      row.relativePath = some file.path ∧ row.sha256 = hash file.content := by
  rcases h.walked.rows row hrow hpresent with hold | ⟨file, hfile, hdigest, hrest⟩
  · have ⟨hrow, _, hnot⟩ := mem_markMissing.mp ⟨hold, hpresent⟩
    exact .inl ⟨hrow, hnot⟩
  · exact .inr ⟨file, h.kept hfile hdigest, hdigest, hrest⟩

theorem still_present (hrow : row ∈ s.db.artifacts) (hpresent : row.availability = .present)
    (hnot : ¬s.lacksFile row) : row ∈ s'.db.artifacts :=
  h.walked.present row (mem_markMissing.mpr ⟨hrow, hpresent, hnot⟩).1 hpresent

-- A file that stays in the tree has a row, which a further walk leaves as it is.
theorem recoverFile_again (hfile : file ∈ s'.files) : recoverFile hash now file s' = .ok s' := by
  unfold recoverFile
  split
  case isTrue => rfl
  case isFalse hin =>
    have ⟨hold, hdigest⟩ := h.mem_tree hfile (not_not.mp hin)
    simp only [hdigest, ne_eq, not_true, if_false]
    obtain ⟨row, hrow, hkey, hsettled⟩ := h.walked.catalogued file hold hdigest
    have hnone : ∀ other ∈ s'.db.artifacts, ¬isRevivable (hash file.content) other := by
      intro other hother hrevivable
      have hsame : (revivedRow file other).sha256 = hash file.content :=
        (revivedRow_of_isRevivable hrevivable).2
      obtain rfl := List.inj_on_of_nodup_map h.walked.keys hother hrow (hsame.trans hkey.symm)
      exact hsettled hrevivable
    have hany : s'.db.artifacts.any (·.sha256 = hash file.content) :=
      List.any_eq_true.mpr ⟨row, hrow, by simpa using hkey⟩
    have hfree : ¬s'.db.artifacts.any (isRevivable (hash file.content)) := by
      simpa using hnone
    simp only [catalogueFile, hany, hfree, if_true, update_eq_self hnone]
    rfl

theorem recoverFiles_again {files : List File} (hfiles : ∀ file ∈ files, file ∈ s'.files) :
    recoverFiles hash now files s' = .ok () s' := by
  induction files
  case nil => rfl
  case cons file files ih =>
    have ⟨hfile, hfiles⟩ := List.forall_mem_cons.mp hfiles
    exact recoverFiles_cons_iff.mpr ⟨s', h.recoverFile_again hfile, ih hfiles⟩

theorem settled (hpresent : ∀ row ∈ s'.db.artifacts, ¬s'.lacksFile row) (now' : Int) :
    ∃ result, recoverArtifacts hash now' s' = .ok result s' := by
  have hsame : { s'.markMissing with staging := [] } = s' := by
    have hstaging : s'.staging = [] := h.walked.staging
    simp only [Store.markMissing, Store.withArtifacts, update_eq_self hpresent, ← hstaging]
  refine ⟨_, recoverArtifacts_ok_iff.mpr ⟨?_, rfl⟩⟩
  rw [hsame]
  exact h.recoverFiles_again fun _ h => h

omit h in
theorem fileAt_mem {files : List File} {path : ArtifactPath} (hfile : fileAt files path = some file) :
    file ∈ files ∧ file.path = path :=
  ⟨List.mem_of_find?_eq_some hfile, by simpa using List.find?_some hfile⟩

-- An artifact that is present afterwards has its file, when each that was present is recoverable.
theorem restores (hall : ∀ row ∈ s.db.artifacts, row.availability = .present →
      row.Recoverable hash s.files) (hrow : row ∈ s'.db.artifacts)
    (hpresent : row.availability = .present) :
    ∃ path file, row.relativePath = some path ∧ fileAt s'.files path = some file ∧ path.inTree ∧
      hash file.content = row.sha256 := by
  rcases h.present hrow hpresent with ⟨hold, hnot⟩ | ⟨file, hfile, hdigest, hpath, hkey⟩
  · obtain ⟨path, hpath, hfile⟩ := hall row hold hpresent
    cases hat : fileAt s.files path
    case none => exact absurd (lacksFile_iff.mpr ⟨hpresent, path, hpath, hat⟩) hnot
    case some file =>
      have ⟨hdigest, hkey⟩ := hfile file hat
      obtain ⟨hmem, rfl⟩ := fileAt_mem hat
      have hkept := h.kept hmem (hdigest.trans (congrArg some hkey.symm))
      exact ⟨file.path, file, hpath, (fileAt_eq_some_iff h.walked.paths).mpr ⟨hkept, rfl⟩,
        ArtifactPath.inTree_of_digest hdigest, hkey⟩
  · exact ⟨file.path, file, hpath, (fileAt_eq_some_iff h.walked.paths).mpr ⟨hfile, rfl⟩,
      ArtifactPath.inTree_of_digest hdigest, hkey.symm⟩

theorem recoverable (hrestored : Restored hash s') (hrow : row ∈ s.db.artifacts)
    (hpresent : row.availability = .present) : row.Recoverable hash s.files := by
  by_cases hlacks : s.lacksFile row
  case pos =>
    obtain ⟨_, path, hpath, hnone⟩ := lacksFile_iff.mp hlacks
    exact ⟨path, hpath, fun file hfile => nomatch hnone.symm.trans hfile⟩
  case neg =>
    obtain ⟨path, file, hpath, hfile, hin, hkey⟩ :=
      hrestored.present row (h.still_present hrow hpresent hlacks) hpresent
    obtain ⟨hmem, rfl⟩ := fileAt_mem hfile
    have ⟨hold, hdigest⟩ := h.mem_tree hmem hin
    refine ⟨file.path, hpath, fun other hother => ?_⟩
    obtain rfl := Option.some.inj
      (hother.symm.trans ((fileAt_eq_some_iff h.paths).mpr ⟨hold, rfl⟩))
    exact ⟨hdigest.trans (congrArg some hkey), hkey⟩

end Recovered

-- A recovery that succeeds restores the store exactly when every artifact that was present has a
-- path, and the file at the path, if there is one, is in the tree under the digest of its content,
-- which is the key of the artifact.
theorem recoverArtifacts_restored_iff {result : RecoveryResult}
    (hkeys : (s.db.artifacts.map (·.sha256)).Nodup) (hpaths : (s.files.map (·.path)).Nodup)
    (hok : recoverArtifacts hash now s = .ok result s') :
    Restored hash s' ↔ ∀ row ∈ s.db.artifacts, row.availability = .present →
      row.Recoverable hash s.files := by
  have h := Recovered.of_ok hkeys hpaths hok
  constructor
  · exact fun hrestored row hrow hpresent => h.recoverable hrestored hrow hpresent
  · intro hall
    have hrestores : ∀ row ∈ s'.db.artifacts, row.availability = .present → ∃ path file,
        row.relativePath = some path ∧ fileAt s'.files path = some file ∧ path.inTree ∧
          hash file.content = row.sha256 :=
      fun _ hrow hpresent => h.restores hall hrow hpresent
    constructor
    case present => exact hrestores
    case absent =>
      intro row hrow hnowhere hpresent
      obtain ⟨path, file, _, hfile, hin, hkey⟩ := hrestores row hrow hpresent
      obtain ⟨hmem, rfl⟩ := Recovered.fileAt_mem hfile
      exact hnowhere file hmem hin hkey
    case settled =>
      refine h.settled fun row hrow hlacks => ?_
      obtain ⟨hpresent, path, hpath, hnone⟩ := lacksFile_iff.mp hlacks
      obtain ⟨path', file, hpath', hfile, _⟩ := hrestores row hrow hpresent
      obtain rfl := Option.some.inj (hpath.symm.trans hpath')
      exact nomatch hnone.symm.trans hfile

section Demo

-- The digests of two contents.
def recoveryDigest (content : Content) : Digest :=
  if content = [] then 0xe3b0c44298fc1c149afbf4c8996fb92427ae41e4649b934ca495991b7852b855
  else if content = [97] then 0xca978112ca1bbdcafac231b39a23dc4da786eff8147c4e72b9807785afee48bb
  else 0

-- A store with one artifact, and a content of its file.
def recoveryDemo (content : Content) : Store where
  root    := "/data"
  db      := { Database.empty with
    artifacts := [{
      sha256        := recoveryDigest [97]
      relativePath  := some (.committed (recoveryDigest [97]) ['m', 'k', 'v'])
      byteLength    := 1
      mediaType     := none
      availability  := .present
      createdAtMs   := 2
      missingReason := none }] }
  files   := [⟨.committed (recoveryDigest [97]) ['m', 'k', 'v'], content⟩]
  staging := []

theorem recoverArtifacts_restored_iff_demo :
    Restored recoveryDigest (recoveryDemo [97]) ↔
      ∀ row ∈ (recoveryDemo [97]).db.artifacts, row.availability = .present →
        row.Recoverable recoveryDigest (recoveryDemo [97]).files := by
  have hok : recoverArtifacts recoveryDigest 5 (recoveryDemo [97]) =
      .ok ⟨0, 0⟩ (recoveryDemo [97]) := by
    rfl
  exact recoverArtifacts_restored_iff (by decide) (by decide) hok

-- A file that has been truncated is put in quarantine after its artifact has been found present.
theorem not_restored_truncated : ∃ result s', recoverArtifacts recoveryDigest 5 (recoveryDemo []) =
    .ok result s' ∧ ¬Restored recoveryDigest s' := by
  refine ⟨_, _, rfl, fun h => ?_⟩
  obtain ⟨path, file, hpath, hfile, hin, _⟩ := h.present _ List.mem_cons_self rfl
  cases hpath
  have hgone : fileAt ((recoveryDemo []).quarantineOrphan
      ⟨.committed (recoveryDigest [97]) ['m', 'k', 'v'], []⟩).files
      (.committed (recoveryDigest [97]) ['m', 'k', 'v']) = none := by
    decide
  exact nomatch hgone.symm.trans hfile

end Demo

end Storage
