import OpenFrag.Storage.Catalogue
import OpenFrag.Storage.Theorems.Recovery

open Table

namespace Storage

variable {hash : Content → Digest} {s s' : Store} {sha256 : Digest} {file : File}
variable {row row' : ArtifactRow} {path : ArtifactPath}

namespace ArtifactRow.IsNamed

theorem of_entry (h : row.IsNamed) (heq : row'.entry = row.entry) : row'.IsNamed := by
  simp only [entry, Prod.mk.injEq] at heq
  obtain ⟨hkey, hpath, havailability⟩ := heq
  constructor
  case digest =>
    rw [hpath, hkey]
    exact h.digest
  case present =>
    rw [hpath, hkey, havailability]
    exact h.present

theorem of_path (hpath : row.relativePath = some path) (hdigest : path.digest? = some row.sha256) :
    row.IsNamed := by
  constructor
  case digest =>
    intro other hother sha256 hsha
    rw [hpath] at hother
    obtain rfl := Option.some.inj hother
    exact Option.some.inj (hdigest.symm.trans hsha)
  case present => exact fun _ => ⟨path, hpath, hdigest⟩

-- The path of an artifact that is no longer present.
theorem lose (h : row.IsNamed) (hkey : row'.sha256 = row.sha256)
    (hpath : row'.relativePath = row.relativePath) (hlost : row'.availability ≠ .present) :
    row'.IsNamed := by
  constructor
  case digest =>
    rw [hpath, hkey]
    exact h.digest
  case present => exact fun hpresent => absurd hpresent hlost

theorem of_unnamed (hpath : ∀ path ∈ row.relativePath, path.digest? = none)
    (hlost : row.availability ≠ .present) : row.IsNamed := by
  constructor
  case digest =>
    intro path hmem sha256 hsha
    rw [hpath path hmem] at hsha
    cases hsha
  case present => exact fun hpresent => absurd hpresent hlost

end ArtifactRow.IsNamed

-- An artifact is present and has a file.
def IsHeld (s : Store) (sha256 : Digest) : Prop :=
  ∃ row ∈ s.db.artifacts, row.sha256 = sha256 ∧ row.availability = .present ∧
    ∃ path ∈ row.relativePath, path ∈ s.files.map (·.path)

theorem fileAt_isSome_iff (files : List File) (path : ArtifactPath) :
    (fileAt files path).isSome ↔ path ∈ files.map (·.path) := by
  simp [fileAt]

namespace Catalogued

theorem holds_iff (h : Catalogued hash s) : Holds hash s sha256 ↔ IsHeld s sha256 := by
  constructor
  · rintro ⟨row, hrow, hkey, hpresent, path, file, hpath, hfile, _⟩
    obtain ⟨hmem, rfl⟩ := (fileAt_eq_some_iff h.paths).mp hfile
    exact ⟨row, hrow, hkey, hpresent, file.path, hpath, List.mem_map_of_mem hmem⟩
  · rintro ⟨row, hrow, rfl, hpresent, path, hpath, hmem⟩
    obtain ⟨file, hfile, rfl⟩ := List.mem_map.mp hmem
    obtain ⟨path', hpath', hdigest⟩ := (h.rows row hrow).present hpresent
    obtain rfl := Option.some.inj (hpath.symm.trans hpath')
    exact ⟨row, hrow, rfl, hpresent, file.path, file, hpath,
      (fileAt_eq_some_iff h.paths).mpr ⟨hfile, rfl⟩, h.files file hfile _ hdigest⟩

theorem named_filter (h : Catalogued hash s) {p : File → Bool} :
    ∀ file ∈ s.files.filter p, file.IsNamed hash :=
  fun file hfile => h.files file (List.mem_of_mem_filter hfile)

-- A change of the database.
theorem change (h : Catalogued hash s) (hfiles : s'.files = s.files)
    (hkeys : (s'.db.artifacts.map (·.sha256)).Nodup) (hrows : ∀ row ∈ s'.db.artifacts, row.IsNamed) :
    Catalogued hash s' where
  keys  := hkeys
  paths := hfiles ▸ h.paths
  files := hfiles ▸ h.files
  rows  := hrows

theorem same (h : Catalogued hash s) (hartifacts : s'.db.artifacts = s.db.artifacts)
    (hfiles : s'.files = s.files) : Catalogued hash s' :=
  h.change hfiles (hartifacts ▸ h.keys) (hartifacts ▸ h.rows)

theorem updated (h : Catalogued hash s) {p : ArtifactRow → Bool} {f : ArtifactRow → ArtifactRow}
    (hfiles : s'.files = s.files) (hartifacts : s'.db.artifacts = update p f s.db.artifacts)
    (hkey : ∀ row, (f row).sha256 = row.sha256)
    (hf : ∀ row ∈ s.db.artifacts, p row → (f row).IsNamed) : Catalogued hash s' := by
  apply h.change hfiles
  case hkeys => exact hartifacts ▸ nodup_update h.keys hkey
  case hrows =>
    rw [hartifacts]
    intro row hrow
    obtain ⟨old, hold, rfl⟩ := mem_update.mp hrow
    split
    case isTrue hp => exact hf old hold hp
    case isFalse => exact h.rows old hold

-- A row that is added.
theorem added (h : Catalogued hash s) (hfiles : s'.files = s.files)
    (hartifacts : s'.db.artifacts = row :: s.db.artifacts) (hnew : ¬hasArtifact s.db row.sha256)
    (hrow : row.IsNamed) : Catalogued hash s' := by
  apply h.change hfiles
  case hkeys =>
    rw [hartifacts]
    refine List.nodup_cons.mpr ⟨?_, h.keys⟩
    simpa [hasArtifact] using hnew
  case hrows =>
    rw [hartifacts]
    exact List.forall_mem_cons.mpr ⟨hrow, h.rows⟩

theorem removeFile (h : Catalogued hash s) (path : ArtifactPath) :
    Catalogued hash (s.removeFile path) where
  keys  := h.keys
  paths := h.paths.sublist (List.filter_sublist.map _)
  files := fun file hfile => h.files file (List.mem_of_mem_filter hfile)
  rows  := h.rows

-- A file that replaces another one, or that is moved to a new path.
theorem put (h : Catalogued hash s) (hdb : s'.db = s.db) {gone : ArtifactPath}
    (hfiles : s'.files = file :: s.files.filter (·.path ≠ gone))
    (hnew : file.path = gone ∨ file.path ∉ s.files.map (·.path)) (hnamed : file.IsNamed hash) :
    Catalogued hash s' := by
  constructor
  case keys => exact hdb ▸ h.keys
  case paths =>
    rw [hfiles]
    refine List.nodup_cons.mpr ⟨?_, h.paths.sublist (List.filter_sublist.map _)⟩
    intro hmem
    obtain ⟨other, hother, hpath⟩ := List.mem_map.mp hmem
    have ⟨hold, hne⟩ := List.mem_filter.mp hother
    rcases hnew with rfl | hnew
    · exact absurd hpath (by simpa using hne)
    · exact hnew (List.mem_map.mpr ⟨other, hold, hpath⟩)
  case files =>
    rw [hfiles]
    refine List.forall_mem_cons.mpr ⟨hnamed, fun other hother => ?_⟩
    exact h.files other (List.mem_of_mem_filter hother)
  case rows => exact hdb ▸ h.rows

theorem recoverable (h : Catalogued hash s) (hrow : row ∈ s.db.artifacts)
    (hpresent : row.availability = .present) : row.Recoverable hash s.files := by
  obtain ⟨path, hpath, hdigest⟩ := (h.rows row hrow).present hpresent
  refine ⟨path, hpath, fun file hfile => ⟨hdigest, ?_⟩⟩
  obtain ⟨hmem, rfl⟩ := (fileAt_eq_some_iff h.paths).mp hfile
  exact h.files file hmem _ hdigest

end Catalogued

-- The files that are named by one of the digests stay.
def KeepsFiles (kept : Digest → Prop) (s s' : Store) : Prop :=
  ∀ path ∈ s.files.map (·.path), ∀ sha256, path.digest? = some sha256 → kept sha256 →
    path ∈ s'.files.map (·.path)

namespace KeepsFiles

variable {kept kept' : Digest → Prop}

theorem of_eq (h : s'.files = s.files) : KeepsFiles kept s s' :=
  fun _ hpath _ _ _ => h ▸ hpath

theorem trans {s'' : Store} (h : KeepsFiles kept s s') (h' : KeepsFiles kept s' s'') :
    KeepsFiles kept s s'' :=
  fun path hpath sha256 hdigest hkept =>
    h' path (h path hpath sha256 hdigest hkept) sha256 hdigest hkept

theorem mono (h : KeepsFiles kept s s') (hkept : ∀ sha256, kept' sha256 → kept sha256) :
    KeepsFiles kept' s s' :=
  fun path hpath sha256 hdigest hyes => h path hpath sha256 hdigest (hkept sha256 hyes)

-- One file is taken away, and others may be added.
theorem of_filter (hfiles : s.files.filter (·.path ≠ path) ⊆ s'.files)
    (hpath : ∀ sha256, path.digest? = some sha256 → ¬kept sha256) : KeepsFiles kept s s' := by
  intro other hmem sha256 hdigest hkept
  obtain ⟨file, hfile, rfl⟩ := List.mem_map.mp hmem
  have hother : file.path ≠ path := fun heq => hpath sha256 (heq ▸ hdigest) hkept
  exact List.mem_map_of_mem (hfiles (List.mem_filter.mpr ⟨hfile, by simpa using hother⟩))

end KeepsFiles

-- What is left of the artifacts when some are spared: the catalogue stays right, and the artifacts
-- that are spared stay. No staged file is made.
structure Leaves (hash : Content → Digest) (spared : Digest → Prop) (s s' : Store) : Prop where
  staging    : s'.staging ⊆ s.staging
  catalogued : Catalogued hash s → Catalogued hash s'
  held       : Catalogued hash s → ∀ sha256, spared sha256 → IsHeld s sha256 → IsHeld s' sha256

namespace Leaves

variable {spared : Digest → Prop}

theorem refl (s : Store) : Leaves hash spared s s where
  staging    := fun _ h => h
  catalogued := id
  held       := fun _ _ _ h => h

theorem trans {s'' : Store} (h : Leaves hash spared s s') (h' : Leaves hash spared s' s'') :
    Leaves hash spared s s'' where
  staging    := fun _ hmem => h.staging (h'.staging hmem)
  catalogued := h'.catalogued ∘ h.catalogued
  held       := fun hcat sha256 hspared hheld =>
    h'.held (h.catalogued hcat) sha256 hspared (h.held hcat sha256 hspared hheld)

theorem mono {spared' : Digest → Prop} (h : Leaves hash spared s s')
    (hspared : ∀ sha256, spared' sha256 → spared sha256) : Leaves hash spared' s s' :=
  { h with held := fun hcat sha256 hyes => h.held hcat sha256 (hspared sha256 hyes) }

instance : Std.Refl (Leaves hash spared) := ⟨refl⟩

instance : IsTrans Store (Leaves hash spared) := ⟨fun _ _ _ => trans⟩

-- An artifact keeps its row, and the path of the row its file.
theorem of_held (hstaging : s'.staging ⊆ s.staging)
    (hcatalogued : Catalogued hash s → Catalogued hash s')
    (hrows : Catalogued hash s → ∀ row ∈ s.db.artifacts, spared row.sha256 →
      row.availability = .present → (∃ path ∈ row.relativePath,
        path.digest? = some row.sha256 ∧ path ∈ s.files.map (·.path)) →
      ∃ row' ∈ s'.db.artifacts, row'.sha256 = row.sha256 ∧ row'.availability = .present ∧
        ∃ path ∈ row'.relativePath, path ∈ s'.files.map (·.path)) :
    Leaves hash spared s s' where
  staging    := hstaging
  catalogued := hcatalogued
  held       := by
    rintro hcat sha256 hspared ⟨row, hrow, rfl, hpresent, path, hpath, hmem⟩
    obtain ⟨path', hpath', hdigest⟩ := (hcat.rows row hrow).present hpresent
    obtain rfl := Option.some.inj (hpath.symm.trans hpath')
    exact hrows hcat row hrow hspared hpresent ⟨path, hpath, hdigest, hmem⟩

-- The files and the rows stay, and a file may be added.
theorem of_same (hstaging : s'.staging ⊆ s.staging)
    (hartifacts : s'.db.artifacts = s.db.artifacts) (hfiles : s'.files = s.files) :
    Leaves hash spared s s' := by
  apply of_held hstaging fun h => h.same hartifacts hfiles
  rintro _ row hrow _ hpresent ⟨path, hpath, _, hmem⟩
  exact ⟨row, hartifacts ▸ hrow, rfl, hpresent, path, hpath, hfiles ▸ hmem⟩

-- The files that have the digest of a spared artifact stay.
theorem of_files (hstaging : s'.staging ⊆ s.staging)
    (hcatalogued : Catalogued hash s → Catalogued hash s')
    (hartifacts : s'.db.artifacts = s.db.artifacts)
    (hfiles : Catalogued hash s →
      KeepsFiles (fun sha256 => spared sha256 ∧ hasArtifact s.db sha256) s s') :
    Leaves hash spared s s' := by
  apply of_held hstaging hcatalogued
  rintro hcat row hrow hspared hpresent ⟨path, hpath, hdigest, hmem⟩
  have hhas : hasArtifact s.db row.sha256 := List.any_eq_true.mpr ⟨row, hrow, by simp⟩
  exact ⟨row, hartifacts ▸ hrow, rfl, hpresent, path, hpath,
    hfiles hcat path hmem row.sha256 hdigest ⟨hspared, hhas⟩⟩

-- A change of rows that leaves those of the present artifacts that are spared and have a file.
theorem of_updated {p : ArtifactRow → Bool} {f : ArtifactRow → ArtifactRow}
    (hstaging : s'.staging ⊆ s.staging) (hfiles : s'.files = s.files)
    (hartifacts : s'.db.artifacts = update p f s.db.artifacts)
    (hkey : ∀ row, (f row).sha256 = row.sha256)
    (hf : ∀ row ∈ s.db.artifacts, p row → row.IsNamed → (f row).IsNamed)
    (hp : ∀ row ∈ s.db.artifacts, spared row.sha256 → row.availability = .present →
      (∃ path ∈ row.relativePath, path ∈ s.files.map (·.path)) → ¬p row) :
    Leaves hash spared s s' := by
  apply of_held hstaging
  case hcatalogued =>
    exact fun h => h.updated hfiles hartifacts hkey fun row hrow hrowp =>
      hf row hrow hrowp (h.rows row hrow)
  case hrows =>
    rintro _ row hrow hspared hpresent ⟨path, hpath, _, hmem⟩
    have hkept := hp row hrow hspared hpresent ⟨path, hpath, hmem⟩
    exact ⟨row, hartifacts ▸ mem_update.mpr ⟨row, hrow, (if_neg hkept).symm⟩, rfl, hpresent, path,
      hpath, hfiles ▸ hmem⟩

end Leaves

end Storage
