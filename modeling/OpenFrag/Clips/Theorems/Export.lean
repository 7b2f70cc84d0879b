import Mathlib.Data.Finset.Card
import OpenFrag.Clips.Export
import OpenFrag.Clips.Theorems.Files
import OpenFrag.Clips.Theorems.Rehydration

open EStateM Function Slugs

namespace Clips

section Names

variable {c : Char} {cs : List Char} {name filename value fallback : String} {k : Nat}

theorem isWordChar_toLower (h : c.isAlphanum) : IsWordChar c.toLower := by
  have hlower (k : Char) : k.isLower = (decide (97 ≤ k.val) && decide (k.val ≤ 122)) := rfl
  have halphanum : c.isAlphanum = (decide (65 ≤ c.val ∧ c.val ≤ 90) || c.isLower || c.isDigit) :=
    rfl
  unfold Char.toLower
  split
  case isTrue hupper =>
    have ⟨hfirst, hlast⟩ : 65 ≤ c.toNat ∧ c.toNat ≤ 90 := by
      simpa [UInt32.le_iff_toNat_le] using hupper
    refine .inl ?_
    rw [hlower]
    simp [UInt32.le_iff_toNat_le, UInt32.toNat_add]
    omega
  case isFalse hupper =>
    have hsmall : ¬(65 ≤ c.val ∧ c.val ≤ 90) := hupper
    simpa [IsWordChar, halphanum, hsmall] using h

theorem sanitizeChar_slug (h : cs = [] ∨ Slug cs) (pending : Bool) :
    (sanitizeChar cs pending c).1 = [] ∨ Slug (sanitizeChar cs pending c).1 := by
  unfold sanitizeChar
  by_cases hc : c.isAlphanum
  case neg => simpa [hc] using h
  case pos =>
    have hlower := isWordChar_toLower hc
    rw [if_pos hc]
    rcases h with hnil | hslug
    case inl =>
      subst hnil
      exact .inr (.word (by simpa using .singleton hlower))
    case inr =>
      cases pending
      case false =>
        have hword := hslug.concat hlower
        exact .inr (by simpa using hword)
      case true =>
        have hdash := hslug.append (.word (.singleton hlower))
        simpa [hslug.ne_nil] using hdash

theorem foldl_slug {step : List Char × Bool → Char → List Char × Bool}
    (hstep : ∀ cs pending c, step (cs, pending) c = sanitizeChar cs pending c) :
    ∀ (text cs : List Char) (pending : Bool), (cs = [] ∨ Slug cs) →
      (text.foldl step (cs, pending)).1 = [] ∨ Slug (text.foldl step (cs, pending)).1 := by
  intro text
  induction text
  case nil => exact fun _ _ h => h
  case cons c text ih =>
    intro cs pending hcs
    rw [List.foldl_cons, hstep]
    exact ih _ _ (sanitizeChar_slug hcs pending)

theorem sanitize_slug (h : Slug fallback.toList) :
    Slug (sanitizeFilenameComponent value fallback).toList := by
  unfold sanitizeFilenameComponent
  generalize hstep : (fun _ _ => _ : List Char × Bool → Char → List Char × Bool) = step
  have hsteps : ∀ cs pending c, step (cs, pending) c = sanitizeChar cs pending c := by
    subst hstep
    exact fun _ _ _ => rfl
  rcases foldl_slug hsteps value.toList [] false (.inl rfl) with hnil | hslug
  case inl => simpa [hnil] using h
  case inr => simpa [hslug.ne_nil] using hslug

-- The names of exported files: words of small letters and digits with dashes between them, and the
-- extension of a video.
def FileName (cs : List Char) : Prop :=
  ∃ stem, Slug stem ∧ cs = stem ++ ".mp4".toList

theorem fileName_sanitize (title : String) (id : ClipId) :
    FileName (sanitizeExportFilename title id).toList := by
  have htitle : Slug (sanitizeFilenameComponent title "clip").toList :=
    sanitize_slug (.word ⟨by simp [IsWordChar], by decide⟩)
  have hid : Slug (sanitizeFilenameComponent id.value "id").toList :=
    sanitize_slug (.word ⟨by simp [IsWordChar], by decide⟩)
  refine ⟨_, htitle.append hid, ?_⟩
  simp [sanitizeExportFilename]

theorem fileName_candidate (h : FileName filename.toList) (k : Nat) :
    FileName (candidate filename k).toList := by
  have ⟨stem, hslug, hstem⟩ := h
  have hstrip : stripMp4 filename = .ofList stem := by
    have hsuffix : ".mp4".toList.isSuffixOf? filename.toList = some stem :=
      List.isSuffixOf?_eq_some_iff_append_eq.mpr hstem.symm
    simp only [stripMp4, hsuffix]
  unfold candidate
  split
  case isTrue => exact h
  case isFalse =>
    refine ⟨_, hslug.append (.word (word_repr k)), ?_⟩
    simp [hstrip, toString]

theorem FileName.plain (h : FileName name.toList) : PlainName name where
  no_separator := by
    have ⟨stem, hslug, hstem⟩ := h
    rw [hstem]
    have hstem := hslug.not_mem (c := '/') rfl rfl (by decide)
    simp [hstem]
  not_empty := by
    intro heq
    have ⟨stem, _, hstem⟩ := h
    simp [heq] at hstem
  not_current := by
    intro heq
    have ⟨stem, _, hstem⟩ := h
    have hlength := congrArg List.length hstem
    simp [heq] at hlength
  not_parent := by
    intro heq
    have ⟨stem, _, hstem⟩ := h
    have hlength := congrArg List.length hstem
    simp [heq] at hlength

end Names

-- A path whose last component starts with a dot.
def Hidden (path : FilePath) : Prop :=
  ∃ directory name, path = directory ++ [name] ∧ name.toList.head? = some '.'

theorem FileName.not_hidden {directory : FilePath} {name : String} (h : FileName name.toList) :
    ¬Hidden (directory ++ [name]) := by
  intro ⟨directory', name', heq, hdot⟩
  have hname : name = name' := by simpa using (List.append_inj' heq rfl).2
  subst hname
  have ⟨stem, hslug, hstem⟩ := h
  have hmem : '.' ∈ stem := by
    cases stem
    case nil => exact absurd rfl hslug.ne_nil
    case cons c stem =>
      rw [hstem] at hdot
      simp_all
  exact hslug.not_mem (c := '.') rfl rfl (by decide) hmem

-- Nothing is lost, and only hidden files can be new. When files can be removed, none are.
structure Keeps (removes : Prop) (files files' : Files) : Prop where
  visible : ∀ path, ¬Hidden path → files' path = files path
  kept    : ∀ path entry, files path = some entry → files' path = some entry
  clean   : removes → files' = files

namespace Keeps

variable {removes : Prop} {files files' files'' : Files} {path : FilePath}

theorem refl : Keeps removes files files where
  visible _ _ := rfl
  kept _ _ h  := h
  clean _     := rfl

theorem trans (h : Keeps removes files files') (h' : Keeps removes files' files'') :
    Keeps removes files files'' where
  visible path hpath := (h'.visible path hpath).trans (h.visible path hpath)
  kept path entry hentry := h'.kept path entry (h.kept path entry hentry)
  clean hremoves := (h'.clean hremoves).trans (h.clean hremoves)

theorem update {entry : Option Entry} (hhidden : Hidden path) (hfree : files path = none)
    (hremoves : removes → entry = none) : Keeps removes files (update files path entry) where
  visible path' hpath' := by
    have hne : path' ≠ path := fun heq => hpath' (heq ▸ hhidden)
    exact update_of_ne hne entry files
  kept path' entry' hentry' := by
    have hne : path' ≠ path := fun heq => by simp [heq, hfree] at hentry'
    rw [update_of_ne hne]
    exact hentry'
  clean hclean := by
    rw [hremoves hclean, ← hfree]
    exact update_eq_self path files

end Keeps

section Copies

variable {W : Type} {ports : DiskPorts W} {source directory : FilePath} {name : String}
variable {files : Files} {w : W}

-- What a copy does: the destination exists, or the copy fails, or it is made.
inductive Copies (ports : DiskPorts W) (source destination : FilePath) (files : Files) :
    Result FileOperationError (Disk W) Nat → Prop
  | taken {content files' w} (source_eq : files source = some (.file content))
      (exists' : (files destination).isSome) (keeps : Keeps (Removes ports) files files') :
    Copies ports source destination files (.error .destinationExists ⟨files', w⟩)
  | failed {e files' w} (other : e ≠ .destinationExists)
      (keeps : Keeps (Removes ports) files files') :
    Copies ports source destination files (.error e ⟨files', w⟩)
  | copied {content files' w} (source_eq : files source = some (.file content))
      (free : files destination = none) (keeps : Keeps (Removes ports) files files') :
    Copies ports source destination files
      (.ok content.length ⟨update files' destination (some (.file content)), w⟩)

-- The name of a hidden file: a dot and a mark that makes it unique.
theorem hiddenName_plain {hidden : String} (mark : String) (a b : Nat) (h : PlainName name)
    (hmark : '/' ∉ mark.toList)
    (heq : hidden = "." ++ name ++ mark ++ toString a ++ "-" ++ toString b) : PlainName hidden := by
  have hdigits : ∀ n : Nat, '/' ∉ Nat.toDigits 10 n := fun n hmem => by
    simpa using Nat.isDigit_of_mem_toDigits (by decide) (by decide) hmem
  have hlong : 2 < hidden.toList.length := by
    have hdigit := List.length_pos_of_ne_nil (Nat.toDigits_ne_nil (n := a) (b := 10))
    simp [heq]
    omega
  exact {
    no_separator := by simp [heq, h.no_separator, hmark, hdigits]
    not_empty    := fun heq => by simp [heq] at hlong
    not_current  := fun heq => by simp [heq] at hlong
    not_parent   := fun heq => by simp [heq] at hlong }

theorem hidden_concat {hidden : String} (hdot : hidden.toList.head? = some '.') :
    Hidden (directory ++ [hidden]) :=
  ⟨directory, hidden, rfl, hdot⟩

theorem temporaryPath_eq (ports : DiskPorts W) (directory : FilePath)
    (h : PlainName name) (files : Files) (w : W) :
    ∃ hidden w', Hidden hidden ∧
      temporaryPath ports directory name ⟨files, w⟩ = .ok hidden ⟨files, w'⟩ := by
  have hplain := hiddenName_plain ".openfrag-tmp-" ports.processId (ports.nextId w).1 h (by decide)
    rfl
  refine ⟨_, (ports.nextId w).2, ?_, rfl⟩
  rw [hplain.join]
  exact hidden_concat (by simp)

theorem FileName.ne_hidden {hidden : FilePath} (h : FileName name.toList) (hhidden : Hidden hidden) :
    directory ++ [name] ≠ hidden :=
  fun heq => h.not_hidden (heq ▸ hhidden)

@[simp]
theorem required_some {α σ : Type} {what : String} {a : α} :
    (required what (some a) : EStateM FileOperationError σ α) = pure a := rfl

theorem mapSourceError_ne {e : IoError} : mapSourceError e ≠ .destinationExists := by
  unfold mapSourceError
  split <;> simp

theorem mapDestinationError_ne {e : IoError} (h : e.kind ≠ .alreadyExists) :
    mapDestinationError e ≠ .destinationExists := by
  simp [mapDestinationError, h]

-- A hidden file that was not there before is discarded.
theorem Disk.discard_hidden (ports : DiskPorts W) {hidden : FilePath} (hhidden : Hidden hidden)
    (hfree : files hidden = none) (entry : Option Entry) (w : W) :
    ∃ files' w', Disk.discard ports hidden ⟨update files hidden entry, w⟩ = ⟨files', w'⟩ ∧
      Keeps (Removes ports) files files' := by
  have ⟨entry', w', h, _, hremoves⟩ :=
    Disk.discard_eq ports hidden (update files hidden entry) w
  rw [update_idem] at h
  exact ⟨_, w', h, Keeps.update hhidden hfree hremoves⟩

theorem atomicCopy_copies (ports : DiskPorts W) (source directory : FilePath)
    (hname : FileName name.toList) (files : Files) (w : W) :
    Copies ports source (directory ++ [name]) files
      (atomicCopy ports source (directory ++ [name]) ⟨files, w⟩) := by
  unfold atomicCopy
  rcases Disk.contentOf_cases ports .open source files w with ⟨e, w, h⟩ | ⟨content, w, hsource, h⟩
  case inl =>
    rw [bind_error (adaptExcept_error h)]
    exact .failed mapSourceError_ne .refl
  rw [bind_ok (adaptExcept_ok h)]
  clear h
  rw [hname.plain.fileName, hname.plain.parent, required_some, required_some, pure_bind, pure_bind]
  have ⟨temporary, w, hhidden, h⟩ := temporaryPath_eq ports directory hname.plain files w
  rw [bind_ok h]
  clear h
  have hne : directory ++ [name] ≠ temporary := hname.ne_hidden hhidden
  rcases Disk.createNew_cases ports temporary files w with ⟨e, w, h⟩ | ⟨w, hfree, h⟩
  case inl =>
    rw [bind_error (adaptExcept_error h)]
    exact .failed nofun .refl
  rw [bind_ok (adaptExcept_ok h)]
  clear h
  rcases Disk.write_cases ports temporary content (update files temporary (some (.file []))) w with
    ⟨e, part, w, h⟩ | ⟨w, h⟩ <;> rw [update_idem] at h
  case inl =>
    have ⟨files', w', hdiscard, hkeeps⟩ :=
      Disk.discard_hidden ports hhidden hfree (some (.file part)) w
    rw [bind_error (adaptExcept_error (Disk.orDiscard_error h)), hdiscard]
    exact .failed nofun hkeeps
  rw [bind_ok (adaptExcept_ok (Disk.orDiscard_ok h))]
  clear h
  rcases Disk.attempt_cases ports .sync (update files temporary (some (.file content))) w with
    ⟨text, w, _, h⟩ | ⟨w, h⟩
  case inl =>
    have ⟨files', w', hdiscard, hkeeps⟩ :=
      Disk.discard_hidden ports hhidden hfree (some (.file content)) w
    rw [bind_error (adaptExcept_error (Disk.orDiscard_error h)), hdiscard]
    exact .failed nofun hkeeps
  rw [bind_ok (adaptExcept_ok (Disk.orDiscard_ok h))]
  clear h
  rcases Disk.hardLink_cases ports temporary (directory ++ [name])
    (update files temporary (some (.file content))) w with
    ⟨w, hexists, h⟩ | ⟨e, w, hkind, h⟩ | ⟨entry, w, hentry, hdestination, h⟩
  case inl =>
    have ⟨files', w', hdiscard, hkeeps⟩ :=
      Disk.discard_hidden ports hhidden hfree (some (.file content)) w
    rw [bind_error (adaptExcept_error (Disk.thenDiscard_error h)), hdiscard]
    exact .taken hsource (by simpa [update_of_ne hne] using hexists) hkeeps
  case inr.inl =>
    have ⟨files', w', hdiscard, hkeeps⟩ :=
      Disk.discard_hidden ports hhidden hfree (some (.file content)) w
    rw [bind_error (adaptExcept_error (Disk.thenDiscard_error h)), hdiscard]
    exact .failed (mapDestinationError_ne hkind) hkeeps
  case inr.inr =>
    have hentry' : entry = .file content := by simpa using hentry.symm
    rw [update_of_ne hne] at hdestination
    subst hentry'
    have ⟨entry', w', hdiscard, _, hremoves⟩ := Disk.discard_eq ports temporary
      (update (update files temporary (some (.file content))) (directory ++ [name])
        (some (.file content))) w
    rw [update_comm hne, update_idem] at hdiscard
    rw [bind_ok (adaptExcept_ok (Disk.thenDiscard_ok h)), hdiscard]
    exact .copied hsource hdestination (.update hhidden hfree hremoves)

end Copies

section Tries

variable {W : Type} {ports : DiskPorts W} {source directory : FilePath} {filename : String}
variable {files files' : Files} {w : W} {tried : List FilePath} {index remaining : Nat}

-- The destinations of a number of attempts.
def destinations (directory : FilePath) (filename : String) (index count : Nat) : List FilePath :=
  (List.range count).map fun i => directory ++ [candidate filename (index + i)]

theorem destinations_succ {count : Nat} :
    destinations directory filename index (count + 1) =
      (directory ++ [candidate filename index]) ::
        destinations directory filename (index + 1) count := by
  simp [destinations, List.range_succ_eq_map, Nat.add_right_comm _ 1, Nat.add_assoc]

abbrev Taken (directory : FilePath) (filename : String) (files : Files) (k : Nat) : Prop :=
  (files (directory ++ [candidate filename k])).isSome

theorem Keeps.taken_iff {removes : Prop} (h : Keeps removes files files')
    (hname : FileName filename.toList) (k : Nat) :
    Taken directory filename files' k ↔ Taken directory filename files k := by
  have hvisible := h.visible (directory ++ [candidate filename k])
    (fileName_candidate hname k).not_hidden
  rw [Taken, hvisible]

-- What an export does with the names: it finds the first free one, it fails at one, or all are taken.
inductive Tries (ports : DiskPorts W) (source directory : FilePath) (filename : String)
    (files : Files) (tried : List FilePath) (remaining index : Nat) :
    Result ExportError (Disk W × List FilePath) (Option (FilePath × Nat)) → Prop
  | found {k content files' w} (few : k < remaining)
      (skipped : ∀ i < k, Taken directory filename files (index + i))
      (free : files (directory ++ [candidate filename (index + k)]) = none)
      (source_eq : files source = some (.file content))
      (keeps : Keeps (Removes ports) files files') :
    Tries ports source directory filename files tried remaining index
      (.ok (some (directory ++ [candidate filename (index + k)], content.length))
        (⟨update files' (directory ++ [candidate filename (index + k)]) (some (.file content)), w⟩,
          tried ++ destinations directory filename index (k + 1)))
  | failed {k e files' w} (few : k < remaining)
      (skipped : ∀ i < k, Taken directory filename files (index + i))
      (other : e ≠ .destinationExists) (keeps : Keeps (Removes ports) files files') :
    Tries ports source directory filename files tried remaining index
      (.error (.file e) (⟨files', w⟩, tried ++ destinations directory filename index (k + 1)))
  | exhausted {s} (skipped : ∀ i < remaining, Taken directory filename files (index + i)) :
    Tries ports source directory filename files tried remaining index (.ok none s)

-- The first name is taken, and the rest of the attempts goes on from there.
theorem Tries.skip {r : Result ExportError (Disk W × List FilePath) (Option (FilePath × Nat))}
    {content : List UInt8} (hname : FileName filename.toList)
    (hsource : files source = some (.file content)) (htaken : Taken directory filename files index)
    (hkeeps : Keeps (Removes ports) files files')
    (h : Tries ports source directory filename files'
      (tried ++ [directory ++ [candidate filename index]]) remaining (index + 1) r) :
    Tries ports source directory filename files tried (remaining + 1) index r := by
  have hskipped : ∀ {k}, (∀ i < k, Taken directory filename files' (index + 1 + i)) →
      ∀ i < k + 1, Taken directory filename files (index + i) := by
    intro k hk i hi
    cases i
    case zero => exact htaken
    case succ i =>
      have hi' := (hkeeps.taken_iff hname _).mp (hk i (by omega))
      rwa [Nat.add_right_comm, Nat.add_assoc] at hi'
  have hindex : ∀ k, index + 1 + k = index + (k + 1) := fun k => by omega
  cases h with
  | found few skipped free source_eq keeps =>
    rw [hkeeps.kept _ _ hsource] at source_eq
    rw [hkeeps.visible _ (fileName_candidate hname _).not_hidden, hindex] at free
    rw [List.append_assoc, List.singleton_append, ← destinations_succ, hindex]
    exact .found (by omega) (hskipped skipped) free (hsource.trans source_eq) (hkeeps.trans keeps)
  | failed few skipped other keeps =>
    rw [List.append_assoc, List.singleton_append, ← destinations_succ]
    exact .failed (by omega) (hskipped skipped) other (hkeeps.trans keeps)
  | exhausted skipped => exact .exhausted (hskipped skipped)

section

variable {name : String} {disk disk' : Disk W} {bytes : Nat} {e : FileOperationError}

theorem copyTo_taken (hname : PlainName name)
    (h : atomicCopy ports source (directory ++ [name]) disk = .error .destinationExists disk') :
    copyTo (stdLocalFileSystem ports).logged source directory name (disk, tried) =
      .ok none (disk', tried ++ [directory ++ [name]]) := by
  simp only [copyTo, LocalFileSystem.logged, stdLocalFileSystem, hname.join, h]

theorem copyTo_failed (hname : PlainName name) (hother : e ≠ .destinationExists)
    (h : atomicCopy ports source (directory ++ [name]) disk = .error e disk') :
    copyTo (stdLocalFileSystem ports).logged source directory name (disk, tried) =
      .error (.file e) (disk', tried ++ [directory ++ [name]]) := by
  simp only [copyTo, LocalFileSystem.logged, stdLocalFileSystem, hname.join, h]

theorem copyTo_copied (hname : PlainName name)
    (h : atomicCopy ports source (directory ++ [name]) disk = .ok bytes disk') :
    copyTo (stdLocalFileSystem ports).logged source directory name (disk, tried) =
      .ok (some (directory ++ [name], bytes)) (disk', tried ++ [directory ++ [name]]) := by
  simp only [copyTo, LocalFileSystem.logged, stdLocalFileSystem, hname.join, h]

end

theorem tryCandidates_tries (ports : DiskPorts W) (source directory : FilePath)
    (hname : FileName filename.toList) (files : Files) (w : W) (tried : List FilePath)
    (remaining index : Nat) :
    Tries ports source directory filename files tried remaining index
      (tryCandidates (copyTo (stdLocalFileSystem ports).logged source directory) filename remaining
        index (⟨files, w⟩, tried)) := by
  induction remaining generalizing files w tried index
  case zero => exact .exhausted nofun
  case succ remaining ih =>
    have hcandidate := fileName_candidate hname index
    have hcopies := atomicCopy_copies ports source directory hcandidate files w
    generalize hcopy : atomicCopy ports source (directory ++ [candidate filename index])
      ⟨files, w⟩ = result at hcopies
    unfold tryCandidates
    cases hcopies with
    | taken source_eq exists' keeps =>
      rw [bind_ok (copyTo_taken hcandidate.plain hcopy)]
      exact .skip hname source_eq exists' keeps (ih _ _ _ _)
    | failed other keeps =>
      rw [bind_error (copyTo_failed hcandidate.plain other hcopy)]
      exact .failed (k := 0) (by omega) nofun other keeps
    | copied source_eq free keeps =>
      rw [bind_ok (copyTo_copied hcandidate.plain hcopy)]
      exact .found (k := 0) (by omega) nofun free source_eq keeps

end Tries

section Exported

variable {W : Type} {directory : FilePath} {filename : String} {files : Files} {n k : Nat}

def Clip.exportName (clip : Clip) : String :=
  sanitizeExportFilename clip.snapshot.title clip.snapshot.id

def Clip.exportSource (clip : Clip) : FilePath :=
  .components clip.exported.path

-- The names of the sequence that are taken.
def takenNames (directory : FilePath) (filename : String) (files : Files) : Finset Nat :=
  (Finset.range maxCollisionIndex).filter fun i => Taken directory filename files (1 + i)

theorem le_card_takenNames (hk : k ≤ maxCollisionIndex)
    (h : ∀ i < k, Taken directory filename files (1 + i)) :
    k ≤ (takenNames directory filename files).card := by
  have hsub : Finset.range k ⊆ takenNames directory filename files := by
    intro i hi
    have hlt := Finset.mem_range.mp hi
    exact Finset.mem_filter.mpr ⟨Finset.mem_range.mpr (hlt.trans_le hk), h i hlt⟩
  simpa using Finset.card_le_card hsub

-- What is asked of an export: the first free name gets the file, and nothing else is written as long
-- as the temporary files can be removed.
structure Exported (removes : Prop) (clip : Clip) (directory : FilePath) (files files' : Files)
    (tried : List FilePath) (n : Nat) (result : Except ExportError ExportReceipt) : Prop where
  attempts : tried.length ≤ n + 1
  sequence : tried = destinations directory clip.exportName 1 tried.length
  named    : ∀ path ∈ tried, ∃ name, path = directory ++ [name] ∧ FileName name.toList
  kept     : ∀ path entry, files path = some entry → files' path = some entry
  exported : ∀ receipt, result = .ok receipt → ∃ content destination,
    destination = directory ++ [candidate clip.exportName tried.length] ∧
      files clip.exportSource = some (.file content) ∧
      receipt = ⟨clip, destination, content.length⟩ ∧
      (∀ i, 0 < i → i < tried.length → Taken directory clip.exportName files i) ∧
      files destination = none ∧ files' destination = some (.file content) ∧
      (removes → files' = update files destination (some (.file content)))
  failed   : ∀ e, result = .error e →
    (∃ error, e = .file error ∧ error ≠ .destinationExists) ∧ (removes → files' = files)

@[simp]
theorem length_destinations {index : Nat} :
    (destinations directory filename index k).length = k := by
  simp [destinations]

theorem destinations_named {index : Nat} (hname : FileName filename.toList) :
    ∀ path ∈ destinations directory filename index k,
      ∃ name, path = directory ++ [name] ∧ FileName name.toList := by
  intro path hpath
  have ⟨i, _, heq⟩ := List.mem_map.mp hpath
  exact ⟨_, heq.symm, fileName_candidate hname _⟩

section

variable {σ : Type} {fileSystem : LocalFileSystem σ} {clip : Clip} {directory : FilePath}
  {reviewedAtMs : Nat} {s s' : σ}

theorem exportClip_found {destination : FilePath} {bytes : Nat}
    (hreviewed : clip.snapshot.reviewState = .reviewed reviewedAtMs)
    (hrun : tryCandidates (copyTo fileSystem clip.exportSource directory) clip.exportName
      maxCollisionIndex 1 s = .ok (some (destination, bytes)) s') :
    exportClip fileSystem clip directory s = .ok ⟨clip, destination, bytes⟩ s' := by
  unfold exportClip
  rw [hreviewed]
  exact bind_ok hrun

theorem exportClip_error {e : ExportError}
    (hreviewed : clip.snapshot.reviewState = .reviewed reviewedAtMs)
    (hrun : tryCandidates (copyTo fileSystem clip.exportSource directory) clip.exportName
      maxCollisionIndex 1 s = .error e s') :
    exportClip fileSystem clip directory s = .error e s' := by
  unfold exportClip
  rw [hreviewed]
  exact bind_error hrun

end

theorem exportClip_exported (ports : DiskPorts W) (clip : Clip) (directory : FilePath)
    (files : Files) (w : W) {reviewedAtMs : Nat}
    (hreviewed : clip.snapshot.reviewState = .reviewed reviewedAtMs)
    (hn : (takenNames directory clip.exportName files).card = n) (hlt : n < maxCollisionIndex) :
    let result := exportClip (stdLocalFileSystem ports).logged clip directory (⟨files, w⟩, [])
    Exported (Removes ports) clip directory files result.state.1.files result.state.2 n
      result.toExcept := by
  intro result
  have hname : FileName clip.exportName.toList := fileName_sanitize _ _
  have htries := tryCandidates_tries ports clip.exportSource directory hname files w []
    maxCollisionIndex 1
  generalize hrun : tryCandidates _ _ _ _ (Disk.mk files w, []) = run at htries
  cases htries with
  | found few skipped free source_eq keeps =>
    rename_i k content files' w'
    have hresult : result = _ := exportClip_found hreviewed hrun
    rw [hresult]
    have hk := hn ▸ le_card_takenNames few.le skipped
    rw [Nat.add_comm 1 k] at free
    have hdestination : ¬Hidden (directory ++ [candidate clip.exportName (k + 1)]) :=
      (fileName_candidate hname (k + 1)).not_hidden
    have hfree : files' (directory ++ [candidate clip.exportName (k + 1)]) = none :=
      (keeps.visible _ hdestination).trans free
    rw [Nat.add_comm 1 k, List.nil_append]
    change Exported (Removes ports) clip directory files
      (update files' (directory ++ [candidate clip.exportName (k + 1)]) (some (.file content)))
      (destinations directory clip.exportName 1 (k + 1)) n
      (.ok ⟨clip, directory ++ [candidate clip.exportName (k + 1)], content.length⟩)
    exact {
      attempts := by simpa using hk
      sequence := by simp
      named    := destinations_named hname
      kept     := by
        intro path entry hentry
        have hne : path ≠ directory ++ [candidate clip.exportName (k + 1)] :=
          fun heq => by simp [heq, free] at hentry
        exact (update_of_ne hne _ _).trans (keeps.kept path entry hentry)
      exported := by
        intro receipt hreceipt
        cases hreceipt
        refine ⟨content, directory ++ [candidate clip.exportName (k + 1)], ?_, source_eq, rfl, ?_,
          free, update_self _ _ _, ?_⟩
        case refine_1 => simp
        case refine_2 =>
          intro i hpos hi
          rw [length_destinations] at hi
          have hi' : i - 1 < k := by omega
          have htaken := skipped (i - 1) hi'
          rwa [Nat.add_sub_of_le hpos] at htaken
        case refine_3 =>
          intro hremoves
          exact congrArg (update · _ _) (keeps.clean hremoves)
      failed   := by simp }
  | failed few skipped other keeps =>
    rename_i k e files' w'
    have hresult : result = _ := exportClip_error hreviewed hrun
    rw [hresult, List.nil_append]
    have hk := hn ▸ le_card_takenNames few.le skipped
    change Exported (Removes ports) clip directory files files'
      (destinations directory clip.exportName 1 (k + 1)) n (.error (.file e))
    exact {
      attempts := by simpa using hk
      sequence := by simp
      named    := destinations_named hname
      kept     := keeps.kept
      exported := by simp
      failed   := by
        intro e' he'
        cases he'
        exact ⟨⟨e, rfl, other⟩, keeps.clean⟩ }
  | exhausted skipped =>
    have hk := hn ▸ le_card_takenNames (Nat.le_refl _) skipped
    omega

-- A disk on which some steps fail.
def faultyPorts (faulty : List FileStep) : DiskPorts Unit where
  fault step _ := (if step ∈ faulty then some "no space left" else none, ())
  written _    := 1
  processId    := 7
  nextId _     := (0, ())

def demoFiles : Files :=
  update (fun _ => none) (demoReviewed "kill" demoTrim).exportSource (some (.file [1, 2]))

theorem card_takenNames_demo (filename : String) :
    (takenNames ["/", "exports"] filename demoFiles).card = 0 := by
  rw [Finset.card_eq_zero, takenNames, Finset.filter_eq_empty_iff]
  intro i _
  have hsource : (demoReviewed "kill" demoTrim).exportSource = ["trim.mp4"] := by decide +kernel
  simp [Taken, demoFiles, hsource]

theorem candidate_ne (h : stripMp4 filename ++ ".mp4" = filename) (hk : k ≠ 1) :
    candidate filename k ≠ filename := by
  intro heq
  rw [candidate, if_neg hk] at heq
  have hlength := congrArg String.length (heq.trans h.symm)
  simp only [String.length_append] at hlength
  have hdash : "-".length = 1 := rfl
  omega

-- Another file has the first name of the sequence.
def takenFiles : Files :=
  update demoFiles ["/", "exports", "ace-clip.mp4"] (some (.file [9]))

theorem card_takenNames_taken :
    (takenNames ["/", "exports"] "ace-clip.mp4" takenFiles).card = 1 := by
  have hsource : (demoReviewed "kill" demoTrim).exportSource = ["trim.mp4"] := by decide +kernel
  have hstem : stripMp4 "ace-clip.mp4" ++ ".mp4" = "ace-clip.mp4" := by decide +kernel
  rw [Finset.card_eq_one]
  refine ⟨0, Finset.ext fun i => ?_⟩
  simp only [takenNames, Finset.mem_filter, Finset.mem_range, Finset.mem_singleton, Taken]
  by_cases hi : i = 0
  case pos =>
    subst hi
    exact iff_of_true ⟨by decide, by simp [takenFiles, candidate]⟩ rfl
  case neg =>
    have hne := candidate_ne hstem (by omega : 1 + i ≠ 1)
    refine iff_of_false ?_ hi
    simp [takenFiles, demoFiles, hsource, hne]

theorem exportClip_exported_demo :
    let clip := demoReviewed "kill" demoTrim
    let result := exportClip (stdLocalFileSystem (faultyPorts [])).logged clip ["/", "exports"]
      (⟨takenFiles, ()⟩, [])
    Exported (Removes (faultyPorts [])) clip ["/", "exports"] takenFiles result.state.1.files
      result.state.2 1 result.toExcept := by
  have hname : (demoReviewed "kill" demoTrim).exportName = "ace-clip.mp4" := by decide +kernel
  exact exportClip_exported (faultyPorts []) _ _ takenFiles () rfl
    (hname ▸ card_takenNames_taken) (by decide)

-- The copy fails, and so does the removal of the temporary file.
theorem exportClip_leaves_temporary :
    ¬∀ (clip : Clip) (directory : FilePath) (files : Files) (n : Nat),
      clip.snapshot.reviewState = .reviewed 7 →
      (takenNames directory clip.exportName files).card = n → n < maxCollisionIndex →
      let result := exportClip (stdLocalFileSystem (faultyPorts [.write, .remove])).logged clip
        directory (⟨files, ()⟩, [])
      Exported True clip directory files result.state.1.files result.state.2 n
        result.toExcept := by
  intro h
  have hrun := h (demoReviewed "kill" demoTrim) ["/", "exports"] demoFiles 0 rfl
    (card_takenNames_demo _) (by decide)
  have hkeep := (hrun.failed (.file (.io "no space left")) (by rfl)).2 True.intro
  have htemporary := congrFun hkeep ["/", "exports", ".ace-clip.mp4.openfrag-tmp-7-0"]
  revert htemporary
  decide +kernel

end Exported

end Clips
