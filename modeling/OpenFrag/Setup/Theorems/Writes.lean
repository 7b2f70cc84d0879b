import OpenFrag.Setup.Installation

open EStateM

namespace Installation

variable {W α : Type} {ports : Ports W} {disk disk' : Disk W}
variable {path temporary : FilePath} {content : String}

-- The disk without the file under the path.
def apart (path : FilePath) (disk : Disk W) : Files :=
  Function.update disk.files path none

theorem apart_apply {p : FilePath} (h : p ≠ path) : apart path disk p = disk.files p :=
  Function.update_of_ne h _ _

theorem keeps_apart {x : Op W α} (h : Keeps Disk.files x) : Keeps (apart path) x := by
  intro disk
  unfold apart
  rw [h disk]

section Steps

variable {step : FileStep} {a : α}

theorem attempt_keeps : Keeps Disk.files (attempt ports step) := by
  intro disk
  unfold attempt
  split <;> rfl

theorem reading_keeps {f : W → α × W} : Keeps Disk.files (reading f) :=
  fun _ => rfl

theorem lookup_keeps : Keeps Disk.files (lookup path : Op W _) :=
  fun _ => rfl

theorem observing_keeps {x : Op W α} (h : Keeps Disk.files x) : Keeps Disk.files (observing x) :=
  h

theorem lookup_ok {entry : Option Entry} (h : lookup path disk = .ok entry disk') :
    entry = disk.files path ∧ disk' = disk := by
  cases h
  exact ⟨rfl, rfl⟩

theorem setFile_keeps {entry : Option Entry} : Keeps (apart path) (setFile path entry : Op W _) := by
  intro disk
  simp [setFile, modify_apply, apart]

theorem refuse_keeps {condition : Prop} [Decidable condition] {error : InstallError} :
    Keeps Disk.files (refuse condition error : Op W _) :=
  .ite (fun _ => .throw) fun _ => .pure

theorem refuse_ok {condition : Prop} [Decidable condition] {error : InstallError}
    (h : refuse condition error disk = .ok () disk') : ¬condition ∧ disk' = disk := by
  unfold refuse at h
  split at h
  case isTrue => exact absurd h throw_ne_ok
  case isFalse hcondition =>
    cases h
    exact ⟨hcondition, rfl⟩

theorem symlinkMetadata_keeps : Keeps Disk.files (symlinkMetadata ports path) := by
  refine attempt_keeps.bind fun _ => lookup_keeps.bind fun entry => ?_
  cases entry
  case none => exact .throw
  case some => exact .pure

theorem requireRealDirectory_keeps {name : String} :
    Keeps Disk.files (requireRealDirectory ports path name) :=
  symlinkMetadata_keeps.bind fun _ => refuse_keeps

theorem requireSafeTarget_keeps {name : String} :
    Keeps Disk.files (requireSafeTarget ports path name) := by
  refine attempt_keeps.bind fun _ => lookup_keeps.bind fun entry => ?_
  cases entry
  case none => exact .pure
  case some => exact refuse_keeps

theorem hasSymlinkComponent_keeps : Keeps Disk.files (hasSymlinkComponent ports path) := by
  unfold hasSymlinkComponent
  induction path.inits.reverse
  case nil => exact .pure
  case cons component components ih =>
    refine (symlinkMetadata_keeps.bind fun _ => .pure).bind fun linked => ?_
    cases linked
    case false => exact ih
    case true => exact .pure

theorem validateCs2CfgDirectory_keeps : Keeps Disk.files (validateCs2CfgDirectory ports path) :=
  requireRealDirectory_keeps.bind fun _ => refuse_keeps.bind fun _ =>
    symlinkMetadata_keeps.bind fun _ => refuse_keeps.bind fun _ =>
      hasSymlinkComponent_keeps.bind fun _ => refuse_keeps

theorem readToString_keeps : Keeps Disk.files (readToString ports path) := by
  refine attempt_keeps.bind fun _ => lookup_keeps.bind fun entry => ?_
  split
  case h_1 => exact .pure
  all_goals exact .throw

theorem createNew_keeps : Keeps (apart path) (createNew ports path) := by
  refine (keeps_apart attempt_keeps).bind fun _ => (keeps_apart lookup_keeps).bind fun entry => ?_
  cases entry
  case none => exact setFile_keeps
  case some => exact .throw

theorem writeAll_keeps : Keeps (apart path) (writeAll ports path content) := by
  intro disk
  unfold writeAll
  split <;> simp [apart]

theorem removeFile_keeps : Keeps (apart path) (removeFile ports path) := by
  refine (keeps_apart attempt_keeps).bind fun _ => (keeps_apart lookup_keeps).bind fun entry => ?_
  cases entry
  case none => exact .throw
  case some => exact setFile_keeps

theorem attempt_ok (h : attempt ports step disk = .ok () disk') : disk'.files = disk.files :=
  attempt_keeps.ok h

theorem createNew_ok (h : createNew ports path disk = .ok () disk') :
    disk.files path = none ∧ disk'.files = Function.update disk.files path (some (.text "")) := by
  obtain ⟨_, disk₁, h₁, h⟩ := bind_ok_iff.mp h
  obtain ⟨entry, disk₂, h₂, h⟩ := bind_ok_iff.mp h
  obtain ⟨rfl, rfl⟩ := lookup_ok h₂
  rw [← attempt_ok h₁]
  cases hentry : disk₂.files path
  case none =>
    rw [hentry] at h
    cases h
    exact ⟨rfl, rfl⟩
  case some =>
    rw [hentry] at h
    exact absurd h throw_ne_ok

theorem readToString_ok (h : readToString ports path disk = .ok content disk') :
    disk.files path = some (.text content) := by
  obtain ⟨_, disk₁, h₁, h⟩ := bind_ok_iff.mp h
  obtain ⟨entry, disk₂, h₂, h⟩ := bind_ok_iff.mp h
  obtain ⟨rfl, rfl⟩ := lookup_ok h₂
  rw [← attempt_ok h₁]
  cases hentry : disk₂.files path
  case none =>
    rw [hentry] at h
    exact absurd h throw_ne_ok
  case some entry =>
    rw [hentry] at h
    cases entry
    case text => cases h; rfl
    all_goals exact absurd h throw_ne_ok

theorem attempt_error {e : InstallError} (h : attempt ports step disk = .error e disk') :
    ∃ text, e = .io (.other text) := by
  unfold attempt at h
  split at h
  case h_1 => cases h
  case h_2 text _ _ =>
    cases h
    exact ⟨text, rfl⟩

-- That a file is not found is told of what is no file.
theorem readToString_notFound (h : readToString ports path disk = .error (.io .notFound) disk') :
    ∀ entry, disk.files path = some entry → entry.isFile = false := by
  unfold readToString at h
  cases h₁ : attempt ports .read disk
  case error e disk₁ =>
    rw [bind_error h₁] at h
    cases h
    obtain ⟨text, htext⟩ := attempt_error h₁
    cases htext
  case ok u disk₁ =>
    intro entry hentry
    have hlookup : lookup path disk₁ = .ok (some entry) disk₁ := by
      rw [← hentry, ← attempt_ok h₁]
      rfl
    rw [bind_ok h₁, bind_ok hlookup] at h
    cases entry
    case symlink => rfl
    all_goals cases h

theorem writeAll_ok (h : writeAll ports path content disk = .ok () disk') :
    disk'.files = Function.update disk.files path (some (.text content)) := by
  unfold writeAll at h
  split at h
  case h_1 => cases h; rfl
  case h_2 => cases h

theorem rename_ok {path' : FilePath} (h : rename ports path path' disk = .ok () disk') :
    renamed disk.files path path' = .ok disk'.files := by
  obtain ⟨_, disk₁, h₁, h⟩ := bind_ok_iff.mp h
  rw [bind_get] at h
  rw [← attempt_ok h₁]
  cases hfiles : renamed disk₁.files path path'
  case error =>
    rw [hfiles] at h
    exact absurd h throw_ne_ok
  case ok =>
    rw [hfiles] at h
    cases h
    rfl

theorem renamed_ok {files files' : Files} {path' : FilePath} {entry : Entry}
    (hentry : files path = some entry) (h : renamed files path path' = .ok files') :
    files' = Function.update (Function.update files path none) path' (some entry) := by
  unfold renamed at h
  rw [hentry] at h
  split at h
  case h_1 => cases h
  case h_2 => cases h
  case h_3 heq _ =>
    cases heq
    cases h
    rfl

-- A rename that fails leaves the files as they were.
theorem rename_within (ports : Ports W) (path path' : FilePath) : Within
    (fun disk disk' => disk'.files = disk.files ∨ renamed disk.files path path' = .ok disk'.files)
    (rename ports path path') := by
  intro disk
  cases h₁ : attempt ports .rename disk
  case error e disk₁ =>
    left
    unfold rename
    rw [bind_error h₁]
    exact attempt_keeps.error h₁
  case ok u disk₁ =>
    unfold rename
    rw [bind_ok h₁, bind_get, ← attempt_ok h₁]
    cases renamed disk₁.files path path'
    case error => exact .inl rfl
    case ok => exact .inr rfl

end Steps

section Writing

variable (ports)

-- The file under the path may have the new content. But for the temporary file, nothing else has
-- changed.
def Replaces (temporary path : FilePath) (content : String) (disk disk' : Disk W) : Prop :=
  apart temporary disk' = apart temporary disk ∨
    apart temporary disk' = Function.update (apart temporary disk) path (some (.text content))

instance replaces_refl : Std.Refl (Replaces (W := W) temporary path content) where
  refl _ := .inl rfl

instance replaces_trans : IsTrans (Disk W) (Replaces temporary path content) where
  trans disk₁ disk₂ disk₃ h h' := by
    unfold Replaces at *
    cases h'
    case inl h' => rwa [h']
    case inr h' =>
      right
      rw [h']
      cases h
      case inl hsame => rw [hsame]
      case inr hnew => rw [hnew, Function.update_idem]

theorem replaces_of_keeps {x : Op W α} (h : Keeps (apart temporary) x) :
    Within (Replaces temporary path content) x :=
  h.mono fun _ _ => .inl

theorem prepared {disk₁ disk₂ disk₃ : Disk W}
    (h₁ : createNew ports temporary disk = .ok () disk₁)
    (h₂ : writeAll ports temporary content disk₁ = .ok () disk₂)
    (h₃ : attempt ports .sync disk₂ = .ok () disk₃) :
    disk.files temporary = none ∧
      disk₃.files = Function.update disk.files temporary (some (.text content)) := by
  obtain ⟨hnone, hcreated⟩ := createNew_ok h₁
  constructor
  case left => exact hnone
  case right => rw [attempt_ok h₃, writeAll_ok h₂, hcreated, Function.update_idem]

-- The rename moves the new content to its place.
theorem moved {files files' : Files}
    (hmoved : renamed (Function.update files temporary (some (.text content))) temporary path
      = .ok files') :
    files' = Function.update (Function.update files temporary none) path (some (.text content)) := by
  have hfiles := renamed_ok (Function.update_self _ _ _) hmoved
  rwa [Function.update_idem] at hfiles

theorem replaceWith_within (h : temporary ≠ path) :
    Within (Replaces temporary path content) (replaceWith ports temporary path content) := by
  intro disk
  apply Within.bind_at (replaces_of_keeps createNew_keeps disk)
  intro _ disk₁ h₁
  apply Within.bind_at (replaces_of_keeps writeAll_keeps disk₁)
  intro _ disk₂ h₂
  apply Within.bind_at (replaces_of_keeps (keeps_apart attempt_keeps) disk₂)
  intro _ disk₃ h₃
  apply Within.bind_at
  case hx =>
    obtain ⟨-, hfiles⟩ := prepared ports h₁ h₂ h₃
    cases rename_within ports temporary path disk₃
    case inl hsame =>
      left
      unfold apart
      rw [hsame]
    case inr hmoved =>
      right
      rw [hfiles] at hmoved
      unfold apart
      rw [moved hmoved, hfiles, Function.update_comm h.symm, Function.update_idem,
        Function.update_idem]
  case hf =>
    intro _ disk₄ _
    exact replaces_of_keeps (keeps_apart attempt_keeps) disk₄

theorem replaceWith_ok
    (hok : replaceWith ports temporary path content disk = .ok () disk') :
    disk'.files = Function.update disk.files path (some (.text content)) := by
  obtain ⟨_, disk₁, h₁, hok⟩ := bind_ok_iff.mp hok
  obtain ⟨_, disk₂, h₂, hok⟩ := bind_ok_iff.mp hok
  obtain ⟨_, disk₃, h₃, hok⟩ := bind_ok_iff.mp hok
  obtain ⟨_, disk₄, h₄, h₅⟩ := bind_ok_iff.mp hok
  obtain ⟨hnone, hfiles⟩ := prepared ports h₁ h₂ h₃
  have hmoved := rename_ok h₄
  rw [hfiles] at hmoved
  rw [attempt_ok h₅, moved hmoved, ← hnone, Function.update_eq_self]

theorem orRemove_within {x : Op W α} (h : Within (Replaces temporary path content) x) :
    Within (Replaces temporary path content) (orRemove ports temporary x) := by
  intro disk
  unfold orRemove
  cases hx : x disk
  case ok a disk₁ => exact h.ok hx
  case error e disk₁ =>
    exact trans_of (Replaces temporary path content) (h.error hx)
      (replaces_of_keeps removeFile_keeps disk₁)

theorem orRemove_ok {x : Op W α} {a : α} (h : orRemove ports temporary x disk = .ok a disk') :
    x disk = .ok a disk' := by
  unfold orRemove at h
  cases hx : x disk
  case ok =>
    rw [hx] at h
    exact h
  case error =>
    rw [hx] at h
    cases h

-- The other files that a write of the file may touch.
def Temporary (path p : FilePath) : Prop :=
  ∃ sequence, p = temporaryPath ports path sequence

theorem atomicWritePrivate_within (content : String) (h : ¬Temporary ports path path)
    (disk : Disk W) :
    ∃ temporary, Temporary ports path temporary ∧
      Replaces temporary path content disk (atomicWritePrivate ports path content disk).state := by
  let disk₁ : Disk W := { disk with world := (ports.sequence disk.world).2 }
  let temporary := temporaryPath ports path (ports.sequence disk.world).1
  have hne : temporary ≠ path := fun heq => h ⟨_, heq.symm⟩
  exact ⟨temporary, ⟨_, rfl⟩, orRemove_within ports (replaceWith_within ports hne) disk₁⟩

theorem atomicWritePrivate_ok (h : ¬Temporary ports path path)
    (hok : atomicWritePrivate ports path content disk = .ok () disk') :
    disk'.files = Function.update disk.files path (some (.text content)) := by
  have hne : temporaryPath ports path (ports.sequence disk.world).1 ≠ path :=
    fun heq => h ⟨_, heq.symm⟩
  obtain ⟨sequence, disk₁, h₁, hok⟩ := bind_ok_iff.mp hok
  cases h₁
  have hfiles := replaceWith_ok ports (orRemove_ok ports hok)
  exact hfiles

-- The files after the writes, in their order.
def written (writes : List (FilePath × String)) (files : Files) : Files :=
  writes.foldl (fun files w => Function.update files w.1 (some (.text w.2))) files

-- A number of the writes is done, and no other. Temporary files may have stayed.
def Interrupted (writes : List (FilePath × String)) (files files' : Files) : Prop :=
  ∃ n ≤ writes.length, ∀ p, (∀ w ∈ writes, ¬Temporary ports w.1 p) →
    files' p = written (writes.take n) files p

variable {writes : List (FilePath × String)} {files files' : Files}

theorem interrupted_refl : Interrupted ports writes files files :=
  ⟨0, Nat.zero_le _, fun _ _ => rfl⟩

-- What leaves the files as they are may come before the writes.
theorem interrupted_bind {β : Type} {x : Op W β} {f : β → Op W α} (hx : Keeps Disk.files x)
    (hf : ∀ b disk₁, x disk = .ok b disk₁ → disk₁.files = disk.files →
      Interrupted ports writes disk₁.files (f b disk₁).state.files) :
    Interrupted ports writes disk.files ((x >>= f) disk).state.files := by
  cases h : x disk
  case ok b disk₁ =>
    have hfiles := hx.ok h
    rw [bind_ok h, ← hfiles]
    exact hf b disk₁ h hfiles
  case error e disk₁ =>
    rw [bind_error h, Result.state_error, hx.error h]
    exact interrupted_refl ports

-- One more write before the writes that may be interrupted.
theorem interrupted_cons {x : Op W α} (hpath : ¬Temporary ports path path)
    (hx : ∀ disk₁, disk₁.files = Function.update disk.files path (some (.text content)) →
      Interrupted ports writes disk₁.files (x disk₁).state.files) :
    Interrupted ports ((path, content) :: writes) disk.files
      ((atomicWritePrivate ports path content >>= fun _ => x) disk).state.files := by
  cases h : atomicWritePrivate ports path content disk
  case ok _ disk₁ =>
    have hfiles := atomicWritePrivate_ok ports hpath h
    obtain ⟨n, hn, hwritten⟩ := hx disk₁ hfiles
    rw [bind_ok h]
    refine ⟨n + 1, Nat.succ_le_succ hn, fun p hp => ?_⟩
    rw [hwritten p fun w hw => hp w (List.mem_cons_of_mem _ hw), hfiles]
    rfl
  case error e disk₁ =>
    obtain ⟨temporary, htemporary, hreplaces⟩ :=
      atomicWritePrivate_within ports content hpath disk
    rw [h, Result.state_error] at hreplaces
    rw [bind_error h, Result.state_error]
    have hne (p) (hp : ∀ w ∈ (path, content) :: writes, ¬Temporary ports w.1 p) : p ≠ temporary := by
      intro heq
      exact hp (path, content) List.mem_cons_self (heq ▸ htemporary)
    cases hreplaces
    case inl hsame =>
      refine ⟨0, Nat.zero_le _, fun p hp => ?_⟩
      rw [← apart_apply (hne p hp), hsame, apart_apply (hne p hp)]
      rfl
    case inr hnew =>
      refine ⟨1, by simp, fun p hp => ?_⟩
      rw [← apart_apply (hne p hp), hnew]
      simp [written, Function.update_apply, apart_apply (hne p hp)]

end Writing

end Installation
