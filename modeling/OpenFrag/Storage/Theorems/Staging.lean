import OpenFrag.Storage.Handles
import OpenFrag.Storage.Theorems.Depot

open EStateM Except Machine Table MachineInt

-- How long a staged file is there.
namespace Storage

variable {hash : Content → Digest} {s s' : Store} {d : Depot} {name : Nat} {now : Int}
variable {call : DepotCall} {calls : List DepotCall}

def Store.IsStaged (s : Store) (name : Nat) : Prop :=
  ∃ file ∈ s.staging, file.name = name

theorem isStaged_filter {p : StagedFile → Bool} (h : s.IsStaged name)
    (hstaging : s'.staging = s.staging.filter p) (hp : ∀ file, file.name = name → p file) :
    s'.IsStaged name := by
  obtain ⟨file, hfile, hname⟩ := h
  exact ⟨file, hstaging ▸ List.mem_filter.mpr ⟨hfile, hp file hname⟩, hname⟩

theorem isStaged_same (h : s.IsStaged name) (hstaging : s'.staging = s.staging) :
    s'.IsStaged name := by
  unfold Store.IsStaged
  rwa [hstaging]

theorem isStaged_subset (h : s'.IsStaged name) (hstaging : s'.staging ⊆ s.staging) :
    s.IsStaged name := by
  obtain ⟨file, hfile, hname⟩ := h
  exact ⟨file, hstaging hfile, hname⟩

theorem isStaged_iff : s.IsStaged name ↔
    ∃ file, s.staging.find? (·.name = name) = some file := by
  rw [← Option.isSome_iff_exists]
  simp [Store.IsStaged]

-- A file that is placed takes only itself from the staging directory.
theorem Places.isStaged {other : Nat} {target : ArtifactPath} (h : Places other target s s')
    (hname : name ≠ other) (hstaged : s.IsStaged name) : s'.IsStaged name := by
  have hkept {file : StagedFile} (hfile : s.staging.find? (·.name = other) = some file)
      (kept : StagedFile) (hkept : kept.name = name) : decide (kept.name ≠ file.name) := by
    simpa [hkept, (mem_staging hfile).2] using hname
  cases h
  case dropped file hfile _ => exact isStaged_filter hstaged rfl (hkept hfile)
  case moved file hfile => exact isStaged_filter hstaged rfl (hkept hfile)

theorem CommitEnds.isStaged {staged : StagedArtifact} {extension : String}
    {mediaType : Option String} {result : Result Error Store Digest}
    (h : CommitEnds staged extension mediaType now s result) (hname : name ≠ staged.name)
    (hstaged : s.IsStaged name) : result.state.IsStaged name := by
  cases h
  case committed h _ => exact isStaged_same (h.isStaged hname hstaged) rfl
  case refused => exact hstaged
  case failed h => exact h.isStaged hname hstaged

theorem QuarantineEnds.staging {sha256 : Digest} {reason : String}
    (h : QuarantineEnds sha256 reason s s') : s'.staging = s.staging := by
  cases h <;> rfl

theorem commitClipDerivative_isStaged {fails : DerivativeStep → Bool}
    {request : DerivativeClipCommit} {clock : DerivativeClock}
    (hname : name ≠ request.staged.name) (hstaged : s.IsStaged name) :
    (commitClipDerivative fails request clock s).state.IsStaged name := by
  have hmoved {source : DurableClipModelRecord} {staged : StagedFile}
      (hcheck : checkDerivative fails request s = .ok (source, staged)) :
      (s.promote staged request.target).IsStaged name :=
    (Places.moved staged (checkDerivative_eq_ok_iff.mp hcheck).file).isStaged hname hstaged
  cases hcommit : commitClipDerivative fails request clock s
  case ok id s' =>
    obtain ⟨source, staged, hcheck, db, _, rfl⟩ := commitClipDerivative_ok hcommit
    exact isStaged_same (hmoved hcheck) rfl
  case error e s' =>
    rcases commitClipDerivative_error hcommit with rfl | ⟨source, staged, hcheck, rfl | rfl⟩
    · exact hstaged
    · exact hmoved hcheck
    · exact isStaged_same (hmoved hcheck) rfl

theorem DeleteEnds.staging {clip : ClipId} {now' : Int} (h : DeleteEnds clip now now' s s') :
    s'.staging = s.staging := by
  cases h
  case refused => rfl
  case marked => rfl
  case taken row path? _ _ _ => cases path? <;> rfl
  case removed row path? _ _ _ => cases path? <;> rfl

-- A staging keeps what is staged, and what it adds has a new name.
theorem stageFromReader_staging (fails : ArtifactStep → Bool) (content : Content) (written : Nat)
    (d : Depot) : ∀ d', (stageFromReader fails hash content written d).state = d' →
      d'.store.staging = d.store.staging ∨
        ∃ content', d'.store.staging = ⟨d.stagedName, content'⟩ :: d.store.staging := by
  rintro _ rfl
  unfold stageFromReader
  split
  case isTrue => exact .inl rfl
  case isFalse =>
    split
    case isTrue => exact .inr ⟨_, rfl⟩
    case isFalse =>
      split
      case isTrue => exact .inr ⟨_, rfl⟩
      case isFalse =>
        split
        case isTrue => exact .inr ⟨_, rfl⟩
        case isFalse => split <;> exact .inr ⟨_, rfl⟩

namespace DepotCall

-- A call that neither commits a staged file nor clears the directory leaves the file there.
theorem serve_isStaged (hclears : ¬call.Clears name)
    (hother : ∀ staged ∈ call.commits?, staged.name ≠ name) (h : d.store.IsStaged name) :
    (call.serve hash d).2.store.IsStaged name := by
  cases call
  case stage fails content written =>
    rw [serve_stage]
    rcases stageFromReader_staging fails content written d _ rfl with hstaging | ⟨_, hstaging⟩
    · exact isStaged_same h hstaging
    · obtain ⟨file, hfile, hname⟩ := h
      exact ⟨file, hstaging ▸ List.mem_cons_of_mem _ hfile, hname⟩
  case commit fails staged extension mediaType now =>
    simp only [serve, Depot.perform, Action.on_state]
    exact (commitArtifact_ends fails staged extension mediaType now d.store).isStaged
      (hother staged rfl).symm h
  case commitDerivative fails request clock =>
    simp only [serve, Depot.perform, Action.on_state]
    exact commitClipDerivative_isStaged (hother request.staged rfl).symm h
  case quarantine fails sha256 reason =>
    simp only [serve, Depot.perform, Action.on_state]
    exact isStaged_same h (quarantineArtifact_ends fails sha256 reason d.store).staging
  case expect => exact isStaged_same h rfl
  case recoverStaging => exact absurd trivial hclears
  case recoverArtifacts => exact absurd trivial hclears
  case recoverUntil stop now =>
    cases stop
    case marking rows => exact isStaged_same h rfl
    case clearing names =>
      apply isStaged_filter h rfl
      rintro file rfl
      simpa [Clears] using hclears
    case walking => exact absurd trivial hclears
  case clip call =>
    cases call
    case commitClipDerivative removalFails request clock =>
      simp only [serve, Depot.perform, ClipCall.serve, Action.on_state]
      exact commitClipDerivative_isStaged (hother request.staged rfl).symm h
    case deleteClip fails clip now now' =>
      simp only [serve, Depot.perform, ClipCall.serve, Action.on_state]
      exact isStaged_same h (deleteClip_ends fails clip now now' d.store).staging
    all_goals exact isStaged_same h rfl
  case other => exact isStaged_same h rfl

-- A file that is gone does not come back: the names that are handed out are not used again.
theorem serve_unstaged (h : d.Sound hash) (hfair : call.Fair d)
    (hissued : name ∈ d.issued.map (·.name)) (hgone : ¬d.store.IsStaged name) :
    ¬(call.serve hash d).2.store.IsStaged name := by
  intro hstaged
  by_cases hstage : ∃ fails content written, call = .stage fails content written
  case pos =>
    obtain ⟨fails, content, written, rfl⟩ := hstage
    rw [serve_stage] at hstaged
    rcases stageFromReader_staging fails content written d _ rfl with hstaging | ⟨_, hstaging⟩
    · exact hgone (isStaged_same hstaged hstaging.symm)
    · obtain ⟨file, hfile, hname⟩ := hstaged
      rw [hstaging] at hfile
      rcases List.mem_cons.mp hfile with rfl | hold
      · have hnew : d.stagedName ∉ d.issued.map (·.name) ++ d.store.staging.map (·.name) :=
          fresh_notMem _
        have hname : d.stagedName = name := hname
        exact hnew (List.mem_append_left _ (hname ▸ hissued))
      · exact hgone ⟨file, hold, hname⟩
  case neg =>
    simp only [not_exists] at hstage
    exact hgone (isStaged_subset hstaged (serve_leaves h hfair hstage).2.staging)

theorem recoverFiles_unstaged {files : List File} (hnamed : ∀ file ∈ files, file.IsNamed hash) :
    ¬(recoverFiles hash now files { s with staging := [] }).state.IsStaged name := by
  intro hstaged
  have hleaves : Leaves hash (fun _ => True) { s with staging := [] }
      (recoverFiles hash now files { s with staging := [] }).state := recoverFiles_leaves hnamed
  obtain ⟨file, hfile, _⟩ := isStaged_subset hstaged hleaves.staging
  cases hfile

theorem serve_clears (h : d.Sound hash) (hclears : call.Clears name) :
    ¬(call.serve hash d).2.store.IsStaged name := by
  cases call
  case recoverStaging =>
    rintro ⟨file, hfile, _⟩
    cases hfile
  case recoverArtifacts now =>
    simp only [serve, Depot.perform, Action.on_state, recoverArtifacts_state]
    exact recoverFiles_unstaged h.catalogued.files
  case recoverUntil stop now =>
    cases stop
    case marking => exact absurd hclears id
    case clearing names =>
      rintro ⟨file, hfile, rfl⟩
      have hkept := (List.mem_filter.mp hfile).2
      have hcleared : file.name ∈ names := hclears
      simp [hcleared] at hkept
    case walking paths =>
      simp only [serve, Depot.perform, Action.on_state]
      exact recoverFiles_unstaged h.catalogued.named_filter
  all_goals exact absurd hclears id

theorem serve_issued (call : DepotCall) : d.issued ⊆ (call.serve hash d).2.issued := by
  cases call
  case stage fails content written =>
    rw [serve_stage]
    unfold stageFromReader
    repeat' split
    all_goals first | exact List.Subset.refl _ | exact List.subset_cons_self _ _
  all_goals exact List.Subset.refl _

end DepotCall

theorem unstaged_of_run {steps : List (Machine.Step DepotCall (Except Error Unit) Depot)}
    (h : d.Sound hash) (hissued : name ∈ d.issued.map (·.name)) (hgone : ¬d.store.IsStaged name)
    (hfair : Each (DepotCall.serve hash) (fun _ d call => call.Fair d) steps d calls) :
    ¬(final (DepotCall.serve hash) d calls).store.IsStaged name := by
  have hend := Each.invariant
    (I := fun _ d => d.Sound hash ∧ name ∈ d.issued.map (·.name) ∧ ¬d.store.IsStaged name)
    (fun _ _ call hd hcall => ⟨DepotCall.serve_sound hd.1 hcall,
      List.map_subset _ (DepotCall.serve_issued call) hd.2.1,
      DepotCall.serve_unstaged hd.1 hcall hd.2.1 hd.2.2⟩) ⟨h, hissued, hgone⟩ hfair
  exact hend.2.2

-- A staged file is there as long as no call has cleared the directory.
theorem isStaged_of_run {steps : List (Machine.Step DepotCall (Except Error Unit) Depot)}
    (h : d.Sound hash) (hissued : name ∈ d.issued.map (·.name)) (hthere : d.store.IsStaged name)
    (hfair : Each (DepotCall.serve hash) (fun _ d call => call.Fair d) steps d calls)
    (hown : ∀ call ∈ calls, ∀ staged ∈ call.commits?, staged.name ≠ name) :
    (final (DepotCall.serve hash) d calls).store.IsStaged name ↔
      ∀ call ∈ calls, ¬call.Clears name := by
  induction calls generalizing d steps
  case nil => simpa [final] using hthere
  case cons call calls ih =>
    obtain ⟨hcall, hfair⟩ := hfair
    obtain ⟨hone, hown⟩ := List.forall_mem_cons.mp hown
    have hsound := DepotCall.serve_sound h hcall
    have hissued' : name ∈ (call.serve hash d).2.issued.map (·.name) :=
      List.map_subset _ (DepotCall.serve_issued call) hissued
    rw [List.forall_mem_cons]
    by_cases hclears : call.Clears name
    case pos =>
      have hgone := unstaged_of_run hsound hissued' (DepotCall.serve_clears h hclears) hfair
      exact iff_of_false hgone fun hall => hall.1 hclears
    case neg =>
      have hkept : (call.serve hash d).2.store.IsStaged name :=
        DepotCall.serve_isStaged hclears hone hthere
      exact (ih hsound hissued' hkept hfair hown).trans (by simp [hclears])

section Commit

variable {staged : StagedArtifact} {extension : String} {mediaType : Option String}

theorem attemptStep_never (step : ArtifactStep) :
    attemptStep (fun _ => false) step = pure () := rfl

theorem demand_of {c : Prop} [Decidable c] {error : Error} (h : c) :
    demand c error = pure () :=
  if_pos h

theorem stagedFile_ok {file : StagedFile}
    (h : s.staging.find? (·.name = name) = some file) : stagedFile name s = .ok file s := by
  simp only [stagedFile, bind_get, h]
  rfl

theorem stagedFile_error (h : ¬s.IsStaged name) :
    stagedFile name s = .error (.io "staged artifact") s := by
  have hnone : s.staging.find? (·.name = name) = none := by
    cases hfile : s.staging.find? (·.name = name)
    case none => rfl
    case some file => exact absurd (isStaged_iff.mpr ⟨file, hfile⟩) h
  simp only [stagedFile, bind_get, hnone, throw_apply]

theorem placeArtifact_ok {target : ArtifactPath} (h : s.IsStaged name) :
    ∃ s', Store.placeArtifact (fun _ => false) name target s = .ok () s' := by
  obtain ⟨file, hfile⟩ := isStaged_iff.mp h
  simp only [Store.placeArtifact, attemptStep_never, pure_bind, bind_get]
  split <;> rw [bind_ok (stagedFile_ok hfile)]
  · exact ⟨_, rfl⟩
  · exact ⟨_, rfl⟩

theorem placeArtifact_error {target : ArtifactPath} (h : ¬s.IsStaged name) :
    Store.placeArtifact (fun _ => false) name target s = .error (.io "staged artifact") s := by
  simp only [Store.placeArtifact, attemptStep_never, pure_bind, bind_get]
  split <;> rw [bind_error (stagedFile_error h)]

-- A commit is its two parts, with nothing in between.
theorem commitArtifact_eq_parts (fails : ArtifactStep → Bool) :
    Store.commitArtifact fails staged extension mediaType now = (do
      Store.placeStaged staged extension fails
      Store.recordStaged staged extension mediaType now fails) :=
  (bind_assoc ..).symm

theorem placeStaged_ok (hextension : '/' ∉ extension.toList ∧ '\\' ∉ extension.toList)
    (h : s.IsStaged staged.name) :
    ∃ placed, Store.placeStaged staged extension (fun _ => false) s = .ok () placed ∧
      Places staged.name (staged.targetPath extension) s placed := by
  have hplaced : ∃ placed, Store.placeArtifact (fun _ => false) staged.name
      (staged.targetPath extension) s = .ok () placed := placeArtifact_ok h
  obtain ⟨placed, hplaced⟩ := hplaced
  have hends := placeArtifact_ends (fun _ => false) staged.name (staged.targetPath extension) s
  rw [hplaced] at hends
  obtain ⟨hplaces⟩ := hends
  simp only [Store.placeStaged, demand_of hextension, pure_bind]
  exact ⟨placed, hplaced, hplaces⟩

theorem placeStaged_error (hextension : '/' ∉ extension.toList ∧ '\\' ∉ extension.toList)
    (h : ¬s.IsStaged staged.name) :
    Store.placeStaged staged extension (fun _ => false) s = .error (.io "staged artifact") s := by
  simp only [Store.placeStaged, demand_of hextension, pure_bind]
  exact placeArtifact_error h

-- The row can be written whenever the rows are those of a catalogued store.
theorem recordStaged_ok {placed : Store} (h : Catalogued hash s) (hdb : placed.db = s.db)
    (hextension : '/' ∉ extension.toList ∧ '\\' ∉ extension.toList)
    (hsize : Signed 64 staged.byteLength) (mediaType : Option String) (now : Int) :
    ∃ db, commitArtifact staged.sha256 staged.byteLength extension mediaType now placed.db =
        .ok (staged.sha256, db) ∧
      Store.recordStaged staged extension mediaType now (fun _ => false) placed =
        .ok staged.sha256 { placed with db } := by
  have hpath : (⟨staged.targetPath extension, []⟩ : File).path.digest? = some staged.sha256 := rfl
  have hrow : ∃ db, commitArtifact staged.sha256 staged.byteLength extension mediaType now
      placed.db = .ok (staged.sha256, db) :=
    ⟨_, commitArtifact_eq_ok_iff.mpr ⟨hextension, hsize, hdb ▸ h.untaken hpath, rfl⟩⟩
  obtain ⟨db, hrow⟩ := hrow
  refine ⟨db, hrow, ?_⟩
  have hstep : attemptStep (fun _ => false) .updateRow placed = .ok () placed := rfl
  simp only [Store.recordStaged, demand_of hsize, pure_bind]
  refine (bind_ok hstep).trans ?_
  simp only [hrow]

-- A commit that no step fails of succeeds when the staged file is there, and changes nothing when
-- it is not.
theorem commit_of_isStaged (h : Catalogued hash s)
    (hextension : '/' ∉ extension.toList ∧ '\\' ∉ extension.toList)
    (hsize : Signed 64 staged.byteLength) (hstaged : s.IsStaged staged.name) :
    ∃ s', Store.commitArtifact (fun _ => false) staged extension mediaType now s =
      .ok staged.sha256 s' := by
  obtain ⟨placed, hplaced, hplaces⟩ := placeStaged_ok hextension hstaged
  obtain ⟨db, _, hrecorded⟩ := recordStaged_ok h hplaces.db hextension hsize mediaType now
  rw [commitArtifact_eq_parts, bind_ok hplaced]
  exact ⟨_, hrecorded⟩

theorem commit_of_unstaged
    (hextension : '/' ∉ extension.toList ∧ '\\' ∉ extension.toList)
    (hstaged : ¬s.IsStaged staged.name) :
    Store.commitArtifact (fun _ => false) staged extension mediaType now s =
      .error (.io "staged artifact") s := by
  rw [commitArtifact_eq_parts, bind_error (placeStaged_error hextension hstaged)]

theorem serve_commit_ok {s' : Store} {sha256 : Digest}
    (h : Store.commitArtifact (fun _ => false) staged extension mediaType now d.store =
      .ok sha256 s') :
    (DepotCall.commit (fun _ => false) staged extension mediaType now).serve hash d =
      (.ok (), { d with store := s' }) := by
  simp only [DepotCall.serve, Depot.perform, Action.on, h]

theorem serve_commit_error {e : Error}
    (h : Store.commitArtifact (fun _ => false) staged extension mediaType now d.store =
      .error e d.store) :
    (DepotCall.commit (fun _ => false) staged extension mediaType now).serve hash d =
      (.error e, d) := by
  simp only [DepotCall.serve, Depot.perform, Action.on, h]

-- Whoever has staged an artifact can commit it after any run of other calls, by this handle or by
-- another one of the same root, in which no recovery has cleared the directory of the staged files.
-- After one that has, the commit fails and changes nothing.
theorem commit_iff_not_cleared (h : d.Sound hash) (hissued : staged ∈ d.issued)
    (hthere : d.store.IsStaged staged.name)
    (hfair : Each (DepotCall.serve hash) (fun _ d call => call.Fair d) [] d calls)
    (hown : ∀ call ∈ calls, ∀ other ∈ call.commits?, other.name ≠ staged.name)
    (hextension : '/' ∉ extension.toList ∧ '\\' ∉ extension.toList)
    (hsize : Signed 64 staged.byteLength) :
    ∃ reply d', (DepotCall.commit (fun _ => false) staged extension mediaType now).serve hash
        (final (DepotCall.serve hash) d calls) = (reply, d') ∧
      (reply = .ok () ↔ ∀ call ∈ calls, ¬call.Clears staged.name) ∧
      (reply = .ok () → Holds hash d'.store staged.sha256) ∧
      (reply ≠ .ok () → d' = final (DepotCall.serve hash) d calls) := by
  have hnames : staged.name ∈ d.issued.map (·.name) := List.mem_map_of_mem hissued
  have hstaged := isStaged_of_run h hnames hthere hfair hown
  have hend := Each.invariant (I := fun _ d => d.Sound hash ∧ staged ∈ d.issued)
    (fun _ _ call hd hcall => ⟨DepotCall.serve_sound hd.1 hcall,
      DepotCall.serve_issued call hd.2⟩) ⟨h, hissued⟩ hfair
  by_cases hclear : ∀ call ∈ calls, ¬call.Clears staged.name
  case pos =>
    have hcommit : ∃ s', Store.commitArtifact (fun _ => false) staged extension mediaType now
        (final (DepotCall.serve hash) d calls).store = .ok staged.sha256 s' :=
      commit_of_isStaged hend.1.catalogued hextension hsize (hstaged.mpr hclear)
    obtain ⟨s', hok⟩ := hcommit
    have hends := commitArtifact_ends (fun _ => false) staged extension mediaType now
      (final (DepotCall.serve hash) d calls).store
    rw [hok] at hends
    have hfair : (DepotCall.commit (fun _ => false) staged extension mediaType now).Fair
        (final (DepotCall.serve hash) d calls) := .commit hend.2
    have hsound := DepotCall.serve_sound hend.1 hfair
    rw [serve_commit_ok hok] at hsound
    exact ⟨_, _, serve_commit_ok hok, by simpa using hclear,
      fun _ => hsound.catalogued.holds_iff.mpr hends.held, by simp⟩
  case neg =>
    refine ⟨_, _, serve_commit_error (commit_of_unstaged hextension (hclear ∘ hstaged.mp)), ?_⟩
    simpa using hclear

def stagedDemo : Depot :=
  ((DepotCall.stage (fun _ => false) [97] 0).serve recoveryDigest depotDemo).2

-- A recovery clears the directory between the staging and the commit.
def stagedDemoCalls : List DepotCall :=
  [.expect 7 1 none 1, .recoverStaging]

theorem commit_iff_not_cleared_demo :
    ∃ reply d', (DepotCall.commit (fun _ => false) depotDemoStaged "mkv" none 2).serve
        recoveryDigest (final (DepotCall.serve recoveryDigest) stagedDemo stagedDemoCalls) =
        (reply, d') ∧
      reply ≠ .ok () ∧ d' = final (DepotCall.serve recoveryDigest) stagedDemo stagedDemoCalls := by
  have hsound : stagedDemo.Sound recoveryDigest :=
    DepotCall.serve_sound (.new rfl rfl rfl) (.of_none rfl (by simp))
  have hfair : Each (DepotCall.serve recoveryDigest) (fun _ d call => call.Fair d) [] stagedDemo
      stagedDemoCalls :=
    ⟨.of_none rfl (by simp), .of_none rfl (by simp), trivial⟩
  have hown : ∀ call ∈ stagedDemoCalls, ∀ other ∈ call.commits?,
      other.name ≠ depotDemoStaged.name := by
    simp [stagedDemoCalls, DepotCall.commits?]
  have hextension : '/' ∉ "mkv".toList ∧ '\\' ∉ "mkv".toList := by decide
  have hsize : Signed 64 depotDemoStaged.byteLength := by decide
  have hthere : stagedDemo.store.IsStaged depotDemoStaged.name :=
    ⟨_, List.mem_singleton_self _, rfl⟩
  obtain ⟨reply, d', hserve, hok, _, hsame⟩ :=
    commit_iff_not_cleared hsound (List.mem_singleton_self _) hthere hfair hown hextension hsize
  have hne : reply ≠ .ok () := fun hreply =>
    hok.mp hreply .recoverStaging (by simp [stagedDemoCalls]) trivial
  exact ⟨reply, d', hserve, hne, hsame hne⟩

end Commit

end Storage
