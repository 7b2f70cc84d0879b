import OpenFrag.Storage.Theorems.Artifacts

open EStateM Except Machine Table MachineInt

namespace Storage

variable {hash : Content → Digest} {s : Store} {sha256 : Digest} {d : Depot} {now : Int}
variable {spared : Digest → Prop} {call : DepotCall} {calls : List DepotCall}

namespace DepotCall.Fair

theorem of_none (hcommits : call.commits? = none) (hother : ∀ change, call ≠ .other change) :
    call.Fair d where
  issued  := by simp [hcommits]
  entries := fun change heq => absurd heq (hother change)

theorem commit {fails : ArtifactStep → Bool} {staged : StagedArtifact} {extension : String}
    {mediaType : Option String} (h : staged ∈ d.issued) :
    (DepotCall.commit fails staged extension mediaType now).Fair d where
  issued  := by
    rintro _ ⟨⟩
    exact h
  entries := by simp

end DepotCall.Fair

theorem Action.on_state {α : Type} (action : Action α) (s : Store) :
    (action.on s).2 = (action s).state := by
  unfold Action.on
  cases action s <;> rfl

theorem review_leaves {α : Type} {op : Statement α} (h : ∀ r, op s.db = .ok r →
      r.2.artifacts = s.db.artifacts) : Leaves hash spared s (op.on s).2 := by
  apply Statement.on_cases (P := fun r => Leaves hash spared s r.2)
  case herror => exact fun _ => .refl s
  case hok => exact fun r hr => .of_same (List.Subset.refl _) (h r hr) rfl

theorem SaveCall.leaves (call : SaveCall) :
    Leaves hash spared s { s with db := (call.serve s.db).2 } := by
  rcases call.serve_changes s.db with ⟨_, hartifacts⟩ | ⟨row, hmade, _⟩
  · exact .of_same (List.Subset.refl _) hartifacts rfl
  · exact .of_same (List.Subset.refl _) hmade.artifacts rfl

theorem ClipCall.leaves (h : d.Sound hash) {call : ClipCall} (hfair : (DepotCall.clip call).Fair d) :
    Leaves hash (fun sha256 => (DepotCall.clip call).Spares d sha256) d.store
      (call.serve d.store).2 := by
  cases call
  case save call => exact call.leaves
  case setClipReview =>
    apply review_leaves
    intro r hr
    obtain ⟨_, _, rfl⟩ := setClipReview_eq_ok_iff.mp hr
    rfl
  case updateClipReview =>
    apply review_leaves
    intro r hr
    obtain ⟨_, _, _, _, rfl⟩ := updateClipReview_eq_ok_iff.mp hr
    rfl
  case compareAndSwapClipReview =>
    apply review_leaves
    intro r hr
    obtain ⟨_, _, _, _, _, rfl⟩ := compareAndSwapClipReview_eq_ok_iff.mp hr
    rfl
  case commitClipDerivative removalFails request clock =>
    simp only [serve, Action.on_state]
    exact (commitClipDerivative_leaves (h.staged _ (hfair.issued _ rfl))).mono fun _ _ _ => by simp
  case deleteClip fails clip now now' =>
    simp only [serve, Action.on_state]
    exact (deleteClip_ends fails clip now now' d.store).leaves
  case removeFile path => exact removeFile_leaves fun _ hspared => hspared

theorem expectArtifact_leaves {byteLength : Int} {mediaType : Option String} :
    Leaves hash spared s ((expectArtifact sha256 byteLength mediaType now).on s).2 := by
  apply Statement.on_cases (P := fun r => Leaves hash spared s r.2)
  case herror => exact fun _ => .refl s
  case hok =>
    intro r hr
    simp only [expectArtifact, bind_eq_ok_iff, ensure_eq_ok_iff, exists_const,
      pure_eq_ok_iff] at hr
    obtain ⟨_, hnew, rfl⟩ := hr
    apply Leaves.of_held
    case hstaging => exact List.Subset.refl _
    case hcatalogued =>
      exact fun h => h.added rfl rfl hnew (.of_unnamed (by rintro _ ⟨⟩) (by simp))
    case hrows =>
      rintro _ row hmem _ hpresent ⟨path, hpath, _, hthere⟩
      exact ⟨row, List.mem_cons_of_mem _ hmem, rfl, hpresent, path, hpath, hthere⟩

-- A change of the database that leaves the entries of the artifacts.
theorem entries_leaves {db : Database}
    (h : db.artifacts.map ArtifactRow.entry = s.db.artifacts.map ArtifactRow.entry) :
    Leaves hash spared s { s with db } := by
  have hentry {rows rows' : List ArtifactRow}
      (heq : rows'.map ArtifactRow.entry = rows.map ArtifactRow.entry) {row : ArtifactRow}
      (hrow : row ∈ rows) : ∃ row' ∈ rows', row'.entry = row.entry :=
    List.mem_map.mp (heq ▸ List.mem_map_of_mem hrow)
  apply Leaves.of_held
  case hstaging => exact List.Subset.refl _
  case hcatalogued =>
    intro hcat
    apply hcat.change
    case hfiles => rfl
    case hkeys =>
      have hkeys := congrArg (List.map Prod.fst) h
      simp only [List.map_map] at hkeys
      exact (congrArg List.Nodup hkeys).mpr hcat.keys
    case hrows =>
      intro row hrow
      obtain ⟨old, hold, heq⟩ := hentry h.symm hrow
      exact (hcat.rows old hold).of_entry heq.symm
  case hrows =>
    rintro _ row hrow _ hpresent ⟨path, hpath, _, hthere⟩
    obtain ⟨row', hrow', heq⟩ := hentry h hrow
    simp only [ArtifactRow.entry, Prod.mk.injEq] at heq
    obtain ⟨hkey, hpath', havailability⟩ := heq
    exact ⟨row', hrow', hkey, havailability.trans hpresent, path, hpath'.trans hpath, hthere⟩

-- A call takes away only artifacts that it does not spare. A staging adds a staged file.
theorem DepotCall.serve_leaves (h : d.Sound hash) (hfair : call.Fair d)
    (hstage : ∀ fails content written, call ≠ .stage fails content written) :
    (call.serve hash d).2.issued = d.issued ∧
      Leaves hash (call.Spares d) d.store (call.serve hash d).2.store := by
  cases call
  case stage fails content written => exact absurd rfl (hstage fails content written)
  all_goals refine ⟨rfl, ?_⟩
  case commit fails staged extension mediaType now =>
    simp only [serve, Depot.perform, Action.on_state]
    exact (commitArtifact_ends fails staged extension mediaType now d.store).leaves
      (h.staged staged (hfair.issued staged rfl))
  case commitDerivative fails request clock =>
    simp only [serve, Depot.perform, Action.on_state]
    exact commitClipDerivative_leaves (h.staged request.staged (hfair.issued request.staged rfl))
  case quarantine fails sha256 reason =>
    simp only [serve, Depot.perform, Action.on_state]
    exact (quarantineArtifact_ends fails sha256 reason d.store).leaves.mono fun _ hne => hne.symm
  case expect => exact expectArtifact_leaves
  case recoverStaging => exact cleared_leaves (List.nil_subset _)
  case recoverArtifacts now =>
    simp only [serve, Depot.perform, Action.on_state]
    exact recoverArtifacts_leaves h.catalogued
  case recoverUntil stop now =>
    simp only [serve, Depot.perform, Action.on_state]
    exact recoverUntil_leaves h.catalogued stop
  case clip call => exact call.leaves h hfair
  case other change => exact entries_leaves (hfair.entries change rfl)

namespace Depot

theorem Sound.of_leaves {d' : Depot} (h : d.Sound hash) (hissued : d'.issued = d.issued)
    (hleaves : Leaves hash spared d.store d'.store) : d'.Sound hash where
  catalogued := hleaves.catalogued h.catalogued
  staged     := fun staged hmem file hfile =>
    h.staged staged (hissued ▸ hmem) file (hleaves.staging hfile)

theorem Sound.withStaged (h : d.Sound hash) (content : Content) :
    (d.withStaged content).Sound hash where
  catalogued := h.catalogued.same rfl rfl
  staged     := by
    intro staged hissued
    refine List.forall_mem_cons.mpr ⟨fun hname => ?_, h.staged staged hissued⟩
    have hmem : d.stagedName ∈ d.issued.map (·.name) ++ d.store.staging.map (·.name) :=
      List.mem_append_left _ (List.mem_map.mpr ⟨staged, hissued, hname.symm⟩)
    exact absurd hmem (fresh_notMem _)

-- A staged artifact that is handed out.
theorem Sound.issue (h : d.Sound hash) (content : Content) :
    Sound hash { d.withStaged content with
      issued := ⟨hash content, content.length, d.stagedName⟩ :: d.issued } where
  catalogued := (h.withStaged content).catalogued
  staged     := by
    refine List.forall_mem_cons.mpr ⟨?_, (h.withStaged content).staged⟩
    refine List.forall_mem_cons.mpr ⟨fun _ => rfl, fun file hfile hname => ?_⟩
    have hmem : d.stagedName ∈ d.issued.map (·.name) ++ d.store.staging.map (·.name) :=
      List.mem_append_right _ (List.mem_map.mpr ⟨file, hfile, hname⟩)
    exact absurd hmem (fresh_notMem _)

-- A store without artifacts.
theorem Sound.new {d : Depot} (hartifacts : d.store.db.artifacts = []) (hfiles : d.store.files = [])
    (hissued : d.issued = []) : d.Sound hash where
  catalogued := by constructor <;> simp [hartifacts, hfiles]
  staged     := by simp [hissued]

end Depot

-- How a staging ends: with a file that is handed out, with one that is not, or with none.
theorem stageFromReader_sound (h : d.Sound hash) (fails : ArtifactStep → Bool) (content : Content)
    (written : Nat) : (stageFromReader fails hash content written d).state.Sound hash ∧
      (stageFromReader fails hash content written d).state.store.db = d.store.db ∧
      (stageFromReader fails hash content written d).state.store.files = d.store.files := by
  unfold stageFromReader
  split
  case isTrue => exact ⟨h, rfl, rfl⟩
  case isFalse =>
    split
    case isTrue => exact ⟨h.withStaged [], rfl, rfl⟩
    case isFalse =>
      split
      case isTrue => exact ⟨h.withStaged _, rfl, rfl⟩
      case isFalse =>
        split
        case isTrue => exact ⟨h.withStaged _, rfl, rfl⟩
        case isFalse =>
          split
          case isTrue => exact ⟨h.withStaged content, rfl, rfl⟩
          case isFalse => exact ⟨h.issue content, rfl, rfl⟩

namespace DepotCall

theorem serve_stage (fails : ArtifactStep → Bool) (content : Content) (written : Nat) (d : Depot) :
    ((stage fails content written).serve hash d).2 =
      (stageFromReader fails hash content written d).state := by
  cases hresult : stageFromReader fails hash content written d <;> simp only [serve, hresult] <;> rfl

theorem serve_sound (h : d.Sound hash) (hfair : call.Fair d) : (call.serve hash d).2.Sound hash := by
  by_cases hstage : ∃ fails content written, call = .stage fails content written
  case pos =>
    obtain ⟨fails, content, written, rfl⟩ := hstage
    rw [serve_stage]
    exact (stageFromReader_sound h fails content written).1
  case neg =>
    simp only [not_exists] at hstage
    obtain ⟨hissued, hleaves⟩ := serve_leaves h hfair hstage
    exact h.of_leaves hissued hleaves

theorem serve_held (h : d.Sound hash) (hfair : call.Fair d) (hspares : call.Spares d sha256)
    (hheld : IsHeld d.store sha256) : IsHeld (call.serve hash d).2.store sha256 := by
  by_cases hstage : ∃ fails content written, call = .stage fails content written
  case pos =>
    obtain ⟨fails, content, written, rfl⟩ := hstage
    obtain ⟨_, hdb, hfiles⟩ := stageFromReader_sound h fails content written
    rw [serve_stage]
    unfold IsHeld
    rw [hdb, hfiles]
    exact hheld
  case neg =>
    simp only [not_exists] at hstage
    exact (serve_leaves h hfair hstage).2.held h.catalogued sha256 hspares hheld

end DepotCall

-- Every store of a run can be recovered, whatever has failed before and wherever the process has
-- ended: recovery succeeds, each present artifact then has its file with its content, and each file
-- that a commit has left in the tree has a row.
theorem recovers_of_run (h : d.Sound hash)
    (hfair : Each (DepotCall.serve hash) (fun _ d call => call.Fair d) [] d calls)
    (hsize : ∀ file ∈ (final (DepotCall.serve hash) d calls).store.files,
      Signed 64 file.content.length) (now : Int) :
    ∃ result s', recoverArtifacts hash now (final (DepotCall.serve hash) d calls).store =
      .ok result s' ∧ Restores hash (final (DepotCall.serve hash) d calls).store s' := by
  have hsound := Each.invariant (I := fun _ d => d.Sound hash)
    (fun _ _ _ h hfair => DepotCall.serve_sound h hfair) h hfair
  exact recoverArtifacts_restores hsound.catalogued hsize

-- An artifact whose commit has succeeded stays present, with a file that has its content, through
-- every run of calls that do not take it away.
theorem holds_of_commit (h : d.Sound hash) {fails : ArtifactStep → Bool} {staged : StagedArtifact}
    {extension : String} {mediaType : Option String} (hissued : staged ∈ d.issued)
    (hcommit : ((DepotCall.commit fails staged extension mediaType now).serve hash d).1 = .ok ())
    (hrun : Each (DepotCall.serve hash)
      (fun _ d call => call.Fair d ∧ call.Spares d staged.sha256) []
      ((DepotCall.commit fails staged extension mediaType now).serve hash d).2 calls) :
    Holds hash (final (DepotCall.serve hash)
      ((DepotCall.commit fails staged extension mediaType now).serve hash d).2 calls).store
      staged.sha256 := by
  have hsound : ((DepotCall.commit fails staged extension mediaType now).serve hash d).2.Sound
      hash :=
    DepotCall.serve_sound h (.commit hissued)
  have hheld : IsHeld ((DepotCall.commit fails staged extension mediaType now).serve hash d).2.store
      staged.sha256 := by
    have hends := commitArtifact_ends fails staged extension mediaType now d.store
    simp only [DepotCall.serve, Depot.perform, Action.on] at hcommit ⊢
    cases hresult : Store.commitArtifact fails staged extension mediaType now d.store
    case error e s' => simp [hresult] at hcommit
    case ok sha256 s' =>
      rw [hresult] at hends
      exact hends.held
  have hend := Each.invariant
    (I := fun _ d => d.Sound hash ∧ IsHeld d.store staged.sha256)
    (fun _ _ _ hd hcall => ⟨DepotCall.serve_sound hd.1 hcall.1,
      DepotCall.serve_held hd.1 hcall.1 hcall.2 hd.2⟩) ⟨hsound, hheld⟩ hrun
  exact hend.1.catalogued.holds_iff.mpr hend.2

section Demo

def depotDemo : Depot where
  store  := ⟨"/data", Database.empty, [], []⟩
  issued := []

def depotDemoStaged : StagedArtifact :=
  ⟨recoveryDigest [97], 1, 0⟩

-- The process ends between the move of the file and the row of the artifact.
def depotDemoCalls : List DepotCall :=
  [.stage (fun _ => false) [97] 0,
    .commit (fun step => step = .updateRow) depotDemoStaged "mkv" none 2]

theorem recovers_of_run_demo :
    ∃ result s', recoverArtifacts recoveryDigest 5
        (final (DepotCall.serve recoveryDigest) depotDemo depotDemoCalls).store = .ok result s' ∧
      Restores recoveryDigest
        (final (DepotCall.serve recoveryDigest) depotDemo depotDemoCalls).store s' := by
  have hfair : Each (DepotCall.serve recoveryDigest) (fun _ d call => call.Fair d) [] depotDemo
      depotDemoCalls :=
    ⟨.of_none rfl (by simp), .commit (List.mem_singleton_self _), trivial⟩
  exact recovers_of_run (.new rfl rfl rfl) hfair (by decide) 5

theorem holds_of_commit_demo :
    Holds recoveryDigest (final (DepotCall.serve recoveryDigest)
      ((DepotCall.commit (fun _ => false) depotDemoStaged "mkv" none 2).serve recoveryDigest
        ((DepotCall.stage (fun _ => false) [97] 0).serve recoveryDigest depotDemo).2).2
      [.quarantine (fun _ => false) 7 "stale", .recoverArtifacts 5]).store
      depotDemoStaged.sha256 := by
  have hsound : ((DepotCall.stage (fun _ => false) [97] 0).serve recoveryDigest depotDemo).2.Sound
      recoveryDigest :=
    DepotCall.serve_sound (.new rfl rfl rfl) (.of_none rfl (by simp))
  have hother : (7 : Digest) ≠ recoveryDigest [97] := by decide
  exact holds_of_commit hsound (List.mem_singleton_self _) rfl
    ⟨⟨.of_none rfl (by simp), hother⟩, ⟨.of_none rfl (by simp), trivial⟩, trivial⟩

end Demo

end Storage
