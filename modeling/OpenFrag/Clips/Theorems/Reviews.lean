import OpenFrag.Clips.Reviews
import OpenFrag.Clips.Theorems.Loading
import OpenFrag.Storage.Theorems.Review
import OpenFrag.Storage.Theorems.Saves

open Except Machine Table MachineInt
open Storage (ArtifactRow ClipDisposition ClipReviewDecision ClipRow Database Digest
  DurableClipOriginInput File SaveAttemptId Store clipTagsOf fileAt hexText identifierText isLive)

namespace Clips

theorem hexText_ne_empty (sha256 : Digest) : hexText sha256 ≠ "" := by
  intro h
  have hlength := congrArg (fun text : String => text.toList.length) h
  simp [hexText] at hlength

theorem identifierText_ne_empty (id : Nat) : identifierText id ≠ "" := by
  intro h
  have hlength := congrArg String.length h
  simp [identifierText] at hlength

-- A record is a clip when its review can be rehydrated; the rest of it always can.
theorem clipFromRecord_eq_ok_iff (root : String) {record : Storage.DurableClipModelRecord}
    (hlength : 0 ≤ record.artifact.byteLength) (hduration : record.durationMs ≠ 0)
    {origin : ClipOrigin} (horigin : originFromRecord record.origin = .ok origin)
    (hvalid : origin.evidenceValid) {state : ReviewState}
    (hstate : reviewStateFromRecord record.detail.reviewDecision record.reviewedAtMs = .ok state) :
    ∃ snapshot : DurableClipSnapshot,
      (snapshot.revision = record.revision ∧ snapshot.reviewState = state ∧
        snapshot.note = record.detail.note.getD "" ∧
        snapshot.tags = record.detail.tags.toFinset ∧
        snapshot.favorite = record.detail.favorite ∧ snapshot.derivative = none) ∧
      ∀ loaded, clipFromRecord root record = .ok loaded ↔
        validateReviewState snapshot = .ok () ∧ ⟨snapshot⟩ = loaded := by
  have hhex := hexText_ne_empty record.artifact.sha256
  have hid := identifierText_ne_empty record.detail.summary.id
  have hsession := identifierText_ne_empty record.captureSessionId
  obtain ⟨source, hsource⟩ : ∃ source, ArtifactProvenance.new (hexText record.artifact.sha256)
      (root ++ "/" ++ relativeText record.artifact.path) (hexText record.artifact.sha256)
      record.durationMs record.artifact.byteLength.toNat = .ok source := by
    simp [ArtifactProvenance.new, hhex, hduration]
  obtain ⟨id, hname⟩ : ∃ id, ClipId.new (identifierText record.detail.summary.id) = .ok id := by
    simp [ClipId.new, hid]
  refine ⟨{
    id, origin
    revision         := record.revision
    sourceCapture    := source
    captureSessionId := identifierText record.captureSessionId
    reviewState      := state
    title            := record.detail.summary.title.getD ""
    note             := record.detail.note.getD ""
    tags             := record.detail.tags.toFinset
    favorite         := record.detail.favorite
    derivative       := none }, ⟨rfl, rfl, rfl, rfl, rfl, rfl⟩, fun loaded => ?_⟩
  simp only [clipFromRecord, if_neg (not_lt.mpr hlength), hsource, horigin, hstate, hname,
    bind_eq_ok_iff, mapError_eq_ok_iff, ok.injEq, exists_eq_left', fromDurableSnapshot_eq_ok_iff, validateDerivative_eq_ok_iff]
  simp [hsession, hvalid]

-- A clip that is not deleted, with its artifact.
structure Stored (clip : Storage.ClipId) (s : Store) (row : ClipRow) (artifact : ArtifactRow) :
    Prop where
  clips        : (s.db.clips.map (·.id)).Nodup
  artifacts    : (s.db.artifacts.map (·.sha256)).Nodup
  row_mem      : row ∈ s.db.clips
  live         : isLive clip row
  artifact_mem : artifact ∈ s.db.artifacts
  key          : artifact.sha256 = row.artifactSha256
  inPlace      : InPlace s.files artifact
  timed        : row.reviewDecision ≠ .pending → row.reviewedAtMs.isSome
  times        : ∀ time ∈ row.reviewedAtMs, 0 ≤ time
  revisions    : ∀ revision ∈ row.reviewRevision, 0 ≤ revision
  originated   : row.originKind.isSome ↔ row.reviewRevision.isSome
  complete     : row.reviewRevision.isSome → ∃ origin : DurableClipOriginInput, ∃ duration : Nat,
    Storage.validateOrigin origin = .ok () ∧ row.originKind = some origin.kind ∧
    row.manualFlagTimeMs = origin.flagTimeMs.map Int.ofNat ∧
    s.db.clipOriginReceipts.filter (·.clipId = clip) = Storage.originRows clip origin ∧
    artifact.mediaDurationMs = some (duration : Int) ∧ duration ≠ 0

-- The review of a clip is one that can be rehydrated at its revision.
def Consistent (clip : Storage.ClipId) (s : Store) (row : ClipRow) : Prop :=
  ∀ revision ∈ row.reviewRevision, Signed 64 revision ∧
    if revision = 0 then Unreviewed clip s row else row.reviewDecision ≠ .pending

namespace Stored

variable {clip : Storage.ClipId} {s : Store} {row : ClipRow} {artifact : ArtifactRow}

theorem id_eq (h : Stored clip s row artifact) : row.id = clip := by
  have hlive := h.live
  simp only [isLive, Bool.and_eq_true, decide_eq_true_eq] at hlive
  exact hlive.1

theorem find?_live (h : Stored clip s row artifact) : s.db.clips.find? (isLive clip) = some row := by
  obtain ⟨found, hfound⟩ := Option.isSome_iff_exists.mp
    (List.find?_isSome.mpr ⟨row, h.row_mem, h.live⟩)
  have hid : found.id = clip := by
    have hlive := List.find?_some hfound
    simp only [isLive, Bool.and_eq_true, decide_eq_true_eq] at hlive
    exact hlive.1
  have heq := List.inj_on_of_nodup_map h.clips (List.mem_of_find?_eq_some hfound) h.row_mem
    (hid.trans h.id_eq.symm)
  exact heq ▸ hfound

theorem only (h : Stored clip s row artifact) {other : ClipRow} (hmem : other ∈ s.db.clips)
    (hlive : isLive clip other) : other = row := by
  simp only [isLive, Bool.and_eq_true, decide_eq_true_eq] at hlive
  exact List.inj_on_of_nodup_map h.clips hmem h.row_mem (hlive.1.trans h.id_eq.symm)

theorem liveClip (h : Stored clip s row artifact) :
    Storage.liveClip s.db clip = some (row, artifact) := by
  have hartifact := find?_key h.artifacts h.artifact_mem
  rw [h.key] at hartifact
  simp [Storage.liveClip, h.find?_live, Storage.artifactOf, hartifact]

theorem clipArtifactFile (h : Stored clip s row artifact) : ∃ path,
    Storage.clipArtifactFile s clip =
      .ok ⟨clip, artifact.sha256, path, artifact.byteLength, artifact.mediaType⟩ := by
  obtain ⟨extension, file, hpath, hfile, hlength⟩ := h.inPlace.file
  refine ⟨.committed artifact.sha256 extension, ?_⟩
  have hfits := h.inPlace.fits.1
  simp only [Storage.clipArtifactFile, h.liveClip, Option.filter_some, h.inPlace.present, hpath,
    Storage.safeArtifactPath, hfile, hlength, decide_true, if_true, bind_eq_ok_iff,
    Storage.ensure_eq_ok_iff, exists_const, pure_eq_ok_iff]
  simp [hfits]

-- The record that a clip is read as.
def record (s : Store) (clip : Storage.ClipId) (row : ClipRow) (artifact : ArtifactRow)
    (path : Storage.ArtifactPath) (duration : Nat) (revision : Int)
    (origin : DurableClipOriginInput) : Storage.DurableClipModelRecord where
  detail           := row.detail artifact (clipTagsOf s.db clip)
  artifact         := ⟨clip, artifact.sha256, path, artifact.byteLength, artifact.mediaType⟩
  captureSessionId := row.captureSessionId
  durationMs       := duration
  revision         := revision.toNat
  reviewedAtMs     := row.reviewedAtMs.map Int.toNat
  origin           := origin.record

theorem clipDetail (h : Stored clip s row artifact) :
    Storage.clipDetail s.db clip = .ok (row.detail artifact (clipTagsOf s.db clip)) := by
  simp only [Storage.clipDetail, h.liveClip]
  rfl

-- A clip with metadata is read as a record, unless its revision has overflown.
theorem durableClipModel (h : Stored clip s row artifact) {revision : Int}
    (hrevision : row.reviewRevision = some revision) : ∃ path duration, ∃ origin :
      DurableClipOriginInput, Storage.validateOrigin origin = .ok () ∧ duration ≠ 0 ∧
    ∀ found, Storage.durableClipModel s clip = .ok found ↔ Signed 64 revision ∧
      found = record s clip row artifact path duration revision origin := by
  obtain ⟨path, hpath⟩ := h.clipArtifactFile
  obtain ⟨origin, duration, hvalid, hkind, htime, hrows, hduration, hpositive⟩ :=
    h.complete (by simp [hrevision])
  have horigin := Storage.durableOrigin_stored hvalid htime (by rwa [h.id_eq])
  have hnonneg := h.revisions revision hrevision
  have htimes : (row.detail artifact (clipTagsOf s.db clip)).reviewDecision = .pending ∨
      row.reviewedAtMs.isSome := by
    by_cases hpending : row.reviewDecision = .pending
    · exact .inl hpending
    · exact .inr (h.timed hpending)
  refine ⟨path, duration, origin, hvalid, hpositive, fun found => ?_⟩
  simp only [Storage.durableClipModel, h.clipDetail, hpath, h.liveClip, hrevision, hduration, hkind,
    horigin, Storage.orUnavailable, Storage.readInteger, bind_eq_ok_iff, Storage.ensure_eq_ok_iff,
    pure_eq_ok_iff, exists_const, ok.injEq, exists_eq_left', Int.natCast_nonneg, Int.toNat_natCast,
    true_and]
  constructor
  · rintro ⟨_, ⟨hfits, rfl⟩, _, _, _, rfl⟩
    exact ⟨hfits, rfl⟩
  · rintro ⟨hfits, rfl⟩
    exact ⟨revision, ⟨hfits, rfl⟩, htimes, hnonneg, h.times, rfl⟩

theorem reviewState (h : Stored clip s row artifact) : ∃ state,
    reviewStateFromRecord row.reviewDecision (row.reviewedAtMs.map Int.toNat) = .ok state ∧
    (state = .provisional ↔ row.reviewDecision = .pending) := by
  cases hdecision : row.reviewDecision
  case pending => exact ⟨.provisional, rfl, by simp⟩
  all_goals
    obtain ⟨time, htime⟩ := Option.isSome_iff_exists.mp (h.timed (by simp [hdecision]))
    rw [htime]
  case keep => exact ⟨.reviewed time.toNat, rfl, by simp⟩
  case reject => exact ⟨.rejected time.toNat, rfl, by simp⟩

theorem loads_iff (h : Stored clip s row artifact) {revision : Int}
    (hrevision : row.reviewRevision = some revision) :
    (∃ loaded, loadDurable s clip = .ok loaded ∧ Rehydrated loaded.snapshot) ↔
      Consistent clip s row := by
  obtain ⟨path, duration, origin, hvalid, hduration, hmodel⟩ := h.durableClipModel hrevision
  obtain ⟨built, hbuilt, hevidence⟩ := originFromRecord_stored hvalid
  obtain ⟨state, hstate, hpending⟩ := h.reviewState
  have hnonneg := h.revisions revision hrevision
  have hzero : revision.toNat = 0 ↔ revision = 0 := by omega
  have hstate : reviewStateFromRecord (record s clip row artifact path duration revision
      origin).detail.reviewDecision (record s clip row artifact path duration revision
      origin).reviewedAtMs = .ok state := hstate
  obtain ⟨snapshot, ⟨hrev, hst, hnote, htags, hfav, hderivative⟩, hclip⟩ :=
    clipFromRecord_eq_ok_iff s.root h.inPlace.fits.2 hduration hbuilt hevidence hstate
  have hnote : snapshot.note = row.note.getD "" := hnote
  have htags : snapshot.tags = (clipTagsOf s.db clip).toFinset := htags
  have hfav : snapshot.favorite = row.favorite := hfav
  have hrev : snapshot.revision = revision.toNat := hrev
  have hload (loaded : Clip) : loadDurable s clip = .ok loaded ↔
      Signed 64 revision ∧ validateReviewState snapshot = .ok () ∧ ⟨snapshot⟩ = loaded := by
    simp only [loadDurable, bind_eq_ok_iff, mapError_eq_ok_iff, hmodel, and_assoc,
      exists_and_left, exists_eq_left, hclip]
  have hstates : validateReviewState snapshot = .ok () ↔
      if revision = 0 then Unreviewed clip s row else row.reviewDecision ≠ .pending := by
    rw [validateReviewState_eq_ok_iff, hst, hrev, hnote, htags, hfav, hderivative]
    simp only [hpending, hzero, ne_eq, List.toFinset_eq_empty_iff, Unreviewed]
    by_cases hp : row.reviewDecision = .pending <;> by_cases hr : revision = 0 <;>
      simp [hp, hr]
  simp only [Consistent, hrevision, Option.mem_some_iff, forall_eq', hload, hstates]
  constructor
  · rintro ⟨_, ⟨hfits, hok, _⟩, _⟩
    exact ⟨hfits, hok⟩
  · intro ⟨hfits, hok⟩
    refine ⟨_, ⟨hfits, hok, rfl⟩, ?_⟩
    have hsnapshot := hstates.mpr hok
    rw [validateReviewState_eq_ok_iff] at hsnapshot
    constructor
    case provisional =>
      constructor
      · intro heq
        exact (if_pos heq ▸ hsnapshot).1
      · intro hzero'
        by_contra hne
        exact (if_neg hne ▸ hsnapshot) hzero'
    case clean =>
      intro heq
      have hclean := if_pos heq ▸ hsnapshot
      exact ⟨hclean.2.1, hclean.2.2.1, hclean.2.2.2.1⟩

-- A writer of the review: it sets the review time and counts the revision on.
theorem rewritten (h : Stored clip s row artifact) {p : ClipRow → Bool} {f : ClipRow → ClipRow}
    {tags : List Storage.ClipTagRow} (hp : p row) (hid : ∀ other, (f other).id = other.id)
    (hlive : (f row).disposition ≠ "deleted")
    (hartifact : (f row).artifactSha256 = row.artifactSha256)
    (hkind : (f row).originKind = row.originKind)
    (hflag : (f row).manualFlagTimeMs = row.manualFlagTimeMs) {now : Int} (hnow : 0 ≤ now)
    (htime : (f row).reviewedAtMs = some now)
    (hsome : (f row).reviewRevision.isSome = row.reviewRevision.isSome)
    (hrevision : ∀ revision ∈ (f row).reviewRevision, 0 ≤ revision) :
    Stored clip { s with db := { s.db with clips := update p f s.db.clips, clipTags := tags } }
      (f row) artifact where
  clips        := nodup_update h.clips hid
  artifacts    := h.artifacts
  row_mem      := mem_update.mpr ⟨row, h.row_mem, by rw [if_pos hp]⟩
  live         := Storage.isLive_iff.mpr ⟨(hid row).trans h.id_eq, hlive⟩
  artifact_mem := h.artifact_mem
  key          := h.key.trans hartifact.symm
  inPlace      := h.inPlace
  timed        := fun _ => by simp [htime]
  times        := by simpa [htime] using hnow
  revisions    := hrevision
  originated   := by rw [hkind, hsome]; exact h.originated
  complete     := by rw [hkind, hflag, hsome]; exact h.complete

variable {title note : Option String} {tags : List String} {favorite : Bool}
variable {decision : ClipReviewDecision} {now : Int} {db : Database}

theorem nextRevision_nonneg {revision : Int} (h : 0 ≤ revision) :
    0 ≤ Storage.nextRevision revision := by
  simp only [Storage.nextRevision]
  omega

theorem setClipReview (h : Stored clip s row artifact) {disposition : ClipDisposition}
    (hdisposition : disposition ≠ .deleted)
    (hop : Storage.setClipReview clip disposition title favorite now s.db = .ok ((), db)) :
    Stored clip { s with db } (Storage.setReview disposition title favorite now row) artifact := by
  obtain ⟨_, hnow, heq⟩ := Storage.setClipReview_eq_ok_iff.mp hop
  cases heq
  apply h.rewritten h.live
  case hnow => exact hnow
  case hlive => cases disposition <;> simp_all [Storage.setReview, ClipDisposition.asStr]
  case hsome => simp [Storage.setReview]
  case hrevision =>
    simp only [Storage.setReview, Option.mem_map]
    rintro _ ⟨revision, hrevision, rfl⟩
    exact nextRevision_nonneg (h.revisions revision hrevision)
  all_goals intros; rfl

theorem reviewDisposition_ne_deleted :
    (Storage.reviewDisposition decision).asStr ≠ "deleted" := by
  cases decision <;> simp [Storage.reviewDisposition, ClipDisposition.asStr]

theorem updateClipReview (h : Stored clip s row artifact)
    (hop : Storage.updateClipReview clip title note tags decision favorite now s.db =
      .ok ((), db)) :
    Stored clip { s with db } (Storage.updatedReview title note decision favorite now row)
      artifact := by
  obtain ⟨_, _, hnow, _, heq⟩ := Storage.updateClipReview_eq_ok_iff.mp hop
  cases heq
  apply h.rewritten h.live
  case hnow => exact hnow
  case hlive => exact reviewDisposition_ne_deleted
  case hsome => simp [Storage.updatedReview, Storage.reviewed]
  case hrevision =>
    simp only [Storage.updatedReview, Storage.reviewed, Option.mem_map]
    rintro _ ⟨revision, hrevision, rfl⟩
    exact nextRevision_nonneg (h.revisions revision hrevision)
  all_goals intros; rfl

theorem compareAndSwap (h : Stored clip s row artifact) {expectedRevision revision : Nat}
    (hop : Storage.compareAndSwapClipReview clip expectedRevision title note tags decision favorite
      now s.db = .ok (revision, db)) :
    Stored clip { s with db } (Storage.reviewed title note decision favorite
      (some (expectedRevision + 1)) now row) artifact ∧ Signed 64 (expectedRevision + 1) := by
  obtain ⟨_, hfits, hany, hnow, _, heq⟩ := Storage.compareAndSwapClipReview_eq_ok_iff.mp hop
  cases heq
  obtain ⟨found, hmem, hat⟩ := List.any_eq_true.mp hany
  have heq := h.only hmem (Storage.isAtRevision_iff.mp hat).1
  subst heq
  refine ⟨?_, hfits⟩
  apply h.rewritten hat
  case hnow => exact hnow
  case hlive => exact reviewDisposition_ne_deleted
  case hsome => simp [Storage.reviewed, (Storage.isAtRevision_iff.mp hat).2]
  case hrevision =>
    simp only [Storage.reviewed, Option.mem_some_iff]
    rintro _ rfl
    omega
  all_goals intros; rfl

theorem completeClipModelMetadata (h : Stored clip s row artifact) {durationMs : Nat}
    {origin : DurableClipOriginInput}
    (hop : Storage.completeClipModelMetadata clip durationMs origin s.db = .ok ((), db)) :
    ∃ artifact', Stored clip { s with db } (Storage.completed origin row) artifact' ∧
      clipTagsOf db clip = clipTagsOf s.db clip := by
  obtain ⟨⟨hduration, _⟩, hvalid, found, hfound, hany, _, _, heq⟩ :=
    Storage.completeClipModelMetadata_eq_ok_iff.mp hop
  cases heq
  rw [h.find?_live] at hfound
  cases hfound
  obtain ⟨other, hmem, hmeasurable⟩ := List.any_eq_true.mp hany
  have hother : other = artifact := by
    simp only [Storage.isMeasurable, Bool.and_eq_true, decide_eq_true_eq] at hmeasurable
    exact List.inj_on_of_nodup_map h.artifacts hmem h.artifact_mem (hmeasurable.1.trans h.key.symm)
  subst hother
  refine ⟨{ other with mediaDurationMs := some durationMs }, ?_, rfl⟩
  constructor
  case clips => exact nodup_update h.clips fun _ => rfl
  case artifacts => exact nodup_update h.artifacts fun _ => rfl
  case row_mem => exact mem_update.mpr ⟨row, h.row_mem, by rw [if_pos h.live]⟩
  case live => exact h.live
  case artifact_mem => exact mem_update.mpr ⟨other, hmem, by rw [if_pos hmeasurable]⟩
  case key => exact h.key
  case inPlace => exact ⟨h.inPlace.present, h.inPlace.file, h.inPlace.fits⟩
  case timed => exact h.timed
  case times => exact h.times
  case revisions =>
    have hnonneg := h.revisions
    cases hrevision : row.reviewRevision <;> simp_all [Storage.completed]
  case originated => simp [Storage.completed]
  case complete =>
    exact fun _ => ⟨origin, durationMs, hvalid, rfl, rfl, Storage.originRows_filter, rfl, hduration⟩

end Stored

variable {clip : Storage.ClipId} {s : Store} {row : ClipRow} {artifact : ArtifactRow}

-- What the machine keeps: the clip is there, and loads when its metadata is complete.
def Loadable (clip : Storage.ClipId) (s : Store) : Prop :=
  ∃ row artifact, Stored clip s row artifact ∧ Consistent clip s row

theorem Stored.hasMetadata_iff (h : Stored clip s row artifact) :
    s.db.clips.any (hasMetadata clip) ↔ row.reviewRevision.isSome := by
  rw [List.any_eq_true]
  constructor
  · rintro ⟨found, hmem, hfound⟩
    simp only [hasMetadata, Bool.and_eq_true] at hfound
    exact h.only hmem hfound.1.1 ▸ hfound.1.2
  · intro hrevision
    refine ⟨row, h.row_mem, ?_⟩
    simp [hasMetadata, h.live, hrevision, h.originated.mpr hrevision]

theorem Stored.loads_iff_consistent (h : Stored clip s row artifact) :
    Loads clip s ↔ Consistent clip s row := by
  simp only [Loads, h.hasMetadata_iff]
  cases hrevision : row.reviewRevision
  case none => simp [Consistent, hrevision]
  case some revision => simpa using h.loads_iff hrevision

-- A review that counts the revision on has to decide.
theorem Stored.consistent_next (h : Stored clip s row artifact) {s' : Store} {row' : ClipRow}
    (hrow : row'.reviewRevision = row.reviewRevision.map Storage.nextRevision) :
    Consistent clip s' row' ↔ ∀ revision ∈ row.reviewRevision,
      row'.reviewDecision ≠ .pending ∧ revision < 2 ^ 63 - 1 := by
  simp only [Consistent, hrow, Option.mem_map, forall_exists_index, and_imp,
    forall_apply_eq_imp_iff₂]
  refine forall₂_congr fun revision hrevision => ?_
  have hnonneg := h.revisions revision hrevision
  have hne : Storage.nextRevision revision ≠ 0 := by
    simp only [Storage.nextRevision]
    omega
  have hfits : Signed 64 (Storage.nextRevision revision) ↔ revision < 2 ^ 63 - 1 := by
    simp only [signed_64, Storage.nextRevision]
    omega
  rw [if_neg hne, hfits, and_comm]

theorem onStore_ok {α : Type} {op : Storage.Statement α} (h : (onStore op s).1 = .ok ()) :
    ∃ a db, op s.db = .ok (a, db) ∧ (onStore op s).2 = { s with db } := by
  cases hop : op s.db
  case error => simp [onStore, Storage.Statement.perform, hop, Except.map] at h
  case ok r => exact ⟨r.1, r.2, rfl, by simp [onStore, Storage.Statement.perform, hop]⟩

-- A call that succeeds leaves the clip loadable exactly when it comes in order.
theorem Stored.serve (h : Stored clip s row artifact) {call : ReviewCall}
    (hcall : call.Succeeds clip s) : ∃ row' artifact',
    Stored clip (call.serve clip s).2 row' artifact' ∧
      (Consistent clip s row → (Consistent clip (call.serve clip s).2 row' ↔
        call.InOrder clip s)) := by
  obtain ⟨hok, hkeeps⟩ := hcall
  have honly (P : ClipRow → Prop) : (∀ other ∈ s.db.clips, isLive clip other → P other) ↔ P row :=
    ⟨fun hall => hall row h.row_mem h.live, fun hrow other hmem hlive => h.only hmem hlive ▸ hrow⟩
  cases call
  case setClipReview disposition title favorite now =>
    obtain ⟨_, db, hop, hstore⟩ := onStore_ok hok
    have hnext := h.setClipReview (by simpa [ReviewCall.isDeleting] using hkeeps) hop
    rw [ReviewCall.serve, hstore]
    refine ⟨_, _, hnext, fun _ => ?_⟩
    rw [ReviewCall.InOrder, honly, h.consistent_next rfl]
    refine forall₂_congr fun _ _ => and_congr_left fun _ => ?_
    by_cases hkept : disposition = .kept <;> simp [Storage.setReview, hkept]
  case updateClipReview title note tags decision favorite now =>
    obtain ⟨_, db, hop, hstore⟩ := onStore_ok hok
    rw [ReviewCall.serve, hstore]
    refine ⟨_, _, h.updateClipReview hop, fun _ => ?_⟩
    rw [ReviewCall.InOrder, honly, h.consistent_next rfl]
    rfl
  case compareAndSwapClipReview expected title note tags decision favorite now =>
    obtain ⟨_, db, hop, hstore⟩ := onStore_ok hok
    have ⟨hnext, hfits⟩ := h.compareAndSwap hop
    rw [ReviewCall.serve, hstore]
    refine ⟨_, _, hnext, fun _ => ?_⟩
    rw [ReviewCall.InOrder, honly]
    have hne : (expected : Int) + 1 ≠ 0 := by omega
    simp [Consistent, Storage.reviewed, hfits, hne]
  case completeClipModelMetadata durationMs origin =>
    obtain ⟨_, db, hop, hstore⟩ := onStore_ok hok
    obtain ⟨artifact', hnext, htags⟩ := h.completeClipModelMetadata hop
    rw [ReviewCall.serve, hstore]
    refine ⟨_, artifact', hnext, fun hconsistent => ?_⟩
    rw [ReviewCall.InOrder, honly]
    simp only [Consistent, Storage.completed, Option.mem_some_iff, forall_eq', Unreviewed, htags]
      at hconsistent ⊢
    cases hrevision : row.reviewRevision
    case none => simp [signed_64]
    case some revision =>
      simp only [Option.getD_some, reduceCtorEq, false_imp_iff, iff_true]
      exact hconsistent revision hrevision

-- A new clip loads all along its run exactly when its metadata comes before any review of it, and
-- every review that comes after decides.
theorem always_loads_iff {s : Store} {attempt : SaveAttemptId} {sha256 : Digest}
    {startNs endNs now : Int} {provenance : String} {db : Database}
    (hclips : (s.db.clips.map (·.id)).Nodup) (hartifacts : (s.db.artifacts.map (·.sha256)).Nodup)
    (hartifact : artifact ∈ s.db.artifacts) (hkey : artifact.sha256 = sha256)
    (hplace : InPlace s.files artifact) (hnew : Storage.linkedClip s.db attempt = none)
    (hclip : Storage.finalizeCapturedClip attempt sha256 startNs endNs provenance now s.db =
      .ok (clip, db)) {calls : List ReviewCall}
    (hcalls : Each (ReviewCall.serve clip) (fun _ s call => call.Succeeds clip s) []
      { s with db } calls) :
    Always (ReviewCall.serve clip) (fun _ s => Loads clip s) [] { s with db } calls ↔
      Each (ReviewCall.serve clip) (fun _ s call => call.InOrder clip s) [] { s with db } calls := by
  refine always_iff_each (I := fun _ s => Loadable clip s) ?_ ?_ ?_ ?_ hcalls
  · rintro _ s ⟨row, artifact, h, hconsistent⟩
    exact h.loads_iff_consistent.mpr hconsistent
  · rintro _ s call ⟨row, artifact, h, hconsistent⟩ hcall horder
    obtain ⟨row', artifact', hnext, hiff⟩ := h.serve hcall
    exact ⟨row', artifact', hnext, (hiff hconsistent).mpr horder⟩
  · rintro _ s call ⟨row, artifact, h, hconsistent⟩ hcall hafter
    obtain ⟨row', artifact', hnext, hiff⟩ := h.serve hcall
    exact (hiff hconsistent).mp (hnext.loads_iff_consistent.mp hafter)
  · obtain ⟨_, _, hop⟩ := Storage.finalizeCapturedClip_eq_ok_iff.mp hclip
    rw [hnew] at hop
    obtain ⟨_, attemptRow, _, _, heq⟩ := hop
    cases heq
    refine ⟨_, artifact, ⟨List.nodup_cons.mpr ⟨fresh_notMem _, hclips⟩, hartifacts,
      List.mem_cons_self, ?_, hartifact, hkey, hplace, ?_, ?_, ?_, ?_, ?_⟩, ?_⟩
    all_goals simp [Storage.capturedClip, isLive, Consistent]

section Demo

def reviewsDemoArtifact : ArtifactRow where
  sha256        := 7
  relativePath  := some (.committed 7 ['m', 'k', 'v'])
  byteLength    := 2
  mediaType     := none
  availability  := .present
  createdAtMs   := 2
  missingReason := none

def reviewsDemo : Store where
  root    := "/data"
  db      := { Database.empty with
    captureSessions      := [⟨0, 76, 1, "active"⟩]
    artifacts            := [reviewsDemoArtifact]
    recorderSaveAttempts := [⟨0, "auto:1:1", 0, 10, .requested, 0, none, none, none, none⟩] }
  files   := [⟨.committed 7 ['m', 'k', 'v'], [1, 2]⟩]
  staging := []

def reviewsDemoDatabase : Database :=
  { reviewsDemo.db with
    recorderSaveAttempts := [⟨0, "auto:1:1", 0, 10, .saved, 1, some 7, some 3, some 9, none⟩]
    clips                := [Storage.capturedClip 0 7 0 "raw_auto" 11]
    saveAttemptClips     := [⟨0, 0⟩] }

def reviewsDemoMetadata : ReviewCall :=
  .completeClipModelMetadata 900 (.auto ["kill"] ["round"])

def reviewsDemoReview : ReviewCall :=
  .updateClipReview (some "ace") none ["b"] .keep true 20

theorem always_loads_iff_demo :
    Always (ReviewCall.serve 0) (fun _ s => Loads 0 s) [] { reviewsDemo with db := reviewsDemoDatabase }
        [reviewsDemoMetadata, reviewsDemoReview] ↔
      Each (ReviewCall.serve 0) (fun _ s call => call.InOrder 0 s) []
        { reviewsDemo with db := reviewsDemoDatabase } [reviewsDemoMetadata, reviewsDemoReview] := by
  have hplace : InPlace reviewsDemo.files reviewsDemoArtifact :=
    ⟨rfl, ⟨['m', 'k', 'v'], ⟨.committed 7 ['m', 'k', 'v'], [1, 2]⟩, rfl, rfl, rfl⟩, by decide⟩
  have hclip : Storage.finalizeCapturedClip 0 7 3 9 "raw_auto" 11 reviewsDemo.db =
    .ok (0, reviewsDemoDatabase) := by decide
  exact always_loads_iff (by decide) (by decide) (by decide) rfl hplace (by decide) hclip
    ⟨⟨by decide, by decide⟩, ⟨by decide, by decide⟩, trivial⟩

-- The metadata of a clip that has been kept gives it the revision of a new clip.
theorem not_always_loads : ¬Always (ReviewCall.serve 0) (fun _ s => Loads 0 s) []
    { reviewsDemo with db := reviewsDemoDatabase } [reviewsDemoReview, reviewsDemoMetadata] := by
  intro h
  obtain ⟨loaded, hloaded, _⟩ := h.2.2 (by decide)
  have herror : loadDurable (final (ReviewCall.serve 0) { reviewsDemo with db := reviewsDemoDatabase }
    [reviewsDemoReview, reviewsDemoMetadata]) 0 = .error (.rehydration .inconsistentRevision) := by
    decide
  exact nomatch herror.symm.trans hloaded

end Demo

end Clips
