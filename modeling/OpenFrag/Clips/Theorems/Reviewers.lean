import OpenFrag.Clips.Reviewers
import OpenFrag.Clips.Theorems.Loading
import OpenFrag.Storage.Theorems.Review

open Except Machine MachineInt Storage Table

namespace Storage

variable {clip other : ClipId} {tags : List String} {db : Database}

theorem tagRows_clipId {row : ClipTagRow} (h : row ∈ tagRows clip tags) : row.clipId = clip := by
  obtain ⟨_, _, rfl⟩ := List.mem_map.mp h
  rfl

@[simp]
theorem retagged_clip (rows : List ClipTagRow) :
    (retagged clip tags rows).filter (·.clipId = clip) = tagRows clip tags := by
  have hkept : (tagRows clip tags).filter (·.clipId = clip) = tagRows clip tags :=
    List.filter_eq_self.mpr fun row hrow => by simpa using tagRows_clipId hrow
  simp [retagged, List.filter_append, hkept, List.filter_filter]

theorem retagged_other (h : other ≠ clip) (rows : List ClipTagRow) :
    (retagged clip tags rows).filter (·.clipId = other) =
      rows.filter (·.clipId = other) := by
  have hnone : (tagRows clip tags).filter (·.clipId = other) = [] :=
    List.filter_eq_nil_iff.mpr fun row hrow => by simpa [tagRows_clipId hrow] using h.symm
  simp only [retagged, List.filter_append, hnone, List.filter_filter, List.nil_append]
  apply List.filter_congr
  intro row _
  by_cases heq : row.clipId = other <;> simp [heq, h]

-- The tags of a review are read back in their order.
theorem tagRows_sorted :
    ((tagRows clip tags).insertionSort (·.position ≤ ·.position)).map (·.tag) = tags := by
  simp only [tagRows]
  rw [insertionSort_positions ClipTagRow.position fun _ => rfl]
  simp [Function.comp_def]

theorem liveClip_some {row : ClipRow} {artifact : ArtifactRow}
    (h : liveClip db clip = some (row, artifact)) :
    db.clips.find? (isLive clip) = some row ∧ artifactOf db row = some artifact := by
  simp only [liveClip, bind, Option.bind_eq_some_iff, Option.pure_def, Option.some.injEq,
    Prod.mk.injEq] at h
  obtain ⟨_, hrow, _, hartifact, rfl, rfl⟩ := h
  exact ⟨hrow, hartifact⟩

theorem orUnavailable_eq_ok_iff {α : Type} {what : String} {found : Option α} {a : α} :
    orUnavailable what found = .ok a ↔ found = some a := by
  cases found <;> simp [orUnavailable]

-- What the record of a clip tells of its row.
theorem durableClipModel_ok {s : Store} {record : DurableClipModelRecord}
    (h : durableClipModel s clip = .ok record) : ∃ row artifact,
    liveClip s.db clip = some (row, artifact) ∧
      record.detail = row.detail artifact (clipTagsOf s.db clip) ∧
      row.reviewRevision = some (record.revision : Int) := by
  simp only [durableClipModel, bind_eq_ok_iff] at h
  obtain ⟨detail, hdetail, _, _, h⟩ := h
  cases hlive : liveClip s.db clip
  case none => simp [hlive] at h
  case some found =>
    simp only [clipDetail, hlive, pure_eq_ok_iff] at hdetail
    simp only [hlive, bind_eq_ok_iff, orUnavailable_eq_ok_iff, readInteger, ensure_eq_ok_iff,
      exists_const, pure_eq_ok_iff] at h
    obtain ⟨revision, hrevision, _, ⟨_, rfl⟩, _, _, _, _, _, _, _, _, hnonneg, _, rfl⟩ := h
    refine ⟨found.1, found.2, rfl, hdetail.symm, ?_⟩
    simp [hrevision, Int.toNat_of_nonneg hnonneg]

end Storage

namespace Clips

theorem clipNamed_identifier {clip : Storage.ClipId} {id : ClipId}
    (h : id.value = identifierText clip) : clipNamed id = some clip := by
  have hread : Nat.ofDigitChars 10 (identifierText clip).toList 0 = clip := by
    rw [identifierText, Nat.toList_repr, Nat.ofDigitChars_ten_toDigits]
  rw [clipNamed, h, hread]
  exact Option.guard_eq_some_iff.mpr ⟨rfl, by simp⟩

variable {db : Database} {clip : Storage.ClipId} {loaded : Clip}

-- What a clip tells of the record that it was read from.
theorem clipFromRecord_ok {root : String} {record : DurableClipModelRecord}
    (h : clipFromRecord root record = .ok loaded) :
    loaded.snapshot.id.value = identifierText record.detail.summary.id ∧
      loaded.snapshot.derivative = none ∧ loaded.snapshot.revision = record.revision ∧
      (record.detail.reviewDecision = .reject → loaded.snapshot.reviewState.isRejected) := by
  simp only [clipFromRecord] at h
  split at h
  case isTrue => exact absurd h throw_ne_ok
  case isFalse =>
    simp only [bind_eq_ok_iff, mapError_eq_ok_iff, fromDurableSnapshot_eq_ok_iff] at h
    obtain ⟨_, _, _, _, state, hstate, id, hid, _, rfl⟩ := h
    refine ⟨?_, rfl, rfl, fun hdecision => ?_⟩
    · unfold ClipId.new at hid
      split at hid
      case isTrue => cases hid
      case isFalse => cases hid; rfl
    · rw [hdecision] at hstate
      simp only [reviewStateFromRecord, bind_eq_ok_iff, pure_eq_ok_iff] at hstate
      obtain ⟨_, _, rfl⟩ := hstate
      rfl

-- What a loaded clip tells of its row.
theorem loadDurable_ok {s : Store} (h : loadDurable s clip = .ok loaded) :
    loaded.snapshot.id.value = identifierText clip ∧ loaded.snapshot.derivative = none ∧
    ∃ row ∈ s.db.clips, row.id = clip ∧ row.reviewRevision = some (loaded.snapshot.revision : Int) ∧
      (row.reviewDecision = .reject → loaded.snapshot.reviewState.isRejected) := by
  simp only [loadDurable, bind_eq_ok_iff, mapError_eq_ok_iff] at h
  obtain ⟨record, hrecord, hclip⟩ := h
  obtain ⟨row, artifact, hlive, hdetail, hrevision⟩ := durableClipModel_ok hrecord
  have hrow := (liveClip_some hlive).1
  have hid := (isLive_iff.mp (List.find?_some hrow)).1
  have ⟨hname, hderivative, hrev, hstate⟩ := clipFromRecord_ok hclip
  refine ⟨?_, hderivative, row, List.mem_of_find?_eq_some hrow, hid, hrev ▸ hrevision, ?_⟩
  · rw [hname, hdetail]
    exact congrArg identifierText hid
  · intro hdecision
    exact hstate (by rw [hdetail]; exact hdecision)

-- The statement that a review comes down to.
def Commit.swap (commit : Commit) (now : Int) : Statement Nat :=
  compareAndSwapClipReview commit.clip commit.revision (some commit.content.title)
    (some commit.content.note) commit.content.tags commit.content.decision commit.content.favorite
    now

def Clip.content (clip : Clip) : ReviewContent :=
  ⟨clip.snapshot.title, clip.snapshot.note, orderedTags clip.snapshot.tags, clip.snapshot.favorite,
    clip.snapshot.reviewState.decision⟩

variable {s : Store} {now : Int} {current updated : Clip}

-- The row of a clip that a review has been stored of.
def Commit.row (commit : Commit) (now : Int) (row : ClipRow) : ClipRow :=
  reviewed (some commit.content.title) (some commit.content.note) commit.content.decision
    commit.content.favorite (some (commit.revision + 1)) now row

theorem Commit.swap_eq_ok_iff {commit : Commit} {r : Nat × Database} :
    commit.swap now db = .ok r ↔
      (validateReviewMetadata (some commit.content.title) (some commit.content.note)
        commit.content.tags = .ok () ∧ Signed 64 (commit.revision + 1) ∧ 0 ≤ now ∧
        ∀ tag ∈ commit.content.tags, hasText tag) ∧
      db.clips.any (isAtRevision commit.clip commit.revision) ∧
      (commit.revision + 1, { db with
        clips    := update (isAtRevision commit.clip commit.revision) (commit.row now) db.clips
        clipTags := retagged commit.clip commit.content.tags db.clipTags }) = r := by
  rw [Commit.swap, compareAndSwapClipReview_eq_ok_iff]
  constructor
  · intro ⟨hvalid, hfits, hany, hnow, htags, heq⟩
    exact ⟨⟨hvalid, hfits, hnow, htags⟩, hany, heq⟩
  · intro ⟨⟨hvalid, hfits, hnow, htags⟩, hany, heq⟩
    exact ⟨hvalid, hfits, hany, hnow, htags, heq⟩

section

variable {commit : Commit} {r : Nat × Database} {row : ClipRow}

theorem Commit.mem_swap (h : commit.swap now db = .ok r) : row ∈ r.2.clips ↔
    ∃ old ∈ db.clips, row =
      if isAtRevision commit.clip commit.revision old then commit.row now old else old := by
  obtain ⟨_, _, rfl⟩ := Commit.swap_eq_ok_iff.mp h
  exact mem_update

theorem Commit.swap_seen (h : commit.swap now db = .ok r) : ∃ row ∈ db.clips,
    isAtRevision commit.clip commit.revision row ∧ commit.row now row ∈ r.2.clips := by
  obtain ⟨row, hrow, hat⟩ := List.any_eq_true.mp (Commit.swap_eq_ok_iff.mp h).2.1
  exact ⟨row, hrow, hat, (mem_swap h).mpr ⟨row, hrow, by rw [if_pos hat]⟩⟩

theorem Commit.row_live (h : isAtRevision commit.clip commit.revision row) :
    isLive commit.clip (commit.row now row) := by
  have hid := (isLive_iff.mp (isAtRevision_iff.mp h).1).1
  refine isLive_iff.mpr ⟨hid, ?_⟩
  simp only [Commit.row, reviewed]
  cases commit.content.decision <;> simp [reviewDisposition, ClipDisposition.asStr]

theorem Keyed.same (h : Keyed db) {other : ClipRow} (hrow : row ∈ db.clips)
    (hother : other ∈ db.clips) (hid : row.id = other.id) : row = other :=
  List.inj_on_of_nodup_map h.clips hrow hother hid

theorem Keyed.only (h : Keyed db) {other : ClipRow} (hrow : row ∈ db.clips)
    (hother : other ∈ db.clips) {revision : Int} (hat : isAtRevision clip revision row)
    (hat' : isAtRevision clip revision other) : row = other := by
  have ⟨hid, _⟩ := isLive_iff.mp (isAtRevision_iff.mp hat).1
  have ⟨hid', _⟩ := isLive_iff.mp (isAtRevision_iff.mp hat').1
  exact h.same hrow hother (hid.trans hid'.symm)

theorem Commit.swap_tags (h : commit.swap now db = .ok r) :
    clipTagsOf r.2 commit.clip = commit.content.tags := by
  obtain ⟨_, _, rfl⟩ := Commit.swap_eq_ok_iff.mp h
  simp only [clipTagsOf, retagged_clip, tagRows_sorted]

theorem Commit.swap_stores (h : commit.swap now db = .ok r) : commit.Stores db r.2 := by
  have ⟨row, hrow, hat, hnext⟩ := swap_seen h
  have ⟨hlive, hrevision⟩ := isAtRevision_iff.mp hat
  have ⟨hid, _⟩ := isLive_iff.mp hlive
  constructor
  case seen => exact ⟨row, hrow, hid, hrevision⟩
  case stored => exact ⟨commit.row now row, hnext, hid, rfl, rfl, rfl, rfl, rfl⟩
  case tags => exact swap_tags h
  case others =>
    intro other hne
    have hnot (old : ClipRow) (hold : old.id ≠ commit.clip) :
        ¬isAtRevision commit.clip commit.revision old :=
      fun hat => hold (isLive_iff.mp (isAtRevision_iff.mp hat).1).1
    rw [mem_swap h]
    constructor
    · rintro ⟨old, hold, rfl⟩
      split at hne
      case isTrue hat => exact absurd (isLive_iff.mp (isAtRevision_iff.mp hat).1).1 hne
      case isFalse hat => simpa [hat] using hold
    · intro hmem
      exact ⟨other, hmem, by rw [if_neg (hnot other hne)]⟩
  case spared =>
    intro other hne
    obtain ⟨_, _, rfl⟩ := Commit.swap_eq_ok_iff.mp h
    simp only [clipTagsOf, retagged_other hne]

end

theorem perform_ok {α : Type} {op : Statement α} {r : α × Database} (h : op s.db = .ok r) :
    perform op s = .ok r.1 { s with db := r.2 } := by
  simp only [perform, h]

theorem perform_error {α : Type} {op : Statement α} {e : Storage.Error} (h : op s.db = .error e) :
    perform op s = .error (storageError e) s := by
  simp only [perform, h]

-- A write through the repository stores its clip, or nothing.
theorem compareAndSwapDurable_cases (s : Store) (now : Int) (expected : Nat) (updated : Clip) :
    (∃ clip r, clipNamed updated.snapshot.id = some clip ∧
      (Commit.mk clip expected updated.content).swap now s.db = .ok r ∧
      compareAndSwapDurable expected updated now s = .ok () { s with db := r.2 }) ∨
    ∃ e, compareAndSwapDurable expected updated now s = .error e s := by
  by_cases hderivative : updated.snapshot.derivative.isSome
  case pos => exact .inr ⟨_, by simp only [compareAndSwapDurable, if_pos hderivative]; rfl⟩
  by_cases hrevision : updated.snapshot.revision ≠ saturatingAdd 64 expected 1
  case pos =>
    exact .inr ⟨_, by simp only [compareAndSwapDurable, hderivative, if_pos hrevision]; rfl⟩
  cases hnamed : clipNamed updated.snapshot.id
  case none =>
    exact .inr ⟨_, by simp only [compareAndSwapDurable, hderivative, hrevision, hnamed]; rfl⟩
  case some clip =>
    have hwrite : compareAndSwapDurable expected updated now s = (do
        let revision ← perform ((Commit.mk clip expected updated.content).swap now)
        if revision ≠ updated.snapshot.revision then
          throw (StorageClipRepositoryError.inconsistentModel
            "storage committed an unexpected clip revision")) s := by
      simp only [compareAndSwapDurable, hderivative, if_neg hrevision, hnamed]
      rfl
    rw [hwrite]
    cases hswap : (Commit.mk clip expected updated.content).swap now s.db
    case error e => exact .inr ⟨_, EStateM.bind_error (perform_error hswap)⟩
    case ok r =>
      refine .inl ⟨clip, r, rfl, hswap, ?_⟩
      have ⟨⟨_, hfits, _⟩, _, heq⟩ := Commit.swap_eq_ok_iff.mp hswap
      have hsame : r.1 = updated.snapshot.revision := by
        rw [← heq, not_not.mp hrevision]
        simp only [saturatingAdd, signed_64] at hfits ⊢
        omega
      rw [EStateM.bind_ok (perform_ok hswap), if_neg (not_not.mpr hsame)]
      rfl

theorem store_cases (s : Store) (now : Int) (current : Clip) (asked : Except ReviewError Clip) :
    (∃ updated clip r, asked = .ok updated ∧ clipNamed updated.snapshot.id = some clip ∧
      (Commit.mk clip current.snapshot.revision updated.content).swap now s.db = .ok r ∧
      store (storageRepository now) current asked s = .ok updated { s with db := r.2 }) ∨
    ∃ e, store (storageRepository now) current asked s = .error e s := by
  cases asked
  case error e => exact .inr ⟨e, rfl⟩
  case ok updated =>
    rcases compareAndSwapDurable_cases s now current.snapshot.revision updated with
      ⟨clip, r, hclip, hswap, hwrite⟩ | ⟨e, hwrite⟩
    · exact .inl ⟨updated, clip, r, rfl, hclip, hswap,
        EStateM.bind_ok (EStateM.adaptExcept_ok (EStateM.adaptExcept_ok hwrite))⟩
    · exact .inr ⟨_, EStateM.bind_error (EStateM.adaptExcept_error (EStateM.adaptExcept_error hwrite))⟩

theorem Keyed.swap {commit : Commit} {r : Nat × Database} (h : Keyed db)
    (hswap : commit.swap now db = .ok r) : Keyed r.2 := by
  obtain ⟨_, _, rfl⟩ := Commit.swap_eq_ok_iff.mp hswap
  constructor
  case clips => exact nodup_update h.clips fun _ => rfl
  case artifacts =>
    simp only [mem_update]
    rintro _ ⟨old, hold, rfl⟩
    split <;> exact h.artifacts old hold

theorem Keyed.clipDetail (h : Keyed db) {row : ClipRow} (hrow : row ∈ db.clips)
    (hlive : isLive clip row) : ∃ detail, Storage.clipDetail db clip = .ok detail := by
  obtain ⟨found, hfound⟩ := Option.isSome_iff_exists.mp (List.find?_isSome.mpr ⟨row, hrow, hlive⟩)
  obtain ⟨artifact, hmem, hkey⟩ := h.artifacts found (List.mem_of_find?_eq_some hfound)
  obtain ⟨other, hother⟩ := Option.isSome_iff_exists.mp
    (List.find?_isSome (p := fun artifact => artifact.sha256 = found.artifactSha256)
      |>.mpr ⟨artifact, hmem, by simpa using hkey⟩)
  simp [Storage.clipDetail, liveClip, hfound, artifactOf, hother]

theorem persistLoaded_cases (h : Keyed s.db) (clip : Storage.ClipId) (current : Clip)
    (update : DurableReviewUpdate) (now : Int) :
    (∃ detail r, (Commit.mk clip current.snapshot.revision update.content).swap now s.db = .ok r ∧
      persistLoaded clip current update now s = .ok detail { s with db := r.2 }) ∨
    ∃ e e', (Commit.mk clip current.snapshot.revision update.content).swap now s.db = .error e ∧
      persistLoaded clip current update now s = .error e' s := by
  cases hswap : (Commit.mk clip current.snapshot.revision update.content).swap now s.db
  case error e => exact .inr ⟨e, _, rfl, EStateM.bind_error (perform_error hswap)⟩
  case ok r =>
    have ⟨row, _, hat, hnext⟩ := Commit.swap_seen hswap
    obtain ⟨detail, hdetail⟩ := (h.swap hswap).clipDetail hnext (Commit.row_live hat)
    refine .inl ⟨detail, r, rfl, ?_⟩
    have hread : persistLoaded clip current update now s =
        perform (fun db => do return (← Storage.clipDetail db clip, db)) { s with db := r.2 } :=
      EStateM.bind_ok (perform_ok hswap)
    simp only [hread, perform, hdetail]
    rfl

-- A clip that is held is behind its row, unless both agree on a rejection.
structure Held.Current (held : Held) (db : Database) : Prop where
  named : clipNamed held.clip.snapshot.id = some held.clipId
  row   : ∃ row ∈ db.clips, row.id = held.clipId ∧ ∃ revision ∈ row.reviewRevision,
    (held.clip.snapshot.revision : Int) ≤ revision ∧
    (revision = held.clip.snapshot.revision → row.reviewDecision = .reject →
      held.clip.snapshot.reviewState.isRejected)

-- A review that has been stored: the clip is past its revision.
def Commit.Done (commit : Commit) (db : Database) : Prop :=
  ∃ row ∈ db.clips, row.id = commit.clip ∧ ∃ revision ∈ row.reviewRevision,
    (commit.revision : Int) < revision

structure DeskSound (desk : Desk) : Prop where
  keyed : Keyed desk.store.db
  held  : ∀ reviewer, ∀ held ∈ desk.held reviewer, held.Current desk.store.db

section

variable {commit : Commit} {r : Nat × Database} {held : Held}

-- Every row goes on, and its revision grows when it changes.
theorem Commit.swap_grows (h : commit.swap now db = .ok r) {row : ClipRow} (hrow : row ∈ db.clips) :
    ∃ row' ∈ r.2.clips, row'.id = row.id ∧ (row' = row ∨
      ∀ revision ∈ row.reviewRevision, row'.reviewRevision = some (revision + 1)) := by
  refine ⟨_, (mem_swap h).mpr ⟨row, hrow, rfl⟩, ?_⟩
  split
  case isTrue hat =>
    refine ⟨rfl, .inr fun revision hrevision => ?_⟩
    have ⟨_, hseen⟩ := isAtRevision_iff.mp hat
    have heq : (commit.revision : Int) = revision := Option.some.inj (hseen.symm.trans hrevision)
    exact heq ▸ rfl
  case isFalse => exact ⟨rfl, .inl rfl⟩

theorem Held.Current.swap (h : held.Current db) (hswap : commit.swap now db = .ok r) :
    held.Current r.2 := by
  obtain ⟨row, hrow, hid, revision, hrevision, hle, hagree⟩ := h.row
  obtain ⟨row', hrow', hid', rfl | hnext⟩ := Commit.swap_grows hswap hrow
  · exact ⟨h.named, row', hrow', hid, revision, hrevision, hle, hagree⟩
  · refine ⟨h.named, row', hrow', hid'.trans hid, revision + 1, hnext revision hrevision, ?_, ?_⟩
    all_goals omega

theorem Commit.Done.swap {other : Commit} (h : other.Done db)
    (hswap : commit.swap now db = .ok r) : other.Done r.2 := by
  obtain ⟨row, hrow, hid, revision, hrevision, hlt⟩ := h
  obtain ⟨row', hrow', hid', rfl | hnext⟩ := Commit.swap_grows hswap hrow
  · exact ⟨row', hrow', hid, revision, hrevision, hlt⟩
  · exact ⟨row', hrow', hid'.trans hid, revision + 1, hnext revision hrevision, by omega⟩

theorem Commit.swap_done (hswap : commit.swap now db = .ok r) : commit.Done r.2 := by
  obtain ⟨row, hrow, hid, hrevision, _⟩ := (swap_stores hswap).stored
  exact ⟨row, hrow, hid, commit.revision + 1, hrevision, by omega⟩

-- A review is stored once at each revision.
theorem Commit.Done.ne {other : Commit} (h : other.Done db) (hkeyed : Keyed db)
    (hswap : commit.swap now db = .ok r) (hclip : commit.clip = other.clip) :
    commit.revision ≠ other.revision := by
  obtain ⟨row, hrow, hid, revision, hrevision, hlt⟩ := h
  obtain ⟨seen, hseen, hid', hat⟩ := (swap_stores hswap).seen
  obtain rfl := hkeyed.same hseen hrow (hid'.trans (hclip.trans hid.symm))
  have heq : (commit.revision : Int) = revision := Option.some.inj (hat.symm.trans hrevision)
  omega

-- A review keeps the rejections of the clips unless it decides otherwise about its own.
theorem Commit.keepsRejected_iff (hkeyed : Keyed db) (hswap : commit.swap now db = .ok r)
    {seen : ClipRow} (hseen : seen ∈ db.clips)
    (hat : isAtRevision commit.clip commit.revision seen) :
    (∀ row ∈ db.clips, row.reviewDecision = .reject → ∀ row' ∈ r.2.clips, row'.id = row.id →
      row'.reviewDecision = .reject) ↔
    (seen.reviewDecision = .reject → commit.content.decision = .reject) := by
  constructor
  · intro h hreject
    have hnext : commit.row now seen ∈ r.2.clips :=
      (mem_swap hswap).mpr ⟨seen, hseen, by rw [if_pos hat]⟩
    exact h seen hseen hreject _ hnext rfl
  · intro h row hrow hreject row' hrow' hid
    obtain ⟨old, hold, rfl⟩ := (mem_swap hswap).mp hrow'
    by_cases hat' : isAtRevision commit.clip commit.revision old
    case pos =>
      simp only [if_pos hat'] at hid ⊢
      obtain rfl := hkeyed.same hold hrow hid
      obtain rfl := hkeyed.only hold hseen hat' hat
      exact h hreject
    case neg =>
      simp only [if_neg hat'] at hid ⊢
      obtain rfl := hkeyed.same hold hrow hid
      exact hreject

-- A held clip that does not show a rejection is behind the row of a rejected one.
theorem Held.Current.not_rejected (h : held.Current db) (hkeyed : Keyed db)
    (hstate : ¬held.clip.snapshot.reviewState.isRejected) {row : ClipRow} (hrow : row ∈ db.clips)
    (hat : isAtRevision held.clipId held.clip.snapshot.revision row) :
    row.reviewDecision ≠ .reject := by
  obtain ⟨other, hother, hid, revision, hrevision, _, hagree⟩ := h.row
  have ⟨hlive, hseen⟩ := isAtRevision_iff.mp hat
  obtain rfl := hkeyed.same hother hrow (hid.trans (isLive_iff.mp hlive).1.symm)
  intro hdecision
  exact hstate (hagree (Option.some.inj (hrevision.symm.trans hseen)) hdecision)

end

-- What a call does: it loads a clip, or stores the review that it asks for, or fails.
inductive Serves (desk : Desk) : ReviewerCall → Except ReviewerError Unit × Desk → Prop
  | loaded {reviewer clip loaded} (hload : loadDurable desk.store clip = .ok loaded) :
    Serves desk (.load reviewer clip) (.ok (), desk.hold reviewer ⟨clip, loaded⟩)
  | stored {call held commit next now r} (hheld : desk.held (ReviewerCall.reviewer call) = some held)
      (hcommit : call.commit desk = some commit)
      (hswap : commit.swap now desk.store.db = .ok r) (hnext : next.Current r.2)
      (hstate : ¬held.clip.snapshot.reviewState.isRejected ∨
        ∃ update, call = .persist call.reviewer update now) :
    Serves desk call
      (.ok (), { desk with store := { desk.store with db := r.2 } }.hold call.reviewer next)
  | failed {call e} (hrefused : ¬call.Revives desk) : Serves desk call (.error e, desk)

section

variable {desk : Desk} {held : Held} {reviewer : Nat} {r : Nat × Database}

theorem Desk.write_ok {op : Held → EStateM ReviewerError Store Held} {after : Held} {store : Store}
    (hheld : desk.held reviewer = some held) (hop : op held desk.store = .ok after store) :
    desk.write reviewer op = (.ok (), { desk with store }.hold reviewer after) := by
  simp only [Desk.write, hheld, hop]

theorem Desk.write_error {op : Held → EStateM ReviewerError Store Held} {e : ReviewerError}
    {store : Store} (hheld : desk.held reviewer = some held)
    (hop : op held desk.store = .error e store) :
    desk.write reviewer op = (.error e, { desk with store }) := by
  simp only [Desk.write, hheld, hop]

-- A `persist_review` is a load of its clip that is followed by a write.
theorem persistReview_told (clip : Storage.ClipId) (update : DurableReviewUpdate) (now : Int) :
    told (persistReview clip update now desk.store) =
      ((ReviewerCall.persistReview reviewer clip update now desk).1,
        (ReviewerCall.persistReview reviewer clip update now desk).2.store) := by
  cases hload : loadDurable desk.store clip
  case error e =>
    have hreview : persistReview clip update now desk.store = .error e desk.store :=
      EStateM.bind_error (by simp only [hload])
    simp only [hreview, told, ReviewerCall.persistReview, ReviewerCall.serve, Desk.load, hload]
  case ok loaded =>
    have hreview : persistReview clip update now desk.store =
        persistLoaded clip loaded update now desk.store :=
      EStateM.bind_ok (by simp only [hload])
    have hheld : (desk.hold reviewer ⟨clip, loaded⟩).held reviewer = some ⟨clip, loaded⟩ :=
      Function.update_self _ _ _
    simp only [hreview, ReviewerCall.persistReview, ReviewerCall.serve, Desk.load, hload]
    cases hop : persistLoaded clip loaded update now desk.store
    case ok detail store =>
      rw [Desk.write_ok hheld (EStateM.bind_ok (EStateM.adaptExcept_ok hop))]
      rfl
    case error e store =>
      rw [Desk.write_error hheld (EStateM.bind_error (EStateM.adaptExcept_error hop))]
      rfl

-- The clip that a reviewer gets back of a review that has been stored.
theorem Held.Current.next (h : held.Current db) {content : ReviewContent} {after : Clip}
    (hswap : (Commit.mk held.clipId held.clip.snapshot.revision content).swap now db = .ok r)
    (hid : after.snapshot.id = held.clip.snapshot.id)
    (hrevision : after.snapshot.revision = saturatingAdd 64 held.clip.snapshot.revision 1)
    (hstate : content.decision = .reject → after.snapshot.reviewState.isRejected) :
    Held.Current { held with clip := after } r.2 := by
  obtain ⟨row, hrow, hclip, hstored, _, _, _, hdecision⟩ := (Commit.swap_stores hswap).stored
  refine ⟨by rw [← h.named]; exact congrArg clipNamed hid, row, hrow, hclip, _, hstored, ?_, ?_⟩
  · simp only [hrevision, saturatingAdd]
    omega
  · exact fun _ hreject => hstate (hdecision.symm.trans hreject)

-- What a transition asks the repository to store of a clip.
structure Asks (clip : Clip) (content : ReviewContent) (after : Clip) : Prop where
  id       : after.snapshot.id = clip.snapshot.id
  revision : after.snapshot.revision = saturatingAdd 64 clip.snapshot.revision 1
  stores   : after.content = content
  fair     : ¬clip.snapshot.reviewState.isRejected
  rejects  : content.decision = .reject → after.snapshot.reviewState.isRejected

theorem Clip.reviewed_asks {clip after : Clip} {edit : ReviewEdit} {time : Nat}
    (h : clip.reviewed edit time = .ok after) : Asks clip edit.content after := by
  obtain ⟨hopen, _, rfl⟩ := reviewed_eq_ok_iff.mp h
  exact ⟨rfl, rfl, rfl, hopen, by simp [ReviewEdit.content]⟩

theorem Clip.rejected_asks {clip after : Clip} {time : Nat}
    (h : clip.rejected time = .ok after) : Asks clip clip.rejection after := by
  obtain ⟨hopen, rfl⟩ := rejected_eq_ok_iff.mp h
  exact ⟨rfl, rfl, rfl, hopen, fun _ => rfl⟩

-- A transition of the held clip that goes through the repository.
theorem Serves.transition (h : DeskSound desk) (hheld : desk.held reviewer = some held)
    {call : ReviewerCall} (hcall : call.reviewer = reviewer) {content : ReviewContent}
    (hcalm : ¬call.Revives desk) (hcontent : call.content held.clip = some content)
    (asked : Clip → Except ReviewError Clip)
    (hasked : ∀ after, asked held.clip = .ok after → Asks held.clip content after) :
    Serves desk call (desk.write reviewer fun held => do
      let clip ← EStateM.adaptExcept ReviewerError.review
        (store (storageRepository now) held.clip (asked held.clip))
      return { held with clip }) := by
  subst hcall
  rcases store_cases desk.store now held.clip (asked held.clip) with
    ⟨after, clip, r, hok, hnamed, hswap, hstore⟩ | ⟨e, hstore⟩
  · have hafter := hasked after hok
    have hcurrent := h.held call.reviewer held hheld
    rw [hafter.id, hcurrent.named] at hnamed
    cases hnamed
    rw [hafter.stores] at hswap
    rw [Desk.write_ok hheld (EStateM.bind_ok (EStateM.adaptExcept_ok hstore))]
    apply Serves.stored hheld
    case hswap => exact hswap
    case hcommit => simp [ReviewerCall.commit, hheld, hcontent]
    case hnext => exact hcurrent.next hswap hafter.id hafter.revision hafter.rejects
    case hstate => exact .inl hafter.fair
  · rw [Desk.write_error hheld (EStateM.bind_error (EStateM.adaptExcept_error hstore))]
    exact .failed hcalm

theorem Serves.persist (h : DeskSound desk) (hheld : desk.held reviewer = some held)
    (update : DurableReviewUpdate) : Serves desk (.persist reviewer update now)
      ((ReviewerCall.persist reviewer update now).serve desk) := by
  rcases persistLoaded_cases h.keyed held.clipId held.clip update now with
    ⟨detail, r, hswap, hop⟩ | ⟨e, e', herror, hop⟩
  · have hserve : (ReviewerCall.persist reviewer update now).serve desk = (.ok (),
        { desk with store := { desk.store with db := r.2 } }.hold reviewer held) :=
      Desk.write_ok hheld (EStateM.bind_ok (EStateM.adaptExcept_ok hop))
    rw [hserve]
    have hheld' : desk.held (ReviewerCall.persist reviewer update now).reviewer = some held := hheld
    apply Serves.stored hheld'
    case hswap => exact hswap
    case hcommit => simp [ReviewerCall.commit, ReviewerCall.reviewer, ReviewerCall.content, hheld]
    case hnext => exact (h.held reviewer held hheld).swap hswap
    case hstate => exact .inr ⟨update, rfl⟩
  · have hserve : (ReviewerCall.persist reviewer update now).serve desk =
        (.error (.repository e'), desk) :=
      Desk.write_error hheld (EStateM.bind_error (EStateM.adaptExcept_error hop))
    rw [hserve]
    refine .failed fun ⟨_, other, hother, haccepted, row, hrow, hat, _⟩ => ?_
    obtain rfl := Option.some.inj (hheld.symm.trans hother)
    have hswap : (Commit.mk held.clipId held.clip.snapshot.revision update.content).swap now
        desk.store.db = .ok _ :=
      Commit.swap_eq_ok_iff.mpr ⟨haccepted, List.any_eq_true.mpr ⟨row, hrow, hat⟩, rfl⟩
    exact nomatch herror.symm.trans hswap

theorem Desk.write_none {op : Held → EStateM ReviewerError Store Held}
    (hheld : desk.held reviewer = none) : desk.write reviewer op = (.error .nothingHeld, desk) := by
  simp only [Desk.write, hheld]

theorem ReviewerCall.serve_serves (h : DeskSound desk) (call : ReviewerCall) :
    Serves desk call (call.serve desk) := by
  cases call
  case load reviewer clip =>
    simp only [ReviewerCall.serve, Desk.load]
    split
    case h_1 hload => exact .loaded hload
    case h_2 => exact .failed id
  case review reviewer edit time now =>
    cases hheld : desk.held reviewer
    case none => simpa only [ReviewerCall.serve, Desk.write_none hheld] using .failed id
    case some held =>
      exact Serves.transition h hheld rfl id rfl (·.reviewed edit time) fun _ => Clip.reviewed_asks
  case reject reviewer time now =>
    cases hheld : desk.held reviewer
    case none => simpa only [ReviewerCall.serve, Desk.write_none hheld] using .failed id
    case some held =>
      exact Serves.transition h hheld rfl id rfl (·.rejected time) fun _ => Clip.rejected_asks
  case persist reviewer update now =>
    cases hheld : desk.held reviewer
    case none =>
      simp only [ReviewerCall.serve, Desk.write_none hheld]
      exact .failed fun ⟨_, other, hother, _⟩ => nomatch hheld.symm.trans hother
    case some held => exact Serves.persist h hheld update

theorem Held.current_of_load {s : Store} (h : loadDurable s clip = .ok loaded) :
    Held.Current ⟨clip, loaded⟩ s.db := by
  obtain ⟨hname, _, row, hrow, hid, hrevision, hdecision⟩ := loadDurable_ok h
  exact ⟨clipNamed_identifier hname, row, hrow, hid, _, hrevision, le_refl _, fun _ => hdecision⟩

theorem DeskSound.hold {desk : Desk} (h : DeskSound desk) (hheld : held.Current desk.store.db) :
    DeskSound (desk.hold reviewer held) where
  keyed := h.keyed
  held  := by
    intro other found hfound
    by_cases heq : other = reviewer
    · subst heq
      simp only [Desk.hold, Function.update_self, Option.mem_some_iff] at hfound
      exact hfound ▸ hheld
    · simp only [Desk.hold, Function.update_of_ne heq] at hfound
      exact h.held other found hfound

theorem DeskSound.swap (h : DeskSound desk) {commit : Commit}
    (hswap : commit.swap now desk.store.db = .ok r) :
    DeskSound { desk with store := { desk.store with db := r.2 } } where
  keyed := h.keyed.swap hswap
  held  := fun reviewer held hheld => (h.held reviewer held hheld).swap hswap

theorem ReviewerCall.Revives.rejected {call : ReviewerCall} (h : call.Revives desk) :
    ∃ held ∈ desk.held call.reviewer, ∃ row ∈ desk.store.db.clips,
      isAtRevision held.clipId held.clip.snapshot.revision row ∧ row.reviewDecision = .reject := by
  cases call
  case persist =>
    obtain ⟨_, held, hheld, _, hrow⟩ := h
    exact ⟨held, hheld, hrow⟩
  all_goals cases h

namespace Serves

variable {call : ReviewerCall} {p : Except ReviewerError Unit × Desk}

theorem sound (h : DeskSound desk) (hp : Serves desk call p) : DeskSound p.2 := by
  cases hp
  case loaded hload => exact h.hold (Held.current_of_load hload)
  case stored hswap hnext _ _ _ => exact (h.swap hswap).hold hnext
  case failed => exact h

-- The step of the machine that a call makes.
abbrev step (desk : Desk) (call : ReviewerCall) (p : Except ReviewerError Unit × Desk) :
    ReviewerStep :=
  ⟨desk, call, p.1, p.2⟩

theorem commit_swap (hp : Serves desk call p) {commit : Commit}
    (hcommit : commit ∈ (step desk call p).commit) :
    ∃ now r, commit.swap now desk.store.db = .ok r ∧ p.2.store.db = r.2 := by
  cases hp
  case loaded reviewer clip loaded _ =>
    cases hheld : desk.held reviewer <;>
      simp [ReviewerStep.commit, ReviewerCall.commit, ReviewerCall.reviewer, ReviewerCall.content,
        hheld] at hcommit
  case stored hswap _ _ hasked _ =>
    simp only [ReviewerStep.commit, hasked, Option.mem_some_iff] at hcommit
    subst hcommit
    exact ⟨_, _, hswap, rfl⟩
  case failed => cases hcommit

theorem failed_store (hp : Serves desk call p) {e : ReviewerError} (he : p.1 = .error e) :
    p.2.store = desk.store := by
  cases hp
  case loaded => cases he
  case stored => cases he
  case failed => rfl

theorem done (hp : Serves desk call p) {commit : Commit} (hdone : commit.Done desk.store.db) :
    commit.Done p.2.store.db := by
  cases hp
  case loaded => exact hdone
  case stored hswap _ _ _ _ => exact hdone.swap hswap
  case failed => exact hdone

-- A rejection survives every call but one that revives the clip.
theorem keepsRejected_iff (h : DeskSound desk) (hp : Serves desk call p) :
    (step desk call p).KeepsRejected ↔ ¬call.Revives desk := by
  have hsame : ∀ row ∈ desk.store.db.clips, row.reviewDecision = .reject →
      ∀ row' ∈ desk.store.db.clips, row'.id = row.id → row'.reviewDecision = .reject := by
    intro row hrow hreject row' hrow' hid
    exact h.keyed.same hrow' hrow hid ▸ hreject
  cases hp
  case loaded => exact iff_of_true hsame id
  case failed hcalm => exact iff_of_true hsame hcalm
  case stored held commit next now r hswap hnext hheld hcommit hstate =>
    have ⟨seen, hseen, hat, hstored⟩ := Commit.swap_seen hswap
    have hfits := (Commit.swap_eq_ok_iff.mp hswap).1
    have hcommit' := hcommit
    simp only [ReviewerCall.commit, hheld, bind, Option.bind_some, Option.bind_eq_some_iff,
      Option.pure_def, Option.some.injEq] at hcommit'
    obtain ⟨content, hcontent, rfl⟩ := hcommit'
    refine (Commit.keepsRejected_iff h.keyed hswap hseen hat).trans ?_
    rcases hstate with hfair | ⟨update, hpersist⟩
    · have hopen := (h.held _ held hheld).not_rejected h.keyed hfair hseen hat
      refine iff_of_true (fun hreject => absurd hreject hopen) fun hrevives => ?_
      obtain ⟨other, hother, row, hrow, hat', hreject⟩ := hrevives.rejected
      obtain rfl := Option.some.inj (hheld.symm.trans hother)
      exact hopen (h.keyed.only hseen hrow hat hat' ▸ hreject)
    · rw [hpersist] at hcontent ⊢
      obtain rfl := Option.some.inj hcontent
      constructor
      · rintro hkeep ⟨hdecision, other, hother, _, row, hrow, hat', hreject⟩
        obtain rfl := Option.some.inj (hheld.symm.trans hother)
        obtain rfl := h.keyed.only hseen hrow hat hat'
        have hreview := hkeep hreject
        simp [DurableReviewUpdate.content, hdecision, DurableReviewDecision.review] at hreview
      · intro hrevives hreject
        by_contra hkeep
        refine hrevives ⟨?_, held, hheld, hfits, seen, hseen, hat, hreject⟩
        cases hdecision : update.decision
        case keep => rfl
        case reject =>
          simp [DurableReviewUpdate.content, hdecision, DurableReviewDecision.review] at hkeep

end Serves

end

-- What the machine keeps of the reviews that it has stored.
structure Reviewed (steps : List ReviewerStep) (desk : Desk) : Prop where
  sound : DeskSound desk
  keeps : Optimistic steps
  done  : ∀ step ∈ steps, ∀ commit ∈ ReviewerStep.commit step, commit.Done desk.store.db

theorem Reviewed.step {steps : List ReviewerStep} {desk : Desk} (h : Reviewed steps desk)
    {call : ReviewerCall} (hcalm : ¬call.Revives desk) :
    Reviewed (steps ++ [Machine.step ReviewerCall.serve desk call])
      (Machine.step ReviewerCall.serve desk call).after := by
  have hp := ReviewerCall.serve_serves h.sound call
  constructor
  case sound => exact hp.sound h.sound
  case done =>
    simp only [List.forall_mem_append, List.forall_mem_singleton]
    refine ⟨fun first hfirst commit hcommit => hp.done (h.done first hfirst commit hcommit), ?_⟩
    intro commit hcommit
    obtain ⟨now, r, hswap, hafter⟩ := hp.commit_swap hcommit
    have hdone := Commit.swap_done hswap
    rwa [← hafter] at hdone
  case keeps =>
    constructor
    case stores =>
      simp only [List.forall_mem_append, List.forall_mem_singleton]
      refine ⟨h.keeps.stores, fun commit hcommit => ?_⟩
      obtain ⟨now, r, hswap, hafter⟩ := hp.commit_swap hcommit
      have hstores := Commit.swap_stores hswap
      rwa [← hafter] at hstores
    case failed =>
      simp only [List.forall_mem_append, List.forall_mem_singleton]
      exact ⟨h.keeps.failed, fun e he => hp.failed_store he⟩
    case once =>
      simp only [List.pairwise_append, List.pairwise_singleton, List.mem_singleton, forall_eq,
        true_and]
      refine ⟨h.keeps.once, fun first hfirst commit hcommit commit' hcommit' hclip => ?_⟩
      obtain ⟨now, r, hswap, _⟩ := hp.commit_swap hcommit'
      exact (h.done first hfirst commit hcommit).ne h.sound.keyed hswap hclip
    case rejected =>
      simp only [List.forall_mem_append, List.forall_mem_singleton]
      exact ⟨h.keeps.rejected, (hp.keepsRejected_iff h.sound).mpr hcalm⟩

-- The reviews of a store are optimistic, and its rejections final, all along the runs in which no
-- `persist_review` keeps a clip that it has loaded rejected, and along no others.
theorem always_optimistic_iff (store : Store) (hstore : Keyed store.db)
    (calls : List ReviewerCall) :
    Always ReviewerCall.serve (fun steps _ => Optimistic steps) [] ⟨store, fun _ => none⟩ calls ↔
      Each ReviewerCall.serve (fun _ desk call => ¬call.Revives desk) [] ⟨store, fun _ => none⟩
        calls := by
  have hfair : Each ReviewerCall.serve (fun _ _ _ => True) [] ⟨store, fun _ => none⟩ calls :=
    .trivial
  refine always_iff_each (I := Reviewed) ?_ ?_ ?_ ?_ hfair
  · exact fun _ _ h => h.keeps
  · exact fun _ _ _ h _ hcalm => h.step hcalm
  · intro steps desk call h _ hafter
    have hp := ReviewerCall.serve_serves h.sound call
    have hkeeps := hafter.rejected _ (List.mem_append_right _ (List.mem_singleton_self _))
    exact (hp.keepsRejected_iff h.sound).mp hkeeps
  · constructor
    case sound => exact ⟨hstore, by simp⟩
    case keeps => exact ⟨by simp, by simp, .nil, by simp⟩
    case done => simp

section Demo

def reviewersDemo : Store where
  root    := "/data"
  db      := { Database.empty with
    captureSessions    := [⟨0, 76, 1, "active"⟩]
    artifacts          := [{
      sha256          := 7
      relativePath    := some (.committed 7 ['m', 'k', 'v'])
      byteLength      := 2
      mediaType       := none
      availability    := .present
      createdAtMs     := 2
      missingReason   := none
      mediaDurationMs := some 900 }]
    clips              := [{ Storage.capturedClip 0 7 0 "raw_auto" 11 with
      originKind     := some .auto
      reviewRevision := some 0 }]
    clipOriginReceipts := Storage.originRows 0 (.auto ["kill"] ["round"]) }
  files   := [⟨.committed 7 ['m', 'k', 'v'], [1, 2]⟩]
  staging := []

def reviewersDemoKeep : ReviewerCall :=
  .persist 1 ⟨"ace", "", ["b"], true, .keep⟩ 30

theorem keyed_reviewersDemo : Keyed reviewersDemo.db :=
  ⟨by decide, by decide⟩

theorem always_optimistic_iff_demo :
    Always ReviewerCall.serve (fun steps _ => Optimistic steps) [] ⟨reviewersDemo, fun _ => none⟩
        [.load 1 0, reviewersDemoKeep] ↔
      Each ReviewerCall.serve (fun _ desk call => ¬call.Revives desk) []
        ⟨reviewersDemo, fun _ => none⟩ [.load 1 0, reviewersDemoKeep] :=
  always_optimistic_iff reviewersDemo keyed_reviewersDemo _

def reviewersDemoReject : ReviewerCall :=
  .persist 0 ⟨"ace", "", [], false, .reject⟩ 20

-- A reviewer keeps a clip that another one has rejected before.
theorem not_always_optimistic : ¬Always ReviewerCall.serve (fun steps _ => Optimistic steps) []
    ⟨reviewersDemo, fun _ => none⟩ [.load 0 0, reviewersDemoReject, .load 1 0, reviewersDemoKeep] := by
  intro h
  have hkeeps : ∀ row ∈ (final ReviewerCall.serve ⟨reviewersDemo, fun _ => none⟩
      [.load 0 0, reviewersDemoReject, .load 1 0]).store.db.clips, row.reviewDecision = .reject →
      ∀ row' ∈ (final ReviewerCall.serve ⟨reviewersDemo, fun _ => none⟩
        [.load 0 0, reviewersDemoReject, .load 1 0, reviewersDemoKeep]).store.db.clips,
      row'.id = row.id → row'.reviewDecision = .reject :=
    h.2.2.2.2.rejected _ (List.mem_append_right _ (List.mem_singleton_self _))
  exact absurd hkeeps (by decide)

end Demo

end Clips
