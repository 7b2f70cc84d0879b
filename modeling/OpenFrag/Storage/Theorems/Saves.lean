import OpenFrag.Storage.Saves
import OpenFrag.Storage.Theorems.Live

open Machine Table Except

namespace Storage

variable {db db' : Database} {attempt : SaveAttemptId} {sha256 : Digest} {startNs endNs now : Int}
variable {provenance : String}

theorem answering_after {α : Type} {reply : α → SaveReply} {op : Statement α}
    {P : Except Error SaveReply → Database → Prop} (herror : ∀ e, op db = .error e → P (.error e) db)
    (hok : ∀ a db', op db = .ok (a, db') → P (.ok (reply a)) db') :
    P (answering reply op db).1 (answering reply op db).2 := by
  cases hop : op db
  case error e => simpa [answering, Statement.perform, hop, Except.map] using herror e hop
  case ok r => simpa [answering, Statement.perform, hop, Except.map] using hok r.1 r.2 hop

theorem isSavedAs_iff {row : SaveAttemptRow} : isSavedAs attempt sha256 startNs endNs row ↔
    row.id = attempt ∧ row.status = .saved ∧ row.verifiedArtifactSha256 = some sha256 ∧
    row.actualStartMonotonicNs = some startNs ∧ row.actualEndMonotonicNs = some endNs := by
  simp [isSavedAs, and_assoc]

theorem isOpenAttempt_iff {row : SaveAttemptRow} : isOpenAttempt attempt row ↔
    row.id = attempt ∧ (row.status = .requested ∨ row.status = .acknowledged) := by
  simp [isOpenAttempt]

-- What no statement changes of an attempt: its session, and the outcome of an attempt that is over.
structure SameAttempt (row row' : SaveAttemptRow) : Prop where
  id      : row'.id = row.id
  session : row'.captureSessionId = row.captureSessionId
  saved   : row.status = .saved → row'.status = .saved ∧
    row'.verifiedArtifactSha256 = row.verifiedArtifactSha256 ∧
    row'.actualStartMonotonicNs = row.actualStartMonotonicNs ∧
    row'.actualEndMonotonicNs = row.actualEndMonotonicNs
  failed  : row.status = .failed → row'.status = .failed

theorem SameAttempt.refl (row : SaveAttemptRow) : SameAttempt row row := by
  constructor <;> simp_all

-- A database that has grown: nothing of its attempts, clips and links is lost.
structure Grows (db db' : Database) : Prop where
  attempts : ∀ row ∈ db.recorderSaveAttempts, ∃ row' ∈ db'.recorderSaveAttempts, SameAttempt row row'
  clips    : ∀ clip ∈ db.clips, clip ∈ db'.clips
  links    : ∀ link ∈ db.saveAttemptClips, link ∈ db'.saveAttemptClips

theorem Grows.refl (db : Database) : Grows db db where
  attempts := fun row hrow => ⟨row, hrow, .refl row⟩
  clips    := fun _ h => h
  links    := fun _ h => h

theorem Linked.grow {link : SaveAttemptClipRow} {row : SaveAttemptRow} {clip : ClipRow}
    (h : Linked db link row clip) (hdb : Grows db db') : ∃ row', Linked db' link row' clip := by
  obtain ⟨row', hrow', hsame⟩ := hdb.attempts row h.row_mem
  have ⟨hstatus, hverified, _⟩ := hsame.saved h.saved
  exact ⟨row', {
    row_mem  := hrow'
    clip_mem := hdb.clips clip h.clip_mem
    row_id   := hsame.id.trans h.row_id
    clip_id  := h.clip_id
    saved    := hstatus
    artifact := hverified.trans h.artifact
    session  := h.session.trans hsame.session.symm }⟩

-- An attempt that has been finalized.
def Finalized (attempt : SaveAttemptId) (sha256 : Digest) (startNs endNs : Int)
    (provenance : String) (id : ClipId) (db : Database) : Prop :=
  ∃ row clip, Linked db ⟨attempt, id⟩ row clip ∧ ⟨attempt, id⟩ ∈ db.saveAttemptClips ∧
    isSavedAs attempt sha256 startNs endNs row ∧ clip.artifactSha256 = sha256 ∧
    clip.provenance = provenance

theorem Finalized.grow {id : ClipId} (h : Finalized attempt sha256 startNs endNs provenance id db)
    (hdb : Grows db db') : Finalized attempt sha256 startNs endNs provenance id db' := by
  obtain ⟨row, clip, hlinked, hlink, hsaved, hartifact, hprovenance⟩ := h
  obtain ⟨row', hrow', hsame⟩ := hdb.attempts row hlinked.row_mem
  have ⟨hid, hstatus, hverified, hstart, hend⟩ := isSavedAs_iff.mp hsaved
  have ⟨hstatus', hverified', hstart', hend'⟩ := hsame.saved hstatus
  refine ⟨row', clip, ?_, hdb.links _ hlink, ?_, hartifact, hprovenance⟩
  · constructor
    case row_mem => exact hrow'
    case clip_mem => exact hdb.clips clip hlinked.clip_mem
    case row_id => exact hsame.id.trans hid
    case clip_id => exact hlinked.clip_id
    case saved => exact hstatus'
    case artifact => exact hverified'.trans hlinked.artifact
    case session => exact hlinked.session.trans hsame.session.symm
  · rw [isSavedAs_iff]
    exact ⟨hsame.id.trans hid, hstatus', hverified'.trans hverified, hstart'.trans hstart,
      hend'.trans hend⟩

-- The clip of a link is found from the attempt.
theorem SavesSound.linkedClip (h : SavesSound db) {link : SaveAttemptClipRow} {row : SaveAttemptRow}
    {clip : ClipRow} (hlink : link ∈ db.saveAttemptClips) (hlinked : Linked db link row clip) :
    linkedClip db link.saveAttemptId = some (clip, row) := by
  have hfound := find?_key h.links hlink
  have hclip := find?_key h.clips hlinked.clip_mem
  have hrow := find?_key h.attempts hlinked.row_mem
  rw [hlinked.clip_id] at hclip
  rw [hlinked.row_id] at hrow
  simp [Storage.linkedClip, hfound, hclip, hrow]

-- What a statement that succeeds does to attempts, clips and links.
def Moves (db db' : Database) : Prop :=
  SavesSound db' ∧ Grows db db'

theorem SavesSound.moves (h : SavesSound db) (hdb : Grows db db')
    (hattempts : (db'.recorderSaveAttempts.map (·.id)).Nodup)
    (hclips : (db'.clips.map (·.id)).Nodup)
    (hlinks : (db'.saveAttemptClips.map (·.saveAttemptId)).Nodup)
    (hnew : ∀ link ∈ db'.saveAttemptClips, link ∈ db.saveAttemptClips ∨
      ∃ row clip, Linked db' link row clip) : Moves db db' := by
  refine ⟨⟨hattempts, hclips, hlinks, fun link hlink => ?_⟩, hdb⟩
  rcases hnew link hlink with hold | hnew
  · obtain ⟨row, clip, hlinked⟩ := h.linked link hold
    obtain ⟨row', hlinked'⟩ := hlinked.grow hdb
    exact ⟨row', clip, hlinked'⟩
  · exact hnew

theorem SavesSound.still (h : SavesSound db) : Moves db db :=
  ⟨h, .refl db⟩

-- An update of attempts that are not over, or of columns that do not matter.
theorem SavesSound.updated (h : SavesSound db) {p : SaveAttemptRow → Bool}
    {f : SaveAttemptRow → SaveAttemptRow} (hf : ∀ row, p row → SameAttempt row (f row))
    (hid : ∀ row, (f row).id = row.id) :
    Moves db { db with recorderSaveAttempts := update p f db.recorderSaveAttempts } := by
  apply h.moves
  case hdb =>
    refine ⟨fun row hrow => ⟨_, mem_update.mpr ⟨row, hrow, rfl⟩, ?_⟩, fun _ h => h, fun _ h => h⟩
    split
    case isTrue hp => exact hf row hp
    case isFalse => exact .refl row
  case hattempts => exact map_update db.recorderSaveAttempts hid ▸ h.attempts
  case hclips => exact h.clips
  case hlinks => exact h.links
  case hnew => exact fun _ hlink => .inl hlink

theorem requestSave_moves (h : SavesSound db) {session : CaptureSessionId}
    {recorderRequestId : String} {requestedNs : Int} {r : SaveAttemptId × Database}
    (hop : requestSave session recorderRequestId requestedNs db = .ok r) : Moves db r.2 := by
  rcases requestSave_eq_ok_iff.mp hop with ⟨row, hrow, rfl⟩ | ⟨hnone, _, rfl⟩
  · exact h.still
  · apply h.moves
    case hdb =>
      exact ⟨fun row hrow => ⟨row, List.mem_cons_of_mem _ hrow, .refl row⟩, fun _ h => h,
        fun _ h => h⟩
    case hattempts => exact List.nodup_cons.mpr ⟨fresh_notMem _, h.attempts⟩
    case hclips => exact h.clips
    case hlinks => exact h.links
    case hnew => exact fun _ hlink => .inl hlink

theorem acknowledgeSave_moves (h : SavesSound db) {r : Unit × Database}
    (hop : acknowledgeSave attempt db = .ok r) : Moves db r.2 := by
  cases hop
  apply h.updated
  case hid => exact fun _ => rfl
  case hf =>
    intro row _
    constructor <;> simp +contextual

theorem failSave_moves (h : SavesSound db) {errorCode : String} {r : Unit × Database}
    (hop : failSave attempt errorCode db = .ok r) : Moves db r.2 := by
  cases hop
  apply h.updated
  case hid => exact fun _ => rfl
  case hf =>
    intro row hrow
    constructor <;> simp_all

theorem completeSave_eq_ok_iff {r : Unit × Database} :
    completeSave attempt sha256 startNs endNs db = .ok r ↔
      startNs ≤ endNs ∧ isPresent db sha256 ∧ ((), { db with
        recorderSaveAttempts := update (isOpenAttempt attempt)
          (fun row => { row with
            status                 := .saved
            verifiedArtifactSha256 := some sha256
            actualStartMonotonicNs := some startNs
            actualEndMonotonicNs   := some endNs })
          db.recorderSaveAttempts }) = r := by
  simp only [completeSave, bind_eq_ok_iff, ensure_eq_ok_iff, exists_const, pure_eq_ok_iff]

-- Any change is fine of an attempt that is not over.
theorem SameAttempt.of_open {row row' : SaveAttemptRow} (h : isOpenAttempt attempt row)
    (hid : row'.id = row.id) (hsession : row'.captureSessionId = row.captureSessionId) :
    SameAttempt row row' := by
  have hopen := (isOpenAttempt_iff.mp h).2
  constructor
  case id => exact hid
  case session => exact hsession
  case saved =>
    intro hsaved
    simp [hsaved] at hopen
  case failed =>
    intro hfailed
    simp [hfailed] at hopen

theorem completeSave_moves (h : SavesSound db) {r : Unit × Database}
    (hop : completeSave attempt sha256 startNs endNs db = .ok r) : Moves db r.2 := by
  obtain ⟨_, _, rfl⟩ := completeSave_eq_ok_iff.mp hop
  exact h.updated (fun row hrow => .of_open hrow rfl rfl) fun _ => rfl

-- A clip that is made of an attempt without one.
theorem SavesSound.withClip (h : SavesSound db) {attempts : List SaveAttemptRow} {clip : ClipRow}
    (hnone : ¬db.saveAttemptClips.any (·.saveAttemptId = attempt))
    (hid : clip.id = fresh (db.clips.map (·.id)))
    (hattempts : attempts.map (·.id) = db.recorderSaveAttempts.map (·.id))
    (hsame : ∀ row ∈ db.recorderSaveAttempts, ∃ row' ∈ attempts, SameAttempt row row')
    {row : SaveAttemptRow} (hrow : row ∈ attempts) (hattempt : row.id = attempt)
    (hstatus : row.status = .saved) (hverified : row.verifiedArtifactSha256 = some clip.artifactSha256)
    (hsession : clip.captureSessionId = row.captureSessionId) :
    let db' := { db with
      recorderSaveAttempts := attempts
      clips                := clip :: db.clips
      saveAttemptClips     := ⟨attempt, clip.id⟩ :: db.saveAttemptClips }
    Moves db db' ∧ Linked db' ⟨attempt, clip.id⟩ row clip := by
  intro db'
  have hlinked : Linked db' ⟨attempt, clip.id⟩ row clip :=
    ⟨hrow, List.mem_cons_self, hattempt, rfl, hstatus, hverified, hsession⟩
  have hclip : clip.id ∉ db.clips.map (·.id) := hid ▸ fresh_notMem _
  refine ⟨h.moves ?_ ?_ ?_ ?_ ?_, hlinked⟩
  · exact ⟨hsame, fun _ h => List.mem_cons_of_mem _ h, fun _ h => List.mem_cons_of_mem _ h⟩
  · exact hattempts ▸ h.attempts
  · exact List.nodup_cons.mpr ⟨hclip, h.clips⟩
  · exact List.nodup_cons.mpr ⟨by simpa using hnone, h.links⟩
  · intro link hlink
    cases hlink
    case head => exact .inr ⟨row, clip, hlinked⟩
    case tail hlink => exact .inl hlink

theorem createClip_moves (h : SavesSound db) {r : ClipId × Database}
    (hop : createClip attempt provenance now db = .ok r) : Moves db r.2 := by
  simp only [createClip, bind_eq_ok_iff, ensure_eq_ok_iff, exists_const] at hop
  obtain ⟨_, hop⟩ := hop
  split at hop
  case h_1 =>
    simp only [bind_eq_ok_iff, ensure_eq_ok_iff, exists_const, pure_eq_ok_iff] at hop
    exact hop.2 ▸ h.still
  case h_2 =>
    split at hop
    case h_1 => simp [throw, throwThe, MonadExceptOf.throw] at hop
    case h_2 row hrow =>
      split at hop
      case h_1 => simp [throw, throwThe, MonadExceptOf.throw] at hop
      case h_2 artifact hartifact =>
        simp only [bind_eq_ok_iff, ensure_eq_ok_iff, exists_const, pure_eq_ok_iff] at hop
        obtain ⟨hnone, rfl⟩ := hop
        have hfound := List.find?_some hrow
        simp only [Bool.and_eq_true, decide_eq_true_eq] at hfound
        exact (h.withClip hnone rfl rfl (fun row hrow => ⟨row, hrow, .refl row⟩)
          (List.mem_of_find?_eq_some hrow) hfound.1 hfound.2 hartifact rfl).1

-- The attempt of a clip that is there already has been saved as the call says.
def Matches (clip : ClipRow) (row : SaveAttemptRow) (sha256 : Digest) (startNs endNs : Int)
    (provenance : String) : Prop :=
  row.status = .saved ∧ clip.artifactSha256 = sha256 ∧ clip.provenance = provenance ∧
  row.verifiedArtifactSha256 = some sha256 ∧ row.actualStartMonotonicNs = some startNs ∧
  row.actualEndMonotonicNs = some endNs

def finalizedRow (sha256 : Digest) (startNs endNs : Int) (row : SaveAttemptRow) : SaveAttemptRow :=
  { row with
    status                 := .saved
    acknowledgementCount   := row.acknowledgementCount + 1
    verifiedArtifactSha256 := some sha256
    actualStartMonotonicNs := some startNs
    actualEndMonotonicNs   := some endNs
    errorCode              := none }

theorem finalizeCapturedClip_eq_ok_iff {r : ClipId × Database} :
    finalizeCapturedClip attempt sha256 startNs endNs provenance now db = .ok r ↔
      provenance ∈ ["raw_auto", "raw_manual"] ∧ (0 ≤ startNs ∧ startNs ≤ endNs) ∧
      match linkedClip db attempt with
      | some (clip, row) => Matches clip row sha256 startNs endNs provenance ∧ (clip.id, db) = r
      | none             =>
        isPresent db sha256 ∧ ∃ row, db.recorderSaveAttempts.find? (isOpenAttempt attempt) =
          some row ∧ (¬db.saveAttemptClips.any (·.saveAttemptId = attempt)) ∧
        (fresh (db.clips.map (·.id)), { db with
          recorderSaveAttempts := update (isOpenAttempt attempt) (finalizedRow sha256 startNs endNs)
            db.recorderSaveAttempts
          clips                := capturedClip (fresh (db.clips.map (·.id))) sha256
            row.captureSessionId provenance now :: db.clips
          saveAttemptClips     := ⟨attempt, fresh (db.clips.map (·.id))⟩ ::
            db.saveAttemptClips }) = r := by
  simp only [finalizeCapturedClip, bind_eq_ok_iff, ensure_eq_ok_iff, exists_const]
  refine and_congr_right fun _ => and_congr_right fun _ => ?_
  cases linkedClip db attempt
  case some pair =>
    simp only [bind_eq_ok_iff, ensure_eq_ok_iff, exists_const, pure_eq_ok_iff, Matches]
  case none =>
    simp only [bind_eq_ok_iff, ensure_eq_ok_iff, exists_const]
    refine and_congr_right fun _ => ?_
    cases db.recorderSaveAttempts.find? (isOpenAttempt attempt)
    case none => simp [throw, throwThe, MonadExceptOf.throw]
    case some row =>
      simp only [bind_eq_ok_iff, ensure_eq_ok_iff, exists_const, pure_eq_ok_iff, capturedClip,
        Option.some.injEq, exists_eq_left']
      rfl

theorem linkedClip_eq_some {clip : ClipRow} {row : SaveAttemptRow}
    (h : linkedClip db attempt = some (clip, row)) :
    ⟨attempt, clip.id⟩ ∈ db.saveAttemptClips ∧ clip ∈ db.clips ∧
      row ∈ db.recorderSaveAttempts ∧ row.id = attempt := by
  simp only [linkedClip, Option.bind_eq_bind, Option.bind_eq_some_iff, Option.pure_def,
    Option.some.injEq, Prod.mk.injEq] at h
  obtain ⟨link, hlink, clip, hclip, row, hrow, rfl, rfl⟩ := h
  have hattempt : link.saveAttemptId = attempt := by simpa using List.find?_some hlink
  have hid : clip.id = link.clipId := by simpa using List.find?_some hclip
  refine ⟨?_, List.mem_of_find?_eq_some hclip, List.mem_of_find?_eq_some hrow,
    by simpa using List.find?_some hrow⟩
  subst hattempt
  rw [hid]
  exact List.mem_of_find?_eq_some hlink

theorem finalizeCapturedClip_moves (h : SavesSound db) {r : ClipId × Database}
    (hop : finalizeCapturedClip attempt sha256 startNs endNs provenance now db = .ok r) :
    Moves db r.2 ∧ Finalized attempt sha256 startNs endNs provenance r.1 r.2 := by
  obtain ⟨_, _, hop⟩ := finalizeCapturedClip_eq_ok_iff.mp hop
  split at hop
  case h_1 clip row hlinked =>
    obtain ⟨⟨hstatus, hartifact, hprovenance, hverified, hstart, hend⟩, rfl⟩ := hop
    have ⟨hlink, _, _, hattempt⟩ := linkedClip_eq_some hlinked
    obtain ⟨row', clip', hsound⟩ := h.linked _ hlink
    have hfound := h.linkedClip hlink hsound
    rw [hlinked] at hfound
    cases hfound
    refine ⟨h.still, row, clip, hsound, hlink, ?_, hartifact, hprovenance⟩
    exact isSavedAs_iff.mpr ⟨hattempt, hstatus, hverified, hstart, hend⟩
  case h_2 =>
    obtain ⟨_, row, hrow, hnone, rfl⟩ := hop
    have hopen := List.find?_some hrow
    have hattempt := (isOpenAttempt_iff.mp hopen).1
    have hmem : finalizedRow sha256 startNs endNs row ∈ update (isOpenAttempt attempt)
        (finalizedRow sha256 startNs endNs) db.recorderSaveAttempts :=
      mem_update.mpr ⟨row, List.mem_of_find?_eq_some hrow, (if_pos hopen).symm⟩
    have hclip : (capturedClip (fresh (db.clips.map (·.id))) sha256 row.captureSessionId provenance
      now).id = fresh (db.clips.map (·.id)) := rfl
    have hids : (update (isOpenAttempt attempt) (finalizedRow sha256 startNs endNs)
        db.recorderSaveAttempts).map (·.id) = db.recorderSaveAttempts.map (·.id) :=
      map_update db.recorderSaveAttempts fun _ => rfl
    have hsame : ∀ other ∈ db.recorderSaveAttempts, ∃ other' ∈ update (isOpenAttempt attempt)
        (finalizedRow sha256 startNs endNs) db.recorderSaveAttempts, SameAttempt other other' := by
      intro other hother
      refine ⟨_, mem_update.mpr ⟨other, hother, rfl⟩, ?_⟩
      split
      case isTrue hp => exact .of_open hp rfl rfl
      case isFalse => exact .refl other
    have ⟨hmoves, hlinked⟩ := h.withClip hnone hclip hids hsame hmem hattempt rfl rfl rfl
    refine ⟨hmoves, _, _, hlinked, List.mem_cons_self, ?_, rfl, rfl⟩
    exact isSavedAs_iff.mpr ⟨hattempt, rfl, rfl, rfl, rfl⟩

-- A finalization of an attempt that is finalized changes nothing, and succeeds only when it says
-- the same again.
theorem Finalized.again (h : SavesSound db) {id : ClipId}
    (hdone : Finalized attempt sha256 startNs endNs provenance id db)
    (hvalid : provenance ∈ ["raw_auto", "raw_manual"] ∧ (0 ≤ startNs ∧ startNs ≤ endNs))
    (sha256' : Digest) (startNs' endNs' now' : Int) (provenance' : String) :
    if sha256' = sha256 ∧ startNs' = startNs ∧ endNs' = endNs ∧ provenance' = provenance then
      finalizeCapturedClip attempt sha256' startNs' endNs' provenance' now' db = .ok (id, db)
    else ∃ e, finalizeCapturedClip attempt sha256' startNs' endNs' provenance' now' db =
      .error e := by
  obtain ⟨row, clip, hlinked, hlink, hsaved, hartifact, hprovenance⟩ := hdone
  have ⟨_, hstatus, hverified, hstart, hend⟩ := isSavedAs_iff.mp hsaved
  have hfound := h.linkedClip hlink hlinked
  split
  case isTrue heq =>
    obtain ⟨rfl, rfl, rfl, rfl⟩ := heq
    rw [finalizeCapturedClip_eq_ok_iff, hfound]
    refine ⟨hvalid.1, hvalid.2, ⟨hstatus, hartifact, hprovenance, hverified, hstart, hend⟩, ?_⟩
    rw [hlinked.clip_id]
  case isFalse hne =>
    cases hop : finalizeCapturedClip attempt sha256' startNs' endNs' provenance' now' db
    case error e => exact ⟨e, rfl⟩
    case ok r =>
      rw [finalizeCapturedClip_eq_ok_iff, hfound] at hop
      obtain ⟨_, _, ⟨_, hartifact', hprovenance', hverified', hstart', hend'⟩, _⟩ := hop
      simp_all

namespace SaveCall

theorem serve_moves (h : SavesSound db) (call : SaveCall) : Moves db (call.serve db).2 := by
  cases call
  all_goals
    apply answering_after (P := fun _ db' => Moves db db') (fun _ _ => h.still)
    intro _ _ hop
  case requestSave => exact requestSave_moves h hop
  case acknowledgeSave => exact acknowledgeSave_moves h hop
  case failSave => exact failSave_moves h hop
  case completeSave => exact completeSave_moves h hop
  case createClip => exact createClip_moves h hop
  case finalizeCapturedClip => exact (finalizeCapturedClip_moves h hop).1

end SaveCall

namespace SaveStep

-- A failed attempt is not saved, and only saved attempts are linked.
theorem keepsFailed {call : SaveCall} (h : SavesSound db) :
    KeepsFailed (step SaveCall.serve db call) := by
  have ⟨hsound, hgrows⟩ := call.serve_moves h
  intro row hrow hfailed
  obtain ⟨row', hrow', hsame⟩ := hgrows.attempts row hrow
  have hfailed' := hsame.failed hfailed
  refine ⟨row', hrow', hsame.id, hfailed', fun link hlink heq => ?_⟩
  obtain ⟨other, clip, hlinked⟩ := hsound.linked link hlink
  have hid : other.id = row'.id := hlinked.row_id.trans (heq.trans hsame.id.symm)
  have hother := List.inj_on_of_nodup_map hsound.attempts hlinked.row_mem hrow' hid
  have hsaved := hlinked.saved
  rw [hother, hfailed'] at hsaved
  cases hsaved

-- What a finalization that succeeded has done holds from then on.
def Done (step : SaveStep) (db : Database) : Prop :=
  match step.call, step.reply with
  | .finalizeCapturedClip attempt artifactSha256 startNs endNs provenance _, .ok reply =>
    (provenance ∈ ["raw_auto", "raw_manual"] ∧ (0 ≤ startNs ∧ startNs ≤ endNs)) ∧
    ∃ id, reply = .clip id ∧ Finalized attempt artifactSha256 startNs endNs provenance id db
  | _, _ => True

theorem Done.grow {first : SaveStep} (h : first.Done db) (hdb : Grows db db') : first.Done db' := by
  unfold Done at h ⊢
  split at h
  case h_1 =>
    obtain ⟨hvalid, id, hreply, hfinal⟩ := h
    exact ⟨hvalid, id, hreply, hfinal.grow hdb⟩
  case h_2 => trivial

theorem done {call : SaveCall} (h : SavesSound db) :
    Done (step SaveCall.serve db call) (call.serve db).2 := by
  cases call
  case finalizeCapturedClip attempt sha256 startNs endNs provenance now =>
    apply answering_after (P := fun reply db' => Done ⟨db, .finalizeCapturedClip attempt sha256
      startNs endNs provenance now, reply, db'⟩ db')
    · intro e _
      trivial
    · intro id db' hop
      have ⟨hprovenance, hrange, _⟩ := finalizeCapturedClip_eq_ok_iff.mp hop
      exact ⟨⟨hprovenance, hrange⟩, id, rfl, (finalizeCapturedClip_moves h hop).2⟩
  all_goals trivial

theorem repeats {first : SaveStep} {call : SaveCall} (h : SavesSound db) (hdone : first.Done db) :
    first.Repeats (step SaveCall.serve db call) := by
  unfold Repeats
  split
  case h_1 attempt sha256 startNs endNs provenance now reply attempt' sha256' startNs' endNs'
      provenance' now' hcall hreply hcall' =>
    simp only [Done, hcall, hreply] at hdone
    obtain ⟨hvalid, id, rfl, hfinal⟩ := hdone
    rintro rfl
    have hagain := hfinal.again h hvalid sha256' startNs' endNs' now' provenance'
    subst hcall'
    split at hagain
    case isTrue heq =>
      simp only [step, SaveCall.serve, answering, Statement.perform, hagain, if_pos heq, true_and]
      rfl
    case isFalse hne =>
      obtain ⟨e, hagain⟩ := hagain
      simp only [step, SaveCall.serve, answering, Statement.perform, hagain, if_neg hne, true_and]
      exact ⟨e, rfl⟩
  case h_2 => trivial

-- A completion leaves its attempt as it says exactly when it can complete the attempt or has.
theorem leaves_iff {call : SaveCall} (h : SavesSound db) :
    Leaves (step SaveCall.serve db call) ↔ call.completes db := by
  cases call
  case completeSave attempt sha256 startNs endNs =>
    simp only [Leaves, step, SaveCall.serve, SaveCall.completes]
    cases hop : completeSave attempt sha256 startNs endNs db
    case error e =>
      simp only [answering, Statement.perform, hop, Except.map, true_iff]
      by_contra hnot
      simp only [not_or, not_not] at hnot
      have hok : ∃ r, completeSave attempt sha256 startNs endNs db = .ok r :=
        ⟨_, completeSave_eq_ok_iff.mpr ⟨Int.not_lt.mp hnot.1, hnot.2.1, rfl⟩⟩
      simp [hop] at hok
    case ok r =>
      have ⟨hrange, hpresent, heq⟩ := completeSave_eq_ok_iff.mp hop
      subst heq
      simp only [answering, Statement.perform, hop, Except.map, hpresent, not_true, false_or,
        not_lt.mpr hrange, List.any_eq_true, Bool.or_eq_true, mem_update]
      constructor
      · rintro ⟨_, ⟨row, hrow, rfl⟩, hsaved⟩
        refine ⟨row, hrow, ?_⟩
        split at hsaved
        case isTrue hopen => exact .inl hopen
        case isFalse => exact .inr hsaved
      · rintro ⟨row, hrow, hopen | hsaved⟩
        · refine ⟨_, ⟨row, hrow, rfl⟩, ?_⟩
          rw [if_pos hopen, isSavedAs_iff]
          exact ⟨(isOpenAttempt_iff.mp hopen).1, rfl, rfl, rfl, rfl⟩
        · refine ⟨_, ⟨row, hrow, rfl⟩, ?_⟩
          split
          case isTrue hopen =>
            rw [isSavedAs_iff]
            exact ⟨(isOpenAttempt_iff.mp hopen).1, rfl, rfl, rfl, rfl⟩
          case isFalse => exact hsaved
  case finalizeCapturedClip attempt sha256 startNs endNs provenance now =>
    simp only [SaveCall.completes, iff_true]
    apply answering_after (P := fun reply db' => Leaves ⟨db, .finalizeCapturedClip attempt sha256
      startNs endNs provenance now, reply, db'⟩)
    · intro e _
      trivial
    · intro id db' hop
      obtain ⟨_, row, clip, hlinked, _, hsaved, _⟩ := finalizeCapturedClip_moves h hop
      exact List.any_eq_true.mpr ⟨row, hlinked.row_mem, hsaved⟩
  all_goals exact iff_of_true trivial trivial

end SaveStep

-- The machine keeps its promises in the runs whose completions are about attempts that they can
-- complete or have completed, and in no others.
theorem always_saveMachine_iff (db : Database) (calls : List SaveCall) :
    Always SaveCall.serve SaveMachine [] db.saveless calls ↔
      Each SaveCall.serve (fun _ db call => call.completes db) [] db.saveless calls := by
  have hfair : Each SaveCall.serve (fun _ _ _ => True) [] db.saveless calls := .trivial
  refine always_iff_each (I := fun steps db => SaveMachine steps db ∧ ∀ s ∈ steps, SaveStep.Done s db)
    ?_ ?_ ?_ ?_ hfair
  · exact fun _ _ h => h.1
  · intro steps db call ⟨h, hdone⟩ _ hfine
    have ⟨hsound, hgrows⟩ := call.serve_moves h.sound
    constructor
    · constructor
      case sound => exact hsound
      case leaves =>
        simp only [List.forall_mem_append, List.forall_mem_singleton]
        exact ⟨h.leaves, (SaveStep.leaves_iff h.sound).mpr hfine⟩
      case failed =>
        simp only [List.forall_mem_append, List.forall_mem_singleton]
        exact ⟨h.failed, SaveStep.keepsFailed h.sound⟩
      case repeats =>
        simp only [List.pairwise_append, List.pairwise_singleton, List.mem_singleton, forall_eq,
          true_and]
        exact ⟨h.repeats, fun first hfirst => SaveStep.repeats h.sound (hdone first hfirst)⟩
    · simp only [List.forall_mem_append, List.forall_mem_singleton]
      exact ⟨fun first hfirst => (hdone first hfirst).grow hgrows, SaveStep.done h.sound⟩
  · intro steps db call ⟨h, _⟩ _ hafter
    exact (SaveStep.leaves_iff h.sound).mp (hafter.leaves _ (by simp))
  · exact ⟨⟨⟨.nil, .nil, .nil, by simp [Database.saveless]⟩, by simp, by simp, .nil⟩, by simp⟩

section Demo

def savesDemo : Database := { Database.empty with
  captureSessions := [⟨0, 76, 1, "active"⟩]
  artifacts       := [{
    sha256        := 7
    relativePath  := some (.committed 7 ['m', 'k', 'v'])
    byteLength    := 5
    mediaType     := none
    availability  := .present
    createdAtMs   := 2
    missingReason := none }] }

def savesDemoCalls : List SaveCall :=
  [.requestSave 0 "auto:1:1" 10, .failSave 0 "recorder_exit", .completeSave 0 7 1 2]

-- The completion of a failed attempt succeeds, and leaves it failed.
theorem not_always_saveMachine :
    ¬Always SaveCall.serve SaveMachine [] savesDemo.saveless savesDemoCalls := by
  intro h
  have hsaved : (final SaveCall.serve savesDemo.saveless savesDemoCalls).recorderSaveAttempts.any
      (isSavedAs 0 7 1 2) :=
    h.2.2.2.leaves _ (List.mem_append_right _ (List.mem_singleton_self _))
  exact absurd hsaved (by decide)

end Demo

end Storage
