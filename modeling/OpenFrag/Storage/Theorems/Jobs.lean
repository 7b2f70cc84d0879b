import Mathlib.Data.List.Nodup
import OpenFrag.Storage.Jobs
import OpenFrag.Storage.Theorems.Import

open Import Machine Table Except

namespace Storage

theorem unanswered_after {α : Type} {op : Statement α} {db : Database} {P : Database → Prop}
    (hdb : P db) (h : ∀ a db', op db = .ok (a, db') → P db') : P (unanswered op db).2 := by
  cases hop : op db
  case error e => simpa [unanswered, Statement.perform, hop] using hdb
  case ok r => simpa [unanswered, Statement.perform, hop] using h r.1 r.2 hop

-- What the three triggers write to an attempt that they end.
structure Ends (f : ImportAttemptRow → ImportAttemptRow) : Prop where
  job      : ∀ row, (f row).importJobId = row.importJobId
  number   : ∀ row, (f row).attemptNumber = row.attemptNumber
  status   : ∀ row, (f row).status ≠ .running
  finished : ∀ row, (f row).finishedAtMs.isSome

-- The attempts of a job, the latest first, and whether one of them is running.
structure AttemptsKept (live : Bool) (attempts : List ImportAttemptRow) : Prop where
  running  : (running attempts).length = live.toNat
  numbers  : attempts.map (·.attemptNumber) = (List.range' 1 attempts.length).reverse
  finished : ∀ row ∈ attempts, row.status ≠ .running → row.finishedAtMs.isSome

namespace AttemptsKept

variable {live : Bool} {attempts : List ImportAttemptRow}

theorem none : AttemptsKept false [] where
  running  := rfl
  numbers  := rfl
  finished := by simp

theorem last (h : AttemptsKept live attempts) :
    (attempts.map (·.attemptNumber)).max?.getD 0 = attempts.length := by
  rw [h.numbers]
  cases attempts.length
  case zero => rfl
  case succ n =>
    have hmax : (List.range' 1 (n + 1)).reverse.max? = some (n + 1) := by
      simp [List.max?_eq_some_iff, List.mem_range'_1]
      intros
      omega
    simp [hmax]

theorem ended (h : AttemptsKept live attempts) {f : ImportAttemptRow → ImportAttemptRow}
    (hf : Ends f) : AttemptsKept false (update (·.status = .running) f attempts) where
  running := by
    simp only [Storage.running, Bool.toNat_false, List.length_eq_zero_iff, List.filter_eq_nil_iff]
    intro row hrow
    obtain ⟨old, -, rfl⟩ := mem_update.mp hrow
    split
    case isTrue => simpa using hf.status old
    case isFalse hold => simpa using hold
  numbers := by
    rw [map_update _ hf.number, h.numbers]
    simp [update]
  finished := by
    intro row hrow hstatus
    obtain ⟨old, hold, rfl⟩ := mem_update.mp hrow
    split
    case isTrue => exact hf.finished old
    case isFalse hrunning => exact h.finished old hold (by simpa using hrunning)

theorem started (h : AttemptsKept false attempts) {row : ImportAttemptRow}
    (hstatus : row.status = .running) (hnumber : row.attemptNumber = attempts.length + 1) :
    AttemptsKept true (row :: attempts) where
  running := by
    have hnone : Storage.running attempts = [] := by simpa using h.running
    simp only [Storage.running] at hnone
    simp [Storage.running, hstatus, hnone]
  numbers := by
    have h := h.numbers
    simp [h, hnumber, List.range'_1_concat, Nat.add_comm]
  finished := by
    intro other hother hrest
    cases hother
    case head => exact absurd hstatus hrest
    case tail hother => exact h.finished other hother hrest

end AttemptsKept

-- A trigger that ends the running attempts of some jobs.
theorem attemptsOf_update {p : ImportJobId → Bool} {f : ImportAttemptRow → ImportAttemptRow}
    (hf : ∀ row, (f row).importJobId = row.importJobId) (attempts : List ImportAttemptRow)
    (job : ImportJobId) :
    attemptsOf (update (fun row => p row.importJobId && row.status = .running) f attempts) job =
      if p job then update (·.status = .running) f (attemptsOf attempts job)
      else attemptsOf attempts job := by
  induction attempts
  case nil => simp [attemptsOf, update]
  case cons row rows ih =>
    simp only [attemptsOf, update, List.map_cons, List.filter_cons] at ih ⊢
    rw [ih]
    by_cases hp : p row.importJobId <;> by_cases hstatus : row.status = .running <;>
      by_cases hjob : row.importJobId = job
    all_goals simp [hf, hp, hstatus, hjob]
    all_goals simp_all

structure JobKept (job : ImportJobRow) (attempts : List ImportAttemptRow) : Prop where
  owned    : job.status = .leased ↔ job.leaseOwner.isSome
  expiring : job.status = .leased ↔ job.leaseExpiresAtMs.isSome
  attempts : AttemptsKept (job.status = .leased) attempts

theorem JobKept.sound {job : ImportJobRow} {attempts : List ImportAttemptRow}
    (h : JobKept job attempts) : JobSound job attempts where
  owned    := h.owned
  expiring := h.expiring
  attempt  := by
    have hrunning := h.attempts.running
    by_cases hleased : job.status = .leased <;> simp_all
  numbers  := h.attempts.numbers ▸ List.reverse_perm _
  finished := h.attempts.finished

structure JobsKept (db : Database) : Prop where
  ids  : (db.importJobs.map (·.id)).Nodup
  refs : References (·.importJobId) db.importAttempts (db.importJobs.map (·.id))
  jobs : ∀ job ∈ db.importJobs, JobKept job (attemptsOf db.importAttempts job.id)

variable {db : Database} {call : JobCall} {reply : Except Error Unit}

theorem JobMoves.same {job : ImportJobRow} : JobMoves call job job where
  reported := fun h => absurd rfl h
  ended    := fun h h' => absurd h' (by simp [h])
  left     := fun _ h => absurd rfl h

namespace JobsKept

theorem jobless : JobsKept db.jobless where
  ids  := List.nodup_nil
  refs := fun _ h => nomatch h
  jobs := fun _ h => nomatch h

theorem only (h : JobsKept db) {job job' : ImportJobRow} (hjob : job ∈ db.importJobs)
    (hjob' : job' ∈ db.importJobs) (hid : job.id = job'.id) : job = job' :=
  List.inj_on_of_nodup_map h.ids hjob hjob' hid

theorem moves_same (h : JobsKept db) : JobsMove ⟨db, call, reply, db⟩ :=
  fun job hjob => ⟨job, hjob, rfl, .same, fun _ hother hid => h.only hother hjob hid⟩

variable {p : ImportJobRow → Bool} {f : ImportJobRow → ImportJobRow}
variable {attempts : List ImportAttemptRow}

-- An update of some jobs and of their attempts.
theorem updated (h : JobsKept db) (hid : ∀ job, (f job).id = job.id)
    (hrefs : References (·.importJobId) attempts (db.importJobs.map (·.id)))
    (hrest : ∀ job ∈ db.importJobs, p job = false →
      attemptsOf attempts job.id = attemptsOf db.importAttempts job.id)
    (hjob : ∀ job ∈ db.importJobs, p job → JobKept (f job) (attemptsOf attempts job.id)) :
    JobsKept { db with importJobs := update p f db.importJobs, importAttempts := attempts } where
  ids  := map_update db.importJobs hid ▸ h.ids
  refs := map_update db.importJobs hid ▸ hrefs
  jobs := by
    intro job hmem
    obtain ⟨old, hold, rfl⟩ := mem_update.mp hmem
    cases hp : p old
    case true => simpa [hid] using hjob old hold hp
    case false => simpa [hrest old hold hp] using h.jobs old hold

theorem moves_updated (h : JobsKept db) {db' : Database}
    (hdb : db'.importJobs = update p f db.importJobs) (hid : ∀ job, (f job).id = job.id)
    (hjob : ∀ job ∈ db.importJobs, p job → JobMoves call job (f job)) :
    JobsMove ⟨db, call, reply, db'⟩ := by
  intro job hmem
  have hids (row : ImportJobRow) : (if p row then f row else row).id = row.id := by
    split <;> simp [hid]
  refine ⟨if p job then f job else job, hdb ▸ mem_update.mpr ⟨job, hmem, rfl⟩, hids job, ?_, ?_⟩
  · cases hp : p job
    case true => exact hjob job hmem hp
    case false => exact .same
  · intro other hother heq
    obtain ⟨old, hold, rfl⟩ := mem_update.mp (hdb ▸ hother)
    rw [hids old] at heq
    rw [h.only hold hmem heq]

-- A selection by key has the job of the key or none.
theorem selected (h : JobsKept db) {job : ImportJobRow} (hjob : job ∈ db.importJobs)
    (hp : ∀ row, p row → row.id = job.id) (hsome : db.importJobs.any p) : p job := by
  obtain ⟨other, hother, hpo⟩ := List.any_eq_true.mp hsome
  exact h.only hother hjob (hp other hpo) ▸ hpo

end JobsKept

theorem isLeasable_iff {job : ImportJobId} {now : Int} {row : ImportJobRow} :
    isLeasable job now row ↔ row.id = job ∧ (row.status = .queued ∨
      row.status = .leased ∧ row.leaseExpiresAtMs.any (· < now)) := by
  simp [isLeasable]

theorem isLeasedBy_iff {job : ImportJobId} {owner : String} {row : ImportJobRow} :
    isLeasedBy job owner row ↔
      row.id = job ∧ row.status = .leased ∧ row.leaseOwner = some owner := by
  simp [isLeasedBy, and_assoc]

theorem isRetryable_iff {job : ImportJobId} {row : ImportJobRow} :
    isRetryable job row ↔ row.id = job ∧ (row.status = .failed ∨ row.status = .cancelled) := by
  simp [isRetryable]

-- What a call that succeeds keeps and moves.
def Advances (call : JobCall) (reply : Except Error Unit) (db db' : Database) : Prop :=
  JobsKept db' ∧ JobsMove ⟨db, call, reply, db'⟩

theorem JobsKept.attemptsOf_fresh (h : JobsKept db) :
    attemptsOf db.importAttempts (fresh (db.importJobs.map (·.id))) = [] := by
  simp only [attemptsOf, List.filter_eq_nil_iff, decide_eq_true_eq]
  intro row hrow
  exact h.refs.ne_fresh hrow

theorem enqueueImport_advances (h : JobsKept db) {demoSha256 : Digest} {now now' : Int}
    {r : ImportJobId × Database} (hop : enqueueImport demoSha256 now now' db = .ok r) :
    Advances call reply db r.2 := by
  rw [enqueueImport_eq_ok_iff] at hop
  obtain ⟨-, rfl⟩ := hop
  have hids := fresh_notMem (db.importJobs.map (·.id))
  constructor
  · constructor
    case ids => exact List.nodup_cons.mpr ⟨hids, h.ids⟩
    case refs => exact h.refs.grow _
    case jobs =>
      intro job hjob
      cases hjob
      case head => exact ⟨by simp [queuedJob], by simp [queuedJob], h.attemptsOf_fresh ▸ .none⟩
      case tail hjob => exact h.jobs job hjob
  · intro job hjob
    refine ⟨job, List.mem_cons_of_mem _ hjob, rfl, .same, fun other hother hid => ?_⟩
    cases hother
    case head =>
      have hmem := List.mem_map_of_mem (f := ImportJobRow.id) hjob
      rw [← hid] at hmem
      exact absurd hmem hids
    case tail hother => exact h.only hother hjob hid

-- A change of one job and of its attempts.
theorem JobsKept.advances (h : JobsKept db) {p : ImportJobRow → Bool}
    {f : ImportJobRow → ImportJobRow} (attempts : List ImportAttemptRow) {id : ImportJobId}
    (hp : ∀ job, p job → job.id = id) (hsome : db.importJobs.any p)
    (hid : ∀ job, (f job).id = job.id)
    (hrefs : References (·.importJobId) attempts (db.importJobs.map (·.id)))
    (hrest : ∀ other, other ≠ id → attemptsOf attempts other = attemptsOf db.importAttempts other)
    (hjob : ∀ job, p job → JobKept job (attemptsOf db.importAttempts id) →
      JobKept (f job) (attemptsOf attempts id) ∧ JobMoves call job (f job)) :
    Advances call reply db
      { db with importJobs := update p f db.importJobs, importAttempts := attempts } := by
  have hchange : ∀ job ∈ db.importJobs, p job →
      JobKept (f job) (attemptsOf attempts job.id) ∧ JobMoves call job (f job) := by
    intro job hmem hpj
    have hkept := h.jobs job hmem
    rw [hp job hpj] at hkept ⊢
    exact hjob job hpj hkept
  constructor
  · apply h.updated hid hrefs
    · intro job hmem hpj
      apply hrest
      intro heq
      have hsel := h.selected hmem (fun row hrow => (hp row hrow).trans heq.symm) hsome
      simp [hpj] at hsel
    · intro job hmem hpj
      exact (hchange job hmem hpj).1
  · exact h.moves_updated rfl hid fun job hmem hpj => (hchange job hmem hpj).2

theorem ends_interrupted (now : Int) : Ends fun row => { row with
    finishedAtMs := some now, status := .failed
    errorCode := some "lease_expired", remediationCode := some "automatic_retry" } := by
  constructor <;> simp

theorem ends_finished (phase : ImportPhase) (errorCode remediation : Option String)
    (diagnostic : Option ParseDiagnostic) (now : Int) : Ends fun row => { row with
      finishedAtMs := some now
      status := if phase = .succeeded then .succeeded else .failed
      errorCode := errorCode, remediationCode := remediation, diagnosticJson := diagnostic } := by
  constructor
  case status =>
    intro row
    by_cases hphase : phase = .succeeded <;> simp [hphase]
  all_goals simp

section Attempts

variable {job other : ImportJobId} {now : Int} {attempts : List ImportAttemptRow} {live : Bool}
variable {keys : List Nat} {f : ImportAttemptRow → ImportAttemptRow}

-- The attempts that a trigger starts and ends are those of its job.
theorem attemptsOf_startAttempt_ne (hne : other ≠ job) :
    attemptsOf (startAttempt job now attempts) other = attemptsOf attempts other := by
  have h := attemptsOf_update (p := (· = job)) (ends_interrupted now).job attempts other
  simp only [decide_eq_true_eq, hne, if_false] at h
  simpa [startAttempt, attemptsOf, hne.symm] using h

theorem startAttempt_kept (h : AttemptsKept live (attemptsOf attempts job)) :
    AttemptsKept true (attemptsOf (startAttempt job now attempts) job) := by
  have hends := ends_interrupted now
  have hof := attemptsOf_update (p := (· = job)) hends.job attempts job
  simp only [decide_true, if_true] at hof
  have hended := h.ended hends
  have hlast := hended.last
  simp only [← hof] at hended hlast
  simpa [startAttempt, attemptsOf] using hended.started rfl (congrArg (· + 1) hlast)

theorem startAttempt_refs (h : References (·.importJobId) attempts keys) (hjob : job ∈ keys) :
    References (·.importJobId) (startAttempt job now attempts) keys :=
  (h.updated (ends_interrupted now).job).insert hjob

theorem attemptsOf_ended_ne (hf : Ends f) (hne : other ≠ job) :
    attemptsOf (update (fun row => row.importJobId = job && row.status = .running) f attempts)
      other = attemptsOf attempts other := by
  simpa [hne] using attemptsOf_update (p := (· = job)) hf.job attempts other

theorem ended_kept (hf : Ends f) (h : AttemptsKept live (attemptsOf attempts job)) :
    AttemptsKept false (attemptsOf (update (fun row => row.importJobId = job &&
      row.status = .running) f attempts) job) := by
  have hof := attemptsOf_update (p := (· = job)) hf.job attempts job
  simp only [decide_true, if_true] at hof
  rw [hof]
  exact h.ended hf

end Attempts

theorem mem_ids_of_any {p : ImportJobRow → Bool} {id : ImportJobId}
    (hp : ∀ job, p job → job.id = id) (hsome : db.importJobs.any p) :
    id ∈ db.importJobs.map (·.id) := by
  obtain ⟨job, hjob, hpj⟩ := List.any_eq_true.mp hsome
  exact List.mem_map.mpr ⟨job, hjob, hp job hpj⟩

theorem leaseImport_advances (h : JobsKept db) {job : ImportJobId} {owner : String}
    {expiresAtMs now now' : Int} {r : Unit × Database}
    (hop : leaseImport job owner expiresAtMs now now' db = .ok r) : Advances call reply db r.2 := by
  rw [leaseImport_eq_ok_iff] at hop
  obtain ⟨hsome, rfl⟩ := hop
  have hp (row : ImportJobRow) (hrow : isLeasable job now' row) : row.id = job :=
    (isLeasable_iff.mp hrow).1
  apply h.advances (f := leased owner expiresAtMs now) _ hp hsome (fun _ => rfl)
    (startAttempt_refs h.refs (mem_ids_of_any hp hsome)) fun _ => attemptsOf_startAttempt_ne
  intro row hrow hkept
  have hphase := (isLeasable_iff.mp hrow).2
  constructor
  · exact ⟨by simp [leased], by simp [leased], startAttempt_kept hkept.attempts⟩
  · constructor
    case reported => exact fun hwork => absurd rfl hwork
    case ended =>
      intro _ hend
      cases hend
    case left =>
      intro hend
      rcases hphase with hphase | ⟨hphase, -⟩ <;> simp [hphase, ImportPhase.isTerminal] at hend

-- A report of the worker that holds a job.
theorem JobsKept.reported (h : JobsKept db) {job : ImportJobId} {owner : String}
    {f : ImportJobRow → ImportJobRow} (hsome : db.importJobs.any (isLeasedBy job owner))
    (hid : ∀ row, (f row).id = row.id) (hstatus : ∀ row, (f row).status = row.status)
    (howner : ∀ row, (f row).leaseOwner = row.leaseOwner)
    (hexpires : ∀ row, (f row).leaseExpiresAtMs = row.leaseExpiresAtMs)
    (hcall : ∀ row, isLeasedBy job owner row → call.holds row) :
    Advances call reply db
      { db with importJobs := update (isLeasedBy job owner) f db.importJobs } := by
  have hp (row : ImportJobRow) (hrow : isLeasedBy job owner row) : row.id = job :=
    (isLeasedBy_iff.mp hrow).1
  apply h.advances db.importAttempts hp hsome hid h.refs fun _ _ => rfl
  intro row hrow hkept
  constructor
  · constructor
    case owned => simpa [hstatus, howner] using hkept.owned
    case expiring => simpa [hstatus, hexpires] using hkept.expiring
    case attempts => simpa [hstatus] using hkept.attempts
  · constructor
    case reported => exact fun _ => hcall row hrow
    case ended => exact fun _ _ => hcall row hrow
    case left => exact fun _ hne => absurd (hstatus row) hne

theorem finishImport_advances (h : JobsKept db) {job : ImportJobId} {owner : String}
    {phase : ImportPhase} {errorCode remediation : Option String} {retryAt : Option Int}
    {diagnostic : Option ParseDiagnostic} {now : Int} {r : Unit × Database}
    (hop : finishImportWithDiagnostic job owner phase errorCode remediation retryAt diagnostic now
      db = .ok r) :
    Advances (.finishImport job owner phase errorCode remediation retryAt diagnostic now) reply db
      r.2 := by
  rw [finishImport_eq_ok_iff] at hop
  obtain ⟨hphase, hsome, rfl⟩ := hop
  have hends : Ends _ := ends_finished phase errorCode remediation diagnostic now
  have hp (row : ImportJobRow) (hrow : isLeasedBy job owner row) : row.id = job :=
    (isLeasedBy_iff.mp hrow).1
  have hne : phase ≠ .leased := by
    intro heq
    simp [heq] at hphase
  apply h.advances (f := finished phase errorCode remediation retryAt diagnostic now) _ hp hsome
    (fun _ => rfl) (h.refs.updated hends.job) fun _ => attemptsOf_ended_ne hends
  intro row hrow hkept
  obtain ⟨hid, hleased, howner⟩ := isLeasedBy_iff.mp hrow
  constructor
  · constructor
    case owned => simpa [finished] using hne
    case expiring => simpa [finished] using hne
    case attempts => simpa [finished, hne] using ended_kept hends hkept.attempts
  · constructor
    case reported => exact fun hwork => absurd rfl hwork
    case ended => exact fun _ _ => ⟨hid.symm, hleased, howner⟩
    case left =>
      intro hend
      simp [hleased, ImportPhase.isTerminal] at hend

theorem resetImportRetry_advances (h : JobsKept db) {job : ImportJobId} {now : Int}
    {r : Unit × Database} (hop : resetImportRetry job now db = .ok r) :
    Advances (.resetImportRetry job now) reply db r.2 := by
  simp only [resetImportRetry, bind_eq_ok_iff, ensure_eq_ok_iff, exists_const,
    pure_eq_ok_iff] at hop
  obtain ⟨hsome, rfl⟩ := hop
  have hp (row : ImportJobRow) (hrow : isRetryable job row) : row.id = job :=
    (isRetryable_iff.mp hrow).1
  apply h.advances (f := retried now) db.importAttempts hp hsome (fun _ => rfl) h.refs
    fun _ _ => rfl
  intro row hrow hkept
  obtain ⟨hid, hphase⟩ := isRetryable_iff.mp hrow
  have hne : row.status ≠ .leased := by
    rcases hphase with hphase | hphase <;> simp [hphase]
  constructor
  · exact ⟨by simp [retried], by simp [retried], by simpa [retried, hne] using hkept.attempts⟩
  · constructor
    case reported => exact fun hwork => absurd rfl hwork
    case ended =>
      intro _ hend
      cases hend
    case left => exact fun _ _ => ⟨now, by rw [hid]⟩

theorem recoverExpiredImports_advances (h : JobsKept db) {now : Int} {r : Nat × Database}
    (hop : recoverExpiredImports now db = .ok r) : Advances call reply db r.2 := by
  simp only [recoverExpiredImports, pure_eq_ok_iff] at hop
  subst hop
  have hends := ends_interrupted now
  have hof (id : ImportJobId) := attemptsOf_update
    (p := ((db.importJobs.filter (isExpired now)).map (·.id)).contains) hends.job db.importAttempts id
  have hcontains (row : ImportJobRow) (hrow : row ∈ db.importJobs) :
      ((db.importJobs.filter (isExpired now)).map (·.id)).contains row.id = isExpired now row := by
    rw [Bool.eq_iff_iff, List.contains_iff_mem, List.mem_map]
    constructor
    · rintro ⟨other, hother, hid⟩
      obtain ⟨hmem, hexpired⟩ := List.mem_filter.mp hother
      exact h.only hmem hrow hid ▸ hexpired
    · intro hexpired
      exact ⟨row, List.mem_filter.mpr ⟨hrow, hexpired⟩, rfl⟩
  have hleased (row : ImportJobRow) (hrow : isExpired now row) : row.status = .leased := by
    simp [isExpired] at hrow
    exact hrow.1
  constructor
  · apply h.updated (f := requeued now) (fun _ => rfl) (h.refs.updated hends.job)
    · intro row hmem hrow
      have hrest := hof row.id
      simp only [hcontains row hmem, hrow] at hrest
      exact hrest
    · intro row hmem hrow
      have hkept := h.jobs row hmem
      have hrest := hof row.id
      simp only [hcontains row hmem, hrow, if_true] at hrest
      constructor
      case owned => simp [requeued]
      case expiring => simp [requeued]
      case attempts =>
        have hended := hkept.attempts.ended hends
        rw [← hrest] at hended
        exact hended
  · apply h.moves_updated (f := requeued now) rfl fun _ => rfl
    intro row hmem hrow
    constructor
    case reported => exact fun hwork => absurd rfl hwork
    case ended =>
      intro _ hend
      cases hend
    case left =>
      intro hend
      simp [hleased row hrow, ImportPhase.isTerminal] at hend

theorem JobCall.serve_advances (h : JobsKept db) (call : JobCall) :
    Advances call (call.serve db).1 db (call.serve db).2 := by
  have hsame : Advances call (call.serve db).1 db db := ⟨h, h.moves_same⟩
  cases call
  case enqueueImport =>
    exact unanswered_after hsame fun _ _ hop => enqueueImport_advances h hop
  case leaseImport =>
    exact unanswered_after hsame fun _ _ hop => leaseImport_advances h hop
  case updateImportProgress =>
    refine unanswered_after hsame fun _ _ hop => ?_
    obtain ⟨-, hsome, heq⟩ := updateImportProgress_eq_ok_iff.mp hop
    cases heq
    apply h.reported hsome
    case hcall =>
      intro row hrow
      obtain ⟨hid, hheld⟩ := isLeasedBy_iff.mp hrow
      exact ⟨hid.symm, hheld⟩
    all_goals exact fun _ => rfl
  case updateParserProgress =>
    refine unanswered_after hsame fun _ _ hop => ?_
    obtain ⟨-, -, hsome, heq⟩ := updateParserProgress_eq_ok_iff.mp hop
    cases heq
    apply h.reported hsome
    case hcall =>
      intro row hrow
      obtain ⟨hid, hheld⟩ := isLeasedBy_iff.mp hrow
      exact ⟨hid.symm, hheld⟩
    all_goals exact fun _ => rfl
  case finishImport =>
    exact unanswered_after hsame fun _ _ hop => finishImport_advances h hop
  case resetImportRetry =>
    exact unanswered_after hsame fun _ _ hop => resetImportRetry_advances h hop
  case recoverExpiredImports =>
    exact unanswered_after hsame fun _ _ hop => recoverExpiredImports_advances h hop

-- Jobs and attempts are in step, and only the worker that holds a job moves it.
theorem always_jobMachine (db : Database) (calls : List JobCall) :
    Always JobCall.serve JobMachine [] db.jobless calls := by
  have hrun : Each JobCall.serve (fun _ _ _ => True) [] db.jobless calls := .trivial
  apply hrun.always (I := fun steps db => JobsKept db ∧ ∀ step ∈ steps, JobsMove step)
  · intro steps db ⟨h, hmoves⟩
    exact ⟨fun job hjob => (h.jobs job hjob).sound, hmoves⟩
  · intro steps db call ⟨h, hmoves⟩ _
    have hstep := call.serve_advances h
    refine ⟨hstep.1, fun s hs => ?_⟩
    rcases List.mem_append.mp hs with hs | hs
    · exact hmoves s hs
    · cases List.mem_singleton.mp hs
      exact hstep.2
  · exact ⟨.jobless, by simp⟩

end Storage
