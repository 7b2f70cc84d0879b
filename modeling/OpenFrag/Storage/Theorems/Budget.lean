import OpenFrag.Storage.Budget
import OpenFrag.Storage.Theorems.Jobs

open Machine MachineInt Table

namespace Storage

variable {db db' : Database} {steps : List JobStep} {step : JobStep} {call : JobCall}
variable {job : ImportJobRow} {id : ImportJobId} {now : Int}

namespace JobsKept

theorem statusOf_eq (h : JobsKept db) (hjob : job ∈ db.importJobs) :
    statusOf db job.id = some job.status := by
  simp [statusOf, find?_key h.ids hjob]

theorem serve (h : JobsKept db) (call : JobCall) : JobsKept (call.serve db).2 :=
  (call.serve_advances h).1

theorem statusOf_recovered (h : JobsKept db) (now : Int) (hjob : job ∈ db.importJobs) :
    statusOf (recovered db now) job.id =
      some (if isExpired now job then .queued else job.status) := by
  have hkept : JobsKept (recovered db now) := h.serve _
  have hmem : (if isExpired now job then requeued now job else job) ∈
      (recovered db now).importJobs := mem_update.mpr ⟨job, hjob, rfl⟩
  cases hexpired : isExpired now job <;> simp only [hexpired] at hmem
  case true  => exact hkept.statusOf_eq hmem
  case false => exact hkept.statusOf_eq hmem

-- Some later clock puts a leased job back when its lease ends before the last one.
theorem recoverable_iff (h : JobsKept db) (hjob : job ∈ db.importJobs)
    (hleased : job.status = .leased) :
    (∀ clock, Signed 64 clock → ∃ now, clock ≤ now ∧ Signed 64 now ∧
      statusOf (recovered db now) job.id = some .queued) ↔
    ∃ expiresAtMs ∈ job.leaseExpiresAtMs, expiresAtMs < 2 ^ 63 - 1 := by
  have hexpires (now : Int) : statusOf (recovered db now) job.id = some .queued ↔
      ∃ expiresAtMs ∈ job.leaseExpiresAtMs, expiresAtMs < now := by
    rw [h.statusOf_recovered now hjob]
    cases hlease : job.leaseExpiresAtMs <;> simp [isExpired, hleased, hlease]
  simp only [hexpires, signed_64]
  constructor
  · intro hlater
    obtain ⟨now, _, hnow, expiresAtMs, hmem, hlt⟩ := hlater 0 (by omega)
    exact ⟨expiresAtMs, hmem, by omega⟩
  · rintro ⟨expiresAtMs, hmem, hlt⟩ clock hclock
    exact ⟨2 ^ 63 - 1, by omega, by omega, expiresAtMs, hmem, hlt⟩

end JobsKept

-- The leases of the new jobs are those of old ones.
def Releases (db db' : Database) : Prop :=
  ∀ job' ∈ db'.importJobs, job'.status = .leased → ∃ job ∈ db.importJobs,
    job.status = .leased ∧ job'.id = job.id ∧ job'.demoSha256 = job.demoSha256 ∧
      job'.leaseExpiresAtMs = job.leaseExpiresAtMs

theorem Releases.refl : Releases db db :=
  fun job hjob hleased => ⟨job, hjob, hleased, rfl, rfl, rfl⟩

theorem Releases.updated {p : ImportJobRow → Bool} {f : ImportJobRow → ImportJobRow}
    (hjobs : db'.importJobs = update p f db.importJobs)
    (hf : ∀ job, p job → (f job).status = .leased → job.status = .leased ∧ (f job).id = job.id ∧
      (f job).demoSha256 = job.demoSha256 ∧ (f job).leaseExpiresAtMs = job.leaseExpiresAtMs) :
    Releases db db' := by
  intro job' hjob' hleased
  have ⟨job, hjob, heq⟩ := mem_update.mp (hjobs ▸ hjob')
  subst heq
  split at hleased
  case isTrue hp =>
    simp only [if_pos hp]
    exact ⟨job, hjob, hf job hp hleased⟩
  case isFalse hp =>
    simp only [if_neg hp]
    exact ⟨job, hjob, hleased, rfl, rfl, rfl⟩

theorem finishImport_releases {owner : String} {phase : ImportPhase}
    {errorCode remediation : Option String} {retryAt : Option Int}
    {diagnostic : Option Import.ParseDiagnostic} {r : Unit × Database}
    (hop : finishImportWithDiagnostic id owner phase errorCode remediation retryAt diagnostic now
      db = .ok r) : Releases db r.2 := by
  have ⟨hphase, _, heq⟩ := finishImport_eq_ok_iff.mp hop
  subst heq
  apply Releases.updated rfl
  intro job _ hleased
  change phase = .leased at hleased
  simp [hleased] at hphase

-- Only a lease makes a lease.
theorem JobCall.serve_releases (call : JobCall)
    (hcall : ∀ id owner expiresAtMs now now', call ≠ .leaseImport id owner expiresAtMs now now') :
    Releases db (call.serve db).2 := by
  cases call
  case enqueueImport =>
    refine unanswered_after .refl fun id db' hop => ?_
    have ⟨_, heq⟩ := enqueueImport_eq_ok_iff.mp hop
    cases heq
    intro job hjob hleased
    cases hjob
    case head => cases hleased
    case tail hjob => exact Releases.refl job hjob hleased
  case leaseImport => exact absurd rfl (hcall _ _ _ _ _)
  case updateImportProgress =>
    refine unanswered_after .refl fun _ db' hop => ?_
    have ⟨_, _, heq⟩ := updateImportProgress_eq_ok_iff.mp hop
    cases heq
    exact .updated rfl fun job _ hleased => ⟨hleased, rfl, rfl, rfl⟩
  case updateParserProgress =>
    refine unanswered_after .refl fun _ db' hop => ?_
    have ⟨_, _, _, heq⟩ := updateParserProgress_eq_ok_iff.mp hop
    cases heq
    exact .updated rfl fun job _ hleased => ⟨hleased, rfl, rfl, rfl⟩
  case finishImport =>
    exact unanswered_after .refl fun _ _ hop => finishImport_releases hop
  case resetImportRetry id now =>
    refine unanswered_after .refl fun _ db' hop => ?_
    simp only [Storage.resetImportRetry, Except.bind_eq_ok_iff, ensure_eq_ok_iff, exists_const,
      Except.pure_eq_ok_iff] at hop
    cases hop.2
    exact .updated rfl fun job _ hleased => nomatch hleased
  case recoverExpiredImports now =>
    exact .updated rfl fun job _ hleased => nomatch hleased

theorem automaticRequeues_append : automaticRequeues (steps ++ [step]) id =
    if step.resets id then 0
    else if step.requeues id then automaticRequeues steps id + 1 else automaticRequeues steps id := by
  simp [automaticRequeues]

theorem automaticRequeues_le (h : step.requeues id = false) :
    automaticRequeues (steps ++ [step]) id ≤ automaticRequeues steps id := by
  rw [automaticRequeues_append]
  split <;> simp [h]

-- A recovery puts back the jobs whose leases have expired.
theorem JobsKept.requeues_iff (h : JobsKept db) (id : ImportJobId) (now : Int) :
    JobStep.requeues id (Machine.step JobCall.serve db (.recoverExpiredImports now)) ↔
      ∃ job ∈ db.importJobs, job.id = id ∧ isExpired now job := by
  change (decide (statusOf db id = some .leased) &&
    decide (statusOf (recovered db now) id = some .queued)) = true ↔ _
  rw [Bool.and_eq_true, decide_eq_true_iff, decide_eq_true_iff]
  constructor
  · intro ⟨hbefore, hafter⟩
    simp only [statusOf, Option.map_eq_some_iff] at hbefore
    have ⟨job, hfind, hleased⟩ := hbefore
    have hjob := List.mem_of_find?_eq_some hfind
    have hid : job.id = id := by simpa using List.find?_some hfind
    refine ⟨job, hjob, hid, ?_⟩
    rw [← hid] at hafter
    have hrecovered := (h.statusOf_recovered now hjob).symm.trans hafter
    by_contra hexpired
    simp [hexpired, hleased] at hrecovered
  · intro ⟨job, hjob, hid, hexpired⟩
    subst hid
    have hleased : job.status = .leased := by
      simp [isExpired] at hexpired
      exact hexpired.1
    have hafter := h.statusOf_recovered now hjob
    rw [if_pos hexpired] at hafter
    exact ⟨hleased ▸ h.statusOf_eq hjob, hafter⟩

namespace BoundedWork

theorem start : BoundedWork [] db.jobless where
  exclusive   := fun _ hjob => nomatch hjob
  requeued    := by simp [automaticRequeues]
  recoverable := fun _ hjob => nomatch hjob

theorem released (h : BoundedWork steps db) (hkept : JobsKept db) (hkept' : JobsKept db')
    (hreleases : Releases db db')
    (hrequeued : ∀ id, automaticRequeues (steps ++ [step]) id ≤ 3) :
    BoundedWork (steps ++ [step]) db' where
  requeued := hrequeued
  exclusive := by
    intro job' hjob' other' hother' hleased' hotherLeased' hdemo'
    have ⟨job, hjob, hleased, hid, hdemo, _⟩ := hreleases job' hjob' hleased'
    have ⟨other, hother, hotherLeased, hotherId, hotherDemo, _⟩ :=
      hreleases other' hother' hotherLeased'
    have hsame := h.exclusive job hjob other hother hleased hotherLeased
      (hdemo.symm.trans (hdemo'.trans hotherDemo))
    exact hkept'.only hjob' hother' (by rw [hid, hotherId, hsame])
  recoverable := by
    intro job' hjob' hleased'
    have ⟨job, hjob, hleased, _, _, hexpires⟩ := hreleases job' hjob' hleased'
    apply (hkept'.recoverable_iff hjob' hleased').mpr
    rw [hexpires]
    exact (hkept.recoverable_iff hjob hleased).mp (h.recoverable job hjob hleased)

-- A job that cannot be leased is not selected, so that no job changes.
theorem leaseImport_importJobs {owner : String} {expiresAtMs now' : Int} :
    ((JobCall.leaseImport id owner expiresAtMs now now').serve db).2.importJobs =
      update (isLeasable id now') (Storage.leased owner expiresAtMs now) db.importJobs := by
  by_cases hsome : db.importJobs.any (isLeasable id now')
  case pos =>
    have hop : leaseImport id owner expiresAtMs now now' db = .ok _ :=
      leaseImport_eq_ok_iff.mpr ⟨hsome, rfl⟩
    simp [JobCall.serve, unanswered, Statement.perform, hop]
  case neg =>
    cases hop : leaseImport id owner expiresAtMs now now' db
    case ok r => exact absurd (leaseImport_eq_ok_iff.mp hop).1 hsome
    case error =>
      have hnone : ∀ row ∈ db.importJobs, ¬isLeasable id now' row := by simpa using hsome
      simp [JobCall.serve, unanswered, Statement.perform, hop, update_eq_self hnone]

-- A lease that ends, of a job whose Demo has no other leased job.
theorem leased (h : BoundedWork steps db) (hkept : JobsKept db) {owner : String}
    {expiresAtMs now' : Int} (hkept' : JobsKept db')
    (hjobs : db'.importJobs =
      update (isLeasable id now') (leased owner expiresAtMs now) db.importJobs)
    (hrestrained : Restrained steps db (.leaseImport id owner expiresAtMs now now'))
    (hrequeued : ∀ id, automaticRequeues (steps ++ [step]) id ≤ 3) :
    BoundedWork (steps ++ [step]) db' where
  requeued := hrequeued
  exclusive := by
    intro job' hjob' other' hother' hleased' hotherLeased' hdemo
    have ⟨job, hjob, hjobEq⟩ := mem_update.mp (hjobs ▸ hjob')
    have ⟨other, hother, hotherEq⟩ := mem_update.mp (hjobs ▸ hother')
    apply hkept'.only hjob' hother'
    subst hjobEq hotherEq
    by_cases hp : isLeasable id now' job <;> by_cases hq : isLeasable id now' other
    case pos =>
      simp [hp, hq, Storage.leased, (isLeasable_iff.mp hp).1, (isLeasable_iff.mp hq).1]
    case neg =>
      simp only [hp, hq, if_true] at hotherLeased' hdemo
      have hsame := (hrestrained job hjob hp).2 other hother hotherLeased' hdemo.symm
      exact absurd hp (hsame ▸ hq)
    case pos =>
      simp only [hp, hq, if_true] at hleased' hdemo
      have hsame := (hrestrained other hother hq).2 job hjob hleased' hdemo
      exact absurd hq (hsame ▸ hp)
    case neg =>
      simp only [hp, hq] at hleased' hotherLeased' hdemo ⊢
      exact congrArg _ (h.exclusive job hjob other hother hleased' hotherLeased' hdemo)
  recoverable := by
    intro job' hjob' hleased'
    apply (hkept'.recoverable_iff hjob' hleased').mpr
    have ⟨job, hjob, hjobEq⟩ := mem_update.mp (hjobs ▸ hjob')
    subst hjobEq
    by_cases hp : isLeasable id now' job
    case pos =>
      simp only [hp, if_true]
      exact ⟨expiresAtMs, rfl, (hrestrained job hjob hp).1⟩
    case neg =>
      simp only [hp] at hleased' ⊢
      exact (hkept.recoverable_iff hjob hleased').mp (h.recoverable job hjob hleased')

theorem preserved (h : BoundedWork steps db) (hkept : JobsKept db)
    (hrestrained : Restrained steps db call) :
    BoundedWork (steps ++ [Machine.step JobCall.serve db call])
      (Machine.step JobCall.serve db call).after := by
  have hkept' : JobsKept (call.serve db).2 := hkept.serve call
  have hsame {id} (hnot : JobStep.requeues id (Machine.step JobCall.serve db call) = false) :
      automaticRequeues (steps ++ [Machine.step JobCall.serve db call]) id ≤ 3 :=
    (automaticRequeues_le hnot).trans (h.requeued id)
  cases call
  case leaseImport id owner expiresAtMs now now' =>
    exact h.leased hkept hkept' leaseImport_importJobs hrestrained fun _ => hsame rfl
  case recoverExpiredImports now =>
    apply h.released hkept hkept' (JobCall.serve_releases _ nofun)
    intro id
    cases hrequeues : JobStep.requeues id (Machine.step JobCall.serve db (.recoverExpiredImports now))
    case false => exact hsame hrequeues
    case true =>
      have ⟨job, hjob, hid, hexpired⟩ := (hkept.requeues_iff id now).mp hrequeues
      have hlt := hrestrained job hjob hexpired
      rw [automaticRequeues_append, if_neg nofun, if_pos hrequeues, ← hid]
      exact hlt
  all_goals exact h.released hkept hkept' (JobCall.serve_releases _ nofun) fun _ => hsame rfl

-- A step that is not restrained breaks a bound.
theorem restrained (h : BoundedWork (steps ++ [Machine.step JobCall.serve db call])
      (Machine.step JobCall.serve db call).after) (hkept : JobsKept db) :
    Restrained steps db call := by
  have hkept' : JobsKept (call.serve db).2 := hkept.serve call
  cases call
  case leaseImport id owner expiresAtMs now now' =>
    intro job hjob hp
    have hid := (isLeasable_iff.mp hp).1
    have hafter {row} (hrow : row ∈ db.importJobs) :
        (if isLeasable id now' row then Storage.leased owner expiresAtMs now row else row) ∈
          ((JobCall.leaseImport id owner expiresAtMs now now').serve db).2.importJobs := by
      rw [leaseImport_importJobs]
      exact mem_update.mpr ⟨row, hrow, rfl⟩
    have hjob' := hafter hjob
    rw [if_pos hp] at hjob'
    have ⟨_, hexpires, hlt⟩ := (hkept'.recoverable_iff hjob' rfl).mp (h.recoverable _ hjob' rfl)
    cases hexpires
    refine ⟨hlt, fun other hother hleased hdemo => ?_⟩
    by_cases hq : isLeasable id now' other
    case pos => exact hkept.only hother hjob ((isLeasable_iff.mp hq).1.trans hid.symm)
    case neg =>
      have hother' := hafter hother
      rw [if_neg hq] at hother'
      have hsame := h.exclusive _ hjob' other hother' rfl hleased hdemo.symm
      exact hkept.only hother hjob (congrArg ImportJobRow.id hsame).symm
  case recoverExpiredImports now =>
    intro job hjob hexpired
    have hrequeues := (hkept.requeues_iff job.id now).mpr ⟨job, hjob, rfl, hexpired⟩
    have hle := h.requeued job.id
    rw [automaticRequeues_append, if_neg nofun, if_pos hrequeues] at hle
    exact hle
  all_goals exact True.intro

end BoundedWork

-- The runs whose automatic work is bounded are those whose leases end and are the only ones of
-- their Demos, and whose recoveries keep the budget.
theorem boundedWork_iff (db : Database) (calls : List JobCall) :
    Always JobCall.serve BoundedWork [] db.jobless calls ↔
      Each JobCall.serve Restrained [] db.jobless calls := by
  have hrun : Each JobCall.serve (fun _ _ _ => True) [] db.jobless calls := .trivial
  apply always_iff_each (I := fun steps db => JobsKept db ∧ BoundedWork steps db)
  case hI => exact fun _ _ h => h.2
  case hstep =>
    intro steps db call ⟨hkept, h⟩ _ hrestrained
    exact ⟨hkept.serve call, h.preserved hkept hrestrained⟩
  case hfine => exact fun _ _ _ h _ hbounded => hbounded.restrained h.1
  case hs => exact ⟨.jobless, .start⟩
  case hfair => exact hrun

-- A Demo that has been stored.
def storedDemo : Database := { Database.empty with
  artifacts := [{
    sha256        := 7
    relativePath  := some (.committed 7 ['d', 'e', 'm'])
    byteLength    := 1024
    mediaType     := some "application/octet-stream"
    availability  := .present
    createdAtMs   := 0
    missingReason := none }] }

-- The worker of the daemon crashes after it has leased the job of its import.
def crashedImport : List JobCall := [
  .enqueueImport 7 0 0,
  .leaseImport 0 "openfragd-http" daemonLeaseExpiresAtMs 0 0]

-- Its Demo is imported once more.
def secondImport : List JobCall := [
  .enqueueImport 7 0 0,
  .leaseImport 0 "openfragd-http" 1 0 0,
  .enqueueImport 7 0 0,
  .leaseImport 1 "openfragd-http" 1 0 0]

-- The worker of a job crashes again and again, and each time its lease expires.
def crashLoop : List JobCall :=
  .enqueueImport 7 0 0 :: (List.range 4).flatMap fun i =>
    [.leaseImport 0 "worker" i i i, .recoverExpiredImports (i + 1)]

theorem not_boundedWork_crashes :
    ¬Always JobCall.serve BoundedWork [] storedDemo.jobless crashedImport ∧
      (∀ now, Signed 64 now → statusOf
        (recovered (Machine.final JobCall.serve storedDemo.jobless crashedImport) now) 0 =
          some .leased) ∧
      ¬Always JobCall.serve BoundedWork [] storedDemo.jobless secondImport ∧
      ¬Always JobCall.serve BoundedWork [] storedDemo.jobless crashLoop := by
  refine ⟨fun h => ?_, fun now hnow => ?_, fun h => ?_, fun h => ?_⟩
  case refine_1 =>
    have hrestrained := h.2.2.restrained (JobsKept.jobless.serve _)
    have hlt := (hrestrained (queuedJob 0 7 0 0) List.mem_cons_self rfl).1
    exact absurd hlt (by decide)
  case refine_2 =>
    have hjobs : (Machine.final JobCall.serve storedDemo.jobless crashedImport).importJobs =
        [leased "openfragd-http" daemonLeaseExpiresAtMs 0 (queuedJob 0 7 0 0)] := rfl
    have hkept : JobsKept (Machine.final JobCall.serve storedDemo.jobless crashedImport) :=
      (JobsKept.jobless.serve _).serve _
    have hstatus := hkept.statusOf_recovered now (hjobs ▸ List.mem_cons_self)
    have hexpired : isExpired now
        (leased "openfragd-http" daemonLeaseExpiresAtMs 0 (queuedJob 0 7 0 0)) = false := by
      rw [signed_64] at hnow
      simp [isExpired, leased, daemonLeaseExpiresAtMs]
      omega
    rw [hexpired] at hstatus
    exact hstatus
  case refine_3 =>
    have hlast := h.2.2.2.2.exclusive _ List.mem_cons_self _
      (List.mem_cons_of_mem _ List.mem_cons_self) rfl rfl rfl
    exact absurd (congrArg ImportJobRow.id hlast) (by decide)
  case refine_4 =>
    have hlast := h.2.2.2.2.2.2.2.2.2.requeued 0
    revert hlast
    decide

end Storage
