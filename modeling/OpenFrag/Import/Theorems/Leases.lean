import OpenFrag.Import.Leases

open Machine

namespace Orchestration

variable {job job' stored : Job} {worker other : String} {now ttl : Nat} {operation : Operation}
variable {id : UInt64} {steps : List WorkerStep} {step : WorkerStep} {shared : Shared}

-- What an operation does with the copy that it is given.
structure Operates (now : Nat) (worker : String) (job : Job) (operation : Operation)
    (job' : Job) : Prop where
  id        : job'.id = job.id
  cancelled : job'.cancelled = (job.cancelled || operation = .cancel)
  lease     : job'.attempt.lease = job.attempt.lease ∨ leaseAvailable job.attempt now worker

theorem leaseAvailable_of_owner {attempt : Attempt} (h : attempt.leaseOwner = some worker) :
    leaseAvailable attempt now worker := by
  simp [leaseAvailable, h]

theorem Operation.apply_operates (h : operation.apply now worker job = .ok job') :
    Operates now worker job operation job' := by
  cases operation <;> simp only [Operation.apply] at h
  case transition target =>
    simp only [Job.transition] at h
    split at h
    · cases h
    · cases h
      exact ⟨rfl, by simp [Job.moved], .inl rfl⟩
  case acquireLease ttl =>
    simp only [Job.acquireLease] at h
    split at h
    · cases h
    case isFalse havailable =>
      cases hexpiry : expiry now ttl <;> simp only [hexpiry] at h <;> cases h
      exact ⟨rfl, by simp, .inr (by simpa using havailable)⟩
  case renewLease ttl =>
    simp only [Job.renewLease] at h
    split at h
    · cases h
    case isFalse howner =>
      cases hexpiry : expiry now ttl <;> simp only [hexpiry] at h <;> cases h
      exact ⟨rfl, by simp, .inr (leaseAvailable_of_owner (of_not_not howner))⟩
  case releaseLease =>
    simp only [Job.releaseLease] at h
    split at h
    · cases h
    case isFalse howner =>
      cases h
      exact ⟨rfl, by simp, .inr (leaseAvailable_of_owner (of_not_not howner))⟩
  case retry manual =>
    simp only [Job.retry] at h
    split at h
    · cases h
      exact ⟨rfl, by simp, .inl rfl⟩
    · split at h <;> cases h
      exact ⟨rfl, by simp, .inl rfl⟩
  case cancel =>
    cases h
    exact ⟨rfl, by simp [Job.cancel], .inl rfl⟩
  case quarantineEmpty =>
    cases h
    exact ⟨rfl, by simp [Job.quarantineEmpty, Job.moved], .inl rfl⟩

namespace Job

theorem heldBy_congr (h : job.attempt.lease = job'.attempt.lease) :
    job.heldBy worker now ↔ job'.heldBy worker now := by
  simp only [Attempt.lease, Prod.mk.injEq] at h
  simp [heldBy, h.1, h.2]

theorem heldBy.owner_unique (h : job.heldBy worker now) (h' : job.heldBy other now) :
    worker = other := by
  simpa [h.1] using h'.1

theorem heldBy.earlier {now' : Nat} (h : job.heldBy worker now') (hnow : now ≤ now') :
    job.heldBy worker now := by
  have ⟨howner, expiresAt, hexpires, hlt⟩ := h
  exact ⟨howner, expiresAt, hexpires, hnow.trans_lt hlt⟩

-- No other worker finds the lease available.
theorem heldBy.not_available (h : job.heldBy other now) (hne : worker ≠ other) :
    ¬leaseAvailable job.attempt now worker := by
  have ⟨howner, expiresAt, hexpires, hlt⟩ := h
  simp [leaseAvailable, howner, Option.mem_def.mp hexpires, hne.symm, hlt]

end Job

theorem lastValue_append : lastValue (steps ++ [step]) worker id =
    (step.obtained worker id).or (lastValue steps worker id) := by
  simp only [lastValue, List.filterMap_append, List.filterMap_cons, List.filterMap_nil]
  cases step.obtained worker id <;> simp

-- What holds in the runs whose copies are current: a lease that a worker believes in is that of the
-- stored job, and the jobs that have been cancelled are stored so.
structure Tracks (steps : List WorkerStep) (shared : Shared) : Prop where
  keyed     : ∀ id, ∀ job ∈ shared.orchestrator.store id, job.id = id
  held      : ∀ worker id, ∀ job ∈ lastValue steps worker id, job.heldBy worker shared.now →
    ∃ stored ∈ shared.orchestrator.store id, stored.attempt.lease = job.attempt.lease
  cancelled : ∀ step ∈ steps, ∀ id, step.cancels id →
    ∃ stored ∈ shared.orchestrator.store id, stored.cancelled
  kept      : steps.Pairwise fun step later => ∀ id, step.cancels id →
    ∀ job ∈ later.stored, job.id = id → job.cancelled

namespace Tracks

theorem start : Tracks [] (.new now) where
  keyed     := by simp [Shared.new, Orchestrator.new]
  held      := by simp [lastValue]
  cancelled := by simp
  kept      := List.Pairwise.nil

theorem safe (h : Tracks steps shared) : Safe steps shared where
  exclusive := by
    intro id worker other ⟨job, hjob, hheld⟩ ⟨job', hjob', hheld'⟩
    have ⟨stored, hstored, hlease⟩ := h.held worker id job hjob hheld
    have ⟨stored', hstored', hlease'⟩ := h.held other id job' hjob' hheld'
    have hsame : stored = stored' := Option.mem_unique hstored hstored'
    have hboth : job'.heldBy worker shared.now := by
      apply (Job.heldBy_congr _).mp hheld
      rw [← hlease, ← hlease', hsame]
    exact hboth.owner_unique hheld'
  cancelled := h.kept

-- A step that stores no job. What a worker gets in it is stored already.
theorem unstored (h : Tracks steps shared) (hstored : step.stored = none)
    (hstore : step.after.orchestrator.store = shared.orchestrator.store)
    (hnow : shared.now ≤ step.after.now)
    (hobtained : ∀ worker id, ∀ job ∈ step.obtained worker id,
      shared.orchestrator.store id = some job) :
    Tracks (steps ++ [step]) step.after where
  keyed := hstore ▸ h.keyed
  held := by
    intro worker id job hjob hheld
    rw [lastValue_append, Option.mem_def, Option.or_eq_some_iff] at hjob
    rw [hstore]
    cases hjob
    case inl hjob => exact ⟨job, hobtained worker id job hjob, rfl⟩
    case inr hjob => exact h.held worker id job hjob.2 (hheld.earlier hnow)
  cancelled := by
    intro step' hstep' id hcancels
    rw [hstore]
    cases List.mem_append.mp hstep'
    case inl hmem => exact h.cancelled step' hmem id hcancels
    case inr hmem =>
      have ⟨_, _, _, _, hstored', _⟩ := hcancels
      rw [List.mem_singleton.mp hmem, hstored] at hstored'
      cases hstored'
  kept := by
    apply List.pairwise_append.mpr ⟨h.kept, List.pairwise_singleton _ _, ?_⟩
    intro _ _ later hlater _ _ job hjob
    rw [List.mem_singleton.mp hlater, hstored] at hjob
    cases hjob

-- A step in which a worker stores a job, and gets it.
theorem puts (h : Tracks steps shared) (worker : String) (job : Job)
    (hstored : step.stored = some job)
    (hafter : step.after = { shared with
      orchestrator.store  := (shared.orchestrator.put job).store
      orchestrator.nextId := step.after.orchestrator.nextId })
    (hobtained : ∀ other id, step.obtained other id =
      if worker = other ∧ job.id = id then some job else none)
    (hlease : ∀ other ≠ worker, ∀ value ∈ lastValue steps other job.id,
      value.heldBy other shared.now → job.attempt.lease = value.attempt.lease)
    (hcancelled : ∀ stored ∈ shared.orchestrator.store job.id, stored.cancelled → job.cancelled)
    (hcancels : ∀ id, step.cancels id → job.cancelled) :
    Tracks (steps ++ [step]) step.after := by
  have hother {id} (hid : id ≠ job.id) :
      step.after.orchestrator.store id = shared.orchestrator.store id := by
    rw [hafter]
    simp [Orchestrator.put, hid]
  have hsame : step.after.orchestrator.store job.id = some job := by
    rw [hafter]
    simp [Orchestrator.put]
  have hnow : step.after.now = shared.now := by rw [hafter]
  have hmarked : ∀ step' ∈ steps, step'.cancels job.id → job.cancelled := by
    intro step' hstep' hcancels'
    have ⟨stored, hstored', hmark⟩ := h.cancelled step' hstep' job.id hcancels'
    exact hcancelled stored hstored' hmark
  constructor
  case keyed =>
    intro id value hvalue
    by_cases hid : id = job.id
    case pos =>
      rw [hid, hsame] at hvalue
      rw [hid, Option.some.inj hvalue]
    case neg => exact h.keyed id value (hother hid ▸ hvalue)
  case held =>
    intro other id value hvalue hheld
    rw [lastValue_append, Option.mem_def, Option.or_eq_some_iff, hobtained] at hvalue
    rw [hnow] at hheld
    by_cases hid : id = job.id
    case neg =>
      have hvalue' : lastValue steps other id = some value := by
        simpa [Ne.symm hid] using hvalue
      rw [hother hid]
      exact h.held other id value hvalue' hheld
    case pos =>
      subst hid
      by_cases hworker : worker = other
      case pos =>
        have hvalue' : job = value := by simpa [hworker] using hvalue
        exact ⟨job, hsame, by rw [hvalue']⟩
      case neg =>
        have hvalue' : lastValue steps other job.id = some value := by
          simpa [hworker] using hvalue
        exact ⟨job, hsame, hlease other (Ne.symm hworker) value hvalue' hheld⟩
  case cancelled =>
    intro step' hstep' id hcancels'
    by_cases hid : id = job.id
    case pos =>
      subst hid
      refine ⟨job, hsame, ?_⟩
      cases List.mem_append.mp hstep'
      case inl hmem => exact hmarked step' hmem hcancels'
      case inr hmem => exact hcancels job.id (List.mem_singleton.mp hmem ▸ hcancels')
    case neg =>
      rw [hother hid]
      cases List.mem_append.mp hstep'
      case inl hmem => exact h.cancelled step' hmem id hcancels'
      case inr hmem =>
        have ⟨_, _, value, _, hvalue, hvalueId⟩ := hcancels'
        rw [List.mem_singleton.mp hmem, hstored] at hvalue
        cases hvalue
        exact absurd hvalueId.symm hid
  case kept =>
    apply List.pairwise_append.mpr ⟨h.kept, List.pairwise_singleton _ _, ?_⟩
    intro step' hstep' later hlater id hcancels' value hvalue hid
    rw [List.mem_singleton.mp hlater, hstored] at hvalue
    cases hvalue
    exact hmarked step' hstep' (hid ▸ hcancels')

theorem wait (h : Tracks steps shared) (duration : Nat) :
    Tracks (steps ++ [Machine.step answer shared (.wait duration)])
      (Machine.step answer shared (.wait duration)).after := by
  apply h.unstored
  case hstored   => rfl
  case hstore    => rfl
  case hnow      => exact Nat.le_add_right _ _
  case hobtained => simp [WorkerStep.obtained, Machine.step]

theorem resume (h : Tracks steps shared) (worker : String) (id : UInt64) :
    Tracks (steps ++ [Machine.step answer shared (.ask worker (.resume id))])
      (Machine.step answer shared (.ask worker (.resume id))).after := by
  have hafter : (answer (.ask worker (.resume id)) shared).2 = shared := by
    simp only [answer, Orchestrator.serve]
    split <;> rfl
  apply h.unstored
  case hstored   => rfl
  case hstore    => exact congrArg (·.orchestrator.store) hafter
  case hnow      => exact (congrArg (·.now) hafter).ge
  case hobtained =>
    intro other id' job hjob
    simp only [WorkerStep.obtained, Machine.step, answer, Orchestrator.serve] at hjob
    cases hstored : shared.orchestrator.store id
    case none => simp [hstored] at hjob
    case some stored =>
      simp only [hstored, Option.mem_def] at hjob
      split at hjob
      case isFalse => cases hjob
      case isTrue hsame =>
        cases hjob
        rw [← hsame.2, h.keyed id _ hstored]
        exact hstored

theorem create (h : Tracks steps shared) (worker : String)
    (hfresh : shared.orchestrator.store shared.orchestrator.nextId = none) :
    Tracks (steps ++ [Machine.step answer shared (.ask worker .create)])
      (Machine.step answer shared (.ask worker .create)).after := by
  apply h.puts worker (.queued shared.orchestrator.nextId .awaitingImport)
  case hstored    => rfl
  case hafter     => rfl
  case hobtained  => exact fun _ _ => rfl
  case hlease     =>
    intro other _ value hvalue hheld
    have ⟨stored, hstored, _⟩ := h.held other _ value hvalue hheld
    change stored ∈ shared.orchestrator.store shared.orchestrator.nextId at hstored
    simp [hfresh] at hstored
  case hcancelled =>
    intro stored hstored
    change stored ∈ shared.orchestrator.store shared.orchestrator.nextId at hstored
    simp [hfresh] at hstored
  case hcancels   => exact fun id ⟨_, _, _, hcall, _⟩ => nomatch hcall

theorem operate (h : Tracks steps shared)
    (hcurrent : Current steps shared (.ask worker (.operate job operation))) :
    Tracks (steps ++ [Machine.step answer shared (.ask worker (.operate job operation))])
      (Machine.step answer shared (.ask worker (.operate job operation))).after := by
  cases happly : operation.apply shared.now worker job
  case error error =>
    have hanswer : answer (.ask worker (.operate job operation)) shared =
        (some (.error error), shared) := by simp [answer, Orchestrator.serve, happly]
    apply h.unstored
    case hstored   => simp [WorkerStep.stored, Machine.step, hanswer]
    case hstore    => simp [Machine.step, hanswer]
    case hnow      => simp [Machine.step, hanswer]
    case hobtained => simp [WorkerStep.obtained, Machine.step, hanswer]
  case ok job' =>
    have hanswer : answer (.ask worker (.operate job operation)) shared = (some (.ok job'),
        { shared with orchestrator := shared.orchestrator.put job' }) := by
      simp [answer, Orchestrator.serve, happly]
    have hoperates := operation.apply_operates happly
    have ⟨stored, hstored, hsame, hmark⟩ := hcurrent.resolve_left (by simp [happly])
    apply h.puts worker job'
    case hstored    => simp [WorkerStep.stored, Machine.step, hanswer]
    case hafter     => simp [Machine.step, hanswer, Orchestrator.put]
    case hobtained  => simp [WorkerStep.obtained, Machine.step, hanswer]
    case hlease     =>
      intro other hother value hvalue hheld
      rw [hoperates.id] at hvalue
      have ⟨stored', hstored', hlease⟩ := h.held other _ value hvalue hheld
      have heq : job.attempt.lease = value.attempt.lease := by
        rw [hsame, Option.mem_unique hstored hstored', hlease]
      have hkept := hoperates.lease.resolve_right
        (((Job.heldBy_congr heq).mpr hheld).not_available hother.symm)
      exact hkept.trans heq
    case hcancelled =>
      intro stored' hstored' hcancelled
      rw [hoperates.id] at hstored'
      simp [hoperates.cancelled, hmark, Option.mem_unique hstored hstored', hcancelled]
    case hcancels   =>
      intro id ⟨_, _, _, hcall, _⟩
      simp only [Machine.step, Call.ask.injEq, Request.operate.injEq] at hcall
      simp [hoperates.cancelled, hcall.2.2]

theorem preserved (h : Tracks steps shared) {call : Call} (hcurrent : Current steps shared call) :
    Tracks (steps ++ [Machine.step answer shared call]) (Machine.step answer shared call).after :=
  match call with
  | .wait duration              => h.wait duration
  | .ask worker .create         => h.create worker hcurrent
  | .ask worker (.resume id)    => h.resume worker id
  | .ask _ (.operate _ _)       => h.operate hcurrent

end Tracks

-- The workers whose copies are current never believe in two leases of one job, and store no
-- cancelled job as one that is not.
theorem safe_of_current (now : Nat) (calls : List Call)
    (h : Each answer Current [] (.new now) calls) : Always answer Safe [] (.new now) calls :=
  h.always (I := Tracks) (fun _ _ htracks => htracks.safe)
    (fun _ _ _ htracks hcurrent => htracks.preserved hcurrent) Tracks.start

def minute : Nat := 60 * 10 ^ 9

def created : Job := .queued 1 .awaitingImport

def leasedTo (owner : String) (expiresAt : Nat) : Job :=
  { created with
    attempt := { created.attempt with leaseOwner := some owner, leaseExpiresAt := some expiresAt } }

-- The second worker finds the job leased, waits until the lease has expired, and cancels the job
-- under its own lease.
def takeoverDemo : List Call := [
  .ask "a" .create,
  .ask "a" (.operate created (.acquireLease minute)),
  .ask "b" (.resume 1),
  .ask "b" (.operate (leasedTo "a" minute) (.acquireLease minute)),
  .wait minute,
  .ask "b" (.operate (leasedTo "a" minute) (.acquireLease minute)),
  .ask "b" (.operate (leasedTo "b" (2 * minute)) .cancel)]

theorem safe_takeoverDemo : Always answer Safe [] (.new 0) takeoverDemo := by
  apply safe_of_current
  refine ⟨rfl, ?_, True.intro, ?_, True.intro, ?_, ?_, True.intro⟩
  case refine_1 => exact .inr ⟨created, rfl, rfl, rfl⟩
  case refine_2 => exact .inl ⟨.code .io, rfl⟩
  case refine_3 => exact .inr ⟨leasedTo "a" minute, rfl, rfl, rfl⟩
  case refine_4 => exact .inr ⟨leasedTo "b" (2 * minute), rfl, rfl, rfl⟩

-- Both workers have the job as it was created. Each of them leases it.
def staleLeaseDemo : List Call := [
  .ask "a" .create,
  .ask "b" (.resume 1),
  .ask "a" (.operate created (.acquireLease minute)),
  .ask "b" (.operate created (.acquireLease minute))]

-- One of them cancels the job, and the other one goes on with it.
def staleCancelDemo : List Call := [
  .ask "a" .create,
  .ask "b" (.resume 1),
  .ask "a" (.operate created .cancel),
  .ask "b" (.operate created (.transition .validating))]

theorem not_safe_stale :
    (Each answer Obtained [] (.new 0) staleLeaseDemo ∧
      ¬Always answer Safe [] (.new 0) staleLeaseDemo) ∧
    Each answer Obtained [] (.new 0) staleCancelDemo ∧
      ¬Always answer Safe [] (.new 0) staleCancelDemo := by
  refine ⟨⟨⟨True.intro, True.intro, ?_, ?_, True.intro⟩, fun h => ?_⟩,
    ⟨True.intro, True.intro, ?_, ?_, True.intro⟩, fun h => ?_⟩
  case refine_1 => exact ⟨_, List.mem_cons_self, rfl⟩
  case refine_2 => exact ⟨_, List.mem_cons_of_mem _ List.mem_cons_self, rfl⟩
  case refine_3 =>
    have hlast := h.2.2.2.2
    have hsame := hlast.exclusive 1 "a" "b"
      ⟨leasedTo "a" minute, rfl, rfl, minute, rfl, by decide⟩
      ⟨leasedTo "b" minute, rfl, rfl, minute, rfl, by decide⟩
    simp at hsame
  case refine_4 => exact ⟨_, List.mem_cons_self, rfl⟩
  case refine_5 => exact ⟨_, List.mem_cons_of_mem _ List.mem_cons_self, rfl⟩
  case refine_6 =>
    have hlast := h.2.2.2.2.cancelled
    simp only [List.nil_append, List.cons_append, List.pairwise_cons] at hlast
    have hkept := hlast.2.2.1 _ List.mem_cons_self 1 ⟨"a", created, _, rfl, rfl, rfl⟩ _ rfl rfl
    revert hkept
    decide

end Orchestration
