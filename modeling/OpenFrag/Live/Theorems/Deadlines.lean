import Mathlib.Data.String.Basic
import OpenFrag.Library.Ascending
import OpenFrag.Live.Deadlines
import OpenFrag.Live.Requests
import OpenFrag.Live.Theorems.HashMap

open EStateM

namespace Live

variable {W : Type} {ports : Ports W}

namespace HashMap

variable {α : Type} {map : HashMap α} {key : String}

theorem get?_removeAll {keys : List String} :
    (keys.foldl HashMap.remove map).get? key = if key ∈ keys then none else map.get? key := by
  induction keys generalizing map
  case nil => simp
  case cons k keys ih =>
    by_cases hk : key = k
    case pos =>
      subst hk
      simp [ih, get?_remove_self]
    case neg => simp [ih, hk, map.get?_remove_of_ne hk]

theorem Keyed.removeAll {keys : List String} (h : map.Keyed) :
    (keys.foldl HashMap.remove map).Keyed := by
  induction keys generalizing map
  case nil => exact h
  case cons k keys ih => exact ih h.remove

end HashMap

namespace DeadlineDriver

variable {driver : DeadlineDriver} {nowMs : Nat}

theorem drainCommands_receiver : driver.drainCommands.receiver = [] := by
  have hfold {commands : List DeadlineCommand} {driver : DeadlineDriver} :
      (commands.foldl apply driver).receiver = driver.receiver := by
    induction commands generalizing driver
    case nil => rfl
    case cons command commands ih =>
      rw [List.foldl_cons, ih]
      cases command <;> rfl
  exact hfold

theorem drainCommands_of_drained (h : driver.receiver = []) : driver.drainCommands = driver := by
  obtain ⟨receiver, deadlines⟩ := driver
  subst h
  rfl

theorem drainCommands_send {command : DeadlineCommand} :
    (driver.send command).drainCommands = driver.drainCommands.apply command := by
  simp [drainCommands, send]

theorem apply_keyed {command : DeadlineCommand} (h : driver.deadlines.Keyed) :
    (driver.apply command).deadlines.Keyed := by
  cases command
  case schedule => exact h.insert
  case cancel   => exact h.remove

instance : Std.TransCmp dueOrder :=
  inferInstanceAs (Std.TransCmp (compareLex (compareOn Prod.fst) (compareOn fun (due : Nat × TimerId) => due.2.value)))

theorem mem_due {due : Nat × TimerId} (h : driver.deadlines.Keyed) :
    due ∈ driver.due nowMs ↔ driver.deadlines.get? due.2.value = some due.1 ∧ due.1 ≤ nowMs := by
  have hmem : due ∈ driver.due nowMs ↔ (due.2.value, due.1) ∈ driver.deadlines ∧ due.1 ≤ nowMs := by
    obtain ⟨deadlineMs, timer⟩ := due
    have htimer {text : String} : TimerId.mk text = timer ↔ text = timer.value :=
      ⟨congrArg TimerId.value, congrArg TimerId.mk⟩
    simp [DeadlineDriver.due, htimer]
  rw [hmem]
  exact and_congr_left' ⟨h.get?_of_mem, HashMap.mem_of_get?⟩

theorem due_sorted : (driver.due nowMs).Pairwise fun left right => (dueOrder left right).isLE :=
  List.pairwise_mergeSort_cmp dueOrder _

theorem due_nodup (h : driver.deadlines.Keyed) : ((driver.due nowMs).map Prod.snd).Nodup := by
  refine ((List.mergeSort_perm _ _).map Prod.snd).nodup_iff.mpr ?_
  have hnodup (p : String × Nat → Bool) : ((driver.deadlines.filter p).map Prod.fst).Nodup :=
    h.sublist (List.filter_sublist.map Prod.fst)
  have hmk : Function.Injective TimerId.mk := fun _ _ => TimerId.mk.inj
  simpa [List.map_map, Function.comp_def] using (hnodup _).map hmk

theorem dueOrder_cases {left right : Nat × TimerId} (h : (dueOrder left right).isLE)
    (hne : left.2 ≠ right.2) :
    left.1 < right.1 ∨ left.1 = right.1 ∧ left.2.value < right.2.value := by
  simp only [dueOrder] at h
  cases hcompare : compare left.1 right.1
  case lt => exact .inl (compare_lt_iff_lt.mp hcompare)
  case gt => simp [hcompare] at h
  case eq =>
    rw [hcompare] at h
    have htext : left.2.value ≠ right.2.value := fun heq => hne (congrArg TimerId.mk heq)
    cases htexts : compare left.2.value right.2.value
    case lt => exact .inr ⟨compare_eq_iff_eq.mp hcompare, compare_lt_iff_lt.mp htexts⟩
    case eq => exact absurd (compare_eq_iff_eq.mp htexts) htext
    case gt => simp [htexts] at h

theorem due_ordered (h : driver.deadlines.Keyed) : (driver.due nowMs).Pairwise fun left right =>
    left.1 < right.1 ∨ left.1 = right.1 ∧ left.2.value < right.2.value := by
  have hnodup : ((driver.due nowMs).map Prod.snd).Nodup := due_nodup h
  exact (due_sorted.and (List.pairwise_map.mp hnodup)).imp fun ⟨hle, hne⟩ => dueOrder_cases hle hne

theorem takeDue_deadlines : (driver.takeDue nowMs).2.deadlines =
    ((driver.drainCommands.due nowMs).map (·.2.value)).foldl HashMap.remove
      driver.drainCommands.deadlines := by
  simp [takeDue, List.foldl_map]

theorem takeDue_drained : (driver.takeDue nowMs).2.drainCommands = (driver.takeDue nowMs).2 :=
  drainCommands_of_drained drainCommands_receiver

-- The timers that are due are taken from the driver, and no others.
theorem takeDue_get? {timer : TimerId} : (driver.takeDue nowMs).2.deadlines.get? timer.value =
    if timer ∈ (driver.takeDue nowMs).1 then none
    else driver.drainCommands.deadlines.get? timer.value := by
  have hmem : timer.value ∈ (driver.drainCommands.due nowMs).map (·.2.value) ↔
      timer ∈ (driver.takeDue nowMs).1 := by
    have htimer {timer' : TimerId} : timer'.value = timer.value ↔ timer' = timer :=
      ⟨congrArg TimerId.mk, congrArg TimerId.value⟩
    simp [takeDue, htimer]
  rw [takeDue_deadlines, HashMap.get?_removeAll]
  simp only [hmem]

end DeadlineDriver

-- The first failure of a batch ends it.
theorem dispatches_prefix {timers : List TimerId} {host : Host W} :
    dispatches ports timers host <+: timers := by
  induction timers generalizing host
  case nil => exact List.prefix_refl _
  case cons timer timers ih =>
    rw [dispatches, List.prefix_cons_inj]
    cases Coordinator.onTimer ports timer host
    case ok    => exact ih
    case error => exact List.nil_prefix

theorem dispatches_eq_iff {timers : List TimerId} {host : Host W} :
    dispatches ports timers host = timers ↔ completes ports timers host := by
  induction timers generalizing host
  case nil => simp [dispatches, completes]
  case cons timer timers ih =>
    cases timers
    case nil =>
      cases h : Coordinator.onTimer ports timer host <;> simp [dispatches, completes, h]
    case cons timer' timers =>
      cases h : Coordinator.onTimer ports timer host
      case ok    => simp [dispatches, completes, h, ← ih]
      case error => simp [dispatches, completes, h]

abbrev dispatchTimer (ports : Ports W) (timer : TimerId) : Method W PUnit := do
  let _ ← Coordinator.onTimer ports timer

theorem dispatchAll_dispatches (timers : List TimerId) (host : Host W) :
    dispatches ports timers host = timers ∨ ∃ e host',
      timers.forM (dispatchTimer ports) host = .error e host' ∧
      (dispatches ports timers host).forM (dispatchTimer ports) host = .error e host' := by
  induction timers generalizing host
  case nil => exact .inl rfl
  case cons timer timers ih =>
    cases h : Coordinator.onTimer ports timer host
    case error e host' =>
      have hfirst {rest : List TimerId} :
          (timer :: rest).forM (dispatchTimer ports) host = .error e host' := by
        have hdispatch : dispatchTimer ports timer host = .error e host' := bind_error h
        exact bind_error hdispatch
      simp only [dispatches, h]
      exact .inr ⟨e, host', hfirst, hfirst⟩
    case ok _ host' =>
      have hrest {rest : List TimerId} : (timer :: rest).forM (dispatchTimer ports) host =
          rest.forM (dispatchTimer ports) host' := by
        have hdispatch : dispatchTimer ports timer host = .ok () host' := bind_ok h
        exact bind_ok hdispatch
      simp only [dispatches, h, hrest]
      exact (ih host').imp_left fun heq => by rw [heq]

-- A drive is a drive of the timers that it dispatches.
theorem driveOnce_dispatches {timers : List TimerId} {host : Host W} :
    RuntimeDriver.driveOnce ports (fun _ w => (timers, w)) host =
      RuntimeDriver.driveOnce ports
        (fun _ w => (dispatches ports timers (clocked ports host), w)) host := by
  rcases dispatchAll_dispatches timers (clocked ports host) with heq | ⟨e, host', h, h'⟩
  · rw [heq]
  · exact (bind_error h).trans (bind_error h').symm

namespace Deadlines

variable {steps : List (DeadlineStep W)} {step : DeadlineStep W}

theorem of_append {steps' : List (DeadlineStep W)} (h : Deadlines (steps ++ steps')) :
    Deadlines steps :=
  fun before step hbefore => h before step (hbefore.trans (List.prefix_append _ _))

theorem snoc (h : Deadlines steps) (hstep : ∀ drive ∈ step.reply, Punctual steps drive) :
    Deadlines (steps ++ [step]) := by
  intro before last hbefore
  rcases List.prefix_concat_iff.mp hbefore with heq | hbefore
  · have ⟨hbefore, hlast⟩ := List.append_inj' heq rfl
    rw [hbefore, List.singleton_inj.mp hlast]
    exact hstep
  · exact h before last hbefore

theorem last (h : Deadlines (steps ++ [step])) : ∀ drive ∈ step.reply, Punctual steps drive :=
  h steps step (List.prefix_refl _)

end Deadlines

-- The driver knows what every timer waits for.
structure Tracks (steps : List (DeadlineStep W)) (driver : DeadlineDriver) : Prop where
  deadlines : Deadlines steps
  keyed     : driver.drainCommands.deadlines.Keyed
  awaited   : ∀ timer, awaited steps timer = driver.drainCommands.deadlines.get? timer.value

namespace Tracks

variable {steps : List (DeadlineStep W)} {driver : DeadlineDriver} {host : Host W}

theorem mem_due (h : Tracks steps driver) {nowMs : Nat} {due : Nat × TimerId} :
    due ∈ driver.drainCommands.due nowMs ↔
      due.1 ∈ Live.awaited steps due.2 ∧ due.1 ≤ nowMs := by
  rw [DeadlineDriver.mem_due h.keyed, h.awaited, Option.mem_def]

theorem mem_takeDue (h : Tracks steps driver) {nowMs : Nat} {timer : TimerId} :
    timer ∈ (driver.takeDue nowMs).1 ↔
      ∃ deadlineMs ∈ Live.awaited steps timer, deadlineMs ≤ nowMs := by
  simp [DeadlineDriver.takeDue, h.mem_due]

-- A batch that is dispatched as a whole is what has to be dispatched.
theorem punctual (h : Tracks steps driver) (nowMs : Nat)
    (result : Except LiveDiagnostic RuntimeDriveReport) :
    Punctual steps ⟨nowMs, (driver.takeDue nowMs).1, result⟩ where
  prompt _ deadlineMs hawaited hle := h.mem_takeDue.mpr ⟨deadlineMs, hawaited, hle⟩
  waited _ hmem := h.mem_takeDue.mp hmem
  once := DeadlineDriver.due_nodup h.keyed
  ordered := by
    refine List.pairwise_map.mpr ?_
    refine (DeadlineDriver.due_ordered h.keyed).imp_of_mem ?_
    intro left right hleft hright horder deadlineMs hdeadline deadlineMs' hdeadline'
    have hleft := (h.mem_due.mp hleft).1
    have hright := (h.mem_due.mp hright).1
    obtain rfl := Option.mem_unique hleft hdeadline
    obtain rfl := Option.mem_unique hright hdeadline'
    exact horder

theorem awaited_snoc {step : DeadlineStep W} {timer : TimerId} :
    Live.awaited (steps ++ [step]) timer = step.await timer (Live.awaited steps timer) :=
  List.foldl_concat ..

-- A command is sent, and received when it is first looked for timers.
theorem send (h : Tracks steps driver) {command : DeadlineCommand} {step : DeadlineStep W}
    (hreply : step.reply = none) (hafter : step.after = driver.send command)
    (hawait : ∀ timer, step.await timer (driver.drainCommands.deadlines.get? timer.value) =
      (driver.drainCommands.apply command).deadlines.get? timer.value) :
    Tracks (steps ++ [step]) step.after where
  deadlines := h.deadlines.snoc (by simp [hreply])
  keyed     := by
    rw [hafter, DeadlineDriver.drainCommands_send]
    exact DeadlineDriver.apply_keyed h.keyed
  awaited   := by
    intro timer
    rw [awaited_snoc, h.awaited, hafter, DeadlineDriver.drainCommands_send]
    exact hawait timer

theorem drive (h : Tracks steps driver) (hcompletes : Completes ports steps driver (.driveOnce host)) :
    Tracks (steps ++ [Machine.step (DeadlineDriver.serve ports) driver (.driveOnce host)])
      (Machine.step (DeadlineDriver.serve ports) driver (.driveOnce host)).after where
  deadlines := by
    apply h.deadlines.snoc
    intro drive hdrive
    obtain rfl := Option.some.inj hdrive
    have hdispatched := dispatches_eq_iff.mpr hcompletes
    rw [hdispatched]
    exact h.punctual _ _
  keyed     := by
    have hkeyed : (driver.takeDue (ports.nowMs host.world).1).2.deadlines.Keyed :=
      DeadlineDriver.takeDue_deadlines ▸ h.keyed.removeAll
    exact DeadlineDriver.takeDue_drained ▸ hkeyed
  awaited   := by
    intro timer
    have hafter : (Machine.step (DeadlineDriver.serve ports) driver (.driveOnce host)).after =
        (driver.takeDue (ports.nowMs host.world).1).2 := rfl
    have hdispatched := dispatches_eq_iff.mpr hcompletes
    rw [awaited_snoc, h.awaited, hafter, DeadlineDriver.takeDue_drained, DeadlineDriver.takeDue_get?]
    simp only [DeadlineStep.await, Machine.step, DeadlineDriver.serve, hdispatched]
    simp [DeadlineDriver.dueAt]

theorem step (h : Tracks steps driver) {call : DeadlineCall W}
    (hcompletes : Completes ports steps driver call) :
    Tracks (steps ++ [Machine.step (DeadlineDriver.serve ports) driver call])
      (Machine.step (DeadlineDriver.serve ports) driver call).after := by
  cases call
  case schedule timer' deadlineMs =>
    apply h.send rfl rfl
    intro timer
    by_cases heq : timer = timer'
    case pos => simp [DeadlineStep.await, Machine.step, DeadlineDriver.apply, heq, HashMap.get?_insert_self]
    case neg =>
      have htext : timer.value ≠ timer'.value := fun h => heq (congrArg TimerId.mk h)
      simp [DeadlineStep.await, Machine.step, DeadlineDriver.apply, Ne.symm heq,
        HashMap.get?_insert_of_ne htext]
  case cancel timer' =>
    apply h.send rfl rfl
    intro timer
    by_cases heq : timer = timer'
    case pos => simp [DeadlineStep.await, Machine.step, DeadlineDriver.apply, heq, HashMap.get?_remove_self]
    case neg =>
      have htext : timer.value ≠ timer'.value := fun h => heq (congrArg TimerId.mk h)
      simp [DeadlineStep.await, Machine.step, DeadlineDriver.apply, Ne.symm heq,
        HashMap.get?_remove_of_ne htext]
  case driveOnce host => exact h.drive hcompletes

-- A batch that has not been dispatched as a whole breaks what is said about deadlines.
theorem completes (h : Tracks steps driver) {call : DeadlineCall W}
    (hdeadlines : Deadlines (steps ++ [Machine.step (DeadlineDriver.serve ports) driver call])) :
    Completes ports steps driver call := by
  cases call
  case schedule => exact True.intro
  case cancel   => exact True.intro
  case driveOnce host =>
    have hpunctual := hdeadlines.last _ rfl
    have hnodup : (driver.dueAt ports host).Nodup := DeadlineDriver.due_nodup h.keyed
    have ⟨rest, hrest⟩ : dispatches ports (driver.dueAt ports host) (clocked ports host) <+:
        driver.dueAt ports host := dispatches_prefix
    rw [← hrest] at hnodup
    have hnone : rest = [] := by
      refine List.eq_nil_iff_forall_not_mem.mpr fun timer hmem => ?_
      have hdue : timer ∈ driver.dueAt ports host := hrest ▸ List.mem_append_right _ hmem
      obtain ⟨deadlineMs, hawaited, hle⟩ := h.mem_takeDue.mp hdue
      exact List.disjoint_of_nodup_append hnodup (hpunctual.prompt timer deadlineMs hawaited hle) hmem
    rw [hnone, List.append_nil] at hrest
    exact dispatches_eq_iff.mp hrest

theorem start : Tracks ([] : List (DeadlineStep W)) .new where
  deadlines := fun before step hbefore => by simp at hbefore
  keyed     := List.nodup_nil
  awaited   := fun _ => rfl

end Tracks

end Live
