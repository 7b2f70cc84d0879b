import Mathlib.Data.List.Chain
import OpenFrag.Capture.Backoff
import OpenFrag.Capture.Theorems.Supervisor

open EStateM Machine
open MachineInt (saturatingAdd)

namespace Capture

variable {ι W α : Type}

theorem restartDelay_le {failures failures' : Nat} (h : min failures 5 ≤ min failures' 5) :
    restartDelay failures ≤ restartDelay failures' := by
  have hmono : ∀ m < 6, ∀ n ≤ m,
      [1, 2, 4, 8, 16, 30].getD n 0 ≤ [1, 2, 4, 8, 16, 30].getD m 0 := by decide
  exact Nat.mul_le_mul_right 1000 (hmono _ (by omega) _ h)

theorem restartDelay_le_max (failures : Nat) : restartDelay failures ≤ 30 * 1000 := by
  have hmax : ∀ m < 6, [1, 2, 4, 8, 16, 30].getD m 0 ≤ 30 := by decide
  exact Nat.mul_le_mul_right 1000 (hmax _ (by omega))

section Watch

variable {stableAfter : Nat} {log log' : List Event} {w : Watch} {now : Nat}

@[simp]
theorem watch_concat {event : Event} :
    watch stableAfter (log ++ [event]) = (watch stableAfter log).see stableAfter event := by
  simp [watch]

@[simp]
theorem readings_append : readings (log ++ log') = readings log ++ readings log' := by
  simp [readings]

@[simp]
theorem Watch.read_now : (w.read stableAfter now).now = now := by
  unfold Watch.read
  split <;> rfl

@[simp]
theorem Watch.read_running : (w.read stableAfter now).running = w.running := by
  unfold Watch.read
  split <;> simp_all

@[simp]
theorem Watch.read_down : (w.read stableAfter now).down = w.down := by
  unfold Watch.read
  split <;> rfl

@[simp]
theorem Watch.read_attempts : (w.read stableAfter now).attempts = w.attempts := by
  unfold Watch.read
  split <;> rfl

theorem Watch.read_crashes_le : (w.read stableAfter now).crashes ≤ w.crashes := by
  unfold Watch.read
  split
  case h_2 =>
    dsimp only
    split <;> simp
  all_goals exact Nat.le_refl _

theorem Watch.read_started {started : Nat} (h : w.started = some started) :
    (w.read stableAfter now).started = some started := by
  unfold Watch.read
  split <;> simp_all

-- The latest reading of the clock.
theorem watch_now (stableAfter : Nat) (log : List Event) :
    (watch stableAfter log).now = (readings log).getLastD 0 := by
  induction log using List.reverseRecOn
  case nil => rfl
  case append_singleton log event ih =>
    rw [watch_concat, readings_append]
    cases event
    case reading now => simp [Watch.see, readings]
    all_goals simpa [Watch.see, readings] using ih

end Watch

namespace Clocked

variable {log log' : List Event}

theorem left (h : Clocked (log ++ log')) : Clocked log := by
  have hsub : (readings log).Sublist (readings (log ++ log')) := by simp
  exact {
    monotone := h.monotone.sublist hsub
    early    := fun now hnow => h.early now (hsub.mem hnow) }

theorem watch_now_le {now : Nat} (stableAfter : Nat) (h : Clocked (log ++ [.reading now])) :
    (watch stableAfter log).now ≤ now := by
  have hmono := h.monotone
  rw [readings_append, List.pairwise_append] at hmono
  rw [watch_now]
  cases hlast : (readings log).getLast?
  case none => simp [List.getLastD_eq_getLast?, hlast]
  case some last =>
    have hle := hmono.2.2 last (List.mem_of_getLast? hlast) now (by simp [readings])
    simpa [List.getLastD_eq_getLast?, hlast] using hle

end Clocked

-- The supervisor agrees with what was seen of it, and the next restart is late enough.
structure Follows (stableAfter : Nat) (s : Supervisor ι) (w : Watch) : Prop where
  stableAfter_eq : s.config.stableAfter = stableAfter
  child          : s.running → w.running ∧ w.started = some s.startedMs
  crashes        : min w.crashes 5 ≤ min s.failures 5
  down           : w.down = s.shuttingDown
  past           : ∀ latest ∈ w.attempts.head?, latest.time ≤ w.now
  due            : ∀ due ∈ s.nextRestartMs, ∀ latest ∈ w.attempts.head?,
    latest.time + restartDelay (w.crashes - 1) ≤ due
  spaced         : w.attempts.IsChain fun later earlier =>
    earlier.time + later.delay ≤ later.time
  up             : ∀ attempt ∈ w.attempts, attempt.down = false

namespace Follows

variable {stableAfter now : Nat} {s : Supervisor ι} {w : Watch}

theorem new {config : Config} :
    Follows config.stableAfter (Supervisor.new config : Supervisor ι) .new where
  stableAfter_eq := rfl
  child h        := nomatch h
  crashes        := Nat.le_refl _
  down           := rfl
  past           := by simp [Watch.new]
  due            := by simp [Watch.new]
  spaced         := .nil
  up             := by simp [Watch.new]

theorem read (h : Follows stableAfter s w) (hnow : w.now ≤ now) :
    Follows stableAfter s (w.read stableAfter now) where
  stableAfter_eq := h.stableAfter_eq
  child hrunning := by
    have ⟨hchild, hstarted⟩ := h.child hrunning
    exact ⟨by simpa using hchild, Watch.read_started hstarted⟩
  crashes := by
    have hle := @Watch.read_crashes_le stableAfter w now
    have hcrashes := h.crashes
    omega
  down := by simpa using h.down
  past := by
    intro latest hlatest
    rw [Watch.read_attempts] at hlatest
    simpa using (h.past latest hlatest).trans hnow
  due := by
    intro due hdue latest hlatest
    rw [Watch.read_attempts] at hlatest
    have hle := @Watch.read_crashes_le stableAfter w now
    have hdelay : restartDelay ((w.read stableAfter now).crashes - 1) ≤
        restartDelay (w.crashes - 1) := restartDelay_le (by omega)
    exact (Nat.add_le_add_left hdelay _).trans (h.due due hdue latest hlatest)
  spaced := by simpa using h.spaced
  up     := by simpa using h.up

-- What the supervisor takes for a stable child has been seen to be stable.
theorem settled (h : Follows stableAfter s w) (hnow : w.now ≤ now) (hrunning : s.running)
    (hearly : now + 30 * 1000 < 2 ^ 64) (hstable : now - s.startedMs ≥ durationMs stableAfter) :
    Follows stableAfter { s with failures := 0, stable := true } (w.read stableAfter now) := by
  have ⟨hchild, hstarted⟩ := h.child hrunning
  have hstable' : now - s.startedMs ≥ stableAfter := by
    unfold durationMs at hstable
    omega
  have hcrashes : (w.read stableAfter now).crashes = 0 := by
    simp [Watch.read, hchild, hstarted, hstable']
  exact { h.read hnow with crashes := by simp [hcrashes] }

theorem exited_down (h : Follows stableAfter s w) (hdown : s.shuttingDown) :
    Follows stableAfter { s with running := false } (w.see stableAfter .exited) where
  stableAfter_eq := h.stableAfter_eq
  child hrunning := nomatch hrunning
  crashes        := by simpa [Watch.see, h.down, hdown] using h.crashes
  down           := h.down
  past           := h.past
  due            := by simpa [Watch.see, h.down, hdown] using h.due
  spaced         := h.spaced
  up             := h.up

-- The delay that an exit schedules is at least that of the crashes seen before it.
theorem exited (h : Follows stableAfter s w) (hnow : w.now ≤ now)
    (hearly : now + 30 * 1000 < 2 ^ 64) (hup : s.shuttingDown = false) :
    Follows stableAfter
      { s with
        running       := false
        failures      := saturatingAdd 64 s.failures 1
        nextRestartMs := some (saturatingAdd 64 now (durationMs (restartDelay s.failures))) }
      ((w.see stableAfter .exited).see stableAfter (.reading now)) := by
  have hcrashes := h.crashes
  have hseen : ((w.see stableAfter .exited).see stableAfter (.reading now)).crashes =
      w.crashes + 1 := by
    simp [Watch.see, Watch.read, h.down, hup]
  have hdelay : restartDelay w.crashes ≤ restartDelay s.failures := restartDelay_le hcrashes
  have hmax := restartDelay_le_max s.failures
  exact {
    stableAfter_eq := h.stableAfter_eq
    child hrunning := nomatch hrunning
    crashes        := by
      rw [hseen]
      have hlimit : 5 ≤ 2 ^ 64 - 1 := by decide
      unfold saturatingAdd
      generalize 2 ^ 64 - 1 = limit at hlimit
      dsimp only
      omega
    down           := by simpa [Watch.see] using h.down
    past           := by
      intro latest hlatest
      have hlatest' : latest ∈ w.attempts.head? := by simpa [Watch.see] using hlatest
      simpa [Watch.see] using (h.past latest hlatest').trans hnow
    due            := by
      intro due hdue latest hlatest
      have hlatest' : latest ∈ w.attempts.head? := by simpa [Watch.see] using hlatest
      have hpast := h.past latest hlatest'
      cases hdue
      rw [hseen]
      simp only [saturatingAdd, durationMs, Nat.add_sub_cancel]
      omega
    spaced         := by simpa [Watch.see] using h.spaced
    up             := by simpa [Watch.see] using h.up }

theorem spawned (h : Follows stableAfter s w) (hnow : w.now ≤ now) (polling : Bool)
    (hpolling : polling → s.shuttingDown = false ∧ ∃ due ∈ s.nextRestartMs, due ≤ w.now) :
    Follows stableAfter
      { s with
        running := true, shuttingDown := false, stable := false
        startedMs := now, nextRestartMs := none }
      ((w.see stableAfter (.attempt polling true)).see stableAfter (.reading now)) where
  stableAfter_eq := h.stableAfter_eq
  child _        := by simp [Watch.see, Watch.read]
  crashes        := by simpa [Watch.see, Watch.read] using h.crashes
  down           := by
    cases polling
    case false => simp [Watch.see]
    case true => simp [Watch.see, h.down, hpolling]
  past           := by
    cases polling
    case false =>
      intro latest hlatest
      have hlatest' : latest ∈ w.attempts.head? := by simpa [Watch.see] using hlatest
      simpa [Watch.see] using (h.past latest hlatest').trans hnow
    case true => simpa [Watch.see] using hnow
  due            := by simp
  spaced         := by
    cases polling
    case false => simpa [Watch.see] using h.spaced
    case true =>
      have ⟨_, due, hdue, hle⟩ := hpolling rfl
      have hchain : w.attempts.IsChain fun later earlier =>
        earlier.time + later.delay ≤ later.time := h.spaced
      have hlate : ∀ latest ∈ w.attempts.head?,
          latest.time + restartDelay (w.crashes - 1) ≤ w.now :=
        fun latest hlatest => (h.due due hdue latest hlatest).trans hle
      simpa [Watch.see] using List.isChain_cons.mpr ⟨hlate, hchain⟩
  up             := by
    cases polling
    case false => simpa [Watch.see] using h.up
    case true => simpa [Watch.see, h.down, hpolling rfl] using h.up

theorem refused (h : Follows stableAfter s w) :
    Follows stableAfter s (w.see stableAfter (.attempt false false)) := by
  simpa [Watch.see] using h

theorem shutdown (h : Follows stableAfter s w) :
    Follows stableAfter { s with shuttingDown := true, nextRestartMs := none }
      (w.see stableAfter .shutdown) where
  stableAfter_eq := h.stableAfter_eq
  child          := h.child
  crashes        := h.crashes
  down           := rfl
  past           := h.past
  due            := by simp
  spaced         := h.spaced
  up             := h.up

end Follows

abbrev Tracks (stableAfter : Nat) (host : Host ι (W × List Event)) : Prop :=
  Follows stableAfter host.supervisor (watch stableAfter host.world.2)

-- As long as the clock is right, the supervisor still agrees with what was seen of it.
def Tracking (stableAfter : Nat) (host host' : Host ι (W × List Event)) : Prop :=
  Clocked host'.world.2 → Clocked host.world.2 ∧ (Tracks stableAfter host → Tracks stableAfter host')

section Tracking

variable {stableAfter : Nat} {host : Host ι (W × List Event)} {s : Supervisor ι} {w w' : W}
variable {log : List Event}

instance : Std.Refl (Tracking (ι := ι) (W := W) stableAfter) where
  refl _ h := ⟨h, id⟩

instance : IsTrans (Host ι (W × List Event)) (Tracking stableAfter) where
  trans _ _ _ h h' := fun hclocked =>
    have ⟨hclocked', hstep'⟩ := h' hclocked
    have ⟨hclocked'', hstep⟩ := h hclocked'
    ⟨hclocked'', hstep' ∘ hstep⟩

theorem port_unseen_tracking (wrap : String → Error) (f : W → Except String α × W) :
    Within (Tracking stableAfter) (port wrap (unseen f) : Method ι (W × List Event) α) := by
  intro host hclocked
  rcases h : f host.world.1 with ⟨e | a, w'⟩ <;>
    simp_all [port, unseen, witnessed]

theorem reading_unseen_tracking (f : W → Nat × W) :
    Within (Tracking stableAfter) (reading (unseen f) : Method ι (W × List Event) Nat) := by
  intro host hclocked
  simp_all [reading, unseen, witnessed]

theorem Tracking.read (now : Nat) :
    Tracking stableAfter ⟨s, w, log⟩ ⟨s, w', log ++ [.reading now]⟩ := by
  intro hclocked
  refine ⟨hclocked.left, fun h => ?_⟩
  rw [Tracks, watch_concat]
  exact h.read (hclocked.watch_now_le stableAfter)

theorem reading_nowMs_tracking (polling : Bool) (ports : Ports W) :
    Within (Tracking stableAfter)
      (reading (ports.timed polling).nowMs : Method ι (W × List Event) Nat) :=
  fun _ => Tracking.read _

theorem self_tracking :
    Within (Tracking stableAfter) (self : Method ι (W × List Event) (Supervisor ι)) :=
  fun host => Std.Refl.refl host

theorem update_tracking {f : Supervisor ι → Supervisor ι}
    (hf : ∀ s w, Follows stableAfter s w → Follows stableAfter (f s) w) :
    Within (Tracking stableAfter) (update f : Method ι (W × List Event) Unit) :=
  fun _ hclocked => ⟨hclocked, hf _ _⟩

end Tracking

namespace Supervisor

variable {stableAfter : Nat} {polling : Bool} {ports : Ports W}

section Saves

theorem signalSave_tracking (id : ι) (provenance : SaveProvenance) :
    Within (Tracking stableAfter) (signalSave (ports.timed polling) id provenance) := by
  apply (port_unseen_tracking _ _).bind
  intro _
  apply (reading_unseen_tracking _).bind
  intro wall
  apply (reading_nowMs_tracking polling ports).bind
  intro now
  exact update_tracking fun _ _ h => { h with }

theorem validateOutput_tracking (path : Path) :
    Within (Tracking stableAfter) (validateOutput (ports.timed polling) path : Method ι _ _) := by
  refine self_tracking.bind fun s => Within.ite (fun _ => Within.throw) fun _ => ?_
  refine (port_unseen_tracking _ _).bind fun _ => Within.ite (fun _ => Within.throw) fun _ => ?_
  refine (port_unseen_tracking _ _).bind fun _ => Within.ite (fun _ => Within.throw) fun _ => ?_
  apply (port_unseen_tracking _ _).bind
  intro contained
  exact Within.ite (fun _ => Within.throw) (fun _ => Within.pure)

theorem acceptOutput_tracking (path : Path) :
    Within (Tracking stableAfter) (acceptOutput (ports.timed polling) path : Method ι _ _) :=
  (validateOutput_tracking path).bind fun _ => port_unseen_tracking _ _

theorem followUp_tracking :
    Within (Tracking stableAfter) (followUp (ports.timed polling) : Method ι _ _) := by
  apply Within.bind
  case hx => exact update_tracking fun _ _ h => { h with }
  intro _
  apply self_tracking.bind
  intro s
  cases s.queued
  case none => exact Within.pure
  case some next =>
    apply Within.bind
    case hx => exact update_tracking fun _ _ h => { h with }
    intro _
    exact signalSave_tracking next.recorderRequestId next.provenance

theorem acknowledge_tracking (path : Path) :
    Within (Tracking stableAfter) (acknowledge (ports.timed polling) path : Method ι _ _) := by
  apply self_tracking.bind
  intro s
  cases s.inFlight
  case none => exact Within.throw
  case some pending =>
    apply (acceptOutput_tracking path).bind
    intro media
    exact followUp_tracking.bind fun _ => Within.pure

theorem discoverSave_tracking :
    Within (Tracking stableAfter) (discoverSave (ports.timed polling) : Method ι _ _) := by
  apply self_tracking.bind
  intro s
  cases s.inFlight
  case none => exact Within.throw
  case some inFlight =>
    apply (port_unseen_tracking _ _).bind
    intro paths
    cases paths
    case nil => exact Within.pure
    case cons path _ => exact (acknowledge_tracking path).bind fun _ => Within.pure

theorem requestSave_tracking (id : ι) (provenance : SaveProvenance) :
    Within (Tracking stableAfter) (requestSave (ports.timed polling) id provenance) := by
  apply self_tracking.bind
  intro s
  refine Within.ite (fun _ => Within.throw) fun _ => Within.ite (fun _ => ?_) fun _ => ?_
  case refine_1 =>
    apply Within.bind
    case hx => exact update_tracking fun _ _ h => { h with }
    intro _
    exact Within.pure
  case refine_2 => exact (signalSave_tracking id provenance).bind fun _ => Within.pure

end Saves

theorem appendStderr_tracking :
    Within (Tracking stableAfter) (appendStderr (ports.timed polling) : Method ι _ _) := by
  apply (port_unseen_tracking _ _).bind
  intro bytes
  exact update_tracking fun _ _ h => { h with }

theorem reading_timed (ports : Ports W) (polling : Bool) (s : Supervisor ι) (w : W)
    (log : List Event) :
    reading (ports.timed polling).nowMs ⟨s, w, log⟩ =
      .ok (ports.nowMs w).1 ⟨s, (ports.nowMs w).2, log ++ [.reading (ports.nowMs w).1]⟩ := rfl

variable {s : Supervisor ι} {w : W} {log : List Event}

theorem settle_tracking (hrunning : s.running) :
    Tracking stableAfter ⟨s, w, log⟩ (settle (ports.timed polling) ⟨s, w, log⟩).state := by
  unfold settle
  rw [bind_ok self_apply]
  by_cases hstable : s.stable
  case pos => simpa [hstable] using Std.Refl.refl _
  case neg =>
    rw [if_pos (by simp [hstable]), bind_ok (reading_timed ports polling s w log)]
    by_cases hlong : (ports.nowMs w).1 - s.startedMs ≥ durationMs s.config.stableAfter
    case neg =>
      rw [if_neg hlong]
      exact Tracking.read _
    case pos =>
      rw [if_pos hlong]
      intro hclocked
      refine ⟨hclocked.left, fun h => ?_⟩
      rw [h.stableAfter_eq] at hlong
      rw [Tracks, update_apply, Result.state_ok, watch_concat]
      exact h.settled (hclocked.watch_now_le stableAfter) hrunning
        (hclocked.early _ (by simp [readings])) hlong

theorem settle_running (ports : Ports W) :
    Keeps (fun host => host.supervisor.running) (settle ports : Method ι W Unit) := by
  refine Within.bind (fun _ => rfl) fun s => Within.ite (fun _ => ?_) fun _ => Within.pure
  refine Within.bind (fun _ => rfl) fun _ => Within.ite (fun _ => ?_) fun _ => Within.pure
  exact fun _ => rfl

theorem exited_down (ports : Ports W) (w : W) (h : s.shuttingDown) :
    exited ports ⟨s, w⟩ = .ok () ⟨{ s with running := false }, w⟩ := by
  unfold exited
  rw [bind_ok update_apply, bind_ok self_apply, if_neg (by simp [h])]
  rfl

theorem exited_up (polling : Bool) (ports : Ports W) (w : W) (log : List Event)
    (h : s.shuttingDown = false) :
    exited (ports.timed polling) ⟨s, w, log⟩ =
      .ok () ⟨
        { s with
          running       := false
          failures      := saturatingAdd 64 s.failures 1
          nextRestartMs := some
            (saturatingAdd 64 (ports.nowMs w).1 (durationMs (restartDelay s.failures))) },
        (ports.nowMs w).2, log ++ [.reading (ports.nowMs w).1]⟩ := by
  unfold exited
  rw [bind_ok update_apply, bind_ok self_apply, if_pos (by simp [h])]
  rfl

-- A child that is seen to exit.
theorem exited_tracking (stableAfter : Nat) (polling : Bool) (ports : Ports W) (s : Supervisor ι)
    (w w' : W) (log : List Event) :
    Tracking stableAfter ⟨s, w, log⟩
      (exited (ports.timed polling) ⟨s, w', log ++ [.exited]⟩).state := by
  by_cases hdown : s.shuttingDown
  case pos =>
    rw [exited_down _ _ hdown]
    intro hclocked
    refine ⟨hclocked.left, fun h => ?_⟩
    rw [Tracks, Result.state_ok, watch_concat]
    exact h.exited_down hdown
  case neg =>
    rw [Bool.not_eq_true] at hdown
    rw [exited_up _ _ _ _ hdown]
    intro hclocked
    have hclocked' : Clocked (log ++ [.exited]) := hclocked.left
    refine ⟨hclocked'.left, fun h => ?_⟩
    have hnow : (watch stableAfter log).now ≤ (ports.nowMs w').1 := by
      simpa [Watch.see] using hclocked.watch_now_le stableAfter
    rw [Tracks, Result.state_ok, watch_concat, watch_concat]
    exact h.exited hnow (hclocked.early _ (by simp [readings])) hdown

theorem spawn_cases (polling : Bool) (ports : Ports W) (s : Supervisor ι) (w : W)
    (log : List Event) :
    (∃ e w', (ports.spawn s.config.launch.argv w).1 = .error e ∧
      spawn (ports.timed polling) ⟨s, w, log⟩ =
        .error (.process e) ⟨s, w', log ++ [.attempt polling false]⟩) ∨
    (∃ now w', spawn (ports.timed polling) ⟨s, w, log⟩ =
      .ok () ⟨
        { s with
          running := true, shuttingDown := false, stable := false
          startedMs := now, nextRestartMs := none },
        w', log ++ [.attempt polling true] ++ [.reading now]⟩) := by
  unfold spawn
  rw [bind_ok self_apply]
  rcases hspawn : ports.spawn s.config.launch.argv w with ⟨e | ⟨⟨⟩⟩, w'⟩
  case error =>
    have h : port Error.process ((ports.timed polling).spawn s.config.launch.argv) ⟨s, w, log⟩ =
        .error (.process e) ⟨s, w', log ++ [.attempt polling false]⟩ := by
      simp [port, Ports.timed, witnessed, hspawn, Except.isOk, Except.toBool]
    rw [bind_error h]
    exact .inl ⟨e, w', rfl, rfl⟩
  case ok =>
    have h : port Error.process ((ports.timed polling).spawn s.config.launch.argv) ⟨s, w, log⟩ =
        .ok () ⟨s, w', log ++ [.attempt polling true]⟩ := by
      simp [port, Ports.timed, witnessed, hspawn, Except.isOk, Except.toBool]
    rw [bind_ok h]
    exact .inr ⟨_, _, rfl⟩

theorem spawned_tracking {now : Nat} {w' : W}
    (hpolling : polling → s.shuttingDown = false ∧
      ∃ due ∈ s.nextRestartMs, due ≤ (watch stableAfter log).now) :
    Tracking stableAfter ⟨s, w, log⟩
      ⟨{ s with
          running := true, shuttingDown := false, stable := false
          startedMs := now, nextRestartMs := none },
        w', log ++ [.attempt polling true] ++ [.reading now]⟩ := by
  intro hclocked
  have hclocked' : Clocked (log ++ [.attempt polling true]) := hclocked.left
  refine ⟨hclocked'.left, fun h => ?_⟩
  have hnow : (watch stableAfter log).now ≤ now := by
    simpa [Watch.see] using hclocked.watch_now_le stableAfter
  rw [Tracks, watch_concat, watch_concat]
  exact h.spawned hnow polling hpolling

theorem start_tracking (ports : Ports W) (s : Supervisor ι) (w : W) (log : List Event) :
    Tracking stableAfter ⟨s, w, log⟩ (start (ports.timed false) ⟨s, w, log⟩).state := by
  unfold start
  rcases spawn_cases false ports s w log with ⟨e, w', _, h⟩ | ⟨now, w', h⟩ <;> rw [h]
  case inl =>
    intro hclocked
    refine ⟨hclocked.left, fun h => ?_⟩
    rw [Tracks, Result.state_error, watch_concat]
    exact h.refused
  case inr => exact spawned_tracking nofun

-- A restart is attempted when it is due, and the attempt does not fail.
theorem restart_tracking (h : failsRestart ports ⟨s, w⟩ = false) :
    Tracking stableAfter ⟨s, w, log⟩ (restart (ports.timed true) ⟨s, w, log⟩).state := by
  unfold restart
  rw [bind_ok self_apply]
  dsimp only
  by_cases hidle : (!s.shuttingDown && !s.running) = true
  case neg =>
    rw [if_neg hidle]
    exact Std.Refl.refl _
  case pos =>
    rw [if_pos hidle]
    cases hdue : s.nextRestartMs
    case none => exact Std.Refl.refl _
    case some due =>
      dsimp only
      rw [bind_ok (reading_timed ports true s w log)]
      apply trans_of (Tracking stableAfter) (Tracking.read (ports.nowMs w).1)
      by_cases hlate : due ≤ (ports.nowMs w).1
      case neg =>
        rw [if_neg hlate]
        exact Std.Refl.refl _
      case pos =>
        rw [if_pos hlate]
        rcases spawn_cases true ports s (ports.nowMs w).2 (log ++ [.reading (ports.nowMs w).1]) with
          ⟨e, w', he, _⟩ | ⟨now, w', hspawn⟩
        case inl => simp [failsRestart, hidle, hdue, hlate, he, Except.isOk, Except.toBool] at h
        case inr =>
          rw [hspawn]
          apply spawned_tracking
          intro _
          have hup : s.shuttingDown = false := by simp_all
          exact ⟨hup, due, hdue, by simpa [Watch.see] using hlate⟩

-- A poll of a recorder that runs.
theorem poll_running_tracking (hrunning : s.running) :
    Tracking stableAfter ⟨s, w, log⟩
      ((settle (ports.timed polling) >>= fun _ => port .process (ports.timed polling).tryWait >>= fun
        | some code => exited (ports.timed polling) >>= fun _ => pure (some code)
        | none      => restart (ports.timed polling) >>= fun _ => pure none :
          Method ι _ (Option Int)) ⟨s, w, log⟩).state := by
  apply Within.bind_at (settle_tracking hrunning)
  intro _ ⟨s', w', log'⟩ hsettle
  have hrunning' : s'.running := by
    rw [show s'.running = s.running from (settle_running _).ok hsettle]
    exact hrunning
  rcases hwait : ports.tryWait w' with ⟨e | ⟨_ | code⟩, w''⟩
  case error =>
    have h : port Error.process (ports.timed polling).tryWait ⟨s', w', log'⟩ =
        .error (.process e) ⟨s', w'', log'⟩ := by
      simp [port, Ports.timed, witnessed, exits, hwait]
    rw [bind_error h]
    exact fun hclocked => ⟨hclocked, id⟩
  case ok.none =>
    have h : port Error.process (ports.timed polling).tryWait ⟨s', w', log'⟩ =
        .ok none ⟨s', w'', log'⟩ := by
      simp [port, Ports.timed, witnessed, exits, hwait]
    rw [bind_ok h]
    dsimp only
    rw [bind_ok (restart_of_running hrunning')]
    exact fun hclocked => ⟨hclocked, id⟩
  case ok.some =>
    have h : port Error.process (ports.timed polling).tryWait ⟨s', w', log'⟩ =
        .ok (some code) ⟨s', w'', log' ++ [.exited]⟩ := by
      simp [port, Ports.timed, witnessed, exits, hwait]
    rw [bind_ok h]
    dsimp only
    rw [state_bind_pure]
    exact exited_tracking _ _ _ _ _ _ _

theorem appendStderr_timed_error {e : String} {w' : W}
    (h : ports.drainStderr w = (.error e, w')) :
    appendStderr (ports.timed polling) ⟨s, w, log⟩ = .error (.process e) ⟨s, w', log⟩ :=
  bind_error (by simp [port, Ports.timed, unseen, witnessed, h])

theorem appendStderr_timed_ok {bytes : List UInt8} {w' : W}
    (h : ports.drainStderr w = (.ok bytes, w')) :
    appendStderr (ports.timed polling) ⟨s, w, log⟩ =
      .ok () ⟨{ s with stderr := bytes.foldl (pushStderr s.config.maxStderrBytes) s.stderr },
        w', log⟩ := by
  have hport : port Error.process (ports.timed polling).drainStderr ⟨s, w, log⟩ =
      .ok bytes ⟨s, w', log⟩ := by
    simp [port, Ports.timed, unseen, witnessed, h]
  exact bind_ok hport

theorem poll_tracking (h : pollFails ports ⟨s, w⟩ = false) :
    Tracking stableAfter ⟨s, w, log⟩ (poll (ports.timed true) ⟨s, w, log⟩).state := by
  have happend : Tracking stableAfter ⟨s, w, log⟩
      (appendStderr (ports.timed true) ⟨s, w, log⟩).state := appendStderr_tracking _
  unfold poll
  rcases hdrain : ports.drainStderr w with ⟨e | bytes, w'⟩
  case error =>
    have herror : appendStderr (ports.timed true) ⟨s, w, log⟩ = _ :=
      appendStderr_timed_error hdrain
    rw [bind_error herror]
    simpa [herror] using happend
  case ok =>
    have hok : appendStderr (ports.timed true) ⟨s, w, log⟩ = _ := appendStderr_timed_ok hdrain
    rw [hok] at happend
    rw [bind_ok hok, bind_ok self_apply]
    apply trans_of (Tracking stableAfter) happend
    by_cases hrunning : s.running
    case pos =>
      rw [if_pos hrunning]
      exact poll_running_tracking hrunning
    case neg =>
      rw [if_neg hrunning, state_bind_pure]
      apply restart_tracking
      simpa [pollFails, failsRestart, hdrain] using h

theorem shutdown_tracking (ports : Ports W) (s : Supervisor ι) (w : W) (log : List Event) :
    Tracking stableAfter ⟨s, w, log⟩
      (shutdown (ports.timed false) ⟨s, w, log ++ [.shutdown]⟩).state := by
  unfold shutdown
  rw [bind_ok update_apply, bind_ok self_apply]
  have hdown : Tracking stableAfter ⟨s, w, log⟩
      ⟨{ s with shuttingDown := true, nextRestartMs := none }, w, log ++ [.shutdown]⟩ := by
    intro hclocked
    refine ⟨hclocked.left, fun h => ?_⟩
    rw [Tracks, watch_concat]
    exact h.shutdown
  apply trans_of (Tracking stableAfter) hdown
  by_cases hrunning : s.running
  case pos =>
    rw [if_pos hrunning]
    exact port_unseen_tracking _ _ _
  case neg =>
    rw [if_neg hrunning]
    exact Std.Refl.refl _

theorem perform_tracking (ports : Ports W) (call : Call ι) (s : Supervisor ι) (w : W)
    (log : List Event) (h : call.polls → pollFails ports ⟨s, w⟩ = false) :
    Tracking stableAfter ⟨s, w, log⟩
      (perform (ports.timed call.polls) call ⟨s, w, log ++ call.announced⟩).state := by
  cases call
  case start =>
    rw [perform, state_bind_pure]
    simpa [Call.announced, Call.polls] using start_tracking ports s w log
  case poll =>
    rw [perform, state_bind_pure]
    simpa [Call.announced, Call.polls] using poll_tracking (h rfl)
  case requestSave id provenance =>
    rw [perform, state_bind_pure]
    simpa [Call.announced, Call.polls] using requestSave_tracking id provenance ⟨s, w, log⟩
  case discoverSave =>
    rw [perform, state_bind_pure]
    simpa [Call.announced, Call.polls] using discoverSave_tracking ⟨s, w, log⟩
  case acknowledge path =>
    rw [perform, state_bind_pure]
    simpa [Call.announced, Call.polls] using acknowledge_tracking path ⟨s, w, log⟩
  case shutdown =>
    rw [perform, state_bind_pure]
    simpa [Call.announced, Call.polls] using shutdown_tracking ports s w log

end Supervisor

namespace Watched

variable {stableAfter : Nat} {ports : Ports W} {watched : Watched ι}

theorem answer_tracking (ports : Ports W) (call : Call ι × W) (watched : Watched ι)
    (h : call.1.polls → Supervisor.pollFails ports ⟨watched.supervisor, call.2⟩ = false) :
    Tracking stableAfter ⟨watched.supervisor, call.2, watched.log⟩
      ⟨(answer ports call watched).2.supervisor, call.2, (answer ports call watched).2.log⟩ := by
  have hcall : Tracking stableAfter _ _ :=
    Supervisor.perform_tracking ports call.1 watched.supervisor call.2 watched.log h
  unfold answer
  split <;> simp_all [Tracking]

end Watched

-- Along every run in which no spawn that a poll attempts fails, the attempts of the polls are
-- separated by the delays, and there is none after a shutdown.
theorem backoff_of_spawns (ports : Ports W) (config : Config) (calls : List (Call ι × W))
    (hspawns : Each (Watched.answer ports)
      (fun _ watched call =>
        call.1.polls → Supervisor.pollFails ports ⟨watched.supervisor, call.2⟩ = false)
      [] (Watched.new config) calls) :
    Always (Watched.answer ports)
      (fun _ watched => Clocked watched.log → Backoff config.stableAfter watched.log)
      [] (Watched.new config) calls := by
  refine Each.always (I := fun _ watched => Clocked watched.log →
    Follows config.stableAfter watched.supervisor (watch config.stableAfter watched.log))
    ?_ ?_ (fun _ => Follows.new) hspawns
  case refine_1 =>
    intro _ watched h hclocked
    exact ⟨(h hclocked).spaced, (h hclocked).up⟩
  case refine_2 =>
    intro _ watched call h hfine hclocked
    have hanswer : Tracking config.stableAfter _ _ :=
      Watched.answer_tracking ports call watched hfine
    have ⟨hclocked', hstep⟩ := hanswer hclocked
    exact hstep (h hclocked')

-- A child exits and is spawned again a second later.
theorem backoff_of_spawns_exit :
    Always (Watched.answer brittlePorts)
      (fun _ watched => Clocked watched.log → Backoff 30000 watched.log) []
      (Watched.new fakeConfig : Watched Nat)
      [(.start, { clock := 0 }), (.poll, { clock := 5, exit := some 1 }),
        (.poll, { clock := 900 }), (.poll, { clock := 1005 })] :=
  backoff_of_spawns brittlePorts fakeConfig _
    ⟨by decide, by decide, by decide, by decide, True.intro⟩

-- The child exits, and two spawns in a row are refused at the same time.
theorem backoff_fails_of_refusal :
    ¬∀ calls : List (Call Nat × FakeWorld), Always (Watched.answer brittlePorts)
      (fun _ watched => Clocked watched.log → Backoff 30000 watched.log) []
      (Watched.new fakeConfig) calls := by
  intro h
  have hrun := h [(.start, { clock := 0 }), (.poll, { clock := 5, exit := some 1 }),
    (.poll, { clock := 1005, reachable := false }), (.poll, { clock := 1005, reachable := false })]
  have hlast := hrun.2.2.2.2
  have hspaced := (hlast ⟨by decide, by decide⟩).spaced
  revert hspaced
  decide

end Capture
