import OpenFrag.Capture.Run
import OpenFrag.Library.Within

open EStateM

namespace Capture

variable {ι W α : Type}

-- The supervisor, and the log of the effects that its ports keep.
abbrev saved (host : Host ι (W × List Effect)) : Supervisor ι × List Effect :=
  (host.supervisor, host.world.2)

-- What only a spawn, or a signal for a save, can change.
abbrev lasting (host : Host ι (W × List Effect)) :
    Option (PendingSave ι) × Option (PendingSave ι) × Nat × List Effect :=
  (host.supervisor.inFlight, host.supervisor.queued, host.supervisor.startedMs, host.world.2)

abbrev lastingRunning (host : Host ι (W × List Effect)) :
    Bool × Option (PendingSave ι) × Option (PendingSave ι) × Nat × List Effect :=
  (host.supervisor.running, lasting host)

theorem lastingRunning_of_saved {host host' : Host ι (W × List Effect)}
    (h : saved host' = saved host) : lastingRunning host' = lastingRunning host := by
  have ⟨hs, hlog⟩ := Prod.mk.inj h
  simp [lastingRunning, lasting, hs, hlog]

theorem port_silent_keeps (wrap : String → Error) (f : W → Except String α × W) :
    Keeps saved (port wrap (silent f) : Method ι (W × List Effect) α) := by
  intro host
  rcases h : f host.world.1 with ⟨e | a, w'⟩ <;> simp [port, silent, h]

@[simp]
theorem logging_fst (effect : Effect) (f : W → Except String α × W) (w : W) (log : List Effect) :
    (logging effect f (w, log)).1 = (f w).1 := by
  rcases h : f w with ⟨e | a, w'⟩ <;> simp [logging, h]

@[simp]
theorem logged_signal (ports : Ports W) (signal : Signal) (w : W) (log : List Effect) :
    (ports.logged.signal signal (w, log)).1 = (ports.signal signal w).1 :=
  logging_fst _ _ w log

-- A port with an effect either fails, or has the effect.
theorem port_logging_cases (wrap : String → Error) (effect : Effect) (f : W → Except String α × W)
    (s : Supervisor ι) (w : W) (log : List Effect) :
    (∃ e w', (f w).1 = .error e ∧
      port wrap (logging effect f) ⟨s, w, log⟩ = .error (wrap e) ⟨s, w', log⟩) ∨
    (∃ a w', (f w).1 = .ok a ∧
      port wrap (logging effect f) ⟨s, w, log⟩ = .ok a ⟨s, w', log ++ [effect]⟩) := by
  rcases h : f w with ⟨e | a, w'⟩
  case error => exact .inl ⟨e, w', rfl, by simp [port, logging, h]⟩
  case ok => exact .inr ⟨a, w', rfl, by simp [port, logging, h]⟩

namespace Supervisor

section Evaluation

variable {ports : Ports W} {host : Host ι W}

@[simp]
theorem self_apply : (self : Method ι W _) host = .ok host.supervisor host := rfl

@[simp]
theorem update_apply {f : Supervisor ι → Supervisor ι} :
    (update f : Method ι W _) host = .ok () { host with supervisor := f host.supervisor } := rfl

@[simp]
theorem throw_apply {e : Error} : (throw e : Method ι W α) host = .error e host := rfl

@[simp]
theorem pure_apply {a : α} : (pure a : Method ι W α) host = .ok a host := rfl

theorem reading_nowMs (ports : Ports W) (s : Supervisor ι) (w : W) (log : List Effect) :
    (reading ports.logged.nowMs : Method ι (W × List Effect) Nat) ⟨s, w, log⟩ =
      .ok (ports.nowMs w).1 ⟨s, (ports.nowMs w).2, log⟩ := rfl

theorem followUp_none (h : host.supervisor.queued = none) :
    followUp ports host = .ok () ⟨{ host.supervisor with inFlight := none }, host.world⟩ := by
  unfold followUp
  rw [bind_ok update_apply, bind_ok self_apply]
  simp [h]

theorem followUp_some {next : PendingSave ι} (h : host.supervisor.queued = some next) :
    followUp ports host =
      signalSave ports next.recorderRequestId next.provenance
        ⟨{ host.supervisor with inFlight := none, queued := none }, host.world⟩ := by
  unfold followUp
  rw [bind_ok update_apply, bind_ok self_apply, h]
  exact bind_ok update_apply

theorem exited_running (ports : Ports W) (host : Host ι W) :
    (exited ports host).state.supervisor.running = false := by
  unfold exited
  rw [bind_ok update_apply, bind_ok self_apply]
  cases host.supervisor.shuttingDown <;> rfl

theorem restart_of_running (h : host.supervisor.running) :
    restart ports host = .ok () host := by
  unfold restart
  rw [bind_ok self_apply, if_neg (by simp [h])]
  rfl

end Evaluation

variable (ports : Ports W) (s : Supervisor ι) (w : W) (log : List Effect)

theorem validateOutput_keeps (path : Path) :
    Keeps saved (validateOutput ports.logged path : Method ι _ _) := by
  unfold validateOutput
  refine Within.bind (fun _ => rfl) fun s => Within.ite (fun _ => Within.throw) fun _ => ?_
  refine (port_silent_keeps _ _).bind fun _ => Within.ite (fun _ => Within.throw) fun _ => ?_
  refine (port_silent_keeps _ _).bind fun _ => Within.ite (fun _ => Within.throw) fun _ => ?_
  apply (port_silent_keeps _ _).bind
  intro contained
  exact Within.ite (fun _ => Within.throw) (fun _ => Within.pure)

theorem acceptOutput_keeps (path : Path) :
    Keeps saved (acceptOutput ports.logged path : Method ι _ _) :=
  (validateOutput_keeps ports path).bind fun _ => port_silent_keeps _ _

-- A new save is in flight as soon as its signal has reached the recorder.
theorem signalSave_cases (id : ι) (provenance : SaveProvenance) :
    (∃ e w', (ports.signal .user1 w).1 = .error e ∧
      signalSave ports.logged id provenance ⟨s, w, log⟩ = .error (.process e) ⟨s, w', log⟩) ∨
    (∃ wall now w', (ports.signal .user1 w).1 = .ok () ∧
      signalSave ports.logged id provenance ⟨s, w, log⟩ =
        .ok () ⟨{ s with inFlight := some ⟨id, provenance, wall, now⟩ }, w',
          log ++ [.delivered .user1]⟩) := by
  unfold signalSave
  rcases port_logging_cases Error.process (.delivered .user1) (ports.signal .user1) s w log with
    ⟨e, w', he, h⟩ | ⟨⟨⟩, w', ha, h⟩
  · exact .inl ⟨e, w', he, bind_error h⟩
  · exact .inr ⟨_, _, _, ha, bind_ok h⟩

-- The output is accepted, but the signal for the queued save fails.
def losesQueued (ports : Ports W) (path : Path) (host : Host ι W) : Bool :=
  host.supervisor.inFlight.isSome && host.supervisor.queued.isSome &&
    match acceptOutput ports path host with
    | .ok _ host' => !(ports.signal .user1 host'.world).1.isOk
    | .error _ _  => false

-- What the acknowledgement of an output does to the saves.
inductive Acknowledges (s : Supervisor ι) (log : List Effect) :
    Bool → Result Error (Host ι (W × List Effect)) (SaveAcknowledgement ι) → Prop
  | refused {e w} :
    Acknowledges s log false (.error e ⟨s, w, log⟩)
  | served {pending path media w} (inFlight : s.inFlight = some pending)
      (queued : s.queued = none) :
    Acknowledges s log false
      (.ok ⟨path, pending.recorderRequestId, pending.provenance, pending.requestedAtMs, media⟩
        ⟨{ s with inFlight := none }, w, log⟩)
  | followed {pending next path media wall now w} (inFlight : s.inFlight = some pending)
      (queued : s.queued = some next) :
    Acknowledges s log false
      (.ok ⟨path, pending.recorderRequestId, pending.provenance, pending.requestedAtMs, media⟩
        ⟨{ s with
            inFlight := some ⟨next.recorderRequestId, next.provenance, wall, now⟩
            queued   := none }, w, log ++ [.delivered .user1]⟩)
  | dropped {pending next e w} (inFlight : s.inFlight = some pending)
      (queued : s.queued = some next) :
    Acknowledges s log true
      (.error (.process e) ⟨{ s with inFlight := none, queued := none }, w, log⟩)

theorem acknowledge_acknowledges (path : Path) :
    Acknowledges s log (losesQueued ports.logged path ⟨s, w, log⟩)
      (acknowledge ports.logged path ⟨s, w, log⟩) := by
  unfold acknowledge losesQueued
  rw [bind_ok self_apply]
  cases hinFlight : s.inFlight <;> dsimp only
  case none => exact .refused
  case some pending =>
    rcases haccept : acceptOutput ports.logged path ⟨s, w, log⟩ with
      ⟨media, t, w', log'⟩ | ⟨e, t, w', log'⟩
    case error =>
      have hkeep : t = s ∧ log' = log := Prod.mk.inj ((acceptOutput_keeps ports path).error haccept)
      obtain ⟨rfl, rfl⟩ := hkeep
      rw [bind_error haccept]
      simpa using Acknowledges.refused
    case ok =>
      have hkeep : t = s ∧ log' = log := Prod.mk.inj ((acceptOutput_keeps ports path).ok haccept)
      obtain ⟨rfl, rfl⟩ := hkeep
      rw [bind_ok haccept]
      cases hqueued : t.queued
      case none =>
        rw [bind_ok (followUp_none hqueued)]
        exact .served hinFlight hqueued
      case some next =>
        have hfollow := @followUp_some _ _ ports.logged ⟨t, w', log'⟩ _ hqueued
        rcases signalSave_cases ports { t with inFlight := none, queued := none } w' log'
          next.recorderRequestId next.provenance with ⟨e, w'', he, h⟩ | ⟨wall, now, w'', ha, h⟩
        · rw [bind_error (hfollow.trans h)]
          simp only [logged_signal, he]
          exact .dropped hinFlight hqueued
        · rw [bind_ok (hfollow.trans h)]
          simp only [logged_signal, ha]
          exact .followed hinFlight hqueued

-- The output that is discovered is accepted, but the signal for the queued save fails.
def discoveryLosesQueued (ports : Ports W) (host : Host ι W) : Bool :=
  match host.supervisor.inFlight with
  | none         => false
  | some pending =>
    match ports.outputsSince host.supervisor.config.outputDirectory pending.sinceWallMs
        host.world with
    | (.ok (path :: _), world) => losesQueued ports path { host with world }
    | _                        => false

-- A discovery finds nothing, or acknowledges the first output.
theorem discoverSave_cases :
    (discoveryLosesQueued ports.logged ⟨s, w, log⟩ = false ∧ ∃ w',
      (∃ e, discoverSave ports.logged ⟨s, w, log⟩ = .error e ⟨s, w', log⟩) ∨
        discoverSave ports.logged ⟨s, w, log⟩ = .ok none ⟨s, w', log⟩) ∨
    (∃ path w', discoveryLosesQueued ports.logged ⟨s, w, log⟩ =
        losesQueued ports.logged path ⟨s, w', log⟩ ∧
      discoverSave ports.logged ⟨s, w, log⟩ =
        (acknowledge ports.logged path >>= fun a => pure (some a)) ⟨s, w', log⟩) := by
  unfold discoverSave discoveryLosesQueued
  rw [bind_ok self_apply]
  dsimp only
  cases hinFlight : s.inFlight
  case none => exact .inl ⟨rfl, w, .inl ⟨_, rfl⟩⟩
  case some pending =>
    dsimp only
    rcases hfiles : ports.outputsSince s.config.outputDirectory pending.sinceWallMs w with
      ⟨e | paths, w'⟩
    case error =>
      have h : port Error.filesystem (ports.logged.outputsSince s.config.outputDirectory
          pending.sinceWallMs) ⟨s, w, log⟩ = .error (.filesystem e) ⟨s, w', log⟩ := by
        simp [port, Ports.logged, silent, hfiles]
      rw [bind_error h]
      exact .inl ⟨by simp [Ports.logged, silent, hfiles], w', .inl ⟨_, rfl⟩⟩
    case ok =>
      have h : port Error.filesystem (ports.logged.outputsSince s.config.outputDirectory
          pending.sinceWallMs) ⟨s, w, log⟩ = .ok paths ⟨s, w', log⟩ := by
        simp [port, Ports.logged, silent, hfiles]
      rw [bind_ok h]
      cases paths
      case nil => exact .inl ⟨by simp [Ports.logged, silent, hfiles], w', .inr rfl⟩
      case cons path paths =>
        exact .inr ⟨path, w', by simp [Ports.logged, silent, hfiles], rfl⟩

-- What a discovery does to the saves.
inductive Discovers (s : Supervisor ι) (log : List Effect) :
    Result Error (Host ι (W × List Effect)) (Option (SaveAcknowledgement ι)) → Prop
  | failed (e : Error) (w : W) :
    Discovers s log (.error e ⟨s, w, log⟩)
  | nothing (w : W) :
    Discovers s log (.ok none ⟨s, w, log⟩)
  | served {pending : PendingSave ι} (a : SaveAcknowledgement ι) (w : W)
      (inFlight : s.inFlight = some pending) (queued : s.queued = none)
      (id : a.recorderRequestId = pending.recorderRequestId) :
    Discovers s log (.ok (some a) ⟨{ s with inFlight := none }, w, log⟩)
  | followed {pending next : PendingSave ι} (a : SaveAcknowledgement ι) (wall now : Nat) (w : W)
      (inFlight : s.inFlight = some pending) (queued : s.queued = some next)
      (id : a.recorderRequestId = pending.recorderRequestId) :
    Discovers s log (.ok (some a)
      ⟨{ s with
          inFlight := some ⟨next.recorderRequestId, next.provenance, wall, now⟩
          queued   := none }, w, log ++ [.delivered .user1]⟩)
  | dropped {pending next : PendingSave ι} (e : Error) (w : W)
      (inFlight : s.inFlight = some pending) (queued : s.queued = some next) :
    Discovers s log (.error e ⟨{ s with inFlight := none, queued := none }, w, log⟩)

theorem discoverSave_discovers :
    Discovers s log (discoverSave ports.logged ⟨s, w, log⟩) := by
  rcases discoverSave_cases ports s w log with ⟨_, w', ⟨e, h⟩ | h⟩ | ⟨path, w', _, h⟩ <;> rw [h]
  · exact .failed e w'
  · exact .nothing w'
  · have hack := acknowledge_acknowledges ports s w' log path
    generalize hresult : acknowledge ports.logged path ⟨s, w', log⟩ = result at hack
    generalize losesQueued ports.logged path ⟨s, w', log⟩ = loses at hack
    cases hack with
    | refused => rw [bind_error hresult]; exact .failed _ _
    | served inFlight queued =>
      rw [bind_ok hresult]
      exact .served _ _ inFlight queued rfl
    | followed inFlight queued =>
      rw [bind_ok hresult]
      exact .followed _ _ _ _ inFlight queued rfl
    | dropped inFlight queued =>
      rw [bind_error hresult]
      exact .dropped _ _ inFlight queued

-- A request does nothing, is signalled, or waits for the save in flight.
inductive Requests (s : Supervisor ι) (log : List Effect) (id : ι) (provenance : SaveProvenance) :
    Result Error (Host ι (W × List Effect)) (SaveRequestOutcome ι) → Prop
  | refused {e w} :
    Requests s log id provenance (.error e ⟨s, w, log⟩)
  | sent {wall now w} (running : s.running) (inFlight : s.inFlight = none) :
    Requests s log id provenance
      (.ok ⟨id, .signalled⟩
        ⟨{ s with inFlight := some ⟨id, provenance, wall, now⟩ }, w, log ++ [.delivered .user1]⟩)
  | coalesced {pending queued w} (inFlight : s.inFlight = some pending)
      (queued_eq : s.queued.getD ⟨id, provenance, 0, 0⟩ = queued) :
    Requests s log id provenance
      (.ok ⟨queued.recorderRequestId, .coalesced⟩
        ⟨{ s with queued := some (upgrade queued provenance) }, w, log⟩)

@[simp]
theorem upgrade_recorderRequestId {queued : PendingSave ι} {provenance : SaveProvenance} :
    (upgrade queued provenance).recorderRequestId = queued.recorderRequestId := by
  unfold upgrade
  split <;> rfl

theorem requestSave_requests (id : ι) (provenance : SaveProvenance) :
    Requests s log id provenance (requestSave ports.logged id provenance ⟨s, w, log⟩) := by
  unfold requestSave
  rw [bind_ok self_apply]
  dsimp only
  by_cases hrunning : s.running
  case neg =>
    rw [if_pos (by simp [hrunning])]
    exact .refused
  case pos =>
    rw [if_neg (by simp [hrunning])]
    cases hinFlight : s.inFlight
    case some pending =>
      rw [if_pos Option.isSome_some]
      exact .coalesced hinFlight rfl
    case none =>
      rw [if_neg (by simp)]
      rcases signalSave_cases ports s w log id provenance with
        ⟨e, w', he, h⟩ | ⟨wall, now, w', ha, h⟩
      · rw [bind_error h]
        exact .refused
      · rw [bind_ok h]
        exact .sent hrunning hinFlight

-- Nothing happens to the saves, but a new child may run.
inductive Spawns (host : Host ι (W × List Effect)) : Bool → Host ι (W × List Effect) → Prop
  | rests {host'} (lasting : lasting host' = lasting host)
      (running : host'.supervisor.running → host.supervisor.running) : Spawns host false host'
  | spawned {host'} (inFlight : host'.supervisor.inFlight = host.supervisor.inFlight)
      (queued : host'.supervisor.queued = host.supervisor.queued)
      (running : host'.supervisor.running) (log : host'.world.2 = host.world.2 ++ [.spawned]) :
    Spawns host true host'

namespace Spawns

variable {host host' host'' : Host ι (W × List Effect)} {spawns : Bool}

theorem of_lastingRunning (h : lastingRunning host' = lastingRunning host) :
    Spawns host false host' := by
  have ⟨hrunning, hlasting⟩ := Prod.mk.inj h
  exact .rests hlasting (by rw [hrunning]; exact id)

theorem after (h' : Spawns host' spawns host'') (h : lastingRunning host' = lastingRunning host) :
    Spawns host spawns host'' := by
  have ⟨hrunning, hlasting⟩ := Prod.mk.inj h
  simp only [lasting, Prod.mk.injEq] at hlasting
  cases h'
  case rests h' hrunning' =>
    exact .rests (h'.trans (Prod.mk.inj h).2) (hrunning ▸ hrunning')
  case spawned inFlight queued running log =>
    exact .spawned (inFlight.trans hlasting.1) (queued.trans hlasting.2.1) running
      (hlasting.2.2.2 ▸ log)

theorem saves (h : Spawns host spawns host') :
    host'.supervisor.inFlight = host.supervisor.inFlight ∧
      host'.supervisor.queued = host.supervisor.queued := by
  cases h with
  | rests hlasting _ =>
    simp only [lasting, Prod.mk.injEq] at hlasting
    exact ⟨hlasting.1, hlasting.2.1⟩
  | spawned inFlight queued _ _ => exact ⟨inFlight, queued⟩

theorem effects (h : Spawns host spawns host') :
    host'.world.2 = host.world.2 ∨ host'.world.2 = host.world.2 ++ [.spawned] := by
  cases h with
  | rests hlasting _ =>
    simp only [lasting, Prod.mk.injEq] at hlasting
    exact .inl hlasting.2.2.2
  | spawned _ _ _ log => exact .inr log

end Spawns

theorem spawn_spawns :
    Spawns ⟨s, w, log⟩ (ports.spawn s.config.launch.argv w).1.isOk
      (spawn ports.logged ⟨s, w, log⟩).state := by
  unfold spawn
  rw [bind_ok self_apply]
  rcases port_logging_cases Error.process .spawned (ports.spawn s.config.launch.argv) s w log with
    ⟨e, w', he, h⟩ | ⟨⟨⟩, w', ha, h⟩
  · have h' : port Error.process (ports.logged.spawn s.config.launch.argv) ⟨s, w, log⟩ = _ := h
    rw [he, bind_error h']
    exact .of_lastingRunning rfl
  · have h' : port Error.process (ports.logged.spawn s.config.launch.argv) ⟨s, w, log⟩ = _ := h
    rw [ha, bind_ok h']
    exact .spawned rfl rfl rfl rfl

-- The restart is due, and the new child can be spawned.
def respawns (ports : Ports W) (host : Host ι W) : Bool :=
  !host.supervisor.shuttingDown && !host.supervisor.running &&
    match host.supervisor.nextRestartMs with
    | none     => false
    | some due =>
      due ≤ (ports.nowMs host.world).1 &&
        (ports.spawn host.supervisor.config.launch.argv (ports.nowMs host.world).2).1.isOk

theorem respawns_of_running {ports : Ports W} {host : Host ι W} (h : host.supervisor.running) :
    respawns ports host = false := by
  simp [respawns, h]

theorem restart_spawns :
    Spawns ⟨s, w, log⟩ (respawns ports ⟨s, w⟩) (restart ports.logged ⟨s, w, log⟩).state := by
  unfold restart respawns
  rw [bind_ok self_apply]
  dsimp only
  by_cases hidle : (!s.shuttingDown && !s.running) = true
  case neg =>
    rw [if_neg hidle, Bool.eq_false_of_not_eq_true hidle]
    exact .of_lastingRunning rfl
  case pos =>
    rw [if_pos hidle, hidle]
    cases s.nextRestartMs
    case none => exact .of_lastingRunning rfl
    case some due =>
      dsimp only
      rw [bind_ok (reading_nowMs ports s w log), Bool.true_and]
      by_cases hdue : due ≤ (ports.nowMs w).1
      case neg =>
        rw [if_neg hdue, decide_eq_false hdue]
        exact .of_lastingRunning rfl
      case pos =>
        rw [if_pos hdue, decide_eq_true hdue, Bool.true_and]
        exact (spawn_spawns ports s (ports.nowMs w).2 log).after rfl

theorem settle_keeps : Keeps lastingRunning (settle ports.logged : Method ι _ _) := by
  refine Within.bind (fun _ => rfl) fun s => Within.ite (fun _ => ?_) fun _ => Within.pure
  refine Within.bind (fun _ => rfl) fun _ => Within.ite (fun _ => ?_) fun _ => Within.pure
  exact fun _ => rfl

theorem exited_keeps : Keeps lasting (exited ports.logged : Method ι _ _) := by
  refine Within.bind (fun _ => rfl) fun _ => Within.bind (fun _ => rfl) fun s =>
    Within.ite (fun _ => ?_) fun _ => Within.pure
  refine Within.bind (fun _ => rfl) fun _ => Within.bind (fun _ => rfl) fun _ => ?_
  exact fun _ => rfl

-- A poll of a recorder that runs: it may exit, but no new one is spawned.
theorem poll_running (h : s.running) :
    Spawns ⟨s, w, log⟩ false
      ((settle ports.logged >>= fun _ => port .process ports.logged.tryWait >>= fun
        | some code => exited ports.logged >>= fun _ => pure (some code)
        | none      => restart ports.logged >>= fun _ => pure none : Method ι _ (Option Int))
          ⟨s, w, log⟩).state := by
  rcases hsettle : settle ports.logged ⟨s, w, log⟩ with ⟨⟨⟩, host⟩ | ⟨e, host⟩
  case error =>
    rw [bind_error hsettle]
    exact .of_lastingRunning ((settle_keeps ports).error hsettle)
  case ok =>
    rw [bind_ok hsettle]
    have hkeep := (settle_keeps ports).ok hsettle
    rcases hwait : (port .process ports.logged.tryWait : Method ι _ _) host with
      ⟨_ | code, host'⟩ | ⟨e, host'⟩
    case error =>
      rw [bind_error hwait]
      have h' := lastingRunning_of_saved ((port_silent_keeps _ _).error hwait)
      exact .of_lastingRunning (h'.trans hkeep)
    case ok.none =>
      rw [bind_ok hwait]
      have h' := (lastingRunning_of_saved ((port_silent_keeps _ _).ok hwait)).trans hkeep
      have hrunning : host'.supervisor.running := (Prod.mk.inj h').1.trans h
      dsimp only
      rw [bind_ok (restart_of_running hrunning)]
      exact .of_lastingRunning h'
    case ok.some =>
      rw [bind_ok hwait]
      have h' := (lastingRunning_of_saved ((port_silent_keeps _ _).ok hwait)).trans hkeep
      have hlasting := (exited_keeps ports host').trans (Prod.mk.inj h').2
      have hrunning := exited_running ports.logged host'
      dsimp only
      rcases hexit : exited ports.logged host' with ⟨⟨⟩, host''⟩ | ⟨e, host''⟩ <;>
        rw [hexit] at hlasting hrunning
      case ok =>
        rw [bind_ok hexit]
        exact .rests hlasting (by simp_all)
      case error =>
        rw [bind_error hexit]
        exact .rests hlasting (by simp_all)

-- The restart that a poll attempts succeeds.
def pollSpawns (ports : Ports W) (host : Host ι W) : Bool :=
  match ports.drainStderr host.world with
  | (.error _, _) => false
  | (.ok _, w)    => respawns ports { host with world := w }

theorem appendStderr_error {e : String} {w' : W} (h : ports.drainStderr w = (.error e, w')) :
    appendStderr ports.logged ⟨s, w, log⟩ = .error (.process e) ⟨s, w', log⟩ :=
  bind_error (by simp [port, Ports.logged, silent, h])

theorem appendStderr_ok {bytes : List UInt8} {w' : W} (h : ports.drainStderr w = (.ok bytes, w')) :
    appendStderr ports.logged ⟨s, w, log⟩ =
      .ok () ⟨{ s with stderr := bytes.foldl (pushStderr s.config.maxStderrBytes) s.stderr },
        w', log⟩ := by
  have hport : port Error.process ports.logged.drainStderr ⟨s, w, log⟩ = .ok bytes ⟨s, w', log⟩ := by
    simp [port, Ports.logged, silent, h]
  exact bind_ok hport

theorem poll_spawns :
    Spawns ⟨s, w, log⟩ (pollSpawns ports ⟨s, w⟩) (poll ports.logged ⟨s, w, log⟩).state := by
  unfold poll pollSpawns
  rcases hdrain : ports.drainStderr w with ⟨e | bytes, w'⟩ <;> dsimp only
  case error =>
    rw [bind_error (appendStderr_error ports s w log hdrain)]
    exact .of_lastingRunning rfl
  case ok =>
    let t := { s with stderr := bytes.foldl (pushStderr s.config.maxStderrBytes) s.stderr }
    have happend : appendStderr ports.logged ⟨s, w, log⟩ = .ok () ⟨t, w', log⟩ :=
      appendStderr_ok ports s w log hdrain
    rw [bind_ok happend, bind_ok self_apply]
    by_cases hrunning : t.running
    case pos =>
      have hno : respawns ports ⟨s, w'⟩ = false := respawns_of_running hrunning
      rw [if_pos hrunning, hno]
      exact (poll_running ports t w' log hrunning).after rfl
    case neg =>
      rw [if_neg hrunning, state_bind_pure]
      exact (restart_spawns ports t w' log).after rfl

-- A shutdown changes nothing but the plans of the supervisor, and may interrupt the recorder.
theorem shutdown_cases :
    ∃ w' log', (log' = log ∨ log' = log ++ [.delivered .interrupt]) ∧
      (shutdown ports.logged ⟨s, w, log⟩).state =
        ⟨{ s with shuttingDown := true, nextRestartMs := none }, w', log'⟩ := by
  unfold shutdown
  rw [bind_ok update_apply, bind_ok self_apply]
  by_cases hrunning : s.running
  case neg =>
    rw [if_neg hrunning]
    exact ⟨w, log, .inl rfl, rfl⟩
  case pos =>
    rw [if_pos hrunning]
    rcases port_logging_cases Error.process (.delivered .interrupt) (ports.signal .interrupt)
      { s with shuttingDown := true, nextRestartMs := none } w log with
      ⟨e, w', he, h⟩ | ⟨⟨⟩, w', ha, h⟩
    · have h' : port Error.process (ports.logged.signal .interrupt) _ = _ := h
      rw [h']
      exact ⟨w', log, .inl rfl, rfl⟩
    · have h' : port Error.process (ports.logged.signal .interrupt) _ = _ := h
      rw [h']
      exact ⟨w', _, .inr rfl, rfl⟩

end Supervisor

end Capture
