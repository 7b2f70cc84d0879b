import OpenFrag.Capture.Theorems.Supervisor

open EStateM

namespace Capture.Supervisor

variable {ι W α : Type}

-- The call loses the queued save: its output is accepted, but the next signal fails.
def loses (ports : Ports W) (call : Call ι × W) (s : Supervisor ι) : Bool :=
  match call.1 with
  | .acknowledge path => losesQueued ports.logged path ⟨s, call.2, []⟩
  | .discoverSave     => discoveryLosesQueued ports.logged ⟨s, call.2, []⟩
  | _                 => false

-- A new child runs after the call.
def spawns (ports : Ports W) (call : Call ι × W) (s : Supervisor ι) : Bool :=
  match call.1 with
  | .start => (ports.spawn s.config.launch.argv call.2).1.isOk
  | .poll  => pollSpawns ports ⟨s, call.2⟩
  | _      => false

-- All that a call can do: `lost` and `spawned` are decided before the call.
inductive Answers (s : Supervisor ι) :
    Call ι → (lost spawned : Bool) → Answer ι → Supervisor ι → Prop
  | rests {call answer s'} (outcome : answer.outcome? = none)
      (acknowledgement : answer.acknowledgement? = none) (inFlight : s'.inFlight = s.inFlight)
      (queued : s'.queued = s.queued) (startedMs : s'.startedMs = s.startedMs)
      (running : s'.running → s.running)
      (effects : answer.effects = [] ∨ answer.effects = [.delivered .interrupt]) :
    Answers s call false false answer s'
  | spawned {call answer s'} (outcome : answer.outcome? = none)
      (acknowledgement : answer.acknowledgement? = none) (inFlight : s'.inFlight = s.inFlight)
      (queued : s'.queued = s.queued) (running : s'.running)
      (effects : answer.effects = [.spawned]) :
    Answers s call false true answer s'
  | sent {id provenance wall now} (running : s.running) (inFlight : s.inFlight = none) :
    Answers s (.requestSave id provenance) false false
      ⟨.ok (.requested ⟨id, .signalled⟩), [.delivered .user1]⟩
      { s with inFlight := some ⟨id, provenance, wall, now⟩ }
  | coalesced {id provenance pending queued} (inFlight : s.inFlight = some pending)
      (queued_eq : s.queued.getD ⟨id, provenance, 0, 0⟩ = queued) :
    Answers s (.requestSave id provenance) false false
      ⟨.ok (.requested ⟨queued.recorderRequestId, .coalesced⟩), []⟩
      { s with queued := some (upgrade queued provenance) }
  | served {call answer pending path media} (inFlight : s.inFlight = some pending)
      (queued : s.queued = none) (outcome : answer.outcome? = none)
      (acknowledgement : answer.acknowledgement? = some
        ⟨path, pending.recorderRequestId, pending.provenance, pending.requestedAtMs, media⟩)
      (effects : answer.effects = []) :
    Answers s call false false answer { s with inFlight := none }
  | followed {call answer pending next path media wall now} (inFlight : s.inFlight = some pending)
      (queued : s.queued = some next) (outcome : answer.outcome? = none)
      (acknowledgement : answer.acknowledgement? = some
        ⟨path, pending.recorderRequestId, pending.provenance, pending.requestedAtMs, media⟩)
      (effects : answer.effects = [.delivered .user1]) :
    Answers s call false false answer
      { s with
        inFlight := some ⟨next.recorderRequestId, next.provenance, wall, now⟩
        queued   := none }
  | dropped {call answer pending next} (inFlight : s.inFlight = some pending)
      (queued : s.queued = some next) (outcome : answer.outcome? = none)
      (acknowledgement : answer.acknowledgement? = none) (effects : answer.effects = []) :
    Answers s call true false answer { s with inFlight := none, queued := none }

variable (ports : Ports W) (s : Supervisor ι) (w : W)

-- How a method ends, as an answer.
def answered (g : α → Reply ι) :
    Result Error (Host ι (W × List Effect)) α → Answer ι × Supervisor ι
  | .ok a host    => (⟨.ok (g a), host.world.2⟩, host.supervisor)
  | .error e host => (⟨.error e, host.world.2⟩, host.supervisor)

theorem answered_bind_pure {β : Type} {x : Method ι (W × List Effect) α} {f : α → β}
    {g : β → Reply ι} {host : Host ι (W × List Effect)} :
    answered g ((x >>= fun a => pure (f a)) host) = answered (fun a => g (f a)) (x host) := by
  rcases hx : x host with ⟨a, host'⟩ | ⟨e, host'⟩
  case ok => rw [bind_ok hx]; rfl
  case error => rw [bind_error hx]; rfl

theorem answer_of_map {x : Method ι (W × List Effect) α} {g : α → Reply ι} {call : Call ι}
    (h : perform ports.logged call = x >>= fun a => pure (g a)) :
    answer ports (call, w) s = answered g (x ⟨s, w, []⟩) := by
  have hanswer : answer ports (call, w) s = answered id (perform ports.logged call ⟨s, w, []⟩) := by
    unfold answer
    cases perform ports.logged call ⟨s, w, []⟩ <;> rfl
  rw [hanswer, h, answered_bind_pure]
  rfl

section Answered

variable {x : Result Error (Host ι (W × List Effect)) α} {g : α → Reply ι}
variable {s : Supervisor ι} {w : W}

theorem answered_outcome? (h : ∀ a, (g a).outcome? = none) :
    (answered g x).1.outcome? = none := by
  cases x
  case ok a _ => exact h a
  case error => rfl

theorem answered_acknowledgement? (h : ∀ a, (g a).acknowledgement? = none) :
    (answered g x).1.acknowledgement? = none := by
  cases x
  case ok a _ => exact h a
  case error => rfl

theorem Spawns.answers {call : Call ι} {spawned : Bool} (h : Spawns ⟨s, w, []⟩ spawned x.state)
    (houtcome : ∀ a, (g a).outcome? = none) (hack : ∀ a, (g a).acknowledgement? = none) :
    Answers s call false spawned (answered g x).1 (answered g x).2 := by
  have houtcome := answered_outcome? (x := x) houtcome
  have hack := answered_acknowledgement? (x := x) hack
  have heffects : (answered g x).1.effects = x.state.world.2 := by cases x <;> rfl
  have hs : (answered g x).2 = x.state.supervisor := by cases x <;> rfl
  cases h
  case rests hlasting hrunning =>
    simp only [lasting, ← hs, Prod.mk.injEq] at hlasting
    exact .rests houtcome hack hlasting.1 hlasting.2.1 hlasting.2.2.1 (hs ▸ hrunning)
      (.inl (heffects.trans hlasting.2.2.2))
  case spawned inFlight queued running log =>
    rw [← hs] at inFlight queued running
    exact .spawned houtcome hack inFlight queued running (heffects.trans log)

theorem Requests.answers {id : ι} {provenance : SaveProvenance}
    {x : Result Error (Host ι (W × List Effect)) (SaveRequestOutcome ι)}
    (h : Requests s [] id provenance x) :
    Answers s (.requestSave id provenance) false false (answered .requested x).1
      (answered .requested x).2 := by
  cases h
  case refused => exact .rests rfl rfl rfl rfl rfl (fun h => h) (.inl rfl)
  case sent hrunning hinFlight => exact .sent hrunning hinFlight
  case coalesced hinFlight hqueued => exact .coalesced hinFlight hqueued

theorem Acknowledges.answers {call : Call ι} {lost : Bool} {g : SaveAcknowledgement ι → Reply ι}
    {x : Result Error (Host ι (W × List Effect)) (SaveAcknowledgement ι)}
    (h : Acknowledges s [] lost x) (houtcome : ∀ a, (g a).outcome? = none)
    (hack : ∀ a, (g a).acknowledgement? = some a) :
    Answers s call lost false (answered g x).1 (answered g x).2 := by
  cases h
  case refused => exact .rests rfl rfl rfl rfl rfl id (.inl rfl)
  case served hinFlight hqueued => exact .served hinFlight hqueued (houtcome _) (hack _) rfl
  case followed hinFlight hqueued => exact .followed hinFlight hqueued (houtcome _) (hack _) rfl
  case dropped hinFlight hqueued => exact .dropped hinFlight hqueued rfl rfl rfl

end Answered

theorem discoverSave_answers :
    Answers s .discoverSave (loses ports (.discoverSave, w) s) false
      (answered .discovered (discoverSave ports.logged ⟨s, w, []⟩)).1
      (answered .discovered (discoverSave ports.logged ⟨s, w, []⟩)).2 := by
  unfold loses
  rcases discoverSave_cases ports s w [] with ⟨hlost, w', ⟨e, h⟩ | h⟩ | ⟨path, w', hlost, h⟩
  · rw [h, hlost]
    exact .rests rfl rfl rfl rfl rfl id (.inl rfl)
  · rw [h, hlost]
    exact .rests rfl rfl rfl rfl rfl id (.inl rfl)
  · rw [h, hlost, answered_bind_pure]
    exact (acknowledge_acknowledges ports s w' [] path).answers (fun _ => rfl) fun _ => rfl

theorem shutdown_answers :
    Answers s .shutdown false false
      (answered (fun _ => .done) (shutdown ports.logged ⟨s, w, []⟩)).1
      (answered (fun _ => .done) (shutdown ports.logged ⟨s, w, []⟩)).2 := by
  obtain ⟨w', log', hlog, hstate⟩ := shutdown_cases ports s w []
  rcases h : shutdown ports.logged ⟨s, w, []⟩ with ⟨⟨⟩, host⟩ | ⟨e, host⟩ <;>
    (rw [h] at hstate; cases hstate; exact .rests rfl rfl rfl rfl rfl id hlog)

theorem answer_answers (call : Call ι × W) :
    Answers s call.1 (loses ports call s) (spawns ports call s) (answer ports call s).1
      (answer ports call s).2 := by
  obtain ⟨call, w⟩ := call
  cases call
  case start =>
    rw [answer_of_map ports s w (x := start ports.logged) (g := fun _ => .done) rfl]
    exact (spawn_spawns ports s w []).answers (fun _ => rfl) fun _ => rfl
  case poll =>
    rw [answer_of_map ports s w (x := poll ports.logged) (g := .polled) rfl]
    exact (poll_spawns ports s w []).answers (fun _ => rfl) fun _ => rfl
  case requestSave id provenance =>
    rw [answer_of_map ports s w (x := requestSave ports.logged id provenance) (g := .requested) rfl]
    exact (requestSave_requests ports s w [] id provenance).answers
  case discoverSave =>
    rw [answer_of_map ports s w (x := discoverSave ports.logged) (g := .discovered) rfl]
    exact discoverSave_answers ports s w
  case acknowledge path =>
    rw [answer_of_map ports s w (x := acknowledge ports.logged path) (g := .acknowledged) rfl]
    exact (acknowledge_acknowledges ports s w [] path).answers (fun _ => rfl) fun _ => rfl
  case shutdown =>
    rw [answer_of_map ports s w (x := shutdown ports.logged) (g := fun _ => .done) rfl]
    exact shutdown_answers ports s w

theorem step_answers (call : Call ι × W) :
    Answers s (Machine.step (answer ports) s call).call.1 (loses ports call s)
      (spawns ports call s) (Machine.step (answer ports) s call).reply
      (Machine.step (answer ports) s call).after :=
  answer_answers ports s call

end Capture.Supervisor
