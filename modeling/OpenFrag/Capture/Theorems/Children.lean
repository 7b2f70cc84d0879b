import OpenFrag.Capture.Theorems.Answers

namespace Capture

variable {ι W : Type}

-- The save was put in flight by a signal, and no child has been spawned since.
def SentToRunningChild (steps : List (Step ι W)) (pending : PendingSave ι) : Prop :=
  ∃ earlier sent later, steps = earlier ++ sent :: later ∧ sent.after.inFlight = some pending ∧
    sent.reply.effects = [.delivered .user1] ∧ ∀ step ∈ later, .spawned ∉ step.reply.effects

theorem SentToRunningChild.last {steps : List (Step ι W)} {step : Step ι W}
    {pending : PendingSave ι} (hafter : step.after.inFlight = some pending)
    (heffects : step.reply.effects = [.delivered .user1]) :
    SentToRunningChild (steps ++ [step]) pending :=
  ⟨steps, step, [], rfl, hafter, heffects, by simp⟩

theorem SentToRunningChild.append {steps : List (Step ι W)} {step : Step ι W}
    {pending : PendingSave ι} (h : SentToRunningChild steps pending)
    (hstep : .spawned ∉ step.reply.effects) : SentToRunningChild (steps ++ [step]) pending := by
  obtain ⟨earlier, sent, later, rfl, hafter, heffects, hlater⟩ := h
  refine ⟨earlier, sent, later ++ [step], by simp, hafter, heffects, ?_⟩
  intro step' hstep'
  rcases List.mem_append.mp hstep' with hstep' | hstep'
  · exact hlater step' hstep'
  · rwa [List.mem_singleton.mp hstep']

-- The save in flight belonged to a child before the last one.
theorem SentToRunningChild.not_spawned {steps : List (Step ι W)} {step : Step ι W}
    {pending : PendingSave ι} (hstep : step.reply.effects = [.spawned]) :
    ¬SentToRunningChild (steps ++ [step]) pending := by
  intro ⟨earlier, sent, later, heq, _, heffects, hlater⟩
  rcases List.eq_nil_or_concat later with rfl | ⟨later, last, rfl⟩
  case inl =>
    have hlast := (List.append_inj' heq rfl).2
    simp_all
  case inr =>
    rw [List.concat_eq_append, ← List.cons_append, ← List.append_assoc] at heq
    have hlast : step = last := List.singleton_inj.mp (List.append_inj' heq rfl).2
    exact hlater last (by simp) (by simp [← hlast, hstep])

-- While the recorder runs, a save in flight waits for the child that runs.
def ReachesRunningChild (steps : List (Step ι W)) (s : Supervisor ι) : Prop :=
  s.running → ∀ pending, s.inFlight = some pending → SentToRunningChild steps pending

namespace Supervisor

theorem Answers.sentToRunningChild {steps : List (Step ι W)} {step : Step ι W} {s : Supervisor ι}
    {lost spawned : Bool} (h : Answers s step.call.1 lost spawned step.reply step.after)
    (hs : ∀ pending, s.inFlight = some pending → SentToRunningChild steps pending)
    (hspawned : spawned = true → s.inFlight = none) (pending : PendingSave ι)
    (hpending : step.after.inFlight = some pending) :
    SentToRunningChild (steps ++ [step]) pending := by
  obtain ⟨before, ⟨call, w⟩, reply, after⟩ := step
  dsimp only at h hpending
  cases h with
  | rests _ _ inFlight _ _ _ effects =>
    apply (hs pending (inFlight ▸ hpending)).append
    rcases effects with effects | effects <;> simp [effects]
  | spawned _ _ inFlight =>
    rw [inFlight, hspawned rfl] at hpending
    cases hpending
  | sent => exact .last hpending rfl
  | coalesced =>
    apply (hs pending hpending).append
    simp
  | served => cases hpending
  | followed _ _ _ _ effects => exact .last hpending effects
  | dropped => cases hpending

theorem Answers.inFlight_of_spawned {steps : List (Step ι W)} {step : Step ι W} {s : Supervisor ι}
    {lost : Bool} (h : Answers s step.call.1 lost true step.reply step.after)
    (hstep : ReachesRunningChild (steps ++ [step]) step.after) : s.inFlight = none := by
  obtain ⟨before, ⟨call, w⟩, reply, after⟩ := step
  dsimp only at h hstep
  cases h with
  | spawned _ _ inFlight _ running effects =>
    cases hinFlight : s.inFlight
    case none => rfl
    case some pending =>
      have hsent := hstep running pending (inFlight.trans hinFlight)
      exact absurd hsent (SentToRunningChild.not_spawned effects)

-- The saves in flight wait for the running child exactly as long as no child is spawned while a
-- save is in flight.
theorem reachesRunningChild_iff (ports : Ports W) (config : Config)
    (calls : List (Call ι × W)) :
    Machine.Always (answer ports) ReachesRunningChild [] (new config) calls ↔
      Machine.Each (answer ports)
        (fun _ s call => spawns ports call s = true → s.inFlight = none) [] (new config) calls := by
  refine Machine.always_iff_each
    (I := fun steps s => ∀ pending, s.inFlight = some pending → SentToRunningChild steps pending)
    ?hI ?hstep ?hfine ?hs Machine.Each.trivial
  case hI => exact fun _ _ h _ => h
  case hstep =>
    intro steps s call hs _ hfine
    exact (step_answers ports s call).sentToRunningChild hs hfine
  case hfine =>
    intro steps s call hs _ hP hspawns
    have h := step_answers ports s call
    rw [hspawns] at h
    exact h.inFlight_of_spawned hP
  case hs => exact fun _ h => nomatch h

-- The recorder exits before its output is found, and the next one is spawned.
def respawnDemo : List (Call Nat × FakeWorld) :=
  [(.start, { clock := 0 }),
    (.requestSave 1 .autoRoundEnd, { clock := 5000 }),
    (.poll, { clock := 5010, exit := some 9 }),
    (.poll, { clock := 6010 })]

theorem reachesRunningChild_fails_respawn :
    ¬Machine.Always (answer fakePorts) ReachesRunningChild [] (new fakeConfig) respawnDemo := by
  intro ⟨_, _, _, _, h⟩
  have hsent := h rfl ⟨1, .autoRoundEnd, 5000, 5000⟩ rfl
  exact SentToRunningChild.not_spawned rfl hsent

end Supervisor

end Capture
