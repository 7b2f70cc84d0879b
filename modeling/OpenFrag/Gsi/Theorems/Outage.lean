import OpenFrag.Gsi.Outage
import OpenFrag.Gsi.Theorems.Service

namespace Gsi

open GsiService

variable {service : GsiService} {engine engine' : EngineState} {call : Call} {reply : Reply Answer}
variable {calls : List Call} {steps : List Step} {step : Step}

namespace Outages

theorem nil : Outages service [] where
  lapsed   := by simp
  compared := by simp

theorem snoc (h : Outages service steps)
    (hlapsed : isOutage service step → ∀ earlier ∈ steps, isValid service earlier.call →
      earlier.call.now + staleAfter service.config.heartbeat ≤ step.call.now)
    (hcompared : (∃ e ∈ emission service step, e.receipt.facts ≠ []) →
      (∃ accepted ∈ steps, isAccepted service accepted) ∧
      ∀ between ∈ sinceAccepted service steps,
        ¬isOutage service between ∧ ¬isForeign service between.call ∧
          ¬isMalformed service between.call) :
    Outages service (steps ++ [step]) where
  lapsed   := by
    intro before last hbefore
    rcases List.prefix_concat_iff.mp hbefore with heq | hbefore
    · obtain ⟨rfl, hlast⟩ := List.append_inj' heq rfl
      obtain rfl := List.singleton_inj.mp hlast
      exact hlapsed
    · exact h.lapsed before last hbefore
  compared := by
    intro before last hbefore
    rcases List.prefix_concat_iff.mp hbefore with heq | hbefore
    · obtain ⟨rfl, hlast⟩ := List.append_inj' heq rfl
      obtain rfl := List.singleton_inj.mp hlast
      exact hcompared
    · exact h.compared before last hbefore

theorem of_append {steps' : List Step} (h : Outages service (steps ++ steps')) :
    Outages service steps where
  lapsed   := fun before step hbefore =>
    h.lapsed before step (hbefore.trans (List.prefix_append _ _))
  compared := fun before step hbefore =>
    h.compared before step (hbefore.trans (List.prefix_append _ _))

end Outages

theorem sinceAccepted_snoc (h : isAccepted service step = false) :
    sinceAccepted service (steps ++ [step]) = sinceAccepted service steps ++ [step] :=
  List.rtakeWhile_concat_pos _ _ _ (by simpa using h)

theorem sinceAccepted_accepted (h : isAccepted service step) :
    sinceAccepted service (steps ++ [step]) = [] :=
  List.rtakeWhile_concat_neg _ _ _ (by simpa using h)

-- What the engine knows of the steps of its run.
structure Watches (service : GsiService) (steps : List Step) (engine : EngineState) : Prop where
  outages  : Outages service steps
  received : ∀ lastReceivedAt ∈ engine.lastReceivedAt, ∀ earlier ∈ steps,
    isAccepted service earlier → earlier.call.now ≤ lastReceivedAt
  baseline : engine.snapshot.isSome →
    (∃ accepted ∈ steps, isAccepted service accepted) ∧
    ∀ between ∈ sinceAccepted service steps, ¬isOutage service between ∧ ¬isForeign service between.call

theorem isAccepted_of_none (h : emission service step = none) : isAccepted service step = false := by
  simp [isAccepted, h]

theorem isOutage_of_none (h : emission service step = none) : isOutage service step = false := by
  simp [isOutage, h]

theorem posted_eq {request : Request} {now : Nat} {sink : EventSink} {payload : Payload}
    (h : posted service ⟨.post request, now, sink⟩ = some payload) :
    service.admission request = .valid payload := by
  simp only [posted] at h
  cases hadmit : service.admission request <;> simp_all

namespace Watches

theorem start : Watches service [] {} where
  outages  := .nil
  received := by simp
  baseline := by simp

-- A step without a receipt can only forget.
theorem silent (h : Watches service steps engine) (hnone : emission service step = none)
    (hreceived : ∀ lastReceivedAt ∈ engine'.lastReceivedAt, lastReceivedAt ∈ engine.lastReceivedAt)
    (hbaseline : engine'.snapshot.isSome → engine.snapshot.isSome ∧ ¬isForeign service step.call) :
    Watches service (steps ++ [step]) engine' where
  outages  := h.outages.snoc (by simp [isOutage_of_none hnone]) (by simp [hnone])
  received := by
    intro lastReceivedAt hlast earlier hearlier haccepted
    rcases List.mem_append.mp hearlier with hearlier | hearlier
    · exact h.received lastReceivedAt (hreceived lastReceivedAt hlast) earlier hearlier haccepted
    · obtain rfl := List.mem_singleton.mp hearlier
      simp [isAccepted_of_none hnone] at haccepted
  baseline := by
    intro hsome
    have ⟨hsome, hfamiliar⟩ := hbaseline hsome
    have ⟨⟨accepted, hmem, haccepted⟩, hbetween⟩ := h.baseline hsome
    refine ⟨⟨accepted, List.mem_append_left _ hmem, haccepted⟩, fun between hmem => ?_⟩
    rw [sinceAccepted_snoc (isAccepted_of_none hnone)] at hmem
    rcases List.mem_append.mp hmem with hmem | hmem
    · exact hbetween between hmem
    · obtain rfl := List.mem_singleton.mp hmem
      exact ⟨by simp [isOutage_of_none hnone], hfamiliar⟩

-- An accepted payload is a new baseline.
theorem accepted (h : Watches service steps engine) (haccepted : isAccepted service step)
    (houtage : isOutage service step = false) (hclock : ∀ earlier ∈ steps,
      earlier.call.now ≤ step.call.now) (hreceived : engine'.lastReceivedAt = some step.call.now)
    (hcompared : (∃ e ∈ emission service step, e.receipt.facts ≠ []) →
      engine.snapshot.isSome ∧ ∀ between ∈ sinceAccepted service steps,
        ¬isMalformed service between.call) :
    Watches service (steps ++ [step]) engine' where
  outages  := h.outages.snoc (by simp [houtage]) fun hfacts => by
    have ⟨hsome, hmalformed⟩ := hcompared hfacts
    have ⟨hprevious, hbetween⟩ := h.baseline hsome
    exact ⟨hprevious, fun between hmem =>
      ⟨(hbetween between hmem).1, (hbetween between hmem).2, hmalformed between hmem⟩⟩
  received := by
    intro lastReceivedAt hlast earlier hearlier _
    obtain rfl := Option.some.inj (hreceived.symm.trans hlast)
    rcases List.mem_append.mp hearlier with hearlier | hearlier
    · exact hclock earlier hearlier
    · obtain rfl := List.mem_singleton.mp hearlier
      exact Nat.le_refl _
  baseline := by
    simp [sinceAccepted_accepted haccepted, haccepted]

theorem lapsed (h : Watches service steps engine) (hnone : isAccepted service step = false)
    (hfacts : ∀ e ∈ emission service step, e.receipt.facts = [])
    (hlapsed : ∀ earlier ∈ steps, isValid service earlier.call →
      earlier.call.now + staleAfter service.config.heartbeat ≤ step.call.now)
    (hreceived : engine'.lastReceivedAt = engine.lastReceivedAt) (hsnapshot : engine'.snapshot = none) :
    Watches service (steps ++ [step]) engine' where
  outages  := h.outages.snoc (fun _ => hlapsed) fun ⟨e, he, hne⟩ => absurd (hfacts e he) hne
  received := by
    intro lastReceivedAt hlast earlier hearlier haccepted
    rcases List.mem_append.mp hearlier with hearlier | hearlier
    · exact h.received lastReceivedAt (hreceived ▸ hlast) earlier hearlier haccepted
    · obtain rfl := List.mem_singleton.mp hearlier
      simp [hnone] at haccepted
  baseline := by
    simp [hsnapshot]

theorem moves (h : Watches service steps engine) (hclock : Clocked steps engine call)
    (hregular : Regular service steps engine call)
    (hmove : Moves service engine call reply engine') :
    Watches service (steps ++ [⟨engine, call, reply, engine'⟩]) engine' := by
  cases hmove
  case rejected hadmit    => apply h.silent rfl <;> simp [isForeign, hadmit]
  case foreign            => apply h.silent rfl <;> simp [EngineState.clearTransitionBaselines]
  case duplicate hadmit _ => apply h.silent rfl <;> simp [isForeign, hadmit]
  case failed hadmit _ _  => apply h.silent rfl <;> simp [isForeign, hadmit]
  case quiet              => apply h.silent rfl <;> simp [isForeign]
  case unheard            => apply h.silent rfl <;> simp [isForeign]
  case accepted request now sink payload hadmit hnew hsink =>
    have hposted := posted_valid hadmit now sink
    apply h.accepted
    · simp [isAccepted, emission, hposted]
    · simpa [isOutage, emission] using Tracks.output_ne_stale
    · exact hclock
    · rfl
    · rintro ⟨e, he, hfacts⟩
      obtain rfl := Option.some.inj he
      refine ⟨?_, hregular payload hposted hnew hsink hfacts⟩
      simp only [receipt, observe] at hfacts
      split at hfacts
      case isTrue  => simp at hfacts
      case isFalse =>
        cases hsnapshot : engine.snapshot
        case none => simp [hsnapshot] at hfacts
        case some => simp
  case lapsed now sink receipt houtage hsink =>
    obtain ⟨lastReceivedAt, hlast, _, hdue, _, _, hfacts⟩ := outage_cases houtage
    apply h.lapsed
    · rfl
    · simpa [emission] using hfacts
    · intro earlier hearlier hvalid
      by_cases haccepted : isAccepted service earlier
      · have hle := h.received lastReceivedAt hlast earlier hearlier haccepted
        have hclock := hclock earlier hearlier
        simp only at hclock ⊢
        omega
      · exact hregular receipt houtage hsink earlier hearlier (by simp [isRefused, hvalid, haccepted])
    · rfl
    · rfl

end Watches

-- A step that is not regular breaks what is said about outages.
theorem Regular.of_outages
    (h : Outages service (steps ++ [Machine.step (answer service) engine call])) :
    Regular service steps engine call := by
  obtain ⟨action, now, sink⟩ := call
  cases action
  case post request =>
    intro payload hposted hnew hsink hfacts between hbetween
    have hadmit := posted_eq hposted
    have hcompared := h.compared steps _ (List.prefix_refl _) ⟨⟨service.receipt engine payload
      request.body now, some payload⟩, by simp_all [emission, Machine.step, answer, routePost], hfacts⟩
    exact (hcompared.2 between hbetween).2.2
  case pollStale =>
    intro receipt houtage hsink earlier hearlier hrefused
    obtain ⟨_, _, _, _, _, houtput, _⟩ := outage_cases houtage
    have hlapsed := h.lapsed steps _ (List.prefix_refl _)
      (by simp_all [isOutage, emission, Machine.step, answer, pollStale])
    simp only [isRefused, Bool.and_eq_true] at hrefused
    exact hlapsed earlier hearlier hrefused.1

-- The runs whose steps are regular are those that tell outages apart.
theorem outages_iff (service : GsiService) (calls : List Call)
    (hclock : Machine.Each (answer service) Clocked [] {} calls) :
    Outages service (Machine.trace (answer service) {} calls) ↔
      Machine.Each (answer service) (Regular service) [] {} calls := by
  have halways := Machine.always_iff_each (I := Watches service)
    (P := fun steps _ => Outages service steps) (fun _ _ h => h.outages)
    (fun _ _ _ h hclock hregular => h.moves hclock hregular moves) (fun _ _ _ _ _ h => .of_outages h)
    .start hclock
  rwa [Machine.always_iff_of_closed fun _ _ h => h.of_append] at halways

section Demo

-- A post that is no payload comes between two payloads.
def demoMalformed : List Call :=
  [demoPost [0, 1, 0, 0] 0 true, demoPost [] 1 true, demoPost [0, 2, 1, 0] 2 true]

-- A duplicate comes after the payload whose age makes an outage.
def demoDuplicate : List Call :=
  [demoPost [0, 1, 0, 0] 0 true, demoPost [0, 1, 0, 0] (10 ^ 9) true,
    { action := .pollStale, now := 90 * 10 ^ 9, sink := fun _ => .ok () }]

theorem outages_fail_malformed :
    ¬Outages demoService (Machine.trace (answer demoService) {} demoMalformed) ∧
    ¬Outages demoService (Machine.trace (answer demoService) {} demoDuplicate) := by
  constructor
  · intro h
    have hcompared := h.compared (Machine.trace (answer demoService) {} (demoMalformed.take 2)) _
      ⟨[], rfl⟩ (by decide +kernel)
    revert hcompared
    decide +kernel
  · intro h
    have hlapsed := h.lapsed (Machine.trace (answer demoService) {} (demoDuplicate.take 2)) _
      ⟨[], rfl⟩ (by decide +kernel)
    revert hlapsed
    decide +kernel

theorem outages_iff_demo :
    Outages demoService (Machine.trace (answer demoService) {} demoMalformed) ↔
      Machine.Each (answer demoService) (Regular demoService) [] {} demoMalformed :=
  outages_iff demoService demoMalformed
    (by simp [demoMalformed, Machine.Each, Clocked, Machine.step, demoPost])

end Demo

end Gsi
