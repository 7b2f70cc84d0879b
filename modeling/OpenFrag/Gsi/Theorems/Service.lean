import OpenFrag.Gsi.Theorems.Engine

namespace Gsi

open GsiService

-- What a call can do, with its answer.
inductive Moves (service : GsiService) (engine : EngineState) :
    Call → Reply Answer → EngineState → Prop
  | rejected {request : Request} {now : Nat} {sink : EventSink} {response : Response}
      (h : service.admission request = .rejected response) :
    Moves service engine ⟨.post request, now, sink⟩ { result := .posted response } engine
  | foreign {request : Request} {now : Nat} {sink : EventSink}
      (h : service.admission request = .foreign) :
    Moves service engine ⟨.post request, now, sink⟩ { result := .posted .unauthorized }
      engine.clearTransitionBaselines
  | duplicate {request : Request} {now : Nat} {sink : EventSink} {payload : Payload}
      (h : service.admission request = .valid payload)
      (hseen : seenRecently engine now (service.hexDigest request.body)) :
    Moves service engine ⟨.post request, now, sink⟩ { result := .posted .duplicate }
      { engine with recentHashes := retained engine now }
  | failed {request : Request} {now : Nat} {sink : EventSink} {payload : Payload} {e : String}
      (h : service.admission request = .valid payload)
      (hnew : ¬seenRecently engine now (service.hexDigest request.body))
      (hsink : sink (service.receipt engine payload request.body now) = .error e) :
    Moves service engine ⟨.post request, now, sink⟩ { result := .posted .sinkFailure }
      { engine with recentHashes := retained engine now }
  | accepted {request : Request} {now : Nat} {sink : EventSink} {payload : Payload}
      (h : service.admission request = .valid payload)
      (hnew : ¬seenRecently engine now (service.hexDigest request.body))
      (hsink : sink (service.receipt engine payload request.body now) = .ok ()) :
    Moves service engine ⟨.post request, now, sink⟩
      { result  := .posted .seeded
        emitted := some (service.receipt engine payload request.body now) }
      (service.accept { engine with recentHashes := retained engine now } payload
        (service.receipt engine payload request.body now))
  | quiet {now : Nat} {sink : EventSink} (h : service.outage engine now = none) :
    Moves service engine ⟨.pollStale, now, sink⟩ { result := .polled (.ok .noChange) } engine
  | unheard {now : Nat} {sink : EventSink} {receipt : EvidenceReceipt} {e : String}
      (h : service.outage engine now = some receipt) (hsink : sink receipt = .error e) :
    Moves service engine ⟨.pollStale, now, sink⟩ { result := .polled (.error .sinkFailure) } engine
  | lapsed {now : Nat} {sink : EventSink} {receipt : EvidenceReceipt}
      (h : service.outage engine now = some receipt) (hsink : sink receipt = .ok ()) :
    Moves service engine ⟨.pollStale, now, sink⟩
      { result := .polled (.ok .stale), emitted := some receipt }
      { engine with
        sequence := receipt.sequence, stale := true, snapshot := none, recentHashes := [] }

variable {service : GsiService} {engine engine' : EngineState} {call : Call} {reply : Reply Answer}
variable {calls : List Call} {steps : List Step}

theorem moves : Moves service engine call (answer service call engine).1
    (answer service call engine).2 := by
  obtain ⟨action, now, sink⟩ := call
  cases action
  case post request =>
    simp only [answer, routePost]
    cases h : service.admission request
    case rejected => exact .rejected h
    case foreign  => exact .foreign h
    case valid payload =>
      dsimp only
      by_cases hseen : seenRecently engine now (service.hexDigest request.body)
      case pos => simpa only [hseen] using .duplicate h hseen
      case neg =>
        simp only [hseen]
        cases hsink : sink (service.receipt engine payload request.body now)
        case error => exact .failed h hseen hsink
        case ok    => exact .accepted h hseen hsink
  case pollStale =>
    simp only [answer, pollStale]
    cases h : service.outage engine now
    case none         => exact .quiet h
    case some receipt =>
      dsimp only
      cases hsink : sink receipt
      case error => exact .unheard h hsink
      case ok    => exact .lapsed h hsink

-- An outage is noticed after a payload has been accepted, and once.
theorem outage_cases {now : Nat} {receipt : EvidenceReceipt}
    (h : service.outage engine now = some receipt) :
    ∃ lastReceivedAt, engine.lastReceivedAt = some lastReceivedAt ∧ engine.stale = false ∧
      staleAfter service.config.heartbeat ≤ now - lastReceivedAt ∧
      receipt.sequence = engine.sequence + 1 ∧ receipt.output = .stale ∧ receipt.facts = [] := by
  simp only [outage, Option.bind_eq_bind, Option.bind_eq_some_iff] at h
  obtain ⟨lastReceivedAt, hlast, h⟩ := h
  split at h
  case isTrue  => simp at h
  case isFalse hdue =>
    simp only [not_or, Bool.not_eq_true, Nat.not_lt] at hdue
    simp only [Option.bind_eq_some_iff] at h
    obtain ⟨hash, _, presence, _, context, _, h⟩ := h
    cases h
    exact ⟨lastReceivedAt, hlast, hdue.1, hdue.2, rfl, rfl, rfl⟩

theorem posted_valid {request : Request} {payload : Payload}
    (h : service.admission request = .valid payload) (now : Nat) (sink : EventSink) :
    posted service ⟨.post request, now, sink⟩ = some payload := by
  simp [posted, h]

theorem posted_pollStale {now : Nat} {sink : EventSink} :
    posted service ⟨.pollStale, now, sink⟩ = none :=
  rfl

@[simp]
theorem emissions_append {steps' : List Step} :
    emissions service (steps ++ steps') = emissions service steps ++ emissions service steps' :=
  List.filterMap_append

@[simp]
theorem emissions_singleton {step : Step} :
    emissions service [step] = (emission service step).toList := by
  cases h : emission service step <;> simp [emissions, h]

namespace Sound

variable {emitted : List Emission} {e : Emission}

theorem nil : Sound [] where
  numbered  := rfl
  trusted   := by simp
  compares  := by simp
  silent    := by simp
  exclusive := by simp
  staleOnce := by
    intro between h
    simp [List.infix_nil.mp h]

theorem snoc (h : Sound emitted) (hsequence : e.receipt.sequence = emitted.length + 1)
    (htrusted : e.payload = none ↔ e.receipt.output = .stale)
    (hcompares : ∀ fact ∈ e.receipt.facts,
      ∃ previous ∈ (emitted.filterMap Emission.payload).getLast?, ∃ current ∈ e.payload,
        Compares previous current fact)
    (hsilent : e.receipt.output ≠ .healthy → e.receipt.facts = [])
    (hstale : e.payload = none → ∀ last ∈ emitted.getLast?, last.payload ≠ none) :
    Sound (emitted ++ [e]) where
  numbered  := by
    simp [h.numbered, hsequence, List.range'_concat, Nat.add_comm]
  trusted   := by
    simpa [or_imp, forall_and] using ⟨h.trusted, htrusted⟩
  compares  := by
    intro before x hbefore
    rcases List.prefix_concat_iff.mp hbefore with heq | hbefore
    · obtain ⟨rfl, hlast⟩ := List.append_inj' heq rfl
      obtain rfl := List.singleton_inj.mp hlast
      exact hcompares
    · exact h.compares before x hbefore
  silent    := by
    simpa [or_imp, forall_and] using ⟨h.silent, hsilent⟩
  exclusive := by
    intro x hx
    rcases List.mem_append.mp hx with hx | hx
    · exact h.exclusive x hx
    · simp only [List.mem_singleton] at hx
      subst hx
      intro fact hfact hends other hother
      obtain ⟨previous, hprevious, current, hcurrent, hcompare⟩ := hcompares fact hfact
      obtain ⟨previous', hprevious', current', hcurrent', hcompare'⟩ := hcompares other hother
      obtain rfl := Option.mem_unique hprevious hprevious'
      obtain rfl := Option.mem_unique hcurrent hcurrent'
      exact hcompare.exclusive hends hcompare'
  staleOnce := by
    intro between hbetween hnone
    rcases List.infix_concat_iff.mp hbetween with hsuffix | hinfix
    · rcases List.suffix_concat_iff.mp hsuffix with rfl | ⟨earlier, rfl, hearlier⟩
      · simp
      · have hlast := hstale (hnone e (by simp))
        rcases List.eq_nil_or_concat earlier with rfl | ⟨init, last, rfl⟩
        · simp
        · obtain ⟨front, rfl⟩ := hearlier
          exact absurd (hnone last (by simp)) (hlast last (by simp))
    · exact h.staleOnce between hinfix hnone

end Sound

-- What the engine knows of the receipts that it has emitted.
structure Tracks (service : GsiService) (emitted : List Emission) (engine : EngineState) :
    Prop where
  sound    : Sound emitted
  sequence : engine.sequence = emitted.length
  snapshot : ∀ snapshot ∈ engine.snapshot, ∃ last ∈ emitted.getLast?, ∃ payload ∈ last.payload,
    snapshot = .from service.sha256 payload
  stale    : ∀ last ∈ emitted.getLast?, last.payload = none →
    engine.stale = true ∨ engine.lastReceivedAt = none

namespace Tracks

variable {emitted : List Emission}

theorem start : Tracks service [] {} where
  sound    := .nil
  sequence := rfl
  snapshot := by simp
  stale    := by simp

-- A fact is derived from the payload of the last receipt.
theorem compares (h : Tracks service emitted engine) {payload : Payload} {body : Bytes} {now : Nat}
    {fact : TransitionFact} (hfact : fact ∈ (service.receipt engine payload body now).facts) :
    ∃ previous ∈ (emitted.filterMap Emission.payload).getLast?, Compares previous payload fact := by
  simp only [receipt, observe] at hfact
  split at hfact
  case isTrue  => cases hfact
  case isFalse =>
    cases hsnapshot : engine.snapshot
    case none          => simp [hsnapshot] at hfact
    case some snapshot =>
      obtain ⟨last, hlast, previous, hprevious, rfl⟩ := h.snapshot snapshot hsnapshot
      simp only [hsnapshot] at hfact
      obtain ⟨front, rfl⟩ := List.getLast?_eq_some_iff.mp hlast
      have hcompares := (deriveTransition_derived hfact).compares
      exact ⟨previous, by simp [Option.mem_def.mp hprevious], hcompares⟩

theorem silent {payload : Payload} {body : Bytes} {now : Nat}
    (h : (service.receipt engine payload body now).output ≠ .healthy) :
    (service.receipt engine payload body now).facts = [] := by
  simp only [receipt, observe] at h ⊢
  split
  case isTrue  => rfl
  case isFalse hstale =>
    cases hsnapshot : engine.snapshot
    case none => rfl
    case some =>
      simp only [hstale, hsnapshot] at h
      exact deriveTransition_silent h

theorem output_ne_stale {payload : Payload} {body : Bytes} {now : Nat} :
    (service.receipt engine payload body now).output ≠ .stale := by
  simp only [receipt, observe]
  split
  case isTrue  => simp
  case isFalse =>
    cases engine.snapshot
    case none => simp
    case some => exact deriveTransition_ne_stale

theorem moves (h : Tracks service emitted engine) (hmove : Moves service engine call reply engine') :
    Tracks service (emitted ++ (reply.emitted.map fun r => ⟨r, posted service call⟩).toList)
      engine' := by
  cases hmove
  case rejected  => simpa using h
  case duplicate => simpa using ⟨h.sound, h.sequence, h.snapshot, h.stale⟩
  case failed    => simpa using ⟨h.sound, h.sequence, h.snapshot, h.stale⟩
  case quiet     => simpa using h
  case unheard   => simpa using h
  case foreign   =>
    simpa using ⟨h.sound, h.sequence, by simp [EngineState.clearTransitionBaselines],
      by simp [EngineState.clearTransitionBaselines]⟩
  case accepted request now sink payload hvalid hnew hsink =>
    have hsequence : (service.receipt engine payload request.body now).sequence =
        emitted.length + 1 :=
      congrArg (· + 1) h.sequence
    simp only [Option.map_some, Option.toList_some, posted_valid hvalid _ _]
    exact {
      sound    := h.sound.snoc hsequence (by simpa using output_ne_stale)
        (fun fact hfact => by simpa using h.compares hfact) silent (by simp)
      sequence := by simpa [accept] using hsequence
      snapshot := by simp [accept]
      stale    := by simp }
  case lapsed now sink receipt houtage hsink =>
    obtain ⟨lastReceivedAt, hlast, hstale, _, hsequence, houtput, hfacts⟩ := outage_cases houtage
    simp only [Option.map_some, Option.toList_some, posted_pollStale]
    have hawake : ∀ last ∈ emitted.getLast?, last.payload ≠ none := by
      intro last hmem hnone
      simpa [hstale, hlast] using h.stale last hmem hnone
    have hnext : receipt.sequence = emitted.length + 1 := by
      rw [hsequence, h.sequence]
    exact {
      sound    := h.sound.snoc hnext (by simpa using houtput) (by simp [hfacts])
        (fun _ => hfacts) (fun _ => hawake)
      sequence := by simpa using hnext
      snapshot := by simp
      stale    := by simp }

end Tracks

-- The engine keeps track of its receipts in every run.
theorem tracks : Tracks service (emissions service (Machine.trace (answer service) {} calls))
    (Machine.final (answer service) {} calls) := by
  have hrun : Machine.Each (answer service) (fun _ _ _ => True) [] {} calls := .trivial
  have h := hrun.invariant
    (I := fun steps engine => Tracks service (emissions service steps) engine)
    (fun steps engine call h _ => by
      rw [emissions_append, emissions_singleton]
      exact h.moves moves)
    .start
  simpa using h

-- Every run emits receipts without gaps, whose facts compare their payload with that of the receipt
-- before them.
theorem emissions_sound (service : GsiService) (calls : List Call) :
    Sound (emissions service (Machine.trace (answer service) {} calls)) :=
  tracks.sound

end Gsi
