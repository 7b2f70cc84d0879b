import Mathlib.Algebra.BigOperators.Group.List.Basic
import OpenFrag.Gsi.Theorems.Service

namespace Gsi

open GsiService TransitionFact

variable {service : GsiService} {engine engine' : EngineState} {call : Call} {reply : Reply Answer}
variable {calls : List Call} {first middle last : Payload} {facts facts' : List TransitionFact}

section

-- A counter of facts sees the facts of its own kind.
variable {f : Int → Int → Int → TransitionFact} {g : TransitionFact → Int}

theorem sum_increase (hg : ∀ before after delta, g (f before after delta) = delta) {before after : Int}
    (hpos : 0 ≤ before) (hle : before ≤ after) :
    ((increase f (some before) (some after)).map g).sum = after - before := by
  by_cases h : before < after
  · simp [increase, hpos, h, hg]
  · simp [increase, h]
    omega

theorem sum_eq_zero (h : ∀ fact ∈ facts, g fact = 0) : (facts.map g).sum = 0 := by
  apply List.sum_eq_zero
  simpa using h

end

theorem completed_increase {f : Int → Int → Int → TransitionFact} {previous current : Option Int}
    (h : ∀ before after delta, (f before after delta).completed = none) :
    (increase f previous current).filterMap completed = [] := by
  apply List.filterMap_eq_nil_iff.mpr
  intro fact hfact
  obtain ⟨before, after, _, _, _, _, rfl⟩ := mem_increase.mp hfact
  exact h before after (after - before)

theorem sum_increase_eq_zero {f : Int → Int → Int → TransitionFact} {g : TransitionFact → Int}
    {previous current : Option Int} (h : ∀ before after delta, g (f before after delta) = 0) :
    ((increase f previous current).map g).sum = 0 := by
  apply sum_eq_zero
  intro fact hfact
  obtain ⟨before, after, _, _, _, _, rfl⟩ := mem_increase.mp hfact
  exact h before after (after - before)

theorem completed_roundEnds {before after : Nat} :
    (roundEnds (some before) (some after)).filterMap completed =
      List.range' before (after - before) := by
  simp [roundEnds, List.filterMap_map, Function.comp_def, completed]

theorem sum_roundEnds {g : TransitionFact → Int} {previous current : Option Nat}
    (h : ∀ completed next, g (.roundEnd completed next) = 0) :
    ((roundEnds previous current).map g).sum = 0 := by
  apply sum_eq_zero
  intro fact hfact
  obtain ⟨before, after, _, _, completed, _, _, rfl⟩ := mem_roundEnds.mp hfact
  exact h completed (completed + 1)

theorem decreased_some {α : Type} [LT α] [DecidableLT α] {previous current : α} :
    decreased (some previous) (some current) = false ↔ ¬current < previous := by
  simp [decreased]

-- The facts of a transition, by what they count.
theorem deriveTransition_facts {previous current : TrustedSnapshot}
    (h : (deriveTransition previous current).1 ≠ .sessionReset) :
    sessionReset previous current = false ∧
    ∃ other : List TransitionFact,
      (∀ fact ∈ other, fact.completed = none ∧ fact.killDelta = 0 ∧ fact.deathDelta = 0) ∧
      (deriveTransition previous current).2 =
        increase .cumulativeKillDelta previous.kills current.kills ++
        increase .cumulativeDeathDelta previous.deaths current.deaths ++ other ++
        roundEnds previous.round current.round := by
  simp only [deriveTransition] at h ⊢
  split at h
  case isTrue  => simp at h
  case isFalse hreset =>
    simp only [Bool.not_eq_true] at hreset
    simp only [hreset, Bool.false_eq_true, if_false, true_and]
    refine ⟨_, ?_, by rw [← List.append_assoc]⟩
    simp only [List.mem_append, List.mem_ite_nil_right]
    rintro fact (⟨_, hfact⟩ | ⟨_, hfact⟩)
    · obtain ⟨before, after, _, _, _, _, rfl⟩ := mem_increase.mp hfact
      exact ⟨rfl, rfl, rfl⟩
    · obtain ⟨before, after, _, _, _, _, rfl⟩ := mem_depletion.mp hfact
      exact ⟨rfl, rfl, rfl⟩

namespace Accounts

theorem nil (h : Counted first) : Accounts first first [] := by
  obtain ⟨round, hround⟩ := Option.isSome_iff_exists.mp h.round
  obtain ⟨kills, hkills, _⟩ := h.kills
  obtain ⟨deaths, hdeaths, _⟩ := h.deaths
  exact {
    rounds := ⟨round, round, hround, hround, Nat.le_refl round, by simp⟩
    kills  := ⟨kills, kills, hkills, hkills, by simp⟩
    deaths := ⟨deaths, deaths, hdeaths, hdeaths, by simp⟩ }

theorem append (h : Accounts first middle facts) (h' : Accounts middle last facts') :
    Accounts first last (facts ++ facts') where
  rounds := by
    obtain ⟨before, mid, hbefore, hmid, hle, hfacts⟩ := h.rounds
    obtain ⟨mid', after, hmid', hafter, hle', hfacts'⟩ := h'.rounds
    obtain rfl := Option.some.inj (hmid.symm.trans hmid')
    refine ⟨before, after, hbefore, hafter, hle.trans hle', ?_⟩
    have hlength : after - before = (mid - before) + (after - mid) := by omega
    have hmiddle : mid = before + (mid - before) := by omega
    rw [List.filterMap_append, hfacts, hfacts', hlength, ← List.range'_append_1, ← hmiddle]
  kills  := by
    obtain ⟨before, mid, hbefore, hmid, hfacts⟩ := h.kills
    obtain ⟨mid', after, hmid', hafter, hfacts'⟩ := h'.kills
    obtain rfl := Option.some.inj (hmid.symm.trans hmid')
    refine ⟨before, after, hbefore, hafter, ?_⟩
    simp only [List.map_append, List.sum_append, hfacts, hfacts']
    omega
  deaths := by
    obtain ⟨before, mid, hbefore, hmid, hfacts⟩ := h.deaths
    obtain ⟨mid', after, hmid', hafter, hfacts'⟩ := h'.deaths
    obtain rfl := Option.some.inj (hmid.symm.trans hmid')
    refine ⟨before, after, hbefore, hafter, ?_⟩
    simp only [List.map_append, List.sum_append, hfacts, hfacts']
    omega

-- A transition that is no reset accounts for its payloads.
theorem transition {sha256 : Bytes → Bytes} (hfirst : Counted first) (hlast : Counted last)
    (h : (deriveTransition (.from sha256 first) (.from sha256 last)).1 ≠ .sessionReset) :
    Accounts first last (deriveTransition (.from sha256 first) (.from sha256 last)).2 := by
  obtain ⟨hreset, other, hother, hfacts⟩ := deriveTransition_facts h
  obtain ⟨round, hround⟩ := Option.isSome_iff_exists.mp hfirst.round
  obtain ⟨kills, hkills, hkillsPos⟩ := hfirst.kills
  obtain ⟨deaths, hdeaths, hdeathsPos⟩ := hfirst.deaths
  obtain ⟨round', hround'⟩ := Option.isSome_iff_exists.mp hlast.round
  obtain ⟨kills', hkills', _⟩ := hlast.kills
  obtain ⟨deaths', hdeaths', _⟩ := hlast.deaths
  rw [Option.mem_def] at hkills hdeaths hkills' hdeaths'
  simp only [sessionReset, TrustedSnapshot.from, hround, hround', hkills, hkills', hdeaths,
    hdeaths', Bool.or_eq_false_iff, decreased_some, Nat.not_lt, Int.not_lt] at hreset
  obtain ⟨⟨⟨⟨_, hroundLe⟩, hkillsLe⟩, hdeathsLe⟩, _⟩ := hreset
  rw [hfacts]
  simp only [TrustedSnapshot.from, hround, hround', hkills, hkills', hdeaths, hdeaths']
  have hcompleted : other.filterMap completed = [] :=
    List.filterMap_eq_nil_iff.mpr fun fact hfact => (hother fact hfact).1
  have hkillDelta : (other.map killDelta).sum = 0 :=
    sum_eq_zero fun fact hfact => (hother fact hfact).2.1
  have hdeathDelta : (other.map deathDelta).sum = 0 :=
    sum_eq_zero fun fact hfact => (hother fact hfact).2.2
  refine ⟨⟨round, round', hround, hround', hroundLe, ?_⟩, ⟨kills, kills', hkills, hkills', ?_⟩,
    ⟨deaths, deaths', hdeaths, hdeaths', ?_⟩⟩
  · simp [completed_increase (f := cumulativeKillDelta) fun _ _ _ => rfl,
      completed_increase (f := cumulativeDeathDelta) fun _ _ _ => rfl, hcompleted,
      completed_roundEnds]
  · simp [sum_increase (f := cumulativeKillDelta) (g := killDelta) (fun _ _ _ => rfl) hkillsPos
      hkillsLe, sum_increase_eq_zero (f := cumulativeDeathDelta) (g := killDelta)
      fun _ _ _ => rfl, hkillDelta, sum_roundEnds (g := killDelta) fun _ _ => rfl]
  · simp [sum_increase (f := cumulativeDeathDelta) (g := deathDelta) (fun _ _ _ => rfl)
      hdeathsPos hdeathsLe, sum_increase_eq_zero (f := cumulativeKillDelta) (g := deathDelta)
      fun _ _ _ => rfl, hdeathDelta, sum_roundEnds (g := deathDelta) fun _ _ => rfl]

end Accounts

-- A step of a stretch keeps the baseline, or compares a payload with it.
theorem Moves.undisturbed (hmove : Moves service engine call reply engine')
    (hsnapshot : engine.snapshot = some (.from service.sha256 first)) (hstale : engine.stale = false)
    (hfirst : Counted first) (h : Undisturbed service ⟨engine, call, reply, engine'⟩) :
    (emission service ⟨engine, call, reply, engine'⟩ = none ∧
      engine'.snapshot = some (.from service.sha256 first) ∧ engine'.stale = false) ∨
    ∃ e last, emission service ⟨engine, call, reply, engine'⟩ = some e ∧ e.payload = some last ∧
      Counted last ∧ Accounts first last e.receipt.facts ∧
      engine'.snapshot = some (.from service.sha256 last) ∧ engine'.stale = false := by
  cases hmove
  case rejected  => exact .inl ⟨rfl, hsnapshot, hstale⟩
  case foreign hforeign => exact absurd (by simp [isForeign, hforeign]) h.familiar
  case duplicate => exact .inl ⟨rfl, hsnapshot, hstale⟩
  case failed    => exact .inl ⟨rfl, hsnapshot, hstale⟩
  case quiet     => exact .inl ⟨rfl, hsnapshot, hstale⟩
  case unheard   => exact .inl ⟨rfl, hsnapshot, hstale⟩
  case lapsed now sink receipt houtage hsink =>
    obtain ⟨_, _, _, _, _, houtput, _⟩ := outage_cases houtage
    exact absurd (by simp [houtput]) (h.emitted ⟨receipt, none⟩ rfl).1
  case accepted request now sink payload hvalid hnew hsink =>
    have hposted := posted_valid hvalid now sink
    have ⟨houtput, hpayload⟩ := h.emitted _ rfl
    have hlast := hpayload payload hposted
    have hreceipt : (service.receipt engine payload request.body now).output =
        (deriveTransition (.from service.sha256 first) (.from service.sha256 payload)).1 ∧
        (service.receipt engine payload request.body now).facts =
        (deriveTransition (.from service.sha256 first) (.from service.sha256 payload)).2 := by
      simp [receipt, observe, hsnapshot, hstale]
    have hreset : (deriveTransition (.from service.sha256 first)
        (.from service.sha256 payload)).1 ≠ .sessionReset := by
      intro heq
      simp [hreceipt.1, heq] at houtput
    refine .inr ⟨_, payload, rfl, hposted, hlast, ?_, rfl, rfl⟩
    exact hreceipt.2 ▸ Accounts.transition hfirst hlast hreset

theorem accounts_stretch (hsnapshot : engine.snapshot = some (.from service.sha256 first))
    (hstale : engine.stale = false) (hfirst : Counted first)
    (h : ∀ step ∈ Machine.trace (answer service) engine calls, Undisturbed service step) :
    ∃ last, (first :: (emissions service (Machine.trace (answer service) engine calls)).filterMap
        Emission.payload).getLast? = some last ∧
      Accounts first last (factsOf (emissions service (Machine.trace (answer service) engine calls))) := by
  induction calls generalizing engine first
  case nil => exact ⟨first, rfl, .nil hfirst⟩
  case cons call calls ih =>
    have ⟨hstep, hrest⟩ := List.forall_mem_cons.mp h
    rcases moves.undisturbed hsnapshot hstale hfirst hstep with
      ⟨hnone, hsnapshot, hstale⟩ | ⟨e, middle, hsome, hpayload, hmiddle, haccounts, hsnapshot, hstale⟩
    · obtain ⟨last, hlast, haccounts⟩ := ih hsnapshot hstale hfirst hrest
      refine ⟨last, ?_, ?_⟩
      · simpa [Machine.trace, emissions, Machine.step, hnone] using hlast
      · simpa [Machine.trace, emissions, Machine.step, hnone] using haccounts
    · obtain ⟨last, hlast, haccounts'⟩ := ih hsnapshot hstale hmiddle hrest
      refine ⟨last, ?_, ?_⟩
      · simpa [Machine.trace, emissions, Machine.step, hsome, hpayload] using hlast
      · simpa [Machine.trace, emissions, Machine.step, hsome, factsOf] using
          haccounts.append haccounts'

-- A payload that is accepted becomes the baseline.
theorem Moves.baseline (hmove : Moves service engine call reply engine') {start : Emission}
    (hstart : emission service ⟨engine, call, reply, engine'⟩ = some start)
    (hfirst : start.payload = some first) :
    engine'.snapshot = some (.from service.sha256 first) ∧ engine'.stale = false ∧
      (start.receipt.output ≠ .healthy → start.receipt.facts = []) := by
  cases hmove
  case rejected  => cases hstart
  case foreign   => cases hstart
  case duplicate => cases hstart
  case failed    => cases hstart
  case quiet     => cases hstart
  case unheard   => cases hstart
  case lapsed    =>
    cases hstart
    cases hfirst
  case accepted request now sink payload hvalid hnew hsink =>
    cases hstart
    have hposted := posted_valid hvalid now sink
    obtain rfl := Option.some.inj (hposted.symm.trans hfirst)
    exact ⟨rfl, rfl, Tracks.silent⟩

-- The facts of a stretch of payloads enumerate its rounds and sum up its kills and deaths. The facts
-- of its first receipt look back at the payload before the stretch, when there are any.
theorem stretch_accounts (service : GsiService) (earlier : List Call) (opening : Call)
    (calls : List Call) (start : Emission) (first : Payload)
    (hstart : emission service (Machine.step (answer service)
      (Machine.final (answer service) {} earlier) opening) = some start)
    (hfirst : start.payload = some first) (hcounted : Counted first)
    (hstretch : ∀ step ∈ Machine.trace (answer service)
      (Machine.final (answer service) {} (earlier ++ [opening])) calls, Undisturbed service step) :
    let emitted := emissions service (Machine.trace (answer service)
      (Machine.final (answer service) {} (earlier ++ [opening])) calls)
    ∃ last, (first :: emitted.filterMap Emission.payload).getLast? = some last ∧
      Accounts first last (factsOf emitted) ∧
      (start.receipt.output ≠ .healthy → Accounts first last (factsOf (start :: emitted))) := by
  intro emitted
  obtain ⟨hsnapshot, hstale, hsilent⟩ := moves.baseline hstart hfirst
  rw [Machine.final_append] at hstretch
  obtain ⟨last, hlast, haccounts⟩ := accounts_stretch hsnapshot hstale hcounted hstretch
  have hemitted : emitted = emissions service (Machine.trace (answer service)
      (Machine.step (answer service) (Machine.final (answer service) {} earlier) opening).after
      calls) := by
    simp only [emitted, Machine.final_append, Machine.final]
  rw [hemitted]
  refine ⟨last, hlast, haccounts, fun houtput => ?_⟩
  have hfacts {es : List Emission} : factsOf (start :: es) = factsOf es := by
    simp [factsOf, hsilent houtput]
  rw [hfacts]
  exact haccounts

section Demo

-- A duplicate, and a failure of the sink that is followed by a newer payload.
def demoStretch : List Call :=
  [demoPost [0, 1, 0, 0] 1 true, demoPost [0, 2, 1, 0] 2 false, demoPost [0, 4, 2, 1] 3 true]

def demoStart : Emission where
  receipt := demoService.receipt {} (demoPayload 0 1 0 0) [0, 1, 0, 0] 0
  payload := some (demoPayload 0 1 0 0)

def demoEmitted : List Emission :=
  emissions demoService (Machine.trace (answer demoService)
    (Machine.final (answer demoService) {} [demoPost [0, 1, 0, 0] 0 true]) demoStretch)

theorem stretch_accounts_demo :
    Accounts (demoPayload 0 1 0 0) (demoPayload 0 4 2 1)
      [.cumulativeKillDelta 0 2 2, .cumulativeDeathDelta 0 1 1, .roundEnd 1 2, .roundEnd 2 3,
        .roundEnd 3 4] := by
  have hfacts : factsOf demoEmitted = [.cumulativeKillDelta 0 2 2, .cumulativeDeathDelta 0 1 1,
      .roundEnd 1 2, .roundEnd 2 3, .roundEnd 3 4] := by
    decide +kernel
  have hlast : (demoPayload 0 1 0 0 :: demoEmitted.filterMap Emission.payload).getLast? =
      some (demoPayload 0 4 2 1) := by
    decide +kernel
  obtain ⟨last, hlast', haccounts, _⟩ := stretch_accounts demoService []
    (demoPost [0, 1, 0, 0] 0 true) demoStretch demoStart (demoPayload 0 1 0 0) (by decide +kernel) rfl
    (by decide) (by decide +kernel)
  obtain rfl := Option.some.inj (hlast'.symm.trans hlast)
  exact hfacts ▸ haccounts

end Demo

end Gsi
