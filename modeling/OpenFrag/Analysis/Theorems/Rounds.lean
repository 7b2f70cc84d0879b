import OpenFrag.Analysis.Theorems.Ledger
import OpenFrag.Analysis.Theorems.Trades
import Mathlib.Data.List.Forall2

open Import Domain Except MachineInt

namespace Analysis

section

variable (parsed : ParsedOutput) (localId : SteamId)

-- At the end of the freeze time of a live round, the local player is alive in a team.
def InPlay (freeze : ParsedEvent) : Prop :=
  freeze.roundFreezeEnd? = some ⟨false⟩ ∧
  ∃ state ∈ snapshotAt parsed localId freeze.tick, state.tick = freeze.tick ∧
    state.alive = some true ∧ (state.team = some 2 ∨ state.team = some 3)

-- The round counter at the end is one more than at the end of the freeze time.
def CounterAdvances (freeze end_ : ParsedEvent) : Prop :=
  ∃ counter, (snapshotAt parsed localId freeze.tick).bind (·.roundCounter) = some counter ∧
    (snapshotAt parsed localId end_.tick).bind (·.roundCounter) = some (counter + 1)

def Recognized (winner : Int) : Prop := winner = 2 ∨ winner = 3

instance (winner : Int) : Decidable (Recognized winner) := inferInstanceAs (Decidable (_ ∨ _))

-- The winner of a round that ends with the event is one of the two teams.
def WinnerRecognized (end_ : ParsedEvent) : Prop :=
  ∃ winner, end_.roundEnd? = some ⟨some winner⟩ ∧ Recognized winner

-- What a round of the ledger takes from its two events.
structure RoundOf (freeze end_ : ParsedEvent) (round : RoundLedger) : Prop where
  freezeTick : round.freezeTick = freeze.tick
  endTick    : round.endTick = end_.tick
  interval   : freeze.tick < end_.tick
  eligible   : round.eligible ↔ InPlay parsed localId freeze
  counter    : round.eligible → CounterAdvances parsed localId freeze end_
  winner     : end_.roundEnd? = some ⟨some round.winner⟩

end

variable {parsed : ParsedOutput} {localId : SteamId}

theorem freezeState_eq_ok {warmup : Bool} {snapshot : Option PlayerSnapshot}
    {team : Int} {alive : Bool} {exclusion : Option RoundExclusion}
    (h : freezeState warmup snapshot = .ok (team, alive, exclusion)) :
    (alive && exclusion.isNone) = true ↔ warmup = false ∧ ∃ state ∈ snapshot,
      state.alive = some true ∧ (state.team = some 2 ∨ state.team = some 3) := by
  unfold freezeState at h
  split at h
  case isTrue hw =>
    cases h
    simp [hw]
  case isFalse hw =>
    split at h
    case h_1 => cases h
    case h_2 state =>
      split at h
      case isTrue hdead =>
        cases h
        cases halive : state.alive <;> simp_all
      case isFalse halive =>
        split at h
        case isTrue hteam =>
          cases h
          simp_all
        case isFalse hteam =>
          cases h
          have halive : state.alive = some true := by
            cases halive' : state.alive <;> simp_all
          simpa [hw, halive] using not_not.mp hteam

theorem checkCounters_eq_ok {exclusion : Option RoundExclusion} {freeze end_ : ParsedEvent}
    (h : checkCounters parsed localId exclusion
      ((snapshotAt parsed localId freeze.tick).filter (·.tick = freeze.tick)) end_.tick = .ok ())
    (he : exclusion.isNone) : CounterAdvances parsed localId freeze end_ := by
  simp only [checkCounters, Option.isNone_iff_eq_none.mp he, Option.isSome_none,
    Bool.false_eq_true, if_false, bind_eq_ok_iff, require_eq_ok_iff, ensure_eq_ok_iff] at h
  obtain ⟨start, hstart, finish, hfinish, _, _, h⟩ := h
  refine ⟨start, ?_, h ▸ hfinish⟩
  obtain ⟨state, hstate, hcounter⟩ := Option.bind_eq_some_iff.mp hstart
  exact Option.bind_eq_some_iff.mpr ⟨state, (Option.filter_eq_some_iff.mp hstate).1, hcounter⟩

theorem buildRound_roundOf {index : Nat} {freeze : ParsedEvent} {next : DemoTick}
    {round : RoundLedger} (h : buildRound parsed localId index freeze next = .ok round) :
    ∃ end_, BuiltFrom parsed index freeze next end_ round ∧
      RoundOf parsed localId freeze end_ round := by
  simp only [buildRound, bind_eq_ok_iff, require_eq_ok_iff] at h
  obtain ⟨end_, honly, freezeEvent, hfreeze, ⟨team, alive, exclusion⟩, hstate, _, hcounter, endEvent,
    hend, winner, hwinner, h⟩ := h
  cases h
  have hmatching := single?_eq_some honly
  have hmem : end_ ∈ matchingEnds parsed freeze next := hmatching ▸ List.mem_singleton_self end_
  have hinterval : freeze.tick < end_.tick := by
    simp only [matchingEnds, List.mem_filter, decide_eq_true_eq] at hmem
    exact hmem.2.1
  refine ⟨end_, ⟨hmatching, rfl, rfl, rfl⟩, rfl, rfl, hinterval, ?_, fun heligible => ?_, ?_⟩
  · refine (freezeState_eq_ok hstate).trans ?_
    simp only [InPlay, hfreeze, Option.mem_def, Option.filter_eq_some_iff, decide_eq_true_eq,
      Option.some.injEq, and_assoc]
    constructor
    · rintro ⟨hwarmup, hrest⟩
      exact ⟨by rw [← hwarmup], hrest⟩
    · rintro ⟨hwarmup, hrest⟩
      exact ⟨by rw [hwarmup], hrest⟩
  · exact checkCounters_eq_ok hcounter (Bool.and_eq_true_iff.mp heligible).2
  · rw [hend, ← hwinner]

-- The rounds built from a suffix of the freeze events, with the ends that they were built from.
structure Chained (parsed : ParsedOutput) (localId : SteamId) (index : Nat)
    (freezes chosen : List ParsedEvent) (rounds : List RoundLedger) : Prop where
  built    : BuiltFromEnds parsed index freezes chosen rounds
  length   : freezes.length = chosen.length
  roundOf  : List.Forall₂ (fun p round => RoundOf parsed localId p.1 p.2 round)
    (freezes.zip chosen) rounds
  disjoint : rounds.Pairwise fun earlier later => earlier.endTick < later.freezeTick
  after    : ∀ freeze ∈ freezes.head?, ∀ round ∈ rounds, freeze.tick ≤ round.freezeTick

theorem buildRoundsFrom_chained {index : Nat} {freezes : List ParsedEvent}
    {rounds : List RoundLedger} (h : buildRoundsFrom parsed localId index freezes = .ok rounds) :
    ∃ chosen, Chained parsed localId index freezes chosen rounds := by
  induction freezes generalizing index rounds
  case nil =>
    cases h
    exact ⟨[], ⟨rfl, rfl, nofun, .nil, nofun⟩, rfl, .nil, .nil, nofun⟩
  case cons freeze rest ih =>
    have ⟨round, hround, h⟩ := bind_eq_ok_iff.mp h
    have ⟨rounds', hrounds, h⟩ := bind_eq_ok_iff.mp h
    cases h
    have ⟨end_, hend, hof⟩ := buildRound_roundOf hround
    have ⟨chosen, hchosen⟩ := ih hrounds
    have ⟨hmem, hfreeze, hnext⟩ := hend.mem
    -- The next freeze event comes after this end and before the later rounds.
    have hlater : ∀ later ∈ rounds', end_.tick < later.freezeTick := by
      intro later hmem
      rcases rest with _ | ⟨next, rest⟩
      · cases hrounds
        cases hmem
      · exact lt_of_lt_of_le hnext (hchosen.after next rfl later hmem)
    refine ⟨end_ :: chosen, hchosen.built.cons hend hchosen.length, by simp [hchosen.length], .cons hof hchosen.roundOf,
      List.pairwise_cons.mpr ⟨fun later hmem => hof.endTick ▸ hlater later hmem,
        hchosen.disjoint⟩, ?_⟩
    rintro _ ⟨⟩
    refine List.forall_mem_cons.mpr ⟨hof.freezeTick.ge, fun later hmem => ?_⟩
    exact (hfreeze.trans (hlater later hmem)).le

section

variable (parsed : ParsedOutput) (localId : SteamId)

-- What an eligible round is: a live round that the local player starts alive in a team, with a
-- counter that advances by one and a winner.
structure Played (freeze end_ : ParsedEvent) : Prop where
  inPlay  : InPlay parsed localId freeze
  counter : CounterAdvances parsed localId freeze end_
  winner  : WinnerRecognized end_

-- A ledger has one round for each freeze event and for each end of the Demo, in order, and no
-- event is in two of them.
structure IsLedger (rounds : List RoundLedger) : Prop where
  freezes  : rounds.map (·.freezeTick) = (freezes parsed).map (·.tick)
  ends     : rounds.map (·.endTick) = (ends parsed).map (·.tick)
  interval : ∀ round ∈ rounds, round.freezeTick < round.endTick
  disjoint : rounds.Pairwise fun earlier later => earlier.endTick < later.freezeTick
  once     : rounds.Pairwise fun earlier later =>
    ∀ e ∈ parsed.events, ¬(earlier.covers e.tick ∧ later.covers e.tick)
  eligible : List.Forall₂ (fun p round => round.eligible → Played parsed localId p.1 p.2)
    ((Analysis.freezes parsed).zip (Analysis.ends parsed)) rounds

-- A successful analysis has a ledger, and an input without one fails.
def LedgerSound : Prop :=
  (∀ receipt, analyze parsed localId = .ok receipt → IsLedger parsed localId receipt.rounds) ∧
  ((¬∃ rounds, IsLedger parsed localId rounds) → ∃ failure, analyze parsed localId = .error failure)

-- The rounds that the local player starts in play have one of the two teams as their winner.
def WinnersRecognized : Prop :=
  ∀ p ∈ (freezes parsed).zip (ends parsed), InPlay parsed localId p.1 → WinnerRecognized p.2

end

theorem buildRounds_chained {rounds : List RoundLedger} (ho : verifyOrder parsed = .ok ())
    (h : buildRounds parsed localId = .ok rounds) :
    Chained parsed localId 0 (freezes parsed) (ends parsed) rounds := by
  simp only [buildRounds, bind_eq_ok_iff, ensure_eq_ok_iff] at h
  obtain ⟨rounds', hrounds, _, hlength, _, _, h⟩ := h
  cases h
  obtain ⟨chosen, hchosen⟩ := buildRoundsFrom_chained hrounds
  exact hchosen.built.chosen_eq_ends ho hlength ▸ hchosen

namespace Chained

variable {index : Nat} {freezes chosen : List ParsedEvent} {rounds : List RoundLedger}

theorem freezeTicks (h : Chained parsed localId index freezes chosen rounds) :
    rounds.map (·.freezeTick) = freezes.map (·.tick) := by
  have hzip : (freezes.zip chosen).map Prod.fst = freezes := List.map_fst_zip h.length.le
  rw [← hzip, List.map_map]
  refine (List.forall₂_eq_eq_eq ▸ List.forall₂_map_left_iff.mpr
    (List.forall₂_map_right_iff.mpr (h.roundOf.flip.imp ?_)))
  exact fun round p hof => hof.freezeTick

theorem interval (h : Chained parsed localId index freezes chosen rounds) :
    ∀ round ∈ rounds, round.freezeTick < round.endTick := by
  have hboth : List.Forall₂ (fun round p => round.freezeTick < round.endTick ∧
      RoundOf parsed localId p.1 p.2 round) rounds (freezes.zip chosen) :=
    h.roundOf.flip.imp fun round p hof =>
      ⟨hof.freezeTick.symm ▸ hof.endTick.symm ▸ hof.interval, hof⟩
  exact ((List.forall₂_and_left _ _).mp hboth).1

-- No event is scored in two rounds.
theorem once (h : Chained parsed localId index freezes chosen rounds) :
    rounds.Pairwise fun earlier later =>
      ∀ e ∈ parsed.events, ¬(earlier.covers e.tick ∧ later.covers e.tick) := by
  refine h.disjoint.imp fun {earlier later} hlt e _ ⟨hearlier, hlater⟩ => ?_
  exact absurd (hlater.1.trans hearlier.2) (not_le.mpr hlt)

-- A round in play is eligible, and has all that the ledger asks for but the winner.
theorem played (h : Chained parsed localId index freezes chosen rounds) :
    List.Forall₂ (fun p round => round.eligible → Played parsed localId p.1 p.2)
      (freezes.zip chosen) rounds ↔
    ∀ p ∈ freezes.zip chosen, InPlay parsed localId p.1 → WinnerRecognized p.2 := by
  constructor
  · intro hplayed
    have hboth : List.Forall₂ (fun p round =>
        (InPlay parsed localId p.1 → WinnerRecognized p.2) ∧ RoundOf parsed localId p.1 p.2 round)
        (freezes.zip chosen) rounds :=
      hplayed.mp (fun p round hplayed hof =>
        ⟨fun hin => (hplayed (hof.eligible.mpr hin)).winner, hof⟩) h.roundOf
    exact ((List.forall₂_and_left _ _).mp hboth).1
  · intro hwinners
    refine ((List.forall₂_and_left _ _).mpr ⟨hwinners, h.roundOf⟩).imp ?_
    rintro p round ⟨hwinner, hof⟩ heligible
    have hin := hof.eligible.mp heligible
    exact ⟨hin, hof.counter heligible, hwinner hin⟩

end Chained

theorem ledgerSound_iff {receipt : AnalysisReceipt} (h : analyze parsed localId = .ok receipt) :
    LedgerSound parsed localId ↔ WinnersRecognized parsed localId := by
  have ⟨_, ha⟩ := analyze_eq_ok h
  have hchain := buildRounds_chained ha.order ha.rounds
  constructor
  · exact fun hsound => hchain.played.mp (hsound.1 receipt h).eligible
  · intro hwinners
    have hledger : IsLedger parsed localId receipt.rounds :=
      ⟨hchain.freezeTicks, (buildRounds_eq_ok ha.order ha.rounds).2, hchain.interval,
        hchain.disjoint, hchain.once, hchain.played.mpr hwinners⟩
    refine ⟨fun receipt' h' => ?_, fun hnone => absurd ⟨_, hledger⟩ hnone⟩
    cases h.symm.trans h'
    exact hledger

-- The round of the Demo is won by neither team.
def drawnDemo : ParsedOutput :=
  { suicideDemo with
    events := suicideDemo.events.map fun e =>
      if e.kind = .roundEnd then { e with event := .roundEnd ⟨some 1⟩ } else e }

def drawnReceipt : AnalysisReceipt :=
  (analyze drawnDemo 1).toOption.get (by decide)

theorem ledgerSound_fails_drawn : ¬∀ parsed localId, LedgerSound parsed localId := by
  intro h
  have hledger := (h drawnDemo 1).1 drawnReceipt (by rfl)
  have hplayed := (List.forall₂_cons.mp hledger.eligible).1 (by decide)
  obtain ⟨winner, hend, hwinner⟩ := hplayed.winner
  cases hend
  exact absurd hwinner (by decide)

theorem ledgerSound_iff_drawn : LedgerSound drawnDemo 1 ↔ WinnersRecognized drawnDemo 1 :=
  ledgerSound_iff (show analyze drawnDemo 1 = .ok drawnReceipt by rfl)

end Analysis
