import OpenFrag.Analysis.Theorems.Ledger
import OpenFrag.Domain.Theorems.Rating

open Import Domain Except

namespace Analysis

section

variable (parsed : ParsedOutput) (rounds : List RoundLedger)

-- A side with fewer than five players alive at the end of the freeze time, by the team that each
-- player has at that tick.
def shortAtFreeze (round : RoundLedger) : Bool :=
  [2, 3].any fun team => aliveCount parsed round.freezeTick
    (fun p => teamAt parsed p.steamId round.freezeTick = some team) < 5

-- The local player was not alive in a team at the freeze tick of a live round.
def Missed (round : RoundLedger) : Prop :=
  round.exclusion = some .missingFreezeState ∨ round.exclusion = some .localPlayerNotAlive ∨
  round.exclusion = some .invalidTeam

def shortRounds (short : RoundLedger → Bool) : Nat :=
  ((rounds.filter (·.eligible)).filter short).length

-- At most one round begins with a short side and the local player missed none.
structure Undisturbed : Prop where
  roster : shortRounds rounds (shortAtFreeze parsed) ≤ 1
  missed : ∀ round ∈ rounds, ¬Missed round

-- What the trends ask of a match.
structure TrendWorthy : Prop where
  sample      : 12 ≤ (rounds.filter (·.eligible)).length
  undisturbed : Undisturbed parsed rounds

-- What the code asks: the rosters are those of the participants, and no missed round is seen.
structure Admitted : Prop where
  sample   : 12 ≤ (rounds.filter (·.eligible)).length
  evidence : (evidenceBundle parsed rounds).firstMissing = none
  roster   : shortRounds rounds (shortRoster parsed) ≤ 1

end

variable {parsed : ParsedOutput} {localId : SteamId} {receipt : AnalysisReceipt}

theorem freezeState_exclusion {warmup : Bool} {snapshot : Option PlayerSnapshot} {team : Int}
    {alive : Bool} {exclusion : Option RoundExclusion}
    (h : freezeState warmup snapshot = .ok (team, alive, exclusion)) :
    exclusion ≠ some .missingFreezeState := by
  unfold freezeState at h
  split at h
  case isTrue => cases h; simp
  case isFalse =>
    split at h
    case h_1 => cases h
    case h_2 =>
      split at h
      case isTrue => cases h; simp
      case isFalse => split at h <;> cases h <;> simp

theorem buildRound_exclusion {index : Nat} {freeze : ParsedEvent} {next : DemoTick}
    {round : RoundLedger} (h : buildRound parsed localId index freeze next = .ok round) :
    round.exclusion ≠ some .missingFreezeState := by
  simp only [buildRound, bind_eq_ok_iff] at h
  obtain ⟨_, _, _, _, ⟨_, _, _⟩, hstate, _, _, _, _, _, _, h⟩ := h
  cases h
  exact freezeState_exclusion hstate

theorem buildRoundsFrom_exclusion {index : Nat} {freezes : List ParsedEvent}
    {rounds : List RoundLedger} (h : buildRoundsFrom parsed localId index freezes = .ok rounds) :
    ∀ round ∈ rounds, round.exclusion ≠ some .missingFreezeState := by
  induction freezes generalizing index rounds
  case nil => cases h; simp
  case cons freeze rest ih =>
    have ⟨round, hround, h⟩ := bind_eq_ok_iff.mp h
    have ⟨rounds', hrounds, h⟩ := bind_eq_ok_iff.mp h
    cases h
    exact List.forall_mem_cons.mpr ⟨buildRound_exclusion hround, ih hrounds⟩

theorem analyze_missedLiveRound (h : analyze parsed localId = .ok receipt) :
    receipt.ratingInput.irregularities.missedLiveRound = false := by
  obtain ⟨_, ha⟩ := analyze_eq_ok h
  have hrounds := ha.rounds
  simp only [buildRounds, bind_eq_ok_iff] at hrounds
  obtain ⟨rounds, hfrom, _, _, _, _, hr⟩ := hrounds
  cases hr
  have hexclusion := buildRoundsFrom_exclusion hfrom
  simpa [(analyze_ratingInput h).1, irregularities] using hexclusion

theorem analyze_trendEligible_iff (h : analyze parsed localId = .ok receipt) :
    receipt.ratingReceipt.trendEligible ↔ Admitted parsed receipt.rounds := by
  have ⟨_, ha⟩ := analyze_eq_ok h
  have ⟨hirregular, hfailure, hevidence⟩ := analyze_ratingInput h
  have hmissed := analyze_missedLiveRound h
  have hlength := analyze_eligibleRounds h
  rw [calculateRating_trendEligible_iff ha.rating, unavailableReason_eq_none_iff,
    previewReasons_eq_nil_iff, hevidence, hfailure, hmissed, hirregular, UInt32.le_iff_toNat_le,
    UInt32.le_iff_toNat_le, hlength]
  simp only [irregularities, UInt32.reduceToNat, decide_eq_false_iff_not, not_lt]
  constructor
  · intro ⟨⟨hbundle, _⟩, ⟨hsample, _⟩, hroster⟩
    exact ⟨hsample, hbundle, hroster⟩
  · intro ⟨hsample, hbundle, hroster⟩
    exact ⟨⟨hbundle, trivial, trivial, by omega⟩, ⟨hsample, trivial, trivial⟩, hroster⟩

theorem trendEligible_implies_trendWorthy_iff (h : analyze parsed localId = .ok receipt) :
    (receipt.ratingReceipt.trendEligible → TrendWorthy parsed receipt.rounds) ↔
    (Admitted parsed receipt.rounds → Undisturbed parsed receipt.rounds) := by
  rw [analyze_trendEligible_iff h]
  constructor
  · exact fun hworthy hadmitted => (hworthy hadmitted).undisturbed
  · exact fun hundisturbed hadmitted => ⟨hadmitted.sample, hundisturbed hadmitted⟩

-- A Demo of thirteen rounds between two sides of five. Before the last round the local player,
-- number 1, has died.
def absentDemo : ParsedOutput where
  metadata        := ⟨some "de_dust2", some "14000", none, none, none, some "64", none⟩
  participants    := (List.range 10).map fun n => ⟨n + 1, none, some (if n < 5 then 2 else 3)⟩
  rounds          := []
  events          := ⟨1, 0, .playerHurt ⟨none, none, none, none⟩⟩ ::
    ⟨2, 1, .playerDeath ⟨none, none, none, false, none⟩⟩ ::
    (List.range 13).flatMap fun (n : Nat) => [
      ⟨100 * n + 10, 2 * n + 2, .roundFreezeEnd ⟨false⟩⟩,
      ⟨100 * n + 90, 2 * n + 3, .roundEnd ⟨some 3⟩⟩
    ]
  receipts        := [⟨0, "round_freeze_end", 10, "evidence-0"⟩]
  playerSnapshots := ((List.range 10).map fun n =>
      ⟨0, n, .requestedTick, n + 1, none, some (if n < 5 then 2 else 3), some 100, some true, some 0,
        some 0⟩) ++
    (List.range 13).flatMap fun (n : Nat) => [
      ⟨100 * n + 10, 2 * n + 10, .requestedTick, 1, none, some 2, some 100, some (n < 12), some 0,
        some n⟩,
      ⟨100 * n + 90, 2 * n + 11, .requestedTick, 1, none, some 2, some 100, some (n < 12), some 0,
        some (n + 1)⟩
    ]
  suspiciousEmpty := false
  identity        := ⟨"demo", "commit", "parser", "proto", "query", "metrics", "ofr-1.0.0", "epoch"⟩

@[irreducible]
def absentReceipt : AnalysisReceipt :=
  (analyze absentDemo 1).toOption.get (by decide +kernel)

theorem analyze_absentDemo : analyze absentDemo 1 = .ok absentReceipt := by
  decide +kernel

instance {round : RoundLedger} : Decidable (Missed round) :=
  inferInstanceAs (Decidable (_ ∨ _ ∨ _))

theorem trendEligible_admits_missed :
    ¬∀ parsed localId receipt, analyze parsed localId = .ok receipt →
      receipt.ratingReceipt.trendEligible → TrendWorthy parsed receipt.rounds := by
  intro h
  have hworthy := h absentDemo 1 absentReceipt analyze_absentDemo (by decide +kernel)
  have hmissed : ∃ round ∈ absentReceipt.rounds, Missed round := by decide +kernel
  obtain ⟨round, hround, hmissed⟩ := hmissed
  exact hworthy.undisturbed.missed round hround hmissed

theorem trendEligible_implies_trendWorthy_iff_absent :
    (absentReceipt.ratingReceipt.trendEligible → TrendWorthy absentDemo absentReceipt.rounds) ↔
    (Admitted absentDemo absentReceipt.rounds → Undisturbed absentDemo absentReceipt.rounds) :=
  trendEligible_implies_trendWorthy_iff analyze_absentDemo

end Analysis
