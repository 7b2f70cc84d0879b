import OpenFrag.Analysis.Theorems.Trades

open Import Domain Except

namespace Analysis

section

variable (parsed : ParsedOutput) (localId : SteamId) (round : RoundLedger)

def AliveAt (steamId : SteamId) (tick : DemoTick) : Prop :=
  (snapshotAt parsed steamId tick).bind (·.alive) = some true

instance (steamId : SteamId) (tick : DemoTick) : Decidable (AliveAt parsed steamId tick) :=
  inferInstanceAs (Decidable (_ = _))

-- The local player is the only one of their team alive, against at least one opponent. The teams
-- of the participants are given.
structure ClutchAt (team : Participant → Option Int) (tick : DemoTick) : Prop where
  localAlive : AliveAt parsed localId tick
  alone      : ∀ p ∈ parsed.participants, p.steamId ≠ localId → team p = some round.localTeam →
    ¬AliveAt parsed p.steamId tick
  opponent   : ∃ p ∈ parsed.participants,
    (∃ t ∈ team p, t ≠ round.localTeam ∧ (t = 2 ∨ t = 3)) ∧ AliveAt parsed p.steamId tick

-- The teams of the roster do not change during a match.
def RosterClutch : DemoTick → Prop :=
  ClutchAt parsed localId round (·.team)

-- Each participant plays in the team of their latest snapshot.
def LiveClutch (tick : DemoTick) : Prop :=
  ClutchAt parsed localId round (fun p => teamAt parsed p.steamId tick) tick

def ClutchRound (clutch : DemoTick → Prop) : Prop :=
  ∃ tick ∈ transitionTicks parsed round, clutch tick

end

section

variable {parsed : ParsedOutput} {localId : SteamId} {round : RoundLedger}

theorem clutchAt_iff {team : Participant → Option Int} {tick : DemoTick} :
    ClutchAt parsed localId round team tick ↔ AliveAt parsed localId tick ∧
      aliveCount parsed tick (fun p => p.steamId ≠ localId && team p = some round.localTeam) = 0 ∧
      0 < aliveCount parsed tick
        (fun p => (team p).any fun t => t ≠ round.localTeam && (t = 2 || t = 3)) := by
  simp only [aliveCount, List.length_eq_zero_iff, List.filter_eq_nil_iff, List.length_pos_iff_exists_mem,
    List.mem_filter, Bool.and_eq_true, decide_eq_true_eq, Bool.or_eq_true, Option.any_eq_true]
  constructor
  · intro ⟨hlocal, halone, p, hp, hteam, halive⟩
    exact ⟨hlocal, fun p hp h => halone p hp h.1.1 h.1.2 h.2, p, hp, hteam, halive⟩
  · intro ⟨hlocal, halone, p, hp, hteam, halive⟩
    exact ⟨hlocal, fun p hp h₁ h₂ h₃ => halone p hp ⟨⟨h₁, h₂⟩, h₃⟩, p, hp, hteam, halive⟩

instance {team : Participant → Option Int} {tick : DemoTick} :
    Decidable (ClutchAt parsed localId round team tick) :=
  decidable_of_iff' _ clutchAt_iff

instance : DecidablePred (RosterClutch parsed localId round) :=
  fun _ => inferInstanceAs (Decidable (ClutchAt ..))

instance : DecidablePred (LiveClutch parsed localId round) :=
  fun _ => inferInstanceAs (Decidable (ClutchAt ..))

instance {clutch : DemoTick → Prop} [DecidablePred clutch] :
    Decidable (ClutchRound parsed round clutch) :=
  inferInstanceAs (Decidable (∃ tick ∈ transitionTicks parsed round, _))

theorem isClutch_iff {tick : DemoTick} {localAlive : Bool}
    (h : (snapshotAt parsed localId tick).bind (·.alive) = some localAlive) :
    isClutch parsed round localId tick localAlive ↔ RosterClutch parsed localId round tick := by
  rw [RosterClutch, clutchAt_iff, AliveAt, h]
  simp only [isClutch, Bool.and_eq_true, decide_eq_true_eq, and_assoc, Option.some.injEq]
  rfl

end

-- A round adds a clutch when there is one at some tick, and a win when the team has won then.
def CountsClutch (parsed : ParsedOutput) (round : RoundLedger) (clutch : DemoTick → Prop)
    [DecidablePred clutch] (m m' : RatingMetrics) : Prop :=
  m'.clutchOpportunities.toNat =
    m.clutchOpportunities.toNat + (if ClutchRound parsed round clutch then 1 else 0) ∧
  m'.clutchWins.toNat = m.clutchWins.toNat +
    if ClutchRound parsed round clutch ∧ round.localTeam = round.winner then 1 else 0

section

variable {parsed : ParsedOutput} {localId : SteamId} {tickRate : Nat} {round : RoundLedger}
  {m m' : RatingMetrics}

theorem scoreClutch_counts {ticks : List DemoTick}
    (h : scoreClutch parsed round localId m ticks = .ok m') :
    m'.clutchOpportunities.toNat = m.clutchOpportunities.toNat +
      (if ∃ tick ∈ ticks, RosterClutch parsed localId round tick then 1 else 0) ∧
    m'.clutchWins.toNat = m.clutchWins.toNat +
      if (∃ tick ∈ ticks, RosterClutch parsed localId round tick) ∧ round.localTeam = round.winner
      then 1 else 0 := by
  induction ticks
  case nil => cases h; simp
  case cons tick ticks ih =>
    unfold scoreClutch at h
    obtain ⟨localAlive, halive, h⟩ := bind_eq_ok_iff.mp h
    have hclutch := @isClutch_iff _ _ round _ _ (require_eq_ok_iff.mp halive)
    split at h
    case isFalse hc =>
      have hnot : ¬RosterClutch parsed localId round tick := hc ∘ hclutch.mpr
      simpa [hnot] using ih h
    case isTrue hc =>
      obtain ⟨_, ha, h⟩ := bind_eq_ok_iff.mp h
      split at h
      case isTrue hw =>
        obtain ⟨_, hb, h⟩ := bind_eq_ok_iff.mp h
        cases h
        simp [hclutch.mp hc, hw, addU32_eq_ok ha, addU32_eq_ok hb]
      case isFalse hw =>
        cases h
        simp [hclutch.mp hc, hw, addU32_eq_ok ha]

theorem scoreRound_counts_clutch (h : scoreRound parsed localId tickRate m round = .ok m') :
    CountsClutch parsed round (RosterClutch parsed localId round) m m' := by
  have ⟨m₁, m₂, hs⟩ := scoreRound_eq_ok h
  have ⟨hopportunities, hwins⟩ := scoreClutch_counts hs.clutch
  have ⟨_, _, hkept₁, hkept₂⟩ := hs.frame₁
  rw [hs.frame₂] at hopportunities hwins
  exact ⟨hkept₁ ▸ hopportunities, hkept₂ ▸ hwins⟩

end

section

variable {parsed : ParsedOutput} {localId : SteamId} {participants : List Participant}

theorem aliveCount_perm (h : participants.Perm parsed.participants) {tick : DemoTick}
    {select : Participant → Bool} :
    aliveCount { parsed with participants } tick select = aliveCount parsed tick select :=
  (h.filter _).length_eq

theorem isClutch_perm (h : participants.Perm parsed.participants) {round : RoundLedger}
    {tick : DemoTick} {localAlive : Bool} :
    isClutch { parsed with participants } round localId tick localAlive =
      isClutch parsed round localId tick localAlive := by
  simp [isClutch, aliveCount_perm h]

theorem scoreClutch_perm (h : participants.Perm parsed.participants) {round : RoundLedger}
    {m : RatingMetrics} {ticks : List DemoTick} :
    scoreClutch { parsed with participants } round localId m ticks =
      scoreClutch parsed round localId m ticks := by
  induction ticks
  case nil => rfl
  case cons tick ticks ih =>
    simp only [scoreClutch, isClutch_perm h, ih]
    rfl

theorem scoreRound_perm (h : participants.Perm parsed.participants) {tickRate : Nat} :
    scoreRound { parsed with participants } localId tickRate =
      scoreRound parsed localId tickRate := by
  funext m round
  simp only [scoreRound, scoreClutch_perm h]
  rfl

theorem irregularities_perm (h : participants.Perm parsed.participants) :
    irregularities { parsed with participants } = irregularities parsed := by
  funext rounds eligibleRounds
  have hshort : shortRoster { parsed with participants } = shortRoster parsed := by
    funext round
    simp [shortRoster, aliveCount_perm h]
  simp only [irregularities, hshort]

theorem requireStreams_participants {kinds : List NormalizedEventKind} :
    requireStreams { parsed with participants } kinds = requireStreams parsed kinds := by
  induction kinds
  case nil => rfl
  case cons kind kinds ih => simp only [requireStreams, ih]

theorem buildRoundsFrom_participants {index : Nat} {freezes : List ParsedEvent} :
    buildRoundsFrom { parsed with participants } localId index freezes =
      buildRoundsFrom parsed localId index freezes := by
  induction freezes generalizing index
  case nil => rfl
  case cons freeze rest ih =>
    simp only [buildRoundsFrom, ih]
    rfl

theorem buildRounds_participants :
    buildRounds { parsed with participants } localId = buildRounds parsed localId := by
  simp only [buildRounds, buildRoundsFrom_participants]
  rfl

theorem analyze_perm (h : participants.Perm parsed.participants) :
    analyze { parsed with participants } localId = analyze parsed localId := by
  simp only [analyze, requireStreams_participants, buildRounds_participants, scoreRound_perm h,
    irregularities_perm h, h.any_eq]
  rfl

end

-- Every eligible round adds the clutches that its snapshots show, by the team that each player has
-- at the tick, and the order of the participants does not matter.
structure ClutchesSound (parsed : ParsedOutput) (localId : SteamId) (tickRate : Nat)
    (receipt : AnalysisReceipt) : Prop where
  counts   : ∀ round ∈ receipt.rounds, round.eligible → ∀ m m',
    scoreRound parsed localId tickRate m round = .ok m' →
    CountsClutch parsed round (LiveClutch parsed localId round) m m'
  permuted : ∀ participants, List.Perm participants parsed.participants →
    ∃ receipt', analyze { parsed with participants } localId = .ok receipt' ∧
      receipt'.ratingInput.metrics.clutchOpportunities =
        receipt.ratingInput.metrics.clutchOpportunities ∧
      receipt'.ratingInput.metrics.clutchWins = receipt.ratingInput.metrics.clutchWins

-- The teams of the roster show a clutch in the same rounds as those of the snapshots.
def RosterAgrees (parsed : ParsedOutput) (localId : SteamId) (round : RoundLedger) : Prop :=
  ClutchRound parsed round (RosterClutch parsed localId round) ↔
    ClutchRound parsed round (LiveClutch parsed localId round)

section

variable {parsed : ParsedOutput} {localId : SteamId} {tickRate : Nat}

theorem CountsClutch.agree {round : RoundLedger} {m m' : RatingMetrics}
    (h : CountsClutch parsed round (RosterClutch parsed localId round) m m') :
    CountsClutch parsed round (LiveClutch parsed localId round) m m' ↔
      RosterAgrees parsed localId round := by
  constructor
  · intro hlive
    have hcount := h.1.symm.trans hlive.1
    rw [RosterAgrees]
    by_cases hr : ClutchRound parsed round (RosterClutch parsed localId round) <;>
      by_cases hl : ClutchRound parsed round (LiveClutch parsed localId round) <;> simp_all
  · intro hagrees
    simpa only [CountsClutch, hagrees.symm] using h

theorem clutchesSound_iff {receipt : AnalysisReceipt} (h : analyze parsed localId = .ok receipt)
    (ht : parseTickRate parsed = .ok tickRate) :
    ClutchesSound parsed localId tickRate receipt ↔
      ∀ round ∈ receipt.rounds, round.eligible → RosterAgrees parsed localId round := by
  have ⟨tickRate', ha⟩ := analyze_eq_ok h
  cases ha.rate.symm.trans ht
  constructor
  · intro hsound round hround heligible
    have hmem : round ∈ receipt.rounds.filter (·.eligible) := List.mem_filter.mpr ⟨hround, heligible⟩
    have ⟨m, m', hscore⟩ := foldlM_mem ha.metrics hmem
    exact (scoreRound_counts_clutch hscore).agree.mp (hsound.counts round hround heligible m m' hscore)
  · intro hagrees
    refine ⟨fun round hround heligible m m' hscore => ?_, fun participants hperm => ?_⟩
    · exact (scoreRound_counts_clutch hscore).agree.mpr (hagrees round hround heligible)
    · exact ⟨receipt, (analyze_perm hperm).trans h, rfl, rfl⟩

end

-- The roster shows the sides of the second half, the round is of the first one.
def swappedDemo : ParsedOutput :=
  { suicideDemo with participants := [⟨1, none, some 3⟩, ⟨2, none, some 2⟩] }

def swappedReceipt : AnalysisReceipt :=
  (analyze swappedDemo 1).toOption.get (by decide)

theorem clutchesSound_fails_swapped :
    ¬∀ parsed localId tickRate receipt, analyze parsed localId = .ok receipt →
      parseTickRate parsed = .ok tickRate → ClutchesSound parsed localId tickRate receipt := by
  intro h
  have hsound := h swappedDemo 1 64 swappedReceipt (by rfl) (by rfl)
  have hcounts := hsound.counts ⟨1, 10, 90, 3, 2, true, none, ["evidence-0"]⟩ (by decide) rfl
    (initialMetrics 1) swappedReceipt.ratingInput.metrics (by rfl)
  exact absurd hcounts.1 (by decide)

theorem clutchesSound_iff_swapped :
    ClutchesSound swappedDemo 1 64 swappedReceipt ↔
      ∀ round ∈ swappedReceipt.rounds, round.eligible → RosterAgrees swappedDemo 1 round :=
  clutchesSound_iff (by rfl) (by rfl)

end Analysis
