import OpenFrag.Analysis.Theorems.Score

open Import Domain Except MachineInt

namespace Analysis

section

variable (parsed : ParsedOutput) (localId : SteamId) (tickRate : Nat) (round : RoundLedger)

-- Both players have a known team at the tick and play on different ones.
def OnOtherTeam (victim : SteamId) (tick : DemoTick) : Prop :=
  ∃ a ∈ teamAt parsed localId tick, ∃ v ∈ teamAt parsed victim tick, a ≠ v

-- `prior` is the death of one of the players in `mates`, of the local team, by `killer`.
def TeamDeath (mates : SteamId → Prop) (killer : SteamId) (prior : ParsedEvent) : Prop :=
  ∃ death ∈ prior.death?, death.attacker = some killer ∧ ∃ mate ∈ death.victim, mates mate ∧
    teamAt parsed mate prior.tick = some round.localTeam

-- The death that a trade answers: of another player, strictly earlier and inside the window.
def TradedDeath (killer : SteamId) (kill prior : ParsedEvent) : Prop :=
  TeamDeath parsed round (· ≠ localId) killer prior ∧
  prior.position < kill.position ∧ kill.tick - prior.tick ≤ 5 * tickRate

-- The local player kills an opponent who killed a teammate shortly before.
def IsTradeKill (kill : ParsedEvent) : Prop :=
  ∃ death ∈ kill.death?, death.attacker = some localId ∧
    ∃ victim ∈ death.victim, OnOtherTeam parsed localId victim kill.tick ∧
      ∃ prior ∈ roundDeaths parsed round, TradedDeath parsed localId tickRate round victim kill prior

-- What the code asks of a prior death: its victim may be the local player, and it may be the kill
-- itself or a later event of the same tick.
def MatchedDeath (killer : SteamId) (kill prior : ParsedEvent) : Prop :=
  TeamDeath parsed round (fun _ => True) killer prior ∧
  prior.tick ≤ kill.tick ∧ kill.tick - prior.tick ≤ 5 * tickRate

-- The team of the victim does not matter to the code.
def IsMatched (kill : ParsedEvent) : Prop :=
  ∃ death ∈ kill.death?, death.attacker = some localId ∧
    ∃ victim ∈ death.victim, ∃ prior ∈ roundDeaths parsed round,
      MatchedDeath parsed tickRate round victim kill prior

-- Every local kill with a matching death is of an opponent, and one of its matching deaths is
-- strictly earlier and not the local player's own.
def TradesUnambiguous : Prop :=
  ∀ kill ∈ roundDeaths parsed round, IsMatched parsed localId tickRate round kill →
    IsTradeKill parsed localId tickRate round kill

end

section

variable {parsed : ParsedOutput} {localId : SteamId} {tickRate : Nat} {round : RoundLedger}

instance {victim : SteamId} {tick : DemoTick} : Decidable (OnOtherTeam parsed localId victim tick) :=
  inferInstanceAs (Decidable (∃ a ∈ teamAt parsed localId tick, _))

instance {mates : SteamId → Prop} [DecidablePred mates] {killer : SteamId} {prior : ParsedEvent} :
    Decidable (TeamDeath parsed round mates killer prior) :=
  inferInstanceAs (Decidable (∃ death ∈ prior.death?, _ ∧ ∃ mate ∈ death.victim, _))

instance {killer : SteamId} {kill prior : ParsedEvent} :
    Decidable (TradedDeath parsed localId tickRate round killer kill prior) :=
  inferInstanceAs (Decidable (_ ∧ _))

instance {kill : ParsedEvent} : Decidable (IsTradeKill parsed localId tickRate round kill) :=
  inferInstanceAs (Decidable (∃ death ∈ kill.death?, _ ∧ ∃ victim ∈ death.victim, _))

instance {killer : SteamId} {kill prior : ParsedEvent} :
    Decidable (MatchedDeath parsed tickRate round killer kill prior) :=
  inferInstanceAs (Decidable (_ ∧ _))

instance {kill : ParsedEvent} : Decidable (IsMatched parsed localId tickRate round kill) :=
  inferInstanceAs (Decidable (∃ death ∈ kill.death?, _ ∧ ∃ victim ∈ death.victim, _))

theorem OnOtherTeam.ne {attacker victim : SteamId} {tick : DemoTick}
    (h : OnOtherTeam parsed attacker victim tick) : attacker ≠ victim := by
  rintro rfl
  have ⟨a, ha, v, hv, hne⟩ := h
  exact hne (Option.mem_unique ha hv)

theorem MatchedDeath.of_traded {killer : SteamId} {kill prior : ParsedEvent}
    (h : TradedDeath parsed localId tickRate round killer kill prior) :
    MatchedDeath parsed tickRate round killer kill prior := by
  have ⟨⟨death, hd, ha, mate, hm, _, ht⟩, hpos, hwindow⟩ := h
  refine ⟨⟨death, hd, ha, mate, hm, trivial, ht⟩, ?_, hwindow⟩
  rcases Prod.Lex.lt_iff.mp hpos with hlt | ⟨heq, _⟩
  · exact le_of_lt hlt
  · exact le_of_eq heq

theorem IsMatched.of_isTradeKill {kill : ParsedEvent}
    (h : IsTradeKill parsed localId tickRate round kill) :
    IsMatched parsed localId tickRate round kill := by
  have ⟨death, hd, ha, victim, hv, _, prior, hp, htraded⟩ := h
  exact ⟨death, hd, ha, victim, hv, prior, hp, .of_traded htraded⟩

theorem trades_eq_ok {window : Int} {kill prior : ParsedEvent} {victim : SteamId} {b : Bool}
    (hw : window = 5 * tickRate)
    (h : trades parsed round window kill.tick victim prior = .ok b) :
    b ↔ MatchedDeath parsed tickRate round victim kill prior := by
  unfold trades at h
  split at h
  case h_1 hd =>
    cases h
    simp [MatchedDeath, TeamDeath, hd]
  case h_2 death hd =>
    split at h
    case isFalse hlater =>
      cases h
      simp [MatchedDeath, hlater]
    case isTrue hle =>
      obtain ⟨_, _, h⟩ := bind_eq_ok_iff.mp h
      cases h
      simp only [MatchedDeath, TeamDeath, hd, hle, hw, decide_eq_true_eq, Option.mem_def,
        Option.some.injEq, exists_eq_left', Option.any_eq_true, true_and]
      tauto

theorem anyM_trades {window : Int} {kill : ParsedEvent} {victim : SteamId} {b : Bool}
    (hw : window = 5 * tickRate)
    (h : anyM (trades parsed round window kill.tick victim) (roundDeaths parsed round).reverse =
      .ok b) :
    b ↔ ∃ prior ∈ roundDeaths parsed round,
      MatchedDeath parsed tickRate round victim kill prior := by
  cases b
  case true =>
    have ⟨prior, hp, ht⟩ := anyM_eq_true h
    exact iff_of_true rfl ⟨prior, List.mem_reverse.mp hp, (trades_eq_ok hw ht).mp rfl⟩
  case false =>
    refine iff_of_false Bool.false_ne_true fun ⟨prior, hp, hm⟩ => ?_
    have hf := anyM_eq_false h prior (List.mem_reverse.mpr hp)
    exact Bool.false_ne_true ((trades_eq_ok hw hf).mpr hm)

-- The loop over the local kills of a round adds one for each that is matched.
theorem scoreTrade_spec {window : Int} {m m' : RatingMetrics} {kill : ParsedEvent}
    (hw : window = 5 * tickRate) (hk : isLocalKill localId kill)
    (h : scoreTrade parsed round window (roundDeaths parsed round) m kill = .ok m') :
    m' = { m with tradeKills := m'.tradeKills } ∧
    m'.tradeKills.toNat =
      m.tradeKills.toNat + if IsMatched parsed localId tickRate round kill then 1 else 0 := by
  have ⟨death, hd, ha⟩ := (Option.any_eq_true _ _).mp hk
  simp only [scoreTrade, bind_eq_ok_iff, require_eq_ok_iff, Option.bind_eq_some_iff] at h
  have ⟨victim, ⟨death', hd', hv⟩, b, hb, h⟩ := h
  have hdeath : death' = death := Option.some_injective _ (hd'.symm.trans hd)
  have hmatched : IsMatched parsed localId tickRate round kill ↔ b := by
    rw [anyM_trades hw hb]
    constructor
    case mp =>
      intro ⟨_, hd'', _, victim', hv', hp⟩
      cases hd'.symm.trans hd''
      cases hv.symm.trans hv'
      exact hp
    case mpr => exact fun hp => ⟨death, hd, of_decide_eq_true ha, victim, hdeath ▸ hv, hp⟩
  split at h
  case isTrue hb' =>
    have ⟨_, ha, h⟩ := bind_eq_ok_iff.mp h
    cases h
    exact ⟨rfl, by rw [if_pos (hmatched.mpr hb')]; exact addU32_eq_ok ha⟩
  case isFalse hb' =>
    cases h
    exact ⟨rfl, by rw [if_neg (hb' ∘ hmatched.mp), Nat.add_zero]⟩

variable (parsed localId tickRate) in
-- The number of trades of the local player in a round.
def roundTrades (round : RoundLedger) : Nat :=
  (roundDeaths parsed round).countP (IsTradeKill parsed localId tickRate round ·)

variable (parsed localId tickRate) in
def roundMatches (round : RoundLedger) : Nat :=
  (roundDeaths parsed round).countP (IsMatched parsed localId tickRate round ·)

theorem localKills_matched :
    (((roundDeaths parsed round).filter (isLocalKill localId)).map fun kill =>
      if IsMatched parsed localId tickRate round kill then 1 else 0).sum =
      roundMatches parsed localId tickRate round := by
  have h := (@List.countP_eq_sum _ (IsMatched parsed localId tickRate round ·)
    ((roundDeaths parsed round).filter (isLocalKill localId))).symm
  simp only [decide_eq_true_eq] at h
  rw [h, List.countP_filter]
  refine List.countP_congr fun kill _ => ?_
  simp only [Bool.and_eq_true, decide_eq_true_eq, and_iff_left_iff_imp]
  intro ⟨death, hd, ha, _⟩
  exact (Option.any_eq_true _ _).mpr ⟨death, hd, decide_eq_true ha⟩

theorem scoreRound_counts {m m' : RatingMetrics}
    (h : scoreRound parsed localId tickRate m round = .ok m') :
    m'.kills.toNat = m.kills.toNat + roundKills parsed localId round ∧
    m'.tradeKills.toNat = m.tradeKills.toNat + roundMatches parsed localId tickRate round := by
  have ⟨m₁, m₂, hs⟩ := scoreRound_eq_ok h
  have ⟨_, h₁⟩ := hs.events
  have ⟨window, hw, h₂⟩ := hs.trades
  have hkills := foldlM_count (fun acc => acc.2.kills.toNat)
    (fun _ _ _ _ => scoreEvent_kills) h₁
  have htrades := foldlM_count (fun acc => acc.tradeKills.toNat)
    (fun _ _ _ hk hs => (scoreTrade_spec hw (List.mem_filter.mp hk).2 hs).2) h₂
  rw [scoreClutch_frame hs.clutch]
  refine ⟨?_, ?_⟩
  · rw [hs.frame₂]
    exact hkills
  · rw [htrades, hs.frame₁.2.1, localKills_matched]

end

section

variable {parsed : ParsedOutput} {localId : SteamId} {tickRate : Nat} {round : RoundLedger}

theorem killCount_of_isTradeKill {kill : ParsedEvent}
    (h : IsTradeKill parsed localId tickRate round kill) : killCount parsed localId kill = 1 := by
  have ⟨death, hd, ha, victim, hv, ⟨a, hlocal, v, hvictim, hne⟩, _⟩ := h
  have he : kill.event = .playerDeath death := by
    unfold ParsedEvent.death? at hd
    split at hd <;> simp_all
  have hcounts : countsAsKill parsed localId kill.tick death.attacker victim := by
    refine ⟨ha, ?_⟩
    rw [hlocal, hvictim]
    exact fun h => hne (Option.some_injective _ h)
  rw [killCount, he]
  simp only [show death.victim = some victim from hv]
  exact if_pos hcounts

theorem roundTrades_le_roundKills :
    roundTrades parsed localId tickRate round ≤ roundKills parsed localId round := by
  rw [roundTrades, roundDeaths, List.countP_filter, List.countP_eq_sum]
  refine List.sum_map_le fun kill _ => ?_
  split
  case isFalse => exact Nat.zero_le _
  case isTrue h =>
    simp only [Bool.and_eq_true, decide_eq_true_eq] at h
    exact (killCount_of_isTradeKill h.1).ge

theorem roundTrades_le_roundMatches :
    roundTrades parsed localId tickRate round ≤ roundMatches parsed localId tickRate round :=
  List.countP_mono_left fun _ _ h => decide_eq_true (.of_isTradeKill (of_decide_eq_true h))

theorem roundTrades_eq_roundMatches_iff :
    roundTrades parsed localId tickRate round = roundMatches parsed localId tickRate round ↔
    TradesUnambiguous parsed localId tickRate round := by
  rw [roundTrades, roundMatches, List.countP_eq_countP_iff]
  · simp only [decide_eq_true_eq]
    rfl
  · exact fun _ _ h => decide_eq_true (.of_isTradeKill (of_decide_eq_true h))

end

-- The trades of all eligible rounds.
def totalTrades (parsed : ParsedOutput) (localId : SteamId) (tickRate : Nat)
    (rounds : List RoundLedger) : Nat :=
  ((rounds.filter (·.eligible)).map (roundTrades parsed localId tickRate)).sum

theorem analyze_tradeKills_iff {parsed : ParsedOutput} {localId : SteamId} {tickRate : Nat}
    {rounds : List RoundLedger} {receipt : AnalysisReceipt}
    (h : analyze parsed localId = .ok receipt) (ht : parseTickRate parsed = .ok tickRate)
    (hr : buildRounds parsed localId = .ok rounds) :
    (receipt.ratingInput.metrics.tradeKills.toNat = totalTrades parsed localId tickRate rounds ∧
      receipt.ratingInput.metrics.tradeKills ≤ receipt.ratingInput.metrics.kills) ↔
    ∀ round ∈ rounds, round.eligible → TradesUnambiguous parsed localId tickRate round := by
  have ⟨tickRate', ha⟩ := analyze_eq_ok h
  cases ha.rate.symm.trans ht
  cases ha.rounds.symm.trans hr
  have hkills : receipt.ratingInput.metrics.kills.toNat = _ :=
    foldlM_count (fun m => m.kills.toNat)
      (fun _ _ _ _ hs => (scoreRound_counts hs).1) ha.metrics
  have htrades : receipt.ratingInput.metrics.tradeKills.toNat = _ :=
    foldlM_count (fun m => m.tradeKills.toNat)
      (fun _ _ _ _ hs => (scoreRound_counts hs).2) ha.metrics
  have hle : totalTrades parsed localId tickRate receipt.rounds ≤ _ :=
    List.sum_map_le fun round _ => roundTrades_le_roundKills
  have hrounds : ∀ round ∈ receipt.rounds.filter (·.eligible),
      roundTrades parsed localId tickRate round ≤ roundMatches parsed localId tickRate round :=
    fun round _ => roundTrades_le_roundMatches
  have hiff := List.sum_map_eq_iff hrounds
  simp only [roundTrades_eq_roundMatches_iff, List.mem_filter, and_imp] at hiff
  rw [← hiff, UInt32.le_iff_toNat_le, hkills, htrades]
  simp only [initialMetrics, totalTrades] at *
  simp only [UInt32.toNat_zero, Nat.zero_add]
  omega

-- A Demo of one round in which the local player, number 1, dies by their own grenade.
def suicideDemo : ParsedOutput where
  metadata        := ⟨some "de_dust2", some "14000", none, none, none, some "64", none⟩
  participants    := [⟨1, none, some 2⟩, ⟨2, none, some 3⟩]
  rounds          := [⟨1, 90, some 3⟩]
  events          := [
    ⟨10, 0, .roundFreezeEnd ⟨false⟩⟩,
    ⟨20, 1, .playerHurt ⟨some 2, some 1, some 10, some "ak47"⟩⟩,
    ⟨30, 2, .playerDeath ⟨some 1, some 1, none, false, some "hegrenade"⟩⟩,
    ⟨90, 3, .roundEnd ⟨some 3⟩⟩
  ]
  receipts        := [⟨0, "round_freeze_end", 10, "evidence-0"⟩]
  playerSnapshots := [
    ⟨10, 0, .requestedTick, 1, none, some 2, some 100, some true, some 0, some 0⟩,
    ⟨10, 1, .requestedTick, 2, none, some 3, some 100, some true, some 0, some 0⟩,
    ⟨90, 2, .requestedTick, 1, none, some 2, some 0, some false, some 2, some 1⟩
  ]
  suspiciousEmpty := false
  identity        := ⟨"demo", "commit", "parser", "proto", "query", "metrics", "ofr-1.0.0", "epoch"⟩

def suicideReceipt : AnalysisReceipt :=
  (analyze suicideDemo 1).toOption.get (by decide)

theorem tradeKills_counts_suicide :
    ¬∀ parsed localId tickRate receipt, analyze parsed localId = .ok receipt →
      parseTickRate parsed = .ok tickRate →
      receipt.ratingInput.metrics.tradeKills.toNat =
        totalTrades parsed localId tickRate receipt.rounds ∧
      receipt.ratingInput.metrics.tradeKills ≤ receipt.ratingInput.metrics.kills := by
  intro h
  exact absurd (h suicideDemo 1 64 suicideReceipt (by rfl) (by rfl)).2 (by decide)

theorem analyze_tradeKills_iff_suicide :
    (suicideReceipt.ratingInput.metrics.tradeKills.toNat =
        totalTrades suicideDemo 1 64 suicideReceipt.rounds ∧
      suicideReceipt.ratingInput.metrics.tradeKills ≤ suicideReceipt.ratingInput.metrics.kills) ↔
    ∀ round ∈ suicideReceipt.rounds, round.eligible →
      TradesUnambiguous suicideDemo 1 64 round :=
  analyze_tradeKills_iff (by rfl) (by rfl) (by rfl)

end Analysis
