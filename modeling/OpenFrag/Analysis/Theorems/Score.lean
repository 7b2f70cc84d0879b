import OpenFrag.Analysis.Score
import OpenFrag.Library.Outcome
import OpenFrag.Library.Count

open Import Domain Except MachineInt

namespace Analysis

theorem addU32_eq_ok {a b : UInt32} {n : Nat} (h : addU32 a n = .ok b) :
    b.toNat = a.toNat + n := by
  unfold addU32 at h
  split at h
  case isTrue hlt =>
    cases h
    exact UInt32.toNat_ofNat_of_lt' hlt
  case isFalse => cases h

variable {parsed : ParsedOutput} {localId : SteamId} {m m' : RatingMetrics}

theorem scoreHurt_frame {tick : DemoTick} {hurt : PlayerHurtEvent}
    (h : scoreHurt parsed localId tick hurt m = .ok m') :
    m' = { m with directDamage := m'.directDamage, utilityDamage := m'.utilityDamage } := by
  unfold scoreHurt at h
  split at h
  case isTrue => cases h; rfl
  case isFalse =>
    simp only [bind_eq_ok_iff, require_eq_ok_iff] at h
    obtain ⟨_, _, _, _, _, _, h⟩ := h
    split at h
    case isTrue => cases h; rfl
    case isFalse =>
      simp only [bind_eq_ok_iff] at h
      obtain ⟨_, _, _, _, _, _, _, _, h⟩ := h
      split at h
      all_goals
        obtain ⟨_, _, h⟩ := bind_eq_ok_iff.mp h
        cases h
        rfl

theorem scoreDeaths_frame {victim : SteamId} (h : scoreDeaths localId victim m = .ok m') :
    m' = { m with deaths := m'.deaths } := by
  unfold scoreDeaths at h
  split at h
  case isTrue =>
    have ⟨_, _, h⟩ := bind_eq_ok_iff.mp h
    cases h
    rfl
  case isFalse => cases h; rfl

theorem scoreKills_frame {tick : DemoTick} {attacker : Option SteamId} {victim : SteamId}
    (h : scoreKills parsed localId tick attacker victim m = .ok m') :
    m' = { m with kills := m'.kills } := by
  unfold scoreKills at h
  split at h
  case isTrue =>
    have ⟨_, _, h⟩ := bind_eq_ok_iff.mp h
    cases h
    rfl
  case isFalse => cases h; rfl

theorem scoreKills_count {tick : DemoTick} {attacker : Option SteamId} {victim : SteamId}
    (h : scoreKills parsed localId tick attacker victim m = .ok m') :
    m'.kills.toNat =
      m.kills.toNat + if countsAsKill parsed localId tick attacker victim then 1 else 0 := by
  unfold scoreKills at h
  split at h
  case isTrue hk =>
    have ⟨_, ha, h⟩ := bind_eq_ok_iff.mp h
    cases h
    rw [if_pos hk]
    exact addU32_eq_ok ha
  case isFalse hk =>
    cases h
    rw [if_neg hk, Nat.add_zero]

theorem scoreOpeningWins_frame {attacker : SteamId}
    (h : scoreOpeningWins localId attacker m = .ok m') :
    m' = { m with openingWins := m'.openingWins } := by
  unfold scoreOpeningWins at h
  split at h
  case isTrue =>
    have ⟨_, _, h⟩ := bind_eq_ok_iff.mp h
    cases h
    rfl
  case isFalse => cases h; rfl

theorem scoreOpeningLosses_frame {victim : SteamId}
    (h : scoreOpeningLosses localId victim m = .ok m') :
    m' = { m with openingLosses := m'.openingLosses } := by
  unfold scoreOpeningLosses at h
  split at h
  case isTrue =>
    have ⟨_, _, h⟩ := bind_eq_ok_iff.mp h
    cases h
    rfl
  case isFalse => cases h; rfl

theorem scoreOpening_frame {tick : DemoTick} {attacker : Option SteamId} {victim : SteamId}
    {seen seen' : Bool}
    (h : scoreOpening parsed localId tick attacker victim seen m = .ok (seen', m')) :
    m' = { m with openingWins := m'.openingWins, openingLosses := m'.openingLosses } := by
  unfold scoreOpening at h
  split at h
  case isTrue => cases h; rfl
  case isFalse =>
    split at h
    case h_1 => cases h; rfl
    case h_2 =>
      simp only [bind_eq_ok_iff] at h
      have ⟨m₁, h₁, m₂, h₂, h⟩ := h
      cases h
      rw [scoreOpeningLosses_frame h₂, scoreOpeningWins_frame h₁]

theorem scoreFlash_frame {tick : DemoTick} {death : PlayerDeathEvent}
    (h : scoreFlash parsed localId tick death m = .ok m') :
    m' = { m with flashAssists := m'.flashAssists } := by
  unfold scoreFlash at h
  split at h
  case isTrue =>
    simp only [bind_eq_ok_iff] at h
    have ⟨_, _, _, _, _, _, h⟩ := h
    cases h
    rfl
  case isFalse => cases h; rfl

theorem scoreClutch_frame {round : RoundLedger} {ticks : List DemoTick}
    (h : scoreClutch parsed round localId m ticks = .ok m') :
    m' = { m with clutchOpportunities := m'.clutchOpportunities, clutchWins := m'.clutchWins } := by
  induction ticks
  case nil => cases h; rfl
  case cons tick ticks ih =>
    unfold scoreClutch at h
    have ⟨_, _, h⟩ := bind_eq_ok_iff.mp h
    split at h
    case isFalse => exact ih h
    case isTrue =>
      have ⟨_, _, h⟩ := bind_eq_ok_iff.mp h
      split at h
      case isTrue =>
        have ⟨_, _, h⟩ := bind_eq_ok_iff.mp h
        cases h
        rfl
      case isFalse => cases h; rfl

-- What one event adds to `kills`.
def killCount (parsed : ParsedOutput) (localId : SteamId) (e : ParsedEvent) : Nat :=
  match e.event with
  | .playerDeath death =>
    match death.victim with
    | some victim => if countsAsKill parsed localId e.tick death.attacker victim then 1 else 0
    | none => 0
  | _ => 0

theorem scoreEvent_kills {acc acc' : Bool × RatingMetrics} {e : ParsedEvent}
    (h : scoreEvent parsed localId acc e = .ok acc') :
    acc'.2.kills.toNat = acc.2.kills.toNat + killCount parsed localId e := by
  unfold scoreEvent at h
  unfold killCount
  split at h
  case h_1 hurt he =>
    obtain ⟨_, h₁, h⟩ := bind_eq_ok_iff.mp h
    cases h
    rw [scoreHurt_frame h₁, he]
    rfl
  case h_2 death he =>
    simp only [bind_eq_ok_iff, require_eq_ok_iff] at h
    obtain ⟨victim, hv, m₁, h₁, m₂, h₂, ⟨_, m₃⟩, h₃, m₄, h₄, h⟩ := h
    cases h
    rw [scoreFlash_frame h₄, scoreOpening_frame h₃, he]
    simp only [hv]
    rw [scoreKills_count h₂, scoreDeaths_frame h₁]
  case h_3 hhurt hdeath =>
    cases h
    cases he : e.event <;> simp_all

-- The events of a round leave the trades, the clutches and the number of rounds as they are.
theorem scoreEvent_frame {acc acc' : Bool × RatingMetrics} {e : ParsedEvent}
    (h : scoreEvent parsed localId acc e = .ok acc') :
    acc'.2.eligibleRounds = acc.2.eligibleRounds ∧ acc'.2.tradeKills = acc.2.tradeKills ∧
    acc'.2.clutchOpportunities = acc.2.clutchOpportunities ∧
    acc'.2.clutchWins = acc.2.clutchWins := by
  unfold scoreEvent at h
  split at h
  case h_1 =>
    obtain ⟨_, h₁, h⟩ := bind_eq_ok_iff.mp h
    cases h
    rw [scoreHurt_frame h₁]
    simp
  case h_2 =>
    simp only [bind_eq_ok_iff, require_eq_ok_iff] at h
    obtain ⟨_, _, _, h₁, _, h₂, ⟨_, _⟩, h₃, _, h₄, h⟩ := h
    cases h
    rw [scoreFlash_frame h₄, scoreOpening_frame h₃, scoreKills_frame h₂, scoreDeaths_frame h₁]
    simp
  case h_3 => cases h; simp

theorem scoreTrade_frame {round : RoundLedger} {window : Int} {deaths : List ParsedEvent}
    {kill : ParsedEvent} (h : scoreTrade parsed round window deaths m kill = .ok m') :
    m' = { m with tradeKills := m'.tradeKills } := by
  simp only [scoreTrade, bind_eq_ok_iff] at h
  have ⟨_, _, _, _, h⟩ := h
  split at h
  case isTrue =>
    have ⟨_, _, h⟩ := bind_eq_ok_iff.mp h
    cases h
    rfl
  case isFalse => cases h; rfl

-- The three loops of a round: over its events, over the kills of the local player, and over its
-- ticks.
structure Scored (parsed : ParsedOutput) (localId : SteamId) (tickRate : Nat) (round : RoundLedger)
    (m m₁ m₂ m' : RatingMetrics) : Prop where
  events  : ∃ seen, (roundEvents parsed round).foldlM (scoreEvent parsed localId) (false, m) =
    .ok (seen, m₁)
  trades  : ∃ window : Int, window = 5 * tickRate ∧
    ((roundDeaths parsed round).filter (isLocalKill localId)).foldlM
      (scoreTrade parsed round window (roundDeaths parsed round)) m₁ = .ok m₂
  clutch  : scoreClutch parsed round localId m₂ (transitionTicks parsed round) = .ok m'
  frame₁  : m₁.eligibleRounds = m.eligibleRounds ∧ m₁.tradeKills = m.tradeKills ∧
    m₁.clutchOpportunities = m.clutchOpportunities ∧ m₁.clutchWins = m.clutchWins
  frame₂  : m₂ = { m₁ with tradeKills := m₂.tradeKills }

theorem anyM_eq_true {α} {test : α → Except Failure Bool} {as : List α}
    (h : anyM test as = .ok true) : ∃ a ∈ as, test a = .ok true := by
  induction as
  case nil => cases h
  case cons a as ih =>
    have ⟨b, hb, h⟩ := bind_eq_ok_iff.mp h
    cases b
    case true => exact ⟨a, List.mem_cons_self, hb⟩
    case false =>
      have ⟨a', ha', ht⟩ := ih h
      exact ⟨a', List.mem_cons_of_mem a ha', ht⟩

theorem anyM_eq_false {α} {test : α → Except Failure Bool} {as : List α}
    (h : anyM test as = .ok false) : ∀ a ∈ as, test a = .ok false := by
  induction as
  case nil => exact fun _ ha => nomatch ha
  case cons a as ih =>
    have ⟨b, hb, h⟩ := bind_eq_ok_iff.mp h
    cases b
    case true => cases h
    case false => exact List.forall_mem_cons.mpr ⟨hb, ih h⟩

theorem tradeWindow_eq_ok {tickRate : Nat} {window : Int} (h : tradeWindow tickRate = .ok window) :
    window = 5 * tickRate := by
  simp only [tradeWindow, bind_eq_ok_iff, ensure_eq_ok_iff] at h
  obtain ⟨_, hs, h⟩ := h
  rw [signed_32] at hs
  cases h
  omega

theorem scoreRound_eq_ok {tickRate : Nat} {round : RoundLedger}
    (h : scoreRound parsed localId tickRate m round = .ok m') :
    ∃ m₁ m₂, Scored parsed localId tickRate round m m₁ m₂ m' := by
  simp only [scoreRound, bind_eq_ok_iff] at h
  have ⟨(seen, m₁), h₁, window, hw, m₂, h₂, h₃⟩ := h
  refine ⟨m₁, m₂, ⟨seen, h₁⟩, ⟨window, tradeWindow_eq_ok hw, h₂⟩, h₃, ?frame₁, ?frame₂⟩
  case frame₁ =>
    apply foldlM_preserves (fun acc => acc.2.eligibleRounds = m.eligibleRounds ∧
      acc.2.tradeKills = m.tradeKills ∧ acc.2.clutchOpportunities = m.clutchOpportunities ∧
      acc.2.clutchWins = m.clutchWins) _ h₁ ⟨rfl, rfl, rfl, rfl⟩
    intro _ _ _ _ hs hf
    simp [scoreEvent_frame hs, hf]
  case frame₂ =>
    apply foldlM_preserves (fun acc => acc = { m₁ with tradeKills := acc.tradeKills }) _ h₂ rfl
    intro _ _ _ _ hs hf
    rw [scoreTrade_frame hs, hf]

theorem scoreRound_eligibleRounds {tickRate : Nat} {round : RoundLedger}
    (h : scoreRound parsed localId tickRate m round = .ok m') :
    m'.eligibleRounds = m.eligibleRounds := by
  have ⟨_, _, hs⟩ := scoreRound_eq_ok h
  rw [scoreClutch_frame hs.clutch, hs.frame₂]
  exact hs.frame₁.1

-- The kills that the code counts in a round.
def roundKills (parsed : ParsedOutput) (localId : SteamId) (round : RoundLedger) : Nat :=
  ((roundEvents parsed round).map (killCount parsed localId)).sum

-- What a successful analysis consists of.
structure Analyzed (parsed : ParsedOutput) (localId : SteamId) (tickRate : Nat)
    (receipt : AnalysisReceipt) : Prop where
  rate     : parseTickRate parsed = .ok tickRate
  order    : verifyOrder parsed = .ok ()
  rounds   : buildRounds parsed localId = .ok receipt.rounds
  metrics  : (receipt.rounds.filter (·.eligible)).foldlM (scoreRound parsed localId tickRate)
    (initialMetrics (.ofNat (receipt.rounds.filter (·.eligible)).length)) =
      .ok receipt.ratingInput.metrics
  rating   : calculateRating receipt.ratingInput = .ok receipt.ratingReceipt

theorem analyze_eq_ok {receipt : AnalysisReceipt} (h : analyze parsed localId = .ok receipt) :
    ∃ tickRate, Analyzed parsed localId tickRate receipt := by
  simp only [analyze, bind_eq_ok_iff, require_eq_ok_iff, ensure_eq_ok_iff] at h
  obtain ⟨tickRate, ht, _, _, _, _, _, ho, _, _, rounds, hr, _, _, metrics, hm, rating, hc, h⟩ := h
  cases h
  exact ⟨tickRate, ht, ho, hr, hm, mapError_eq_ok_iff.mp hc⟩

-- The input of the rating is taken from the ledger and from the receipts of the Demo.
theorem analyze_ratingInput {receipt : AnalysisReceipt} (h : analyze parsed localId = .ok receipt) :
    receipt.ratingInput.irregularities =
      irregularities parsed receipt.rounds receipt.ratingInput.metrics.eligibleRounds ∧
    receipt.ratingInput.evidenceFailure = none ∧
    receipt.ratingInput.evidence = evidenceBundle parsed receipt.rounds := by
  simp only [analyze, bind_eq_ok_iff, require_eq_ok_iff, ensure_eq_ok_iff] at h
  obtain ⟨_, _, _, _, _, _, _, _, _, _, _, _, _, _, _, _, _, _, h⟩ := h
  cases h
  simp

theorem analyze_eligibleRounds {receipt : AnalysisReceipt}
    (h : analyze parsed localId = .ok receipt) :
    receipt.ratingInput.metrics.eligibleRounds.toNat =
      (receipt.rounds.filter (·.eligible)).length := by
  simp only [analyze, bind_eq_ok_iff, require_eq_ok_iff, ensure_eq_ok_iff] at h
  obtain ⟨_, _, _, _, _, _, _, _, _, _, rounds, _, _, hlength, metrics, hm, _, _, h⟩ := h
  cases h
  have hkept : metrics.eligibleRounds = .ofNat (rounds.filter (·.eligible)).length :=
    foldlM_preserves (fun m => m.eligibleRounds = .ofNat (rounds.filter (·.eligible)).length)
      (fun _ _ _ _ hs hm => (scoreRound_eligibleRounds hs).trans hm) hm rfl
  simpa [hkept] using Nat.mod_eq_of_lt hlength

end Analysis
