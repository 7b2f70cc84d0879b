import OpenFrag.Domain.Rating

-- The published formula `ofr-1.0.0` on the numbers themselves.
namespace Domain.Formula

def clamp (q : ℚ) : ℚ :=
  min (max q 0) 1

theorem clamp_nonneg (q : ℚ) : 0 ≤ clamp q := by
  simp [clamp]

theorem clamp_le_one (q : ℚ) : clamp q ≤ 1 :=
  min_le_right _ _

def ratio (won total : ℚ) : ℚ :=
  if total = 0 then 1 / 2 else won / total

theorem ratio_nonneg {won total : ℚ} (hw : 0 ≤ won) (ht : 0 ≤ total) : 0 ≤ ratio won total := by
  unfold ratio
  split
  · norm_num
  · exact div_nonneg hw ht

theorem ratio_le_one {won total : ℚ} (h : won ≤ total) (ht : 0 ≤ total) : ratio won total ≤ 1 := by
  unfold ratio
  split
  · norm_num
  · exact div_le_one_of_le₀ h ht

section

variable (m : RatingMetrics)

def R : ℚ := m.eligibleRounds.toNat

def utilityDamage : ℚ :=
  clamp (m.utilityDamage.toNat / (30 * R m))

def flashAssists : ℚ :=
  clamp (2 * m.flashAssists.toNat / R m)

def component : ComponentKind → ℚ
  | .directDamage     => clamp (m.directDamage.toNat / (160 * R m))
  | .fragBalance      => clamp (1 / 2 + (m.kills.toNat - m.deaths.toNat) / (2 * R m))
  | .openingDuels     =>
    ratio m.openingWins.toNat (m.openingWins.toNat + m.openingLosses.toNat)
  | .tradeKills       => clamp (2 * m.tradeKills.toNat / R m)
  | .utility          => utilityDamage m * (7 / 10) + flashAssists m * (3 / 10)
  | .clutchConversion => ratio m.clutchWins.toNat m.clutchOpportunities.toNat

def weight : ComponentKind → ℚ
  | .directDamage     => 3 / 10
  | .fragBalance      => 3 / 10
  | .openingDuels     => 3 / 20
  | .tradeKills       => 1 / 10
  | .utility          => 1 / 10
  | .clutchConversion => 1 / 20

-- The weighted sum of six components.
def score (c : ComponentKind → ℚ) : ℚ :=
  c .directDamage * weight .directDamage + c .fragBalance * weight .fragBalance +
  c .openingDuels * weight .openingDuels + c .tradeKills * weight .tradeKills +
  c .utility * weight .utility + c .clutchConversion * weight .clutchConversion

def rating : ℚ :=
  2 * score (component m)

end

-- Common denominators of the components: a ratio that is neutral needs a factor of two.
def denominator (m : RatingMetrics) : ComponentKind → Nat
  | .directDamage     => 160 * m.eligibleRounds.toNat
  | .fragBalance      => 2 * m.eligibleRounds.toNat
  | .openingDuels     => 2 * max 1 (m.openingWins.toNat + m.openingLosses.toNat)
  | .tradeKills       => m.eligibleRounds.toNat
  | .utility          => 300 * m.eligibleRounds.toNat
  | .clutchConversion => 2 * max 1 m.clutchOpportunities.toNat

def scoreDenominator (m : RatingMetrics) : Nat :=
  24000 * m.eligibleRounds.toNat * max 1 (m.openingWins.toNat + m.openingLosses.toNat) *
  max 1 m.clutchOpportunities.toNat

open Rat

theorem clamp_over {N : Nat} {q : ℚ} (h : Over N q) : Over N (clamp q) := by
  unfold clamp
  rcases min_choice (max q 0) 1 with h₁ | h₁ <;> rw [h₁]
  · rcases max_choice q 0 with h₂ | h₂ <;> rw [h₂]
    · exact h
    · exact Over.zero N
  · exact Over.one N

theorem ratio_over (won total : Nat) : Over (2 * max 1 total) (ratio won total) := by
  unfold ratio
  split
  case isTrue =>
    have h : Over 2 (1 / 2) := by simpa using Over.div 2 1 (by norm_num)
    exact h.of_dvd (Nat.dvd_mul_right 2 _)
  case isFalse h =>
    have hpos : total ≠ 0 := by exact_mod_cast h
    have : max 1 total = total := by omega
    rw [this]
    exact (Over.div total won hpos).of_dvd (Nat.dvd_mul_left total 2)

section

variable {m : RatingMetrics}

theorem scaled_over {c : Nat} (hR : 0 < m.eligibleRounds.toNat) (n : Nat) (hc : 0 < c) :
    Over (c * m.eligibleRounds.toNat) (n / (c * R m)) := by
  simpa [R] using Over.div (c * m.eligibleRounds.toNat) n (by positivity)

theorem doubled_over (hR : 0 < m.eligibleRounds.toNat) (n : Nat) :
    Over m.eligibleRounds.toNat (2 * n / R m) := by
  simpa [R] using Over.div m.eligibleRounds.toNat (2 * n) (by positivity)

theorem utilityDamage_over (hR : 0 < m.eligibleRounds.toNat) :
    Over (300 * m.eligibleRounds.toNat) (utilityDamage m * (7 / 10)) := by
  have h := (clamp_over (scaled_over hR m.utilityDamage.toNat (by norm_num : 0 < 30))).mul
    (Over.div 10 7 (by norm_num))
  exact h.of_dvd ⟨1, by ring⟩

theorem flashAssists_over (hR : 0 < m.eligibleRounds.toNat) :
    Over (300 * m.eligibleRounds.toNat) (flashAssists m * (3 / 10)) := by
  have h := (clamp_over (doubled_over hR m.flashAssists.toNat)).mul
    (Over.div 10 3 (by norm_num))
  exact h.of_dvd ⟨30, by ring⟩

theorem component_over (hR : 0 < m.eligibleRounds.toNat) (k : ComponentKind) :
    Over (denominator m k) (component m k) := by
  cases k
  case directDamage => exact clamp_over (scaled_over hR _ (by norm_num))
  case fragBalance =>
    refine clamp_over (.add ?_ ?_)
    · have h : Over 2 (1 / 2) := by simpa using Over.div 2 1 (by norm_num)
      exact h.of_dvd (Nat.dvd_mul_right 2 _)
    · simpa [R, denominator] using Over.div (2 * m.eligibleRounds.toNat)
        (m.kills.toNat - m.deaths.toNat) (by positivity)
  case openingDuels =>
    simpa [component, denominator] using
      ratio_over m.openingWins.toNat (m.openingWins.toNat + m.openingLosses.toNat)
  case tradeKills => exact clamp_over (doubled_over hR _)
  case utility => exact .add (utilityDamage_over hR) (flashAssists_over hR)
  case clutchConversion => exact ratio_over _ _

end

def weightDenominator : ComponentKind → Nat
  | .openingDuels | .clutchConversion => 20
  | _ => 10

theorem weight_over (k : ComponentKind) : Over (weightDenominator k) (weight k) := by
  cases k <;> simp only [weight, weightDenominator]
  case openingDuels => exact Over.div 20 3 (by norm_num)
  case clutchConversion => exact Over.div 20 1 (by norm_num)
  case directDamage | fragBalance => exact Over.div 10 3 (by norm_num)
  case tradeKills | utility => exact Over.div 10 1 (by norm_num)

theorem denominator_dvd (m : RatingMetrics) (k : ComponentKind) :
    denominator m k * weightDenominator k ∣ scoreDenominator m := by
  let R := m.eligibleRounds.toNat
  let o := max 1 (m.openingWins.toNat + m.openingLosses.toNat)
  let c := max 1 m.clutchOpportunities.toNat
  change _ ∣ 24000 * R * o * c
  cases k
  case directDamage => exact ⟨15 * o * c, by change _ = 160 * R * 10 * _; ring⟩
  case fragBalance => exact ⟨1200 * o * c, by change _ = 2 * R * 10 * _; ring⟩
  case openingDuels => exact ⟨600 * R * c, by change _ = 2 * o * 20 * _; ring⟩
  case tradeKills => exact ⟨2400 * o * c, by change _ = R * 10 * _; ring⟩
  case utility => exact ⟨8 * o * c, by change _ = 300 * R * 10 * _; ring⟩
  case clutchConversion => exact ⟨600 * R * o, by change _ = 2 * c * 20 * _; ring⟩

theorem weighted_over {m : RatingMetrics} (hR : 0 < m.eligibleRounds.toNat) (k : ComponentKind) :
    Over (scoreDenominator m) (component m k * weight k) :=
  ((component_over hR k).mul (weight_over k)).of_dvd (denominator_dvd m k)

theorem scoreDenominator_pos {m : RatingMetrics} (hR : 0 < m.eligibleRounds.toNat) :
    0 < scoreDenominator m := by
  unfold scoreDenominator
  positivity

theorem component_nonneg (m : RatingMetrics) (k : ComponentKind) : 0 ≤ component m k := by
  cases k <;> simp only [component]
  case directDamage | fragBalance | tradeKills => exact clamp_nonneg _
  case openingDuels => exact ratio_nonneg (by positivity) (by positivity)
  case clutchConversion => exact ratio_nonneg (by positivity) (by positivity)
  case utility =>
    have h₁ : 0 ≤ utilityDamage m := clamp_nonneg _
    have h₂ : 0 ≤ flashAssists m := clamp_nonneg _
    linarith

theorem component_le_one {m : RatingMetrics} (hc : m.clutchWins ≤ m.clutchOpportunities)
    (k : ComponentKind) : component m k ≤ 1 := by
  cases k <;> simp only [component]
  case directDamage | fragBalance | tradeKills => exact clamp_le_one _
  case openingDuels => exact ratio_le_one (by simp) (by positivity)
  case clutchConversion => exact ratio_le_one (by exact_mod_cast hc) (by positivity)
  case utility =>
    have h₁ : utilityDamage m ≤ 1 := clamp_le_one _
    have h₂ : flashAssists m ≤ 1 := clamp_le_one _
    linarith

end Domain.Formula
