import OpenFrag.Domain.Theorems.Rating

namespace Domain

-- The counts of one match are at least as good as those of the other, on the same samples.
structure RatingMetrics.AtLeast (m m' : RatingMetrics) : Prop where
  eligibleRounds      : m.eligibleRounds = m'.eligibleRounds
  clutchOpportunities : m.clutchOpportunities = m'.clutchOpportunities
  directDamage  : m'.directDamage ≤ m.directDamage
  kills         : m'.kills ≤ m.kills
  deaths        : m.deaths ≤ m'.deaths
  openingWins   : m'.openingWins ≤ m.openingWins
  openingLosses : m.openingLosses ≤ m'.openingLosses
  tradeKills    : m'.tradeKills ≤ m.tradeKills
  utilityDamage : m'.utilityDamage ≤ m.utilityDamage
  flashAssists  : m'.flashAssists ≤ m.flashAssists
  clutchWins    : m'.clutchWins ≤ m.clutchWins

-- Every count, the rounds among them, is multiplied by `k`.
structure RatingMetrics.Scaled (k : Nat) (m m' : RatingMetrics) : Prop where
  eligibleRounds      : m'.eligibleRounds.toNat = k * m.eligibleRounds.toNat
  directDamage        : m'.directDamage.toNat = k * m.directDamage.toNat
  kills               : m'.kills.toNat = k * m.kills.toNat
  deaths              : m'.deaths.toNat = k * m.deaths.toNat
  openingWins         : m'.openingWins.toNat = k * m.openingWins.toNat
  openingLosses       : m'.openingLosses.toNat = k * m.openingLosses.toNat
  tradeKills          : m'.tradeKills.toNat = k * m.tradeKills.toNat
  utilityDamage       : m'.utilityDamage.toNat = k * m.utilityDamage.toNat
  flashAssists        : m'.flashAssists.toNat = k * m.flashAssists.toNat
  clutchWins          : m'.clutchWins.toNat = k * m.clutchWins.toNat
  clutchOpportunities : m'.clutchOpportunities.toNat = k * m.clutchOpportunities.toNat

namespace Formula

theorem clamp_mono {q q' : ℚ} (h : q' ≤ q) : clamp q' ≤ clamp q := by
  unfold clamp
  gcongr

-- A share grows with what is won and shrinks with what is lost, also from and to the neutral one.
theorem ratio_mono {w w' l l' : ℚ} (h₀ : 0 ≤ w') (hl₀ : 0 ≤ l) (hw : w' ≤ w) (hl : l ≤ l') :
    ratio w' (w' + l') ≤ ratio w (w + l) := by
  unfold ratio
  split <;> split
  case isTrue.isTrue => exact le_rfl
  case isTrue.isFalse h h' =>
    have hl' : l = 0 := by linarith
    subst hl'
    rw [add_zero] at h' ⊢
    rw [div_self h']
    norm_num
  case isFalse.isTrue h h' =>
    have hw' : w' = 0 := by linarith
    simp [hw']
  case isFalse.isFalse h h' =>
    have hpos : 0 < w + l := lt_of_le_of_ne (by linarith) (Ne.symm h')
    have hpos' : 0 < w' + l' := lt_of_le_of_ne (by linarith) (Ne.symm h)
    rw [div_le_div_iff₀ hpos' hpos]
    have : w' * l ≤ w * l' := mul_le_mul hw hl hl₀ (h₀.trans hw)
    linarith

theorem ratio_le_ratio {won won' total : ℚ} (ht : 0 ≤ total) (h : won' ≤ won) :
    ratio won' total ≤ ratio won total := by
  unfold ratio
  split
  · exact le_rfl
  · gcongr

theorem ratio_scaled {k : ℚ} (hk : k ≠ 0) (won total : ℚ) :
    ratio (k * won) (k * total) = ratio won total := by
  simp [ratio, hk, mul_div_mul_left]

theorem score_mono {c c' : ComponentKind → ℚ} (h : ∀ kind, c' kind ≤ c kind) :
    score c' ≤ score c := by
  simp only [score, weight]
  linarith [h .directDamage, h .fragBalance, h .openingDuels, h .tradeKills, h .utility,
    h .clutchConversion]

section

variable {m m' : RatingMetrics}

theorem component_mono (h : m.AtLeast m') (kind : ComponentKind) :
    component m' kind ≤ component m kind := by
  have hR : R m' = R m := by simp [R, h.eligibleRounds]
  have hR₀ : 0 ≤ R m := Nat.cast_nonneg _
  have cast {a b : UInt32} (hab : a ≤ b) : (a.toNat : ℚ) ≤ b.toNat := by exact_mod_cast hab
  cases kind <;> simp only [component, utilityDamage, flashAssists, hR]
  case directDamage =>
    apply clamp_mono
    have := cast h.directDamage
    gcongr
  case fragBalance =>
    apply clamp_mono
    have := cast h.kills
    have := cast h.deaths
    gcongr
  case openingDuels =>
    exact ratio_mono (Nat.cast_nonneg _) (Nat.cast_nonneg _) (cast h.openingWins)
      (cast h.openingLosses)
  case tradeKills =>
    apply clamp_mono
    have := cast h.tradeKills
    gcongr
  case utility =>
    have h₁ := cast h.utilityDamage
    have h₂ := cast h.flashAssists
    have hud : clamp (m'.utilityDamage.toNat / (30 * R m)) ≤
        clamp (m.utilityDamage.toNat / (30 * R m)) := clamp_mono (by gcongr)
    have hfa : clamp (2 * m'.flashAssists.toNat / R m) ≤ clamp (2 * m.flashAssists.toNat / R m) :=
      clamp_mono (by gcongr)
    linarith
  case clutchConversion =>
    rw [h.clutchOpportunities]
    exact ratio_le_ratio (Nat.cast_nonneg _) (cast h.clutchWins)

theorem rating_mono (h : m.AtLeast m') : rating m' ≤ rating m := by
  have := score_mono (component_mono h)
  simp only [rating]
  linarith

theorem component_scaled {k : Nat} (hk : 1 ≤ k) (h : m.Scaled k m') (kind : ComponentKind) :
    component m' kind = component m kind := by
  have hk₀ : (k : ℚ) ≠ 0 := by exact_mod_cast (by omega : k ≠ 0)
  have hdiv (c a b : ℚ) : c * (k * a) / (k * b) = c * a / b := by
    rw [mul_left_comm, mul_div_mul_left _ _ hk₀]
  have hdiv' (c a b : ℚ) : k * a / (c * (k * b)) = a / (c * b) := by
    rw [mul_left_comm c, mul_div_mul_left _ _ hk₀]
  cases kind <;> simp only [component, utilityDamage, flashAssists, R, h.eligibleRounds,
    h.directDamage, h.kills, h.deaths, h.openingWins, h.openingLosses, h.tradeKills,
    h.utilityDamage, h.flashAssists, h.clutchWins, h.clutchOpportunities, Nat.cast_mul]
  case directDamage => rw [hdiv']
  case fragBalance => rw [← mul_sub, hdiv']
  case openingDuels => rw [← mul_add, ratio_scaled hk₀]
  case tradeKills => rw [hdiv]
  case utility => rw [hdiv', hdiv]
  case clutchConversion => rw [ratio_scaled hk₀]

theorem rating_scaled {k : Nat} (hk : 1 ≤ k) (h : m.Scaled k m') : rating m' = rating m := by
  rw [rating, rating, funext (component_scaled hk h)]

end

end Formula

-- The values that a receipt publishes, compared with those of another receipt.
def RatingReceipt.RatesAtLeast (receipt receipt' : RatingReceipt) : Prop :=
  ∃ r r' bp bp', receipt.ratingExact = some r ∧ receipt'.ratingExact = some r' ∧
    receipt.ratingBp = some bp ∧ receipt'.ratingBp = some bp' ∧ r'.le r ∧ bp'.get ≤ bp.get

section

variable {m m' : RatingMetrics} {receipt receipt' : RatingReceipt}

theorem Published.ratesAtLeast (h : Published m receipt) (h' : Published m' receipt')
    (hle : Formula.rating m' ≤ Formula.rating m) : receipt.RatesAtLeast receipt' := by
  have ⟨r, hr, hval, _⟩ := h.ratingExact
  have ⟨r', hr', hval', _⟩ := h'.ratingExact
  have ⟨bp, hbp, hfloor, _⟩ := h.ratingBp
  have ⟨bp', hbp', hfloor', _⟩ := h'.ratingBp
  refine ⟨r, r', bp, bp', hr, hr', hbp, hbp', ?exact, ?points⟩
  case exact =>
    apply Rational.le_iff.mpr
    simpa [hval, hval'] using hle
  case points =>
    have : ⌊10000 * Formula.rating m' + 1 / 2⌋ ≤ ⌊10000 * Formula.rating m + 1 / 2⌋ := by gcongr
    omega

theorem Published.rates_eq (h : Published m receipt) (h' : Published m' receipt')
    (heq : Formula.rating m' = Formula.rating m) :
    receipt'.ratingExact = receipt.ratingExact ∧ receipt'.ratingBp = receipt.ratingBp := by
  have ⟨r, hr, hval, _⟩ := h.ratingExact
  have ⟨r', hr', hval', _⟩ := h'.ratingExact
  have ⟨bp, hbp, hfloor, _⟩ := h.ratingBp
  have ⟨bp', hbp', hfloor', _⟩ := h'.ratingBp
  have hexact : r' = r := by rw [← Rational.val_inj, hval, hval', heq]
  have hpoints : bp' = bp := by
    cases bp
    cases bp'
    rw [heq, ← hfloor] at hfloor'
    simpa using hfloor'
  simp [hr, hr', hbp, hbp', hexact, hpoints]

end

-- Better counts on the same samples do not lower a rating, and the length of a match does not
-- matter for it.
theorem calculateRating_laws {input input' : RatingInput} {receipt receipt' : RatingReceipt}
    (h : calculateRating input = .ok receipt) (ha : receipt.Available)
    (h' : calculateRating input' = .ok receipt') (ha' : receipt'.Available) :
    (input.metrics.AtLeast input'.metrics → receipt.RatesAtLeast receipt') ∧
    ∀ k ≥ 1, input.metrics.Scaled k input'.metrics →
      receipt'.ratingExact = receipt.ratingExact ∧ receipt'.ratingBp = receipt.ratingBp := by
  have ⟨hp, _⟩ := published_of_available h ha
  have ⟨hp', _⟩ := published_of_available h' ha'
  constructor
  case left => exact fun hle => hp.ratesAtLeast hp' (Formula.rating_mono hle)
  case right => exact fun k hk hs => hp.rates_eq hp' (Formula.rating_scaled hk hs)

def workedInputWith (metrics : RatingMetrics) : RatingInput :=
  { workedInput with metrics }

-- The worked example again, with one more kill, and with every round played twice.
def betterMetrics : RatingMetrics :=
  { workedMetrics with kills := 19 }

def doubledMetrics : RatingMetrics where
  eligibleRounds      := 40
  directDamage        := 3200
  kills               := 36
  deaths              := 32
  openingWins         := 6
  openingLosses       := 4
  tradeKills          := 8
  utilityDamage       := 600
  flashAssists        := 4
  clutchWins          := 2
  clutchOpportunities := 4

theorem workedInputWith_available {m : RatingMetrics} (hm : BoundedByRounds m)
    (hu : unavailableReason (workedInputWith m) = none)
    (hc : m.clutchWins ≤ m.clutchOpportunities) :
    ∃ receipt, calculateRating (workedInputWith m) = .ok receipt ∧ receipt.Available := by
  have ⟨receipt, h⟩ := (calculateRating_yields hu hc).ok_of_good hm
  exact ⟨receipt, h, (calculateRating_available_iff h).mpr hu⟩

theorem calculateRating_laws_worked : ∃ receipt better doubled,
    calculateRating (workedInputWith workedMetrics) = .ok receipt ∧
    calculateRating (workedInputWith betterMetrics) = .ok better ∧
    calculateRating (workedInputWith doubledMetrics) = .ok doubled ∧
    better.RatesAtLeast receipt ∧
    doubled.ratingExact = receipt.ratingExact ∧ doubled.ratingBp = receipt.ratingBp := by
  have ⟨receipt, h, ha⟩ :=
    workedInputWith_available (m := workedMetrics) (by constructor <;> decide) rfl (by decide)
  have ⟨better, hb, hba⟩ :=
    workedInputWith_available (m := betterMetrics) (by constructor <;> decide) rfl (by decide)
  have ⟨doubled, hd, hda⟩ :=
    workedInputWith_available (m := doubledMetrics) (by constructor <;> decide) rfl (by decide)
  have hmono : betterMetrics.AtLeast workedMetrics := by constructor <;> decide
  have hscale : workedMetrics.Scaled 2 doubledMetrics := by constructor <;> decide
  exact ⟨receipt, better, doubled, h, hb, hd, (calculateRating_laws hb hba h ha).1 hmono,
    (calculateRating_laws h ha hd hda).2 2 (by norm_num) hscale⟩

end Domain
