import OpenFrag.Library.Outcome
import OpenFrag.Domain.Theorems.Exact
import OpenFrag.Domain.Formula
import Mathlib.Data.Rat.Floor

open MachineInt Except

namespace Domain

open Formula

namespace Exact

variable {fits : Prop}

theorem ofRat {q : ℚ} (h : fits → Rational.Fits q) :
    Yields .overflow fits (Rational.ofRat q) (fun r => r.val = q) := by
  cases hr : Rational.ofRat q
  case ok r => exact Rational.ofRat_eq_ok_iff.mp hr
  case error e =>
    refine ⟨Rational.ofRat_error hr, fun hf => ?_⟩
    have ⟨r, hr', _⟩ := Rational.ofRat_of_fits (h hf)
    simp [hr] at hr'

theorem fits_div (n d : Int) (hd : 0 < d) (hn : |n| < 2 ^ 63) (hd' : d < 2 ^ 63) :
    Rational.Fits (n / d) := by
  have hcast : ((d.toNat : Int) : ℚ) = d := by rw [Int.toNat_of_nonneg hd.le]
  have h : Rat.Over d.toNat (n / d) := by
    have := Rat.Over.div d.toNat n (by omega)
    rwa [← Int.cast_natCast d.toNat, hcast] at this
  refine Rational.fits_of_over (|n| / d) h (by omega) ?_ ?_ (by omega)
  · rw [abs_div, abs_of_pos (by exact_mod_cast hd : (0 : ℚ) < d), Int.cast_abs]
  · rw [← Int.cast_natCast d.toNat, hcast, div_mul_cancel₀ _ (by exact_mod_cast hd.ne')]
    exact_mod_cast hn

-- A quotient of two small integers is reduced to an even smaller one.
theorem new {n d : Int} (hd : 0 < d) (hn : |n| < 2 ^ 63) (hd' : d < 2 ^ 63) :
    Yields .overflow fits (Rational.new n d) (fun r => r.val = n / d) := by
  have hn' := abs_lt.mp hn
  rw [Rational.new_eq hd.ne' (by rw [signed_64]; omega) (by rw [signed_64]; omega)]
  exact ofRat fun _ => fits_div _ _ hd hn hd'

theorem checkedAdd {r s : Rational} (h : fits → Rational.Fits (r.val + s.val)) :
    Yields .overflow fits (r.checkedAdd s) (fun t => t.val = r.val + s.val) := by
  rw [Rational.checkedAdd_eq]
  exact ofRat h

theorem checkedMul {r s : Rational} (h : fits → Rational.Fits (r.val * s.val)) :
    Yields .overflow fits (r.checkedMul s) (fun t => t.val = r.val * s.val) := by
  rw [Rational.checkedMul_eq]
  exact ofRat h

theorem unitInterval {r : Rational} (h₀ : 0 ≤ r.val) (h₁ : r.val ≤ 1) :
    Yields .overflow fits (UnitInterval.new r) (fun u => u.exact = r) := by
  have h : Rational.ZERO.le r ∧ r.le Rational.ONE := by simp [Rational.le_iff, h₀, h₁]
  rw [UnitInterval.new, dif_pos h]
  exact rfl

theorem neutralRatio {won total : Int} (hw : 0 ≤ won) (h : won ≤ total) (ht : total < 2 ^ 63) :
    Yields .overflow fits (neutralRatio won total) (fun u => u.exact.val = ratio won total) := by
  unfold Domain.neutralRatio ratio
  by_cases h₀ : total = 0
  case pos =>
    rw [if_pos h₀, if_pos (by exact_mod_cast h₀)]
    exact (unitInterval (by norm_num) (by norm_num)).mono fun u hu => by simp [hu]
  case neg =>
    rw [if_neg h₀, if_neg (by exact_mod_cast h₀)]
    refine (new (by omega) (by rw [abs_lt]; omega) ht).bind fun r hr => ?_
    have hpos : (0 : ℚ) < total := by exact_mod_cast (by omega : 0 < total)
    refine (unitInterval ?_ ?_).mono fun u hu => by rw [hu, hr]
    · rw [hr]; exact div_nonneg (by exact_mod_cast hw) hpos.le
    · rw [hr]; exact div_le_one_of_le₀ (by exact_mod_cast h) hpos.le

end Exact

theorem clamped_val {r : Rational} {q : ℚ} (h : r.val = q) :
    (UnitInterval.clamped r).exact.val = clamp q := by
  simp [UnitInterval.clamped, clamp, h]

-- What the analysis of a match guarantees about the counts of a rating.
structure BoundedByRounds (m : RatingMetrics) : Prop where
  rounds  : m.eligibleRounds.toNat ≤ 1000
  opening : m.openingWins.toNat + m.openingLosses.toNat ≤ m.eligibleRounds.toNat
  clutch  : m.clutchOpportunities.toNat ≤ m.eligibleRounds.toNat

theorem componentVector_yields {m : RatingMetrics} {fits : Prop} (hR : 0 < m.eligibleRounds.toNat)
    (hc : m.clutchWins ≤ m.clutchOpportunities) :
    Yields .overflow fits (componentVector m) (fun v => ∀ k, (v.get k).exact.val = component m k) := by
  have h₁ := m.eligibleRounds.toNat_lt
  have h₂ := m.directDamage.toNat_lt
  have h₃ := m.kills.toNat_lt
  have h₄ := m.deaths.toNat_lt
  have h₅ := m.openingWins.toNat_lt
  have h₆ := m.openingLosses.toNat_lt
  have h₇ := m.tradeKills.toNat_lt
  have h₈ := m.utilityDamage.toNat_lt
  have h₉ := m.flashAssists.toNat_lt
  have h₁₀ := m.clutchOpportunities.toNat_lt
  have hc' : m.clutchWins.toNat ≤ m.clutchOpportunities.toNat := hc
  have hR' : (0 : ℚ) < m.eligibleRounds.toNat := by exact_mod_cast hR
  have hutility {q : ℚ} (hq : Rat.Over (300 * m.eligibleRounds.toNat) q) (h₀ : 0 ≤ q)
      (h₁ : q ≤ 1) : Rational.Fits q := by
    refine Rational.fits_of_over 1 hq (by omega) (by rwa [abs_of_nonneg h₀]) ?_ (by omega)
    rw [one_mul]
    exact_mod_cast (by omega : 300 * m.eligibleRounds.toNat < 2 ^ 63)
  have hud₀ : 0 ≤ utilityDamage m := clamp_nonneg _
  have hud₁ : utilityDamage m ≤ 1 := clamp_le_one _
  have hfa₀ : 0 ≤ flashAssists m := clamp_nonneg _
  have hfa₁ : flashAssists m ≤ 1 := clamp_le_one _
  unfold componentVector
  refine (Exact.new (by omega) (by rw [abs_lt]; omega) (by omega)).bind fun dd hdd => ?_
  refine (Exact.new (by omega) (by rw [abs_lt]; omega) (by omega)).bind fun delta hdelta => ?_
  refine (Exact.checkedAdd fun _ => ?_).bind fun fb hfb => ?_
  · have h := Exact.fits_div (m.eligibleRounds.toNat + (m.kills.toNat - m.deaths.toNat))
      (2 * m.eligibleRounds.toNat) (by omega) (by rw [abs_lt]; omega) (by omega)
    rw [hdelta, Rational.val_half]
    convert h using 1
    push_cast
    field_simp
  refine (Exact.neutralRatio (by omega) (by omega) (by omega)).bind fun od hod => ?_
  refine (Exact.new (by omega) (by rw [abs_lt]; omega) (by omega)).bind fun tk htk => ?_
  refine (Exact.new (by omega) (by rw [abs_lt]; omega) (by omega)).bind fun ud hud => ?_
  refine (Exact.new (by omega) (by rw [abs_lt]; omega) (by omega)).bind fun fa hfa => ?_
  have hud' : (UnitInterval.clamped ud).exact.val = utilityDamage m :=
    clamped_val (by rw [hud]; simp [R])
  have hfa' : (UnitInterval.clamped fa).exact.val = flashAssists m :=
    clamped_val (by rw [hfa]; simp [R])
  refine (Exact.new (by omega) (by rw [abs_lt]; omega) (by omega)).bind fun w₁ hw₁ => ?_
  have hw₁' : (UnitInterval.clamped ud).exact.val * w₁.val = utilityDamage m * (7 / 10) := by
    rw [hud', hw₁]; norm_num
  refine (Exact.checkedMul fun _ => ?_).bind fun u₁ hu₁ => ?_
  · rw [hw₁']
    exact hutility (utilityDamage_over hR) (by linarith) (by linarith)
  refine (Exact.new (by omega) (by rw [abs_lt]; omega) (by omega)).bind fun w₂ hw₂ => ?_
  have hw₂' : (UnitInterval.clamped fa).exact.val * w₂.val = flashAssists m * (3 / 10) := by
    rw [hfa', hw₂]; norm_num
  refine (Exact.checkedMul fun _ => ?_).bind fun u₂ hu₂ => ?_
  · rw [hw₂']
    exact hutility (flashAssists_over hR) (by linarith) (by linarith)
  have hu' : u₁.val + u₂.val = component m .utility := by rw [hu₁, hw₁', hu₂, hw₂']; rfl
  refine (Exact.checkedAdd fun _ => ?_).bind fun u hu => ?_
  · rw [hu']
    exact hutility (component_over hR .utility) (component_nonneg m _) (component_le_one hc _)
  rw [hu'] at hu
  refine (Exact.unitInterval ?_ ?_).bind fun ut hut => ?_
  · exact hu ▸ component_nonneg m _
  · exact hu ▸ component_le_one hc _
  refine (Exact.neutralRatio (by omega) (by omega) (by omega)).bind fun cc hcc => ?_
  refine Yields.pure fun k => ?_
  cases k
  case directDamage => exact clamped_val (by rw [hdd]; simp [R])
  case fragBalance => exact clamped_val (by rw [hfb, hdelta]; simp [R])
  case openingDuels => simpa [component, ComponentVector.get] using hod
  case tradeKills => exact clamped_val (by rw [htk]; simp [R])
  case utility => exact hut ▸ hu
  case clutchConversion => simpa [component, ComponentVector.get] using hcc

theorem componentReceipts_yields {fits : Prop} (v : ComponentVector) (e : RatingEvidenceBundle) :
    Yields .overflow fits (componentReceipts v e) (fun _ => True) := by
  unfold componentReceipts
  refine (Exact.new (by decide) (by decide) (by decide)).bind fun _ _ => ?_
  refine (Exact.new (by decide) (by decide) (by decide)).bind fun _ _ => ?_
  refine (Exact.new (by decide) (by decide) (by decide)).bind fun _ _ => ?_
  refine (Exact.new (by decide) (by decide) (by decide)).bind fun _ _ => ?_
  refine (Exact.new (by decide) (by decide) (by decide)).bind fun _ _ => ?_
  refine (Exact.new (by decide) (by decide) (by decide)).bind fun _ _ => ?_
  exact Yields.pure trivial

theorem Exact.new_numerator_nonneg {n d : Int} {r : Rational} (h : Rational.new n d = .ok r)
    (hn : 0 ≤ n ∧ n < 2 ^ 63) (hd : 0 < d ∧ d < 2 ^ 63) : 0 ≤ r.numerator := by
  have hval : Yields .overflow True (Rational.new n d) (fun r => r.val = n / d) :=
    Exact.new hd.1 (abs_lt.mpr ⟨by omega, hn.2⟩) hd.2
  rw [h] at hval
  have hnonneg : 0 ≤ r.val := by
    rw [show r.val = n / d from hval]
    exact div_nonneg (by exact_mod_cast hn.1) (by exact_mod_cast hd.1.le)
  exact r.val_num ▸ Rat.num_nonneg.mpr hnonneg

-- One receipt for each component, with a positive denominator and a weight.
theorem componentReceipts_wellFormed {v : ComponentVector} {e : RatingEvidenceBundle}
    {receipts : List ComponentReceipt} (h : componentReceipts v e = .ok receipts) :
    (receipts.map (·.kind)).Nodup ∧
    ∀ receipt ∈ receipts, 0 < receipt.exactDenominator ∧ 0 ≤ receipt.weight.numerator := by
  simp only [componentReceipts, bind_eq_ok_iff, pure_eq_ok_iff] at h
  obtain ⟨w₁, h₁, w₂, h₂, w₃, h₃, w₄, h₄, w₅, h₅, w₆, h₆, rfl⟩ := h
  refine ⟨by simp, fun receipt hr => ?_⟩
  have hpos := fun kind => (v.get kind).exact.denominatorPos
  have hw₁ := Exact.new_numerator_nonneg h₁ (by norm_num) (by norm_num)
  have hw₂ := Exact.new_numerator_nonneg h₂ (by norm_num) (by norm_num)
  have hw₃ := Exact.new_numerator_nonneg h₃ (by norm_num) (by norm_num)
  have hw₄ := Exact.new_numerator_nonneg h₄ (by norm_num) (by norm_num)
  have hw₅ := Exact.new_numerator_nonneg h₅ (by norm_num) (by norm_num)
  have hw₆ := Exact.new_numerator_nonneg h₆ (by norm_num) (by norm_num)
  simp only [List.map_cons, List.map_nil, List.mem_cons, List.not_mem_nil, or_false] at hr
  rcases hr with rfl | rfl | rfl | rfl | rfl | rfl <;> exact ⟨hpos _, by assumption⟩

theorem calculateRating_componentReceipts {input : RatingInput} {receipt : RatingReceipt}
    {receipts : List ComponentReceipt} (h : calculateRating input = .ok receipt)
    (hr : receipt.componentReceipts = some receipts) :
    (receipts.map (·.kind)).Nodup ∧
    ∀ r ∈ receipts, 0 < r.exactDenominator ∧ 0 ≤ r.weight.numerator := by
  unfold calculateRating at h
  cases hu : unavailableReason input <;> simp only [hu] at h <;> split at h
  case some.isTrue | none.isTrue => cases h
  case some.isFalse => cases h; cases hr
  case none.isFalse =>
    simp only [bind_eq_ok_iff, mapError_eq_ok_iff, pure_eq_ok_iff] at h
    obtain ⟨_, _, _, hreceipts, _, _, _, _, rfl⟩ := h
    cases hr
    exact componentReceipts_wellFormed hreceipts

theorem unavailableReason_eq_none_iff {input : RatingInput} :
    unavailableReason input = none ↔ input.evidence.firstMissing = none ∧
      input.evidenceFailure = none ∧ input.irregularities.forfeitWithoutCanonicalWinner = false ∧
      8 ≤ input.metrics.eligibleRounds := by
  unfold unavailableReason
  cases input.evidence.firstMissing <;> cases input.evidenceFailure <;> simp
  split <;> simp_all

theorem previewReasons_eq_nil_iff {input : RatingInput} :
    previewReasons input = [] ↔ 12 ≤ input.metrics.eligibleRounds ∧
      input.irregularities.missedLiveRound = false ∧ input.irregularities.surrender = false := by
  simp [previewReasons]

-- A receipt counts for trends when it has a rating, no reason for a preview and even rosters.
theorem calculateRating_trendEligible_iff {input : RatingInput} {receipt : RatingReceipt}
    (h : calculateRating input = .ok receipt) :
    receipt.trendEligible ↔ unavailableReason input = none ∧ previewReasons input = [] ∧
      input.irregularities.rosterImbalanced = false := by
  unfold calculateRating at h
  cases hu : unavailableReason input <;> simp only [hu] at h <;> split at h
  case some.isTrue | none.isTrue => cases h
  case some.isFalse =>
    cases h
    simp [RatingReceipt.trendEligible]
  case none.isFalse =>
    simp only [bind_eq_ok_iff, mapError_eq_ok_iff, pure_eq_ok_iff] at h
    obtain ⟨_, _, _, _, _, _, _, _, rfl⟩ := h
    by_cases hp : previewReasons input = [] <;>
      simp [RatingReceipt.trendEligible, trendExclusions, hp]

-- A partial sum of the aggregate, between zero and `b`.
structure PartialSum (m : RatingMetrics) (b q : ℚ) : Prop where
  frac   : Rat.Over (scoreDenominator m) q
  nonneg : 0 ≤ q
  le     : q ≤ b

namespace PartialSum

variable {m : RatingMetrics} {b b' q q' : ℚ}

theorem term (hR : 0 < m.eligibleRounds.toNat) (hc : m.clutchWins ≤ m.clutchOpportunities)
    (k : ComponentKind) : PartialSum m (weight k) (component m k * weight k) where
  frac := weighted_over hR k
  nonneg := mul_nonneg (component_nonneg m k) (by cases k <;> norm_num [weight])
  le := mul_le_of_le_one_left (by cases k <;> norm_num [weight]) (component_le_one hc k)

theorem add (h : PartialSum m b q) (h' : PartialSum m b' q') : PartialSum m (b + b') (q + q') where
  frac := h.frac.add h'.frac
  nonneg := add_nonneg h.nonneg h'.nonneg
  le := add_le_add h.le h'.le

theorem mul_nat (h : PartialSum m b q) (n : Nat) : PartialSum m (b * n) (q * n) where
  frac := h.frac.mul_int n
  nonneg := mul_nonneg h.nonneg n.cast_nonneg
  le := mul_le_mul_of_nonneg_right h.le n.cast_nonneg

theorem fits (h : PartialSum m b q) (hb : b ≤ 20000) (hR : 0 < m.eligibleRounds.toNat)
    (hm : BoundedByRounds m) : Rational.Fits q := by
  have hN : scoreDenominator m ≤ 24000 * 1000 * 1000 * 1000 := by
    have h₂ := hm.rounds
    have h₃ := hm.opening
    have h₄ := hm.clutch
    have ho : max 1 (m.openingWins.toNat + m.openingLosses.toNat) ≤ 1000 := by omega
    have hc : max 1 m.clutchOpportunities.toNat ≤ 1000 := by omega
    unfold scoreDenominator
    gcongr
  have hN' : (scoreDenominator m : ℚ) ≤ 24000 * 1000 * 1000 * 1000 := by exact_mod_cast hN
  refine Rational.fits_of_over 20000 h.frac (scoreDenominator_pos hR) ?_ ?_ (by omega)
  · rw [abs_of_nonneg h.nonneg]
    exact h.le.trans hb
  · linarith

end PartialSum

section

variable {m : RatingMetrics} {v : ComponentVector}

-- One term of the weighted sum, whose weight is the fraction `n / d`.
theorem Exact.weighted {α} {P : α → Prop} (hR : 0 < m.eligibleRounds.toNat)
    (hc : m.clutchWins ≤ m.clutchOpportunities) {u : UnitInterval} {k : ComponentKind} {n d : Int}
    {f : Rational → Except ExactError α} (hu : u.exact.val = component m k)
    (hw : (n : ℚ) / d = weight k) (hd : 0 < d) (hn : |n| < 2 ^ 63) (hd' : d < 2 ^ 63)
    (hf : ∀ t, t.val = component m k * weight k → Yields .overflow (BoundedByRounds m) (f t) P) :
    Yields .overflow (BoundedByRounds m) (Rational.new n d >>= fun w => u.exact.checkedMul w >>= f) P := by
  refine (Exact.new hd hn hd').bind fun w hw' => ?_
  have hval : u.exact.val * w.val = component m k * weight k := by rw [hu, hw', hw]
  refine (Exact.checkedMul fun hm => ?_).bind fun t ht => hf t (by rw [ht, hval])
  rw [hval]
  exact (PartialSum.term hR hc k).fits (by cases k <;> norm_num [weight]) hR hm

-- The same with the addition of the term to the sum of the terms before it.
theorem Exact.accumulate {α} {P : α → Prop} (hR : 0 < m.eligibleRounds.toNat)
    (hc : m.clutchWins ≤ m.clutchOpportunities) {u : UnitInterval} {k : ComponentKind} {n d : Int}
    {f : Rational → Except ExactError α} {b : ℚ} {sum : Rational} (hsum : PartialSum m b sum.val)
    (hb : b ≤ 1) (hu : u.exact.val = component m k) (hw : (n : ℚ) / d = weight k) (hd : 0 < d)
    (hn : |n| < 2 ^ 63) (hd' : d < 2 ^ 63)
    (hf : ∀ s, s.val = sum.val + component m k * weight k →
      PartialSum m (b + weight k) s.val → Yields .overflow (BoundedByRounds m) (f s) P) :
    Yields .overflow (BoundedByRounds m)
      (Rational.new n d >>= fun w => u.exact.checkedMul w >>= fun t => sum.checkedAdd t >>= f) P := by
  refine Exact.weighted hR hc hu hw hd hn hd' fun t ht => ?_
  have hadd := hsum.add (PartialSum.term hR hc k)
  have hk : weight k ≤ 1 := by cases k <;> norm_num [weight]
  refine (Exact.checkedAdd fun hm => ?_).bind fun s hs => hf s (by rw [hs, ht]) ?_
  · rw [ht]
    exact hadd.fits (by linarith) hR hm
  · rw [hs, ht]
    exact hadd

theorem weightedRating_yields (hR : 0 < m.eligibleRounds.toNat)
    (hc : m.clutchWins ≤ m.clutchOpportunities) (hv : ∀ k, (v.get k).exact.val = component m k) :
    Yields .overflow (BoundedByRounds m) (weightedRating v)
      (fun r => r.val = rating m ∧ PartialSum m 2 r.val) := by
  unfold weightedRating
  refine Exact.weighted hR hc (hv .directDamage) (by norm_num [weight])
    (by decide) (by decide) (by decide) fun s₁ h₁ => ?_
  have p₁ : PartialSum m _ s₁.val := h₁ ▸ PartialSum.term hR hc _
  refine Exact.accumulate hR hc p₁ (by norm_num [weight]) (hv .fragBalance) (by norm_num [weight])
    (by decide) (by decide) (by decide) fun s₂ h₂ p₂ => ?_
  refine Exact.accumulate hR hc p₂ (by norm_num [weight]) (hv .openingDuels) (by norm_num [weight])
    (by decide) (by decide) (by decide) fun s₃ h₃ p₃ => ?_
  refine Exact.accumulate hR hc p₃ (by norm_num [weight]) (hv .tradeKills) (by norm_num [weight])
    (by decide) (by decide) (by decide) fun s₄ h₄ p₄ => ?_
  refine Exact.accumulate hR hc p₄ (by norm_num [weight]) (hv .utility) (by norm_num [weight])
    (by decide) (by decide) (by decide) fun s₅ h₅ p₅ => ?_
  refine Exact.accumulate hR hc p₅ (by norm_num [weight]) (hv .clutchConversion)
    (by norm_num [weight]) (by decide) (by decide) (by decide) fun s₆ h₆ p₆ => ?_
  have hscore : s₆.val = score (component m) := by rw [h₆, h₅, h₄, h₃, h₂, h₁]; rfl
  have htwo : (Rational.fromInteger 2 (by decide)).val = (2 : Nat) := by
    norm_num [Rational.fromInteger, Rational.val]
  have p₇ := p₆.mul_nat 2
  refine (Exact.checkedMul fun hm => ?_).mono fun r hr => ⟨?_, ?_⟩
  · rw [htwo]
    exact p₇.fits (by norm_num [weight]) hR hm
  · rw [hr, htwo, hscore, rating, mul_comm]
    rfl
  · rw [hr, htwo]
    exact ⟨p₇.frac, p₇.nonneg, p₇.le.trans (by norm_num [weight])⟩

end

theorem basisPoints_yields {m : RatingMetrics} {r : Rational} (hR : 0 < m.eligibleRounds.toNat)
    (hr : PartialSum m 2 r.val) :
    Yields .overflow (BoundedByRounds m) (basisPoints r)
      (fun bp => (bp.get : Int) = ⌊10000 * r.val + 1 / 2⌋) := by
  have hscale : (Rational.fromInteger 10000 (by decide)).val = (10000 : Nat) := by
    norm_num [Rational.fromInteger, Rational.val]
  have hp := hr.mul_nat 10000
  have hle : (2 : ℚ) * (10000 : Nat) = 20000 := by norm_num
  rw [hle] at hp
  unfold basisPoints
  refine (Exact.checkedMul fun hm => ?_).bind fun s hs => ?_
  · rw [hscale]
    exact hp.fits le_rfl hR hm
  rw [hscale] at hs
  rw [← hs] at hp
  have hs' : (10000 : ℚ) * r.val = s.val := by rw [hs, mul_comm]; norm_num
  have hlow : 0 ≤ ⌊s.val + 1 / 2⌋ := Int.floor_nonneg.mpr (by linarith [hp.nonneg])
  have hhigh : ⌊s.val + 1 / 2⌋ < 20001 := Int.floor_lt.mpr (by norm_num; linarith [hp.le])
  have hmax : ⌊s.val + 1 / 2⌋.toNat ≤ RatingBasisPoints.MAX := by
    unfold RatingBasisPoints.MAX
    omega
  rw [Rational.roundHalfUpNonnegative_eq hp.nonneg, hs']
  change Yields _ _ (if _ then _ else _) _
  rw [if_pos (by omega), RatingBasisPoints.new, dif_pos hmax]
  exact Int.toNat_of_nonneg hlow

-- What a receipt of an available rating states about the counts it was computed from.
structure Published (m : RatingMetrics) (receipt : RatingReceipt) : Prop where
  components  : ∃ v, receipt.components = some v ∧ ∀ k, (v.get k).exact.val = component m k ∧
    0 ≤ (v.get k).exact.val ∧ (v.get k).exact.val ≤ 1
  ratingExact : ∃ r, receipt.ratingExact = some r ∧ r.val = rating m ∧ 0 ≤ r.val ∧ r.val ≤ 2
  ratingBp    : ∃ bp, receipt.ratingBp = some bp ∧ (bp.get : Int) = ⌊10000 * rating m + 1 / 2⌋ ∧
    bp.get ≤ 20000

theorem firstMissing_eq_none_iff {evidence : RatingEvidenceBundle} :
    evidence.firstMissing = none ↔ ∀ kind, (evidence.get kind).ids ≠ [] := by
  unfold RatingEvidenceBundle.firstMissing
  rw [List.find?_eq_none]
  constructor
  case mp =>
    intro h kind
    have hmem : kind ∈ RatingEvidenceBundle.requiredEvidence := by cases kind <;> decide
    simpa using h kind hmem
  case mpr => exact fun h kind _ => by simpa using h kind

theorem calculateRating_yields {input : RatingInput} (hu : unavailableReason input = none)
    (hc : input.metrics.clutchWins ≤ input.metrics.clutchOpportunities) :
    Yields (.exact .overflow) (BoundedByRounds input.metrics) (calculateRating input)
      (Published input.metrics) := by
  have hR : 0 < input.metrics.eligibleRounds.toNat :=
    Nat.lt_of_lt_of_le (by decide) (unavailableReason_eq_none_iff.mp hu).2.2.2
  unfold calculateRating
  rw [if_neg (UInt32.not_lt.mpr hc), hu]
  refine ((componentVector_yields hR hc).mapError _).bind fun v hv => ?_
  refine ((componentReceipts_yields v _).mapError _).bind fun _ _ => ?_
  refine ((weightedRating_yields hR hc hv).mapError _).bind fun r ⟨hr, hp⟩ => ?_
  refine ((basisPoints_yields hR hp).mapError _).bind fun bp hbp => ?_
  refine Yields.pure ⟨⟨v, rfl, fun k => ⟨hv k, ?_⟩⟩, ⟨r, rfl, hr, hp.nonneg, hp.le⟩,
    ⟨bp, rfl, hr ▸ hbp, bp.le_max⟩⟩
  exact ⟨(v.get k).val_nonneg, (v.get k).val_le_one⟩

theorem calculateRating_published {input : RatingInput}
    (he : ∀ kind, (input.evidence.get kind).ids ≠ []) (hf : input.evidenceFailure = none)
    (hi : input.irregularities.forfeitWithoutCanonicalWinner = false)
    (hR : 8 ≤ input.metrics.eligibleRounds)
    (hc : input.metrics.clutchWins ≤ input.metrics.clutchOpportunities) :
    ((∃ receipt, calculateRating input = .ok receipt ∧ Published input.metrics receipt) ∨
      calculateRating input = .error (.exact .overflow)) ∧
    (BoundedByRounds input.metrics → ∃ receipt, calculateRating input = .ok receipt) := by
  have h := calculateRating_yields
    (unavailableReason_eq_none_iff.mpr ⟨firstMissing_eq_none_iff.mpr he, hf, hi, hR⟩) hc
  exact ⟨h.or, h.ok_of_good⟩

def RatingReceipt.Available (receipt : RatingReceipt) : Prop :=
  ∀ reason, receipt.status ≠ .unavailable reason

theorem calculateRating_available_iff {input : RatingInput} {receipt : RatingReceipt}
    (h : calculateRating input = .ok receipt) :
    receipt.Available ↔ unavailableReason input = none := by
  unfold calculateRating at h
  cases hu : unavailableReason input <;> simp only [hu] at h <;> split at h
  case some.isTrue | none.isTrue => cases h
  case some.isFalse =>
    cases h
    simp [RatingReceipt.Available]
  case none.isFalse =>
    simp only [bind_eq_ok_iff, mapError_eq_ok_iff, pure_eq_ok_iff] at h
    obtain ⟨_, _, _, _, _, _, _, _, rfl⟩ := h
    simp only [RatingReceipt.Available, iff_true]
    intro reason
    split <;> simp

theorem calculateRating_available_of_ratingBp {input : RatingInput} {receipt : RatingReceipt}
    (h : calculateRating input = .ok receipt) (hbp : receipt.ratingBp ≠ none) :
    receipt.Available := by
  refine (calculateRating_available_iff h).mpr ?_
  unfold calculateRating at h
  cases hu : unavailableReason input <;> simp only [hu] at h <;> split at h
  case some.isTrue | none.isTrue => cases h
  case some.isFalse =>
    cases h
    exact absurd rfl hbp
  case none.isFalse => rfl

theorem clutchWins_le_of_ok {input : RatingInput} {receipt : RatingReceipt}
    (h : calculateRating input = .ok receipt) :
    input.metrics.clutchWins ≤ input.metrics.clutchOpportunities := by
  by_contra hc
  unfold calculateRating at h
  rw [if_pos (UInt32.not_le.mp hc)] at h
  cases h

theorem published_of_available {input : RatingInput} {receipt : RatingReceipt}
    (h : calculateRating input = .ok receipt) (ha : receipt.Available) :
    Published input.metrics receipt ∧ 0 < input.metrics.eligibleRounds.toNat := by
  have hu := (calculateRating_available_iff h).mp ha
  have hy := calculateRating_yields hu (clutchWins_le_of_ok h)
  rw [h] at hy
  exact ⟨hy, Nat.lt_of_lt_of_le (by decide) (unavailableReason_eq_none_iff.mp hu).2.2.2⟩

-- The worked example of the documentation.
def workedMetrics : RatingMetrics where
  eligibleRounds      := 20
  directDamage        := 1600
  kills               := 18
  deaths              := 16
  openingWins         := 3
  openingLosses       := 2
  tradeKills          := 4
  utilityDamage       := 300
  flashAssists        := 2
  clutchWins          := 1
  clutchOpportunities := 2

def workedInput : RatingInput where
  identity        := ⟨"demo", "commit", "parser", "proto", "schema", "metrics", "epoch"⟩
  gameBuild       := "game"
  metrics         := workedMetrics
  irregularities  := ⟨false, false, false, false, false⟩
  evidenceFailure := none
  evidence        := ⟨⟨["eligible-ledger"]⟩, ⟨["excluded-ledger"]⟩, ⟨["damage"]⟩, ⟨["frag"]⟩,
    ⟨["opening"]⟩, ⟨["trade"]⟩, ⟨["utility"]⟩, ⟨["clutch"]⟩⟩

theorem calculateRating_published_worked :
    ((∃ receipt, calculateRating workedInput = .ok receipt ∧ Published workedMetrics receipt) ∨
      calculateRating workedInput = .error (.exact .overflow)) ∧
    ∃ receipt, calculateRating workedInput = .ok receipt :=
  have h := @calculateRating_published workedInput (fun kind => by cases kind <;> decide)
    rfl rfl (by decide) (by decide)
  ⟨h.1, h.2 ⟨by decide, by decide, by decide⟩⟩

end Domain
