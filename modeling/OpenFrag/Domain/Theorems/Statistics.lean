import OpenFrag.Library.Median
import OpenFrag.Library.Outcome
import OpenFrag.Domain.Theorems.Exact
import OpenFrag.Domain.Baseline

open Except

namespace Domain

section

variable {values values' : List Rational} {m minimum maximum : Rational} {stats : RobustStats}

theorem fromInteger_val (n : Int) (h : MachineInt.Signed 64 n) :
    (Rational.fromInteger n h).val = n := by
  simp [Rational.fromInteger, Rational.val]

theorem le_eq_decide (r s : Rational) : r.le s = decide (r.val ≤ s.val) :=
  Bool.eq_iff_iff.mpr (by simp [Rational.le_iff])

instance : Std.Total fun r s : Rational => r.le s = true :=
  ⟨fun r s => by simpa [Rational.le_iff] using le_total r.val s.val⟩

instance : IsTrans Rational fun r s => r.le s = true :=
  ⟨fun r s t => by simpa [Rational.le_iff] using le_trans⟩

theorem ordered_perm : (ordered values).Perm values :=
  List.perm_insertionSort _ _

theorem ordered_pairwise : ((ordered values).map Rational.val).Pairwise (· ≤ ·) := by
  have h : (ordered values).Pairwise fun r s => r.le s := List.pairwise_insertionSort _ _
  exact List.pairwise_map.mpr (h.imp Rational.le_iff.mp)

-- Two values with neither below the other are the same value.
theorem ordered_eq (h : values.Perm values') : ordered values = ordered values' := by
  have hperm : (ordered values).Perm (ordered values') :=
    (ordered_perm.trans h).trans ordered_perm.symm
  refine hperm.eq_of_pairwise (fun r s _ _ h h' => ?_) (List.pairwise_insertionSort _ _)
    (List.pairwise_insertionSort _ _)
  exact Rational.val_inj.mp (le_antisymm (Rational.le_iff.mp h) (Rational.le_iff.mp h'))

theorem median_perm (h : values.Perm values') : median values = median values' := by
  have hnil : values = [] ↔ values' = [] := by
    rw [← List.length_eq_zero_iff, ← List.length_eq_zero_iff, h.length_eq]
  simp only [median, ordered_eq h, hnil]

theorem median_isMedian (h : median values = .ok m) : (values.map Rational.val).IsMedian m.val := by
  suffices hs : ((ordered values).map Rational.val).IsMedian m.val from
    hs.perm (ordered_perm.map Rational.val)
  have hpos : (ordered values).length = values.length := ordered_perm.length_eq
  have hget {i : Nat} (hi : i < (ordered values).length) :
      (ordered values).getD i .ZERO = (ordered values)[i] := by
    simp [hi]
  simp only [median] at h
  split at h
  case isTrue => cases h
  case isFalse hne =>
    have hlength := List.length_pos_iff.mpr hne
    split at h
    case isTrue hodd =>
      have hi : (ordered values).length / 2 < (ordered values).length := by omega
      rw [hget hi, ok.injEq] at h
      refine List.isMedian_of_middle ordered_pairwise (i := (ordered values).length / 2)
        (j := (ordered values).length / 2) (by simpa using hi) (by simpa using hi) ?_ ?_ ?_ ?_ <;>
        simp [h] <;> omega
    case isFalse heven =>
      have hi : (ordered values).length / 2 - 1 < (ordered values).length := by omega
      have hj : (ordered values).length / 2 < (ordered values).length := by omega
      simp only [bind_eq_ok_iff, mapError_eq_ok_iff] at h
      obtain ⟨sum, hsum, hm⟩ := h
      have hsum' := Rational.checkedAdd_ok hsum
      have hm' := Rational.checkedDiv_ok (by rw [fromInteger_val]; norm_num) hm
      have hle : (ordered values)[(ordered values).length / 2 - 1].val ≤
          (ordered values)[(ordered values).length / 2].val := by
        have hsorted : (ordered values).Pairwise fun r s => r.le s := List.pairwise_insertionSort _ _
        exact Rational.le_iff.mp (List.pairwise_iff_getElem.mp hsorted _ _ hi hj (by omega))
      rw [hget hi, hget hj] at hsum'
      rw [fromInteger_val, hsum'] at hm'
      push_cast at hm'
      refine List.isMedian_of_middle ordered_pairwise (i := (ordered values).length / 2 - 1)
        (j := (ordered values).length / 2) (by simpa using hi) (by simpa using hj) ?_ ?_ ?_ ?_
      · simp only [List.length_map]
        omega
      · simp only [List.length_map]
        omega
      · simp only [List.getElem_map]
        linarith
      · simp only [List.getElem_map]
        linarith

theorem mapM_eq_ok_iff {ε α β : Type} {f : α → Except ε β} {as : List α} {bs : List β} :
    as.mapM f = .ok bs ↔ List.Forall₂ (fun a b => f a = .ok b) as bs := by
  induction as generalizing bs
  case nil => simp [List.mapM_nil, pure, Except.pure, eq_comm]
  case cons a as ih =>
    simp only [List.mapM_cons, bind_eq_ok_iff, pure_eq_ok_iff, List.forall₂_cons_left_iff, ih]
    constructor
    case mp =>
      rintro ⟨b, hb, bs', hbs', heq⟩
      exact ⟨b, bs', hb, hbs', heq.symm⟩
    case mpr =>
      rintro ⟨b, bs', hb, hbs', heq⟩
      exact ⟨b, hb, bs', hbs', heq.symm⟩

theorem deviations_val {center : Rational} {deviations : List Rational}
    (h : values.mapM (deviation center) = .ok deviations) :
    deviations.map Rational.val = (values.map Rational.val).map fun q => |q - center.val| := by
  replace h := mapM_eq_ok_iff.mp h
  induction h
  case nil => rfl
  case cons hd _ ih =>
    unfold deviation at hd
    have ⟨d, hsub, habs⟩ := bind_eq_ok_iff.mp hd
    rw [List.map_cons, List.map_cons, List.map_cons, ih, Rational.abs_ok habs,
      Rational.checkedSub_ok hsub]

-- What the statistics of a run of the code are computed from.
structure Computed (values : List Rational) (minimum maximum : Rational) (stats : RobustStats)
    (deviations : List Rational) (spread lower upper : Rational) : Prop where
  medianOk     : median values = .ok stats.median
  deviationsOk : values.mapM (deviation stats.median) = .ok deviations
  madOk        : median deviations = .ok stats.mad
  spreadOk     : stats.mad.checkedMul (.fromInteger 2 (by decide)) = .ok spread
  lowerOk      : stats.median.checkedSub spread = .ok lower
  upperOk      : stats.median.checkedAdd spread = .ok upper
  lower_eq     : stats.lower = lower.clamp minimum maximum
  upper_eq     : stats.upper = upper.clamp minimum maximum

theorem robustStats_eq_ok_iff : robustStats values minimum maximum = .ok stats ↔
    ∃ deviations spread lower upper,
      Computed values minimum maximum stats deviations spread lower upper := by
  simp only [robustStats, bind_eq_ok_iff, mapError_eq_ok_iff, pure_eq_ok_iff]
  constructor
  case mp =>
    rintro ⟨center, hcenter, deviations, hdev, mad, hmad, spread, hspread, lower, hlower, upper,
      hupper, heq⟩
    subst heq
    exact ⟨deviations, spread, lower, upper, hcenter, hdev, hmad, hspread, hlower, hupper, rfl, rfl⟩
  case mpr =>
    rintro ⟨deviations, spread, lower, upper, h⟩
    refine ⟨_, h.medianOk, _, h.deviationsOk, _, h.madOk, _, h.spreadOk, _, h.lowerOk, _, h.upperOk, ?_⟩
    rw [← h.lower_eq, ← h.upper_eq]

theorem robustStats_perm (hperm : values.Perm values')
    (h : robustStats values minimum maximum = .ok stats) :
    robustStats values' minimum maximum = .ok stats := by
  have ⟨deviations, spread, lower, upper, hc⟩ := robustStats_eq_ok_iff.mp h
  have ⟨deviations', hdev, hperm'⟩ :=
    List.perm_comp_forall₂ hperm.symm (mapM_eq_ok_iff.mp hc.deviationsOk)
  apply robustStats_eq_ok_iff.mpr
  exact ⟨deviations', spread, lower, upper, {
    hc with
    medianOk     := median_perm hperm ▸ hc.medianOk
    deviationsOk := mapM_eq_ok_iff.mpr hdev
    madOk        := median_perm hperm' ▸ hc.madOk }⟩

structure RobustStats.Describes (stats : RobustStats) (values : List Rational)
    (minimum maximum : Rational) : Prop where
  minimum_le : minimum.le stats.lower
  lower_le   : stats.lower.le stats.median
  median_le  : stats.median.le stats.upper
  upper_le   : stats.upper.le maximum
  below      : values.length ≤ 2 * values.countP fun v => v.le stats.median
  above      : values.length ≤ 2 * values.countP fun v => stats.median.le v
  within     : values.length ≤ 2 * values.countP fun v => stats.lower.le v && v.le stats.upper
  spread     : stats.mad = .ZERO → values.length ≤ 2 * values.count stats.median

section

variable {deviations : List Rational} {spread lower upper : Rational}

theorem Computed.mad_isMedian
    (h : Computed values minimum maximum stats deviations spread lower upper) :
    ((values.map Rational.val).map fun q => |q - stats.median.val|).IsMedian stats.mad.val :=
  deviations_val h.deviationsOk ▸ median_isMedian h.madOk

theorem Computed.lower_val (h : Computed values minimum maximum stats deviations spread lower upper) :
    stats.lower.val =
      min (max (stats.median.val - stats.mad.val * 2) minimum.val) maximum.val := by
  rw [h.lower_eq, Rational.val_clamp, Rational.checkedSub_ok h.lowerOk,
    Rational.checkedMul_ok h.spreadOk, fromInteger_val]
  norm_num

theorem Computed.upper_val (h : Computed values minimum maximum stats deviations spread lower upper) :
    stats.upper.val =
      min (max (stats.median.val + stats.mad.val * 2) minimum.val) maximum.val := by
  rw [h.upper_eq, Rational.val_clamp, Rational.checkedAdd_ok h.upperOk,
    Rational.checkedMul_ok h.spreadOk, fromInteger_val]
  norm_num

end

theorem median_ne_nil (h : median values = .ok m) : values ≠ [] := by
  intro hnil
  simp [median, hnil] at h

theorem robustStats_describes
    (hin : ∀ v ∈ values, minimum.le v ∧ v.le maximum)
    (h : robustStats values minimum maximum = .ok stats) :
    stats.Describes values minimum maximum ∧
    ∀ values', values.Perm values' → robustStats values' minimum maximum = .ok stats := by
  refine ⟨?describes, fun values' hperm => robustStats_perm hperm h⟩
  have ⟨deviations, spread, lower, upper, hc⟩ := robustStats_eq_ok_iff.mp h
  have hne : values.map Rational.val ≠ [] := by simpa using median_ne_nil hc.medianOk
  have hmedian := median_isMedian hc.medianOk
  have hmad := hc.mad_isMedian
  have hnonneg := hmad.distance_nonneg hne
  have hin' : ∀ q ∈ values.map Rational.val, minimum.val ≤ q ∧ q ≤ maximum.val := by
    simpa [Rational.le_iff] using hin
  -- The median lies between two of the values, hence within the limits.
  have ⟨a, ha, hale⟩ := hmedian.exists_le hne
  have ⟨b, hb, hleb⟩ := hmedian.exists_ge hne
  have hlow := (hin' a ha).1.trans hale
  have hhigh := hleb.trans (hin' b hb).2
  have hnear := hmad.half_near
  rw [List.length_map, List.countP_map] at hnear
  constructor <;> try apply Rational.le_iff.mpr
  case minimum_le =>
    rw [hc.lower_val]
    exact le_min (le_max_right _ _) (hlow.trans hhigh)
  case lower_le =>
    rw [hc.lower_val]
    exact (min_le_left _ _).trans (max_le (by linarith) hlow)
  case median_le =>
    rw [hc.upper_val]
    exact le_min (le_max_of_le_left (by linarith)) hhigh
  case upper_le =>
    rw [hc.upper_val]
    exact min_le_right _ _
  case below => simpa [List.countP_map, Function.comp_def, le_eq_decide] using hmedian.lower
  case above => simpa [List.countP_map, Function.comp_def, le_eq_decide] using hmedian.upper
  case within =>
    refine hnear.trans (Nat.mul_le_mul_left 2 (List.countP_mono_left fun v hv hle => ?_))
    have hdist := abs_le.mp (by simpa using hle : |v.val - stats.median.val| ≤ stats.mad.val)
    have hlimits := hin' v.val (List.mem_map_of_mem hv)
    simp only [Bool.and_eq_true, Rational.le_iff, hc.lower_val, hc.upper_val]
    constructor
    case left => exact (min_le_left _ _).trans (max_le (by linarith) hlimits.1)
    case right => exact le_min (le_max_of_le_left (by linarith)) hlimits.2
  case spread =>
    intro hzero
    refine hnear.trans (Nat.mul_le_mul_left 2 (List.countP_mono_left fun v _ hle => ?_))
    have hdist : |v.val - stats.median.val| ≤ 0 := by simpa [hzero] using hle
    have heq : v.val = stats.median.val := sub_eq_zero.mp (abs_nonpos_iff.mp hdist)
    simpa using heq

end

theorem robustStats_describes_three :
    RobustStats.Describes ⟨.HALF, .HALF, .ZERO, .ONE⟩ [.ONE, .ZERO, .HALF] .ZERO .ONE ∧
    ∀ values', [Rational.ONE, .ZERO, .HALF].Perm values' →
      robustStats values' .ZERO .ONE = .ok ⟨.HALF, .HALF, .ZERO, .ONE⟩ :=
  robustStats_describes (by decide) (by rfl)

end Domain
