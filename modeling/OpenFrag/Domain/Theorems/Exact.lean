import OpenFrag.Domain.Exact
import Mathlib.Data.Rat.Floor

open MachineInt

namespace Domain

namespace Rational

-- The numbers that a `Rational` can hold.
def Fits (q : ℚ) : Prop :=
  Signed 64 q.num ∧ Signed 64 q.den

instance (q : ℚ) : Decidable (Fits q) :=
  inferInstanceAs (Decidable (_ ∧ _))

-- Exact arithmetic with a single failure: each operation of the code is this function after the
-- operation on `ℚ`.
def ofRat (q : ℚ) : Except ExactError Rational :=
  if h : Fits q then
    .ok ⟨q.num, q.den, h.1, h.2, by exact_mod_cast q.den_pos, q.reduced⟩
  else
    .error .overflow

theorem fits_val (r : Rational) : Fits r.val := by
  rw [Fits, val_num, val_den]
  exact ⟨r.numeratorFits, r.denominatorFits⟩

@[simp]
theorem ofRat_val (r : Rational) : ofRat r.val = .ok r := by
  rw [ofRat, dif_pos r.fits_val]
  congr
  exacts [r.val_num, r.val_den]

theorem ofRat_eq_ok_iff {q : ℚ} {r : Rational} : ofRat q = .ok r ↔ r.val = q := by
  constructor
  case mp =>
    intro h
    unfold ofRat at h
    split at h
    case isFalse => cases h
    case isTrue =>
      cases h
      exact Rat.num_div_den q
  case mpr => exact fun h => h ▸ ofRat_val r

theorem ofRat_of_fits {q : ℚ} (h : Fits q) : ∃ r, ofRat q = .ok r ∧ r.val = q := by
  have hr : ofRat q = .ok _ := dif_pos h
  exact ⟨_, hr, ofRat_eq_ok_iff.mp hr⟩

theorem ofRat_error {q : ℚ} {e : ExactError} (h : ofRat q = .error e) : e = .overflow := by
  unfold ofRat at h
  split at h <;> simp_all

-- A fraction over a small denominator fits when its value is not too large either.
theorem fits_of_over {N : Nat} {q : ℚ} (B : ℚ) (h : Rat.Over N q) (hN : 0 < N) (hB : |q| ≤ B)
    (h₁ : B * N < 2 ^ 63) (h₂ : N < 2 ^ 63) : Fits q := by
  have hnum : |q.num| < 2 ^ 63 := by
    have := (h.num_abs_le hN hB).trans_lt h₁
    exact_mod_cast this
  have hden := h.den_le hN
  rw [abs_lt] at hnum
  rw [Fits, signed_64, signed_64]
  omega

theorem reduce_eq {n d : Int} (hd : 0 < d) (h128 : d < 2 ^ 127) :
    reduce n d hd = ofRat (n / d) := by
  have hgcd : gcd n.natAbs d.natAbs = n.natAbs.gcd d.natAbs := gcd_eq_of_pos_right (by omega)
  have hle : n.natAbs.gcd d.natAbs ≤ d.natAbs := Nat.gcd_le_right _ (by omega)
  have hfit : Signed 128 (gcd n.natAbs d.natAbs : Nat) := by
    rw [hgcd, Signed]
    omega
  have hcop := divide_coprime n hd
  have hpos := divide_denominator_pos n hd
  have hg : (gcd n.natAbs d.natAbs : ℚ) ≠ 0 := by
    have := Nat.gcd_pos_of_pos_right n.natAbs (by omega : 0 < d.natAbs)
    rw [hgcd]
    exact_mod_cast this.ne'
  have hn' : ((n.tdiv (gcd n.natAbs d.natAbs : Nat) : Int) : ℚ) = n / (gcd n.natAbs d.natAbs : ℕ) := by
    rw [eq_div_iff hg, hgcd]
    exact_mod_cast Int.tdiv_mul_cancel (Int.natCast_dvd.mpr (Nat.gcd_dvd_left ..))
  have hd' : ((d.tdiv (gcd n.natAbs d.natAbs : Nat) : Int) : ℚ) = d / (gcd n.natAbs d.natAbs : ℕ) := by
    rw [eq_div_iff hg, hgcd]
    exact_mod_cast Int.tdiv_mul_cancel (Int.natCast_dvd.mpr (Nat.gcd_dvd_right ..))
  -- The reduced pair has the value of the given one, so it is the numerator and denominator of it.
  have hval : (n / d : ℚ) = (n.tdiv (gcd n.natAbs d.natAbs : Nat) : Int) /
      (d.tdiv (gcd n.natAbs d.natAbs : Nat) : Int) := by
    rw [hn', hd', div_div_div_cancel_right₀ hg]
  have hnum : (n / d : ℚ).num = n.tdiv (gcd n.natAbs d.natAbs : Nat) := by
    rw [hval]
    exact Rat.num_div_eq_of_coprime hpos hcop
  have hden : ((n / d : ℚ).den : Int) = d.tdiv (gcd n.natAbs d.natAbs : Nat) := by
    rw [hval]
    exact Rat.den_div_eq_of_coprime hpos hcop
  have hfits : Fits (n / d) ↔ Signed 64 (n.tdiv (gcd n.natAbs d.natAbs : Nat)) ∧
      Signed 64 (d.tdiv (gcd n.natAbs d.natAbs : Nat)) := by
    rw [Fits, hnum, hden]
  unfold reduce ofRat
  rw [if_pos hfit]
  split
  case isFalse h₁ => rw [dif_neg fun h => h₁ (hfits.mp h).1]
  case isTrue h₁ =>
    split
    case isFalse h₂ => rw [dif_neg fun h => h₂ (hfits.mp h).2]
    case isTrue h₂ =>
      rw [dif_pos (hfits.mpr ⟨h₁, h₂⟩)]
      congr
      exacts [hnum.symm, hden.symm]

theorem normalize_eq {n d : Int} (hd : d ≠ 0) (hn : |n| < 2 ^ 127) (hd' : |d| < 2 ^ 127) :
    normalize n d = ofRat (n / d) := by
  rw [abs_lt] at hn hd'
  unfold normalize
  rw [dif_neg hd]
  split
  case isTrue hneg =>
    have hfit : Signed 128 (-n) ∧ Signed 128 (-d) := by
      simp only [Signed]
      omega
    rw [if_pos hfit, reduce_eq (by omega) (by omega)]
    push_cast
    rw [neg_div_neg_eq]
  case isFalse hneg => rw [reduce_eq (by omega) (by omega)]

theorem new_eq {n d : Int} (hd : d ≠ 0) (hn : Signed 64 n) (hd' : Signed 64 d) :
    new n d = ofRat (n / d) := by
  rw [signed_64] at hn hd'
  exact normalize_eq hd (by rw [abs_lt]; omega) (by rw [abs_lt]; omega)

theorem checkedAdd_eq (r s : Rational) : r.checkedAdd s = ofRat (r.val + s.val) := by
  have h₁ := r.numeratorFits.mul_pos_64 s.denominatorFits s.denominatorPos
  have h₂ := s.numeratorFits.mul_pos_64 r.denominatorFits r.denominatorPos
  have h₃ := r.denominatorFits.mul_64 s.denominatorFits
  have h₀ : r.denominator * s.denominator ≠ 0 :=
    (mul_pos r.denominatorPos s.denominatorPos).ne'
  have h₄ : |r.numerator * s.denominator + s.numerator * r.denominator| < 2 ^ 127 :=
    (abs_add_le _ _).trans_lt (by omega)
  rw [checkedAdd, normalize_eq h₀ h₄ (by omega), val, val,
    div_add_div _ _ r.denominator_cast_pos.ne' s.denominator_cast_pos.ne']
  push_cast
  rw [mul_comm (s.numerator : ℚ)]

theorem checkedMul_eq (r s : Rational) : r.checkedMul s = ofRat (r.val * s.val) := by
  have h₁ := r.numeratorFits.mul_64 s.numeratorFits
  have h₂ := r.denominatorFits.mul_64 s.denominatorFits
  have h₀ : r.denominator * s.denominator ≠ 0 :=
    (mul_pos r.denominatorPos s.denominatorPos).ne'
  rw [checkedMul, normalize_eq h₀ (by omega) (by omega), val, val, div_mul_div_comm]
  push_cast
  rfl

theorem checkedDiv_eq {r s : Rational} (h : s.val ≠ 0) : r.checkedDiv s = ofRat (r.val / s.val) := by
  have hs : s.numerator ≠ 0 := by
    rw [← s.val_num]
    exact Rat.num_ne_zero.mpr h
  have h₁ := r.numeratorFits.mul_pos_64 s.denominatorFits s.denominatorPos
  have h₂ := s.numeratorFits.mul_pos_64 r.denominatorFits r.denominatorPos
  have h₀ : r.denominator * s.numerator ≠ 0 := mul_ne_zero r.denominatorPos.ne' hs
  rw [mul_comm s.numerator] at h₂
  rw [checkedDiv, if_neg hs, normalize_eq h₀ (by omega) (by omega), val, val, div_div_div_eq]
  push_cast
  rfl

theorem lt_iff {r s : Rational} :
    r.numerator * s.denominator < s.numerator * r.denominator ↔ r.val < s.val := by
  rw [val, val, div_lt_div_iff₀ r.denominator_cast_pos s.denominator_cast_pos]
  norm_cast

theorem cmp_eq (r s : Rational) : r.cmp s = compare r.val s.val := by
  unfold cmp
  rcases lt_trichotomy r.val s.val with h | h | h
  case inl => rw [compare_lt_iff_lt.mpr h, compare_lt_iff_lt.mpr (lt_iff.mpr h)]
  case inr.inl =>
    cases val_inj.mp h
    rw [compare_eq_iff_eq.mpr rfl, compare_eq_iff_eq.mpr rfl]
  case inr.inr => rw [compare_gt_iff_gt.mpr h, compare_gt_iff_gt.mpr (lt_iff.mpr h)]

theorem checkedNeg_eq (r : Rational) : r.checkedNeg = ofRat (-r.val) := by
  have hfits : Fits (-r.val) ↔ Signed 64 (-r.numerator) := by
    have hden := r.denominatorFits
    simp [Fits, val_num, val_den, hden]
  unfold checkedNeg
  split
  case isTrue h =>
    symm
    rw [ofRat_eq_ok_iff]
    simp [val, neg_div]
  case isFalse h =>
    unfold ofRat
    rw [dif_neg (h ∘ hfits.mp)]

theorem abs_eq (r : Rational) : r.abs = ofRat |r.val| := by
  unfold Rational.abs
  split
  case isTrue h =>
    have hneg : r.val < 0 := by
      rw [← not_le, val_nonneg_iff]
      omega
    rw [checkedNeg_eq, abs_of_neg hneg]
  case isFalse h => rw [abs_of_nonneg (val_nonneg_iff.mpr (by omega)), ofRat_val]

-- The rounding of a value that is not negative never overflows.
theorem roundHalfUpNonnegative_eq {r : Rational} (h₀ : 0 ≤ r.val) :
    r.roundHalfUpNonnegative = .ok ⌊r.val + 1 / 2⌋ := by
  have hd := r.denominatorPos
  have hn : 0 ≤ r.numerator := val_nonneg_iff.mp h₀
  have hfloor : (r.numerator * 2 + r.denominator).tdiv (r.denominator * 2) = ⌊r.val + 1 / 2⌋ := by
    have hcast : r.val + 1 / 2 =
        ((r.numerator * 2 + r.denominator : Int) : ℚ) / (r.denominator * 2).toNat := by
      have : (((r.denominator * 2).toNat : Int) : ℚ) = r.denominator * 2 := by
        rw [Int.toNat_of_nonneg (by omega)]
        push_cast
        rfl
      rw [← Int.cast_natCast (r.denominator * 2).toNat, this, Rational.val]
      have := r.denominator_cast_pos.ne'
      push_cast
      field_simp
    rw [hcast, Rat.floor_intCast_div_natCast, Int.tdiv_eq_ediv_of_nonneg (by omega),
      Int.toNat_of_nonneg (by omega)]
  have hle : r.val ≤ r.numerator := by
    have hd' : (1 : ℚ) ≤ r.denominator := by exact_mod_cast hd
    exact div_le_self (by exact_mod_cast hn) hd'
  have hlow : 0 ≤ ⌊r.val + 1 / 2⌋ := Int.floor_nonneg.mpr (by linarith)
  have hhigh : ⌊r.val + 1 / 2⌋ < r.numerator + 1 := by
    apply Int.floor_lt.mpr
    push_cast
    linarith
  have hfit : Signed 64 ⌊r.val + 1 / 2⌋ := by
    have := r.numeratorFits
    rw [signed_64] at this ⊢
    omega
  rw [Rational.roundHalfUpNonnegative, if_neg (by omega), hfloor, trySigned, if_pos hfit]

section

variable {r s t : Rational}

theorem checkedNeg_ok (h : r.checkedNeg = .ok t) : t.val = -r.val := by
  rw [checkedNeg_eq] at h
  exact ofRat_eq_ok_iff.mp h

theorem checkedAdd_ok (h : r.checkedAdd s = .ok t) : t.val = r.val + s.val := by
  rw [checkedAdd_eq] at h
  exact ofRat_eq_ok_iff.mp h

theorem checkedMul_ok (h : r.checkedMul s = .ok t) : t.val = r.val * s.val := by
  rw [checkedMul_eq] at h
  exact ofRat_eq_ok_iff.mp h

theorem checkedDiv_ok (hs : s.val ≠ 0) (h : r.checkedDiv s = .ok t) : t.val = r.val / s.val := by
  rw [checkedDiv_eq hs] at h
  exact ofRat_eq_ok_iff.mp h

theorem checkedSub_ok (h : r.checkedSub s = .ok t) : t.val = r.val - s.val := by
  unfold checkedSub at h
  cases hs : s.checkedNeg with
  | error e => simp [hs, bind, Except.bind] at h
  | ok n =>
    rw [hs] at h
    have := checkedAdd_ok h
    rw [this, checkedNeg_ok hs, sub_eq_add_neg]

theorem abs_ok (h : r.abs = .ok t) : t.val = |r.val| := by
  rw [abs_eq] at h
  exact ofRat_eq_ok_iff.mp h

end

-- The representation is canonical, the order is the one of `ℚ` and each operation is exact.
structure ExactResults (r s : Rational) : Prop where
  positive : 0 < r.denominator
  reduced  : r.numerator.natAbs.Coprime r.denominator.natAbs
  eq_iff_cmp : r = s ↔ r.cmp s = .eq
  eq_iff_val : r = s ↔ r.val = s.val
  cmp : r.cmp s = compare r.val s.val
  new : ∀ n d : Int, Signed 64 n → Signed 64 d → d ≠ 0 → new n d = ofRat (n / d)
  add : r.checkedAdd s = ofRat (r.val + s.val)
  sub : r.checkedSub s = ofRat (r.val - s.val)
  mul : r.checkedMul s = ofRat (r.val * s.val)
  div : s.val ≠ 0 → r.checkedDiv s = ofRat (r.val / s.val)
  neg : r.checkedNeg = ofRat (-r.val)
  abs : r.abs = ofRat |r.val|
  round : 0 ≤ r.val → r.roundHalfUpNonnegative = .ok ⌊r.val + 1 / 2⌋

theorem fits_neg_iff {s : Rational} : Fits (-s.val) ↔ s.numerator ≠ -2 ^ 63 := by
  have hden := s.denominatorFits
  have hnum := s.numeratorFits
  simp only [Fits, Rat.num_neg_eq_neg_num, val_num, Rat.den_neg_eq_den, val_den, hden, and_true]
  rw [signed_64] at hnum ⊢
  omega

-- Subtraction goes through the negation of its argument, which the least numerator does not have.
theorem checkedSub_eq_iff {r s : Rational} :
    r.checkedSub s = ofRat (r.val - s.val) ↔ s.numerator ≠ -2 ^ 63 ∨ ¬Fits (r.val - s.val) := by
  have hsub : r.checkedSub s = ofRat (-s.val) >>= r.checkedAdd := by
    rw [← checkedNeg_eq]
    rfl
  rw [hsub]
  by_cases h : Fits (-s.val)
  case pos =>
    have ⟨n, hn, hval⟩ := ofRat_of_fits h
    have hs := fits_neg_iff.mp h
    simp only [hn, bind, Except.bind, checkedAdd_eq, hval, sub_eq_add_neg]
    exact iff_of_true trivial (.inl hs)
  case neg =>
    have hmin : ofRat (-s.val) = .error .overflow := dif_neg h
    have hs := fits_neg_iff.not.mp h
    rw [hmin]
    simp only [bind, Except.bind, hs, false_or]
    constructor
    case mp =>
      intro heq hfits
      have ⟨_, hok, _⟩ := ofRat_of_fits hfits
      rw [hok] at heq
      cases heq
    case mpr =>
      intro hfits
      unfold ofRat
      rw [dif_neg hfits]

theorem exactResults_iff (r s : Rational) :
    ExactResults r s ↔ s.numerator ≠ -2 ^ 63 ∨ ¬Fits (r.val - s.val) := by
  rw [← checkedSub_eq_iff]
  constructor
  case mp => exact ExactResults.sub
  case mpr =>
    intro hsub
    have hcmp : r = s ↔ r.cmp s = .eq := by rw [cmp_eq, compare_eq_iff_eq, val_inj]
    exact {
      positive := r.denominatorPos
      reduced := r.reduced
      eq_iff_cmp := hcmp
      eq_iff_val := val_inj.symm
      cmp := cmp_eq r s
      new := fun n d hn hd hzero => new_eq hzero hn hd
      add := checkedAdd_eq r s
      sub := hsub
      mul := checkedMul_eq r s
      div := checkedDiv_eq
      neg := checkedNeg_eq r
      abs := abs_eq r
      round := roundHalfUpNonnegative_eq
    }

-- The difference between -1 and the least number is the greatest one, but is not computed.
theorem not_exactResults_least :
    ¬ExactResults (fromInteger (-1) (by decide)) (fromInteger (-2 ^ 63) (by decide)) := by
  intro h
  have hsub := h.sub
  have hfits : Fits ((fromInteger (-1) (by decide)).val - (fromInteger (-2 ^ 63) (by decide)).val) := by
    have hval : (fromInteger (-1) (by decide)).val - (fromInteger (-2 ^ 63) (by decide)).val =
        (2 ^ 63 - 1 : Int) := by norm_num [fromInteger, val]
    rw [hval]
    decide +kernel
  obtain ⟨_, hok, _⟩ := ofRat_of_fits hfits
  rw [hok] at hsub
  cases hsub

end Rational

end Domain
