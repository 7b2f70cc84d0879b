import OpenFrag.Library.MachineInt
import OpenFrag.Library.CommonDenominator
import Mathlib.Data.Nat.Cast.Order.Field

open MachineInt

namespace Domain

inductive ExactError
  | zeroDenominator
  | overflow
  | divisionByZero
  | outsideUnitInterval
  | outsideRatingRange
  deriving DecidableEq, Repr

-- A value of this type is reduced, has a positive denominator and fits the two `i64` fields.
structure Rational where
  numerator     : Int
  denominator   : Int
  numeratorFits : Signed 64 numerator
  denominatorFits : Signed 64 denominator
  denominatorPos  : 0 < denominator
  reduced : numerator.natAbs.Coprime denominator.natAbs
  deriving DecidableEq

-- Euclid's loop, except that a zero result becomes one.
def gcd (left right : Nat) : Nat :=
  if left.gcd right = 0 then 1 else left.gcd right

theorem gcd_eq_of_pos_right {left right : Nat} (h : 0 < right) :
    gcd left right = left.gcd right := by
  have := Nat.gcd_pos_of_pos_right left h
  simp [gcd]
  omega

namespace Rational

theorem divide_denominator_pos (n : Int) {d : Int} (hd : 0 < d) :
    0 < d.tdiv (gcd n.natAbs d.natAbs : Nat) := by
  rw [gcd_eq_of_pos_right (by omega)]
  have hg : n.natAbs.gcd d.natAbs ∣ d.natAbs := Nat.gcd_dvd_right ..
  have h0 : 0 < n.natAbs.gcd d.natAbs := Nat.gcd_pos_of_pos_right _ (by omega)
  obtain ⟨c, hc⟩ := hg
  have hd' : d = (n.natAbs.gcd d.natAbs : Nat) * (c : Int) := by
    have : d = (d.natAbs : Int) := by omega
    rw [this]
    exact_mod_cast hc
  rw [Int.tdiv_eq_ediv_of_nonneg hd.le]
  exact Int.ediv_pos_of_pos_of_dvd hd (by omega) ⟨c, hd'⟩

theorem divide_coprime (n : Int) {d : Int} (hd : 0 < d) :
    (n.tdiv (gcd n.natAbs d.natAbs : Nat)).natAbs.Coprime
      (d.tdiv (gcd n.natAbs d.natAbs : Nat)).natAbs := by
  rw [gcd_eq_of_pos_right (by omega), Int.natAbs_tdiv, Int.natAbs_tdiv, Int.natAbs_natCast]
  exact Nat.coprime_div_gcd_div_gcd (Nat.gcd_pos_of_pos_right _ (by omega))

-- The part of `normalize` below the change of sign.
def reduce (n d : Int) (hd : 0 < d) : Except ExactError Rational :=
  if Signed 128 (gcd n.natAbs d.natAbs : Nat) then
    if hn' : Signed 64 (n.tdiv (gcd n.natAbs d.natAbs : Nat)) then
      if hd' : Signed 64 (d.tdiv (gcd n.natAbs d.natAbs : Nat)) then
        .ok ⟨_, _, hn', hd', divide_denominator_pos n hd, divide_coprime n hd⟩
      else .error .overflow
    else .error .overflow
  else .error .overflow

def normalize (numerator denominator : Int) : Except ExactError Rational :=
  if h0 : denominator = 0 then
    .error .zeroDenominator
  else if hneg : denominator < 0 then
    if Signed 128 (-numerator) ∧ Signed 128 (-denominator) then
      reduce (-numerator) (-denominator) (by omega)
    else .error .overflow
  else
    reduce numerator denominator (by omega)

def ZERO : Rational := ⟨0, 1, by decide, by decide, by decide, by decide⟩
def ONE  : Rational := ⟨1, 1, by decide, by decide, by decide, by decide⟩
def HALF : Rational := ⟨1, 2, by decide, by decide, by decide, by decide⟩

theorem signed_two : Signed 64 2 := by decide

def fromInteger (value : Int) (h : Signed 64 value) : Rational :=
  ⟨value, 1, h, by decide, by decide, by simp⟩

def new (numerator denominator : Int) : Except ExactError Rational :=
  normalize numerator denominator

def checkedAdd (r other : Rational) : Except ExactError Rational :=
  normalize (r.numerator * other.denominator + other.numerator * r.denominator)
    (r.denominator * other.denominator)

def checkedMul (r other : Rational) : Except ExactError Rational :=
  normalize (r.numerator * other.numerator) (r.denominator * other.denominator)

def checkedDiv (r other : Rational) : Except ExactError Rational :=
  if other.numerator = 0 then
    .error .divisionByZero
  else
    normalize (r.numerator * other.denominator) (r.denominator * other.numerator)

def checkedNeg (r : Rational) : Except ExactError Rational :=
  if h : Signed 64 (-r.numerator) then
    .ok ⟨-r.numerator, r.denominator, h, r.denominatorFits, r.denominatorPos,
      by simpa using r.reduced⟩
  else
    .error .overflow

def checkedSub (r other : Rational) : Except ExactError Rational := do
  r.checkedAdd (← other.checkedNeg)

def abs (r : Rational) : Except ExactError Rational :=
  if r.numerator < 0 then r.checkedNeg else .ok r

-- The order of `Ord for Rational`, by cross multiplication.
def le (r other : Rational) : Bool :=
  r.numerator * other.denominator ≤ other.numerator * r.denominator

def cmp (r other : Rational) : Ordering :=
  compare (r.numerator * other.denominator) (other.numerator * r.denominator)

-- `Ord::max` and `Ord::min` of the standard library: `max` keeps its argument on a tie.
def max (r other : Rational) : Rational := if r.le other then other else r
def min (r other : Rational) : Rational := if r.le other then r else other

def clamp (r minimum maximum : Rational) : Rational :=
  (r.max minimum).min maximum

def roundHalfUpNonnegative (r : Rational) : Except ExactError Int :=
  if r.numerator < 0 then
    .error .outsideRatingRange
  else
    match trySigned 64 ((r.numerator * 2 + r.denominator).tdiv (r.denominator * 2)) with
    | some rounded => .ok rounded
    | none => .error .overflow

-- The number that a value stands for.
def val (r : Rational) : ℚ :=
  r.numerator / r.denominator

theorem denominator_cast_pos (r : Rational) : (0 : ℚ) < r.denominator := by
  exact_mod_cast r.denominatorPos

theorem val_num (r : Rational) : r.val.num = r.numerator :=
  Rat.num_div_eq_of_coprime r.denominatorPos r.reduced

theorem val_den (r : Rational) : (r.val.den : Int) = r.denominator :=
  Rat.den_div_eq_of_coprime r.denominatorPos r.reduced

@[simp]
theorem val_inj {r s : Rational} : r.val = s.val ↔ r = s := by
  refine ⟨fun h => ?_, fun h => h ▸ rfl⟩
  have hn : r.numerator = s.numerator := by rw [← val_num, ← val_num, h]
  have hd : r.denominator = s.denominator := by rw [← val_den, ← val_den, h]
  cases r; cases s
  simp_all

theorem val_nonneg_iff {r : Rational} : 0 ≤ r.val ↔ 0 ≤ r.numerator := by
  rw [← Rat.num_nonneg, val_num]

@[simp]
theorem val_zero : ZERO.val = 0 := by norm_num [val, ZERO]

@[simp]
theorem val_one : ONE.val = 1 := by norm_num [val, ONE]

@[simp]
theorem val_half : HALF.val = 1 / 2 := by norm_num [val, HALF]

theorem le_iff {r s : Rational} : r.le s ↔ r.val ≤ s.val := by
  rw [val, val, div_le_div_iff₀ r.denominator_cast_pos s.denominator_cast_pos]
  simp only [le, decide_eq_true_eq]
  norm_cast

theorem val_max (r s : Rational) : (r.max s).val = Max.max r.val s.val := by
  unfold max
  split
  case isTrue h => exact (max_eq_right (le_iff.mp h)).symm
  case isFalse h => exact (max_eq_left (not_le.mp (h ∘ le_iff.mpr)).le).symm

theorem val_min (r s : Rational) : (r.min s).val = Min.min r.val s.val := by
  unfold min
  split
  case isTrue h => exact (min_eq_left (le_iff.mp h)).symm
  case isFalse h => exact (min_eq_right (not_le.mp (h ∘ le_iff.mpr)).le).symm

@[simp]
theorem val_clamp (r lo hi : Rational) :
    (r.clamp lo hi).val = Min.min (Max.max r.val lo.val) hi.val := by
  rw [clamp, val_min, val_max]

end Rational

-- A rational of the closed unit interval.
structure UnitInterval where
  exact : Rational
  nonneg : Rational.ZERO.le exact
  leOne  : exact.le Rational.ONE
  deriving DecidableEq

namespace UnitInterval

def new (value : Rational) : Except ExactError UnitInterval :=
  if h : Rational.ZERO.le value ∧ value.le Rational.ONE then
    .ok ⟨value, h.1, h.2⟩
  else
    .error .outsideUnitInterval

def clamped (value : Rational) : UnitInterval where
  exact := value.clamp Rational.ZERO Rational.ONE
  nonneg := by simp [Rational.le_iff]
  leOne := by simp [Rational.le_iff]

theorem val_nonneg (u : UnitInterval) : 0 ≤ u.exact.val := by
  simpa [Rational.le_iff] using u.nonneg

theorem val_le_one (u : UnitInterval) : u.exact.val ≤ 1 := by
  simpa [Rational.le_iff] using u.leOne

end UnitInterval

structure RatingBasisPoints where
  get : Nat
  le_max : get ≤ 20000
  deriving DecidableEq

namespace RatingBasisPoints

def MAX : Nat := 20000

def new (value : Nat) : Except ExactError RatingBasisPoints :=
  if h : value ≤ MAX then .ok ⟨value, h⟩ else .error .outsideRatingRange

def displayCenti (rating : RatingBasisPoints) : Nat :=
  (rating.get + 50) / 100

end RatingBasisPoints

end Domain
