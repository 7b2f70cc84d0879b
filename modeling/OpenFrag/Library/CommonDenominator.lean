import Mathlib.Algebra.Order.Ring.Abs
import Mathlib.Data.Rat.Lemmas
import Mathlib.Algebra.Order.Field.Rat
import Mathlib.Tactic.FieldSimp
import Mathlib.Tactic.Ring
import Mathlib.Tactic.Linarith

-- `q` is a fraction over `N`.
def Rat.Over (N : Nat) (q : ℚ) : Prop :=
  ∃ k : ℤ, q * N = k

namespace Rat.Over

variable {M N : Nat} {p q : ℚ}

theorem of_int (N : Nat) (k : ℤ) : Rat.Over N (k : ℚ) :=
  ⟨k * N, by push_cast; rfl⟩

theorem zero (N : Nat) : Rat.Over N 0 := by
  simpa using of_int N 0

theorem one (N : Nat) : Rat.Over N 1 := by
  simpa using of_int N 1

theorem div (N : Nat) (n : ℤ) (h : N ≠ 0) : Rat.Over N (n / N) :=
  ⟨n, by field_simp⟩

theorem of_dvd (h : Rat.Over M q) (hd : M ∣ N) : Rat.Over N q := by
  have ⟨k, hk⟩ := h
  have ⟨c, hc⟩ := hd
  refine ⟨k * c, ?_⟩
  rw [hc]
  push_cast
  rw [← hk]
  ring

theorem add (hp : Rat.Over N p) (hq : Rat.Over N q) : Rat.Over N (p + q) := by
  have ⟨k, hk⟩ := hp
  have ⟨l, hl⟩ := hq
  exact ⟨k + l, by push_cast; rw [← hk, ← hl]; ring⟩

theorem mul_int (h : Rat.Over N q) (k : ℤ) : Rat.Over N (q * k) := by
  have ⟨l, hl⟩ := h
  exact ⟨l * k, by push_cast; rw [← hl]; ring⟩

theorem mul (hp : Rat.Over M p) (hq : Rat.Over N q) : Rat.Over (M * N) (p * q) := by
  have ⟨k, hk⟩ := hp
  have ⟨l, hl⟩ := hq
  exact ⟨k * l, by push_cast; rw [← hk, ← hl]; ring⟩

-- A common denominator is a multiple of the reduced one.
theorem den_dvd (h : Rat.Over N q) : q.den ∣ N := by
  have ⟨k, hk⟩ := h
  have hd : (q.den : ℚ) ≠ 0 := by exact_mod_cast q.den_ne_zero
  have hq : q * q.den = q.num := Rat.mul_den_eq_num q
  have hz : q.num * (N : ℤ) = k * q.den := by
    have : (q.num : ℚ) * N = k * q.den := by rw [← hq, ← hk]; ring
    exact_mod_cast this
  have hdvd : (q.den : ℤ) ∣ q.num * N := ⟨k, by rw [hz]; ring⟩
  have hcop : Int.gcd q.den q.num = 1 := by
    rw [Int.gcd_comm]
    exact q.reduced
  exact_mod_cast Int.dvd_of_dvd_mul_right_of_gcd_one hdvd hcop

theorem den_le (h : Rat.Over N q) (hN : 0 < N) : q.den ≤ N :=
  Nat.le_of_dvd hN h.den_dvd

-- The reduced numerator is bounded by the value scaled to the common denominator.
theorem num_abs_le (h : Rat.Over N q) (hN : 0 < N) {B : ℚ} (hB : |q| ≤ B) :
    (|q.num| : ℚ) ≤ B * N := by
  have hq : (q.num : ℚ) = q * q.den := (Rat.mul_den_eq_num q).symm
  have hd : (q.den : ℚ) ≤ N := by exact_mod_cast h.den_le hN
  calc (|q.num| : ℚ) = |q| * q.den := by rw [hq, abs_mul, Nat.abs_cast]
    _ ≤ B * N := mul_le_mul hB hd (by positivity) ((abs_nonneg q).trans hB)

end Rat.Over
