import Mathlib.Data.List.OfFn
import Mathlib.Data.Nat.ModEq

-- Numbers that are written with a fixed number of digits, the most significant one first.
namespace Digits

def digit (base n i : Nat) : Nat :=
  n / base ^ i % base

def fixed (base width n : Nat) : List Nat :=
  (List.range width).reverse.map (digit base n)

variable {base width n n' : Nat}

theorem mod_pow_eq_of_digits (h : ∀ i < width, digit base n i = digit base n' i) :
    n % base ^ width = n' % base ^ width := by
  induction width
  case zero => simp [Nat.mod_one]
  case succ width ih =>
    have hlow := ih fun i hi => h i (Nat.lt_succ_of_lt hi)
    have hhigh : n / base ^ width % base = n' / base ^ width % base := h width (Nat.lt_succ_self _)
    rw [Nat.mod_pow_succ, Nat.mod_pow_succ, hlow, hhigh]

theorem digit_lt (h : 0 < base) {i : Nat} : digit base n i < base :=
  Nat.mod_lt _ h

-- A number that fits is known by its digits, in whichever way these are written.
theorem fixed_injective {β : Type _} {write : Nat → β} (hbase : 0 < base)
    (hwrite : ∀ d < base, ∀ d' < base, write d = write d' → d = d')
    (hn : n < base ^ width) (hn' : n' < base ^ width)
    (h : (fixed base width n).map write = (fixed base width n').map write) : n = n' := by
  have hdigits : ∀ i < width, digit base n i = digit base n' i := by
    intro i hi
    simp only [fixed, List.map_map, List.map_inj_left] at h
    exact hwrite _ (digit_lt hbase) _ (digit_lt hbase) (h i (by simpa using hi))
  have := mod_pow_eq_of_digits hdigits
  rwa [Nat.mod_eq_of_lt hn, Nat.mod_eq_of_lt hn'] at this

end Digits
