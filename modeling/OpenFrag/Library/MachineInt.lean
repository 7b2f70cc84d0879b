import Mathlib.Algebra.Order.Ring.Abs
import Mathlib.Algebra.Order.Ring.Int
import Mathlib.Tactic.NormNum

namespace MachineInt

-- The values of a signed machine integer with the given number of bits.
def Signed (bits : Nat) (v : Int) : Prop :=
  -2 ^ (bits - 1) ≤ v ∧ v < 2 ^ (bits - 1)

-- The values of an unsigned machine integer with the given number of bits.
def Unsigned (bits : Nat) (v : Int) : Prop :=
  0 ≤ v ∧ v < 2 ^ bits

instance (bits : Nat) (v : Int) : Decidable (Signed bits v) :=
  inferInstanceAs (Decidable (_ ∧ _))

instance (bits : Nat) (v : Int) : Decidable (Unsigned bits v) :=
  inferInstanceAs (Decidable (_ ∧ _))

theorem signed_32 {v : Int} : Signed 32 v ↔ -2147483648 ≤ v ∧ v < 2147483648 := by
  norm_num [Signed]

theorem signed_64 {v : Int} :
    Signed 64 v ↔ -9223372036854775808 ≤ v ∧ v < 9223372036854775808 := by
  norm_num [Signed]

-- The addition of unsigned machine integers that stops at their greatest value.
def saturatingAdd (bits a b : Nat) : Nat :=
  min (a + b) (2 ^ bits - 1)

-- The arithmetic of unsigned machine integers that reports an overflow.
def checkedAdd (bits a b : Nat) : Option Nat :=
  if a + b < 2 ^ bits then some (a + b) else none

def checkedMul (bits a b : Nat) : Option Nat :=
  if a * b < 2 ^ bits then some (a * b) else none

-- A conversion into a signed type, which fails outside of its range.
def trySigned (bits : Nat) (v : Int) : Option Int :=
  if Signed bits v then some v else none

theorem Signed.abs_le_64 {a : Int} (h : Signed 64 a) : |a| ≤ 2 ^ 63 := by
  rw [signed_64] at h
  rw [abs_le]
  omega

-- Only the product of the least value with itself needs all of the 126 bits.
theorem Signed.mul_64 {a b : Int} (ha : Signed 64 a) (hb : Signed 64 b) : |a * b| ≤ 2 ^ 126 :=
  calc |a * b| = |a| * |b| := abs_mul a b
    _ ≤ 2 ^ 63 * 2 ^ 63 := mul_le_mul ha.abs_le_64 hb.abs_le_64 (abs_nonneg b) (by norm_num)
    _ = 2 ^ 126 := by norm_num

theorem Signed.mul_pos_64 {a b : Int} (ha : Signed 64 a) (hb : Signed 64 b) (h : 0 < b) :
    |a * b| < 2 ^ 126 := by
  have hb' : |b| ≤ 2 ^ 63 - 1 := by
    rw [signed_64] at hb
    rw [abs_le]
    omega
  calc |a * b| = |a| * |b| := abs_mul a b
    _ ≤ 2 ^ 63 * (2 ^ 63 - 1) := mul_le_mul ha.abs_le_64 hb' (abs_nonneg b) (by norm_num)
    _ < 2 ^ 126 := by norm_num

end MachineInt
