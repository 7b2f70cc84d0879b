import Mathlib.Data.List.Basic
import Mathlib.Data.Nat.Bitwise

-- The digits of bytes to the base 64, without padding. Three bytes make four digits.
namespace Base64

def value (a b c : UInt8) : Nat :=
  (a.toNat <<< 16) ||| (b.toNat <<< 8) ||| c.toNat

def digit (value shift : Nat) : Nat :=
  (value >>> shift) &&& 63

def encode : List UInt8 → List Nat
  | []                   => []
  | [a]                  => [digit (value a 0 0) 18, digit (value a 0 0) 12]
  | [a, b]               => [digit (value a b 0) 18, digit (value a b 0) 12, digit (value a b 0) 6]
  | a :: b :: c :: bytes =>
    let v := value a b c
    digit v 18 :: digit v 12 :: digit v 6 :: digit v 0 :: encode bytes

variable {bytes : List UInt8}

theorem digit_eq (value shift : Nat) : digit value shift = value / 2 ^ shift % 64 := by
  rw [digit, Nat.shiftRight_eq_div_pow]
  exact Nat.and_two_pow_sub_one_eq_mod _ 6

theorem digit_lt (value shift : Nat) : digit value shift < 64 := by
  rw [digit_eq]
  omega

theorem length_encode : (encode bytes).length = (4 * bytes.length + 2) / 3 := by
  induction bytes using encode.induct
  case case4 a b c bytes ih =>
    simp only [encode, List.length_cons, ih]
    omega
  all_goals simp [encode]

theorem encode_lt (bytes : List UInt8) : ∀ i ∈ encode bytes, i < 64 := by
  induction bytes using encode.induct
  case case4 a b c bytes ih => simpa [encode, digit_lt] using ih
  all_goals simp [encode, digit_lt]

end Base64
