import Mathlib.Algebra.Group.Nat.Defs
import Mathlib.Tactic.Common

namespace Decimal

-- One step of reading an unsigned decimal number below `2 ^ bits`.
def push (bits acc : Nat) (c : Char) : Option Nat :=
  if c.isDigit then
    let next := acc * 10 + (c.toNat - '0'.toNat)
    if next < 2 ^ bits then some next else none
  else
    none

def dropSign : List Char → List Char
  | '+' :: rest => rest
  | cs => cs

-- The digits of an unsigned machine integer, after an optional plus sign.
def parseUnsigned (bits : Nat) (s : String) : Option Nat :=
  if (dropSign s.toList).isEmpty then none else (dropSign s.toList).foldlM (push bits) 0

-- The digits of a signed machine integer, after an optional sign.
def parseSigned (bits : Nat) (s : String) : Option Int :=
  match s.toList with
  | '-' :: digits =>
    if digits.isEmpty then none
    else ((digits.foldlM (push bits) 0).filter (· ≤ 2 ^ (bits - 1))).map fun n => -(n : Int)
  | _             => (parseUnsigned (bits - 1) s).map Int.ofNat

theorem push_lt {bits acc n : Nat} {c : Char} (h : push bits acc c = some n) : n < 2 ^ bits := by
  unfold push at h
  split at h
  case isFalse => cases h
  case isTrue =>
    simp only at h
    split at h
    case isFalse => cases h
    case isTrue hlt => cases h; exact hlt

theorem isDigit_of_mem_repr {n : Nat} {c : Char} (h : c ∈ (Nat.repr n).toList) : c.isDigit := by
  rw [Nat.toList_repr] at h
  exact Nat.isDigit_of_mem_toDigits (by decide) (by decide) h

-- The number at the end of a text, after another character, can be read off.
theorem repr_suffix_injective {cs cs' : List Char} {c c' : Char} {n n' : Nat}
    (hc : c.isDigit = false) (hc' : c'.isDigit = false)
    (h : cs ++ c :: (Nat.repr n).toList = cs' ++ c' :: (Nat.repr n').toList) : n = n' := by
  have hdigits : (Nat.repr n).toList = (Nat.repr n').toList := by
    rcases List.append_eq_append_iff.mp h with ⟨as, _, has⟩ | ⟨as, _, has⟩
    · cases as with
      | nil => exact (List.cons.inj has).2
      | cons a as =>
        have hmem : c' ∈ (Nat.repr n).toList := by simp [(List.cons.inj has).2]
        exact absurd (isDigit_of_mem_repr hmem) (by simp [hc'])
    · cases as with
      | nil => exact (List.cons.inj has).2.symm
      | cons a as =>
        have hmem : c ∈ (Nat.repr n').toList := by simp [(List.cons.inj has).2]
        exact absurd (isDigit_of_mem_repr hmem) (by simp [hc])
  simp only [Nat.toList_repr] at hdigits
  calc
    n = Nat.ofDigitChars 10 (Nat.toDigits 10 n) 0 := Nat.ofDigitChars_ten_toDigits.symm
    _ = Nat.ofDigitChars 10 (Nat.toDigits 10 n') 0 := by rw [hdigits]
    _ = n' := Nat.ofDigitChars_ten_toDigits

end Decimal
