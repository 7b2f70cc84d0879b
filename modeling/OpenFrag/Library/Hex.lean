import Mathlib.Data.List.Basic

-- Bytes as two hexadecimal digits each.
namespace Hex

def digit (n : Nat) : Char :=
  if n < 10 then .ofNat ('0'.toNat + n) else .ofNat ('a'.toNat + (n - 10))

def value (c : Char) : Option Nat :=
  if '0' ≤ c ∧ c ≤ '9' then some (c.toNat - '0'.toNat)
  else if 'a' ≤ c ∧ c ≤ 'f' then some (c.toNat - 'a'.toNat + 10)
  else if 'A' ≤ c ∧ c ≤ 'F' then some (c.toNat - 'A'.toNat + 10)
  else none

def encode (bytes : List UInt8) : List Char :=
  bytes.flatMap fun b => [digit (b.toNat / 16), digit (b.toNat % 16)]

def decode : List Char → Option (List UInt8)
  | []                => some []
  | [_]               => none
  | high :: low :: cs => do
    let high ← value high
    let low ← value low
    let bytes ← decode cs
    return .ofNat (high * 16 + low) :: bytes

theorem value_digit {n : Nat} (h : n < 16) : value (digit n) = some n := by
  have hall : ∀ n < 16, value (digit n) = some n := by decide
  exact hall n h

theorem digit_injective : ∀ n < 16, ∀ n' < 16, digit n = digit n' → n = n' := by
  decide

theorem decode_encode (bytes : List UInt8) : decode (encode bytes) = some bytes := by
  induction bytes
  case nil => rfl
  case cons b bytes ih =>
    have hb := b.toNat_lt
    have hhigh : value (digit (b.toNat / 16)) = some (b.toNat / 16) := value_digit (by omega)
    have hlow : value (digit (b.toNat % 16)) = some (b.toNat % 16) := value_digit (by omega)
    have hsum : UInt8.ofNat (b.toNat / 16 * 16 + b.toNat % 16) = b := by
      rw [Nat.div_add_mod', UInt8.ofNat_toNat]
    have hencode : encode (b :: bytes) =
        digit (b.toNat / 16) :: digit (b.toNat % 16) :: encode bytes := rfl
    simp only [hencode, decode, hhigh, hlow, ih, Option.bind_eq_bind, Option.bind_some, hsum,
      Option.pure_def]

theorem length_encode (bytes : List UInt8) : (encode bytes).length = 2 * bytes.length := by
  simp [encode, List.length_flatMap, Nat.mul_comm]

theorem value_of_mem_encode {bytes : List UInt8} {c : Char} (h : c ∈ encode bytes) :
    (value c).isSome := by
  simp only [encode, List.mem_flatMap, List.mem_cons, List.not_mem_nil, or_false] at h
  have ⟨b, _, hc⟩ := h
  have hb := b.toNat_lt
  rcases hc with rfl | rfl
  case inl => rw [value_digit (by omega)]; rfl
  case inr => rw [value_digit (by omega)]; rfl

end Hex
