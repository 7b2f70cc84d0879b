import Mathlib.Data.List.Basic
import Mathlib.Data.Nat.Bitwise
import Mathlib.Tactic.Ring

-- Unsigned numbers in groups of seven bits, the least significant group first, of at most the given
-- number of bytes.
inductive Varint : Nat → List UInt8 → Nat → Prop
  -- The bytes are used up: the last one has ended the number whatever its high bit is.
  | full : Varint 0 [] 0
  | last {n : Nat} {b : UInt8} (h : b.toNat < 128) : Varint (n + 1) [b] b.toNat
  | more {n v : Nat} {b : UInt8} {bs : List UInt8} (h : 128 ≤ b.toNat) (rest : Varint n bs v) :
    Varint (n + 1) (b :: bs) (b.toNat % 128 + 128 * v)

namespace Varint

variable {n v s : Nat} {bs : List UInt8}

theorem length_pos (h : Varint (n + 1) bs v) : 0 < bs.length := by
  cases h <;> simp

-- A number at the start of a text ends with the first byte, or goes on in the others.
theorem cons_eq_append_iff {b : UInt8} {text rest : List UInt8} :
    b :: text = bs ++ rest ∧ Varint (n + 1) bs v ↔
      (b.toNat < 128 ∧ bs = [b] ∧ text = rest ∧ v = b.toNat) ∨
      (128 ≤ b.toNat ∧ ∃ bs' v', text = bs' ++ rest ∧ Varint n bs' v' ∧ bs = b :: bs' ∧
        v = b.toNat % 128 + 128 * v') := by
  constructor
  case mp =>
    intro ⟨htext, h⟩
    cases h
    case last hlt =>
      obtain ⟨rfl, rfl⟩ := List.cons_eq_cons.mp htext
      exact .inl ⟨hlt, rfl, rfl, rfl⟩
    case more hle hrest =>
      obtain ⟨rfl, rfl⟩ := List.cons_eq_cons.mp htext
      exact .inr ⟨hle, _, _, rfl, hrest, rfl, rfl⟩
  case mpr =>
    intro h
    rcases h with ⟨hlt, rfl, rfl, rfl⟩ | ⟨hle, bs', v', rfl, hrest, rfl, rfl⟩
    case inl => exact ⟨rfl, .last hlt⟩
    case inr => exact ⟨rfl, .more hle hrest⟩

theorem mul_two_pow_mod (g : Nat) (hs : s ≤ 32) : g * 2 ^ s % 2 ^ 32 = 2 ^ s * (g % 2 ^ (32 - s)) := by
  have hsplit : 2 ^ 32 = 2 ^ s * 2 ^ (32 - s) := by
    rw [← pow_add]
    congr 1
    omega
  rw [mul_comm, hsplit, Nat.mul_mod_mul_left]

theorem toNat_group (b : UInt8) (hs : s < 32) :
    ((b.toUInt32 &&& 127) <<< UInt32.ofNat s).toNat = b.toNat % 128 * 2 ^ s % 2 ^ 32 := by
  have h127 : (127 : UInt32).toNat = 2 ^ 7 - 1 := rfl
  have hs32 : (UInt32.ofNat s).toNat % 32 = s := by
    rw [UInt32.toNat_ofNat']
    omega
  rw [UInt32.toNat_shiftLeft, UInt32.toNat_and, h127, Nat.and_two_pow_sub_one_eq_mod, hs32,
    Nat.shiftLeft_eq, UInt8.toNat_toUInt32]

-- A group is added to the groups below it, and loses the bits that do not fit.
theorem or_group (r : UInt32) (b : UInt8) (hr : r.toNat < 2 ^ s) (hs : s < 32) :
    r ||| ((b.toUInt32 &&& 127) <<< UInt32.ofNat s) = r + UInt32.ofNat (b.toNat % 128 * 2 ^ s) := by
  have hgroup := mul_two_pow_mod (b.toNat % 128) hs.le
  have hlt : 2 ^ s * (b.toNat % 128 % 2 ^ (32 - s)) + r.toNat < 2 ^ 32 := by
    have hmod : b.toNat % 128 % 2 ^ (32 - s) + 1 ≤ 2 ^ (32 - s) := 
      Nat.mod_lt _ (Nat.two_pow_pos _)
    calc 2 ^ s * (b.toNat % 128 % 2 ^ (32 - s)) + r.toNat
        < 2 ^ s * (b.toNat % 128 % 2 ^ (32 - s) + 1) := by rw [mul_add_one]; omega
      _ ≤ 2 ^ s * 2 ^ (32 - s) := Nat.mul_le_mul_left _ hmod
      _ = 2 ^ 32 := by rw [← pow_add]; congr 1; omega
  apply UInt32.toNat_inj.mp
  rw [UInt32.toNat_or, toNat_group b hs, hgroup, Nat.lor_comm, ← Nat.two_pow_add_eq_or_of_lt hr,
    UInt32.toNat_add, UInt32.toNat_ofNat', hgroup, add_comm r.toNat, Nat.mod_eq_of_lt hlt]

end Varint
