import OpenFrag.Library.Written

-- The ranges of bytes that can be asked of a representation, and how they are spelled.
namespace ByteRanges

open Decimal

-- From a position to the end, between two positions, or the last bytes.
inductive Spec
  | starting (first : Nat)
  | between (first last : Nat)
  | suffix (length : Nat)
  deriving DecidableEq, Repr

namespace Spec

-- The positions of a representation of a length that the range selects.
def Selects (length : Nat) : Spec → Nat → Prop
  | starting first, p     => first ≤ p ∧ p < length
  | between first last, p => first ≤ p ∧ p ≤ last ∧ p < length
  | suffix n, p           => p < length ∧ length ≤ p + n

def Satisfiable (spec : Spec) (length : Nat) : Prop :=
  ∃ p, spec.Selects length p

-- The positions that are selected are those from the first to the last one.
structure Assigns (spec : Spec) (length first last : Nat) : Prop where
  ordered : first ≤ last
  selects : ∀ p, spec.Selects length p ↔ first ≤ p ∧ p ≤ last

def bounds (length : Nat) : Spec → Nat × Nat
  | starting first     => (first, length - 1)
  | between first last => (first, min last (length - 1))
  | suffix n           => (length - min n length, length - 1)

def numbers : Spec → List Nat
  | starting first     => [first]
  | between first last => [first, last]
  | suffix n           => [n]

variable {spec : Spec} {length first last n p : Nat}

theorem satisfiable_starting : (starting first).Satisfiable length ↔ first < length := by
  constructor
  case mp =>
    intro ⟨p, h⟩
    exact h.1.trans_lt h.2
  case mpr =>
    intro h
    exact ⟨first, Nat.le_refl first, h⟩

theorem satisfiable_between :
    (between first last).Satisfiable length ↔ first ≤ last ∧ first < length := by
  constructor
  case mp =>
    intro ⟨p, hfirst, hlast, hlt⟩
    exact ⟨hfirst.trans hlast, hfirst.trans_lt hlt⟩
  case mpr =>
    intro ⟨hle, hlt⟩
    exact ⟨first, Nat.le_refl first, hle, hlt⟩

theorem satisfiable_suffix : (suffix n).Satisfiable length ↔ 0 < length ∧ 0 < n := by
  constructor
  case mp =>
    intro ⟨p, hlt, hle⟩
    omega
  case mpr =>
    intro ⟨hlength, hn⟩
    exact ⟨length - 1, by omega, by omega⟩

theorem Satisfiable.pos (h : spec.Satisfiable length) : 0 < length := by
  have ⟨p, hp⟩ := h
  cases spec <;> simp only [Selects] at hp <;> omega

theorem Satisfiable.selects_iff (h : spec.Satisfiable length) :
    spec.Selects length p ↔ (spec.bounds length).1 ≤ p ∧ p ≤ (spec.bounds length).2 := by
  cases spec with
  | starting first =>
    have hlt := satisfiable_starting.mp h
    simp only [Selects, bounds]
    omega
  | between first last =>
    have ⟨hle, hlt⟩ := satisfiable_between.mp h
    simp only [Selects, bounds]
    omega
  | suffix n =>
    have ⟨hlength, hn⟩ := satisfiable_suffix.mp h
    simp only [Selects, bounds]
    omega

-- A range is assigned exactly when it is satisfiable, and it is cut off at the end.
theorem assigns_iff :
    spec.Assigns length first last ↔
      spec.Satisfiable length ∧ spec.bounds length = (first, last) := by
  constructor
  case mp =>
    intro h
    have hsat : spec.Satisfiable length :=
      ⟨first, (h.selects first).mpr ⟨Nat.le_refl first, h.ordered⟩⟩
    have hiff : ∀ p, first ≤ p ∧ p ≤ last ↔
        (spec.bounds length).1 ≤ p ∧ p ≤ (spec.bounds length).2 :=
      fun p => (h.selects p).symm.trans hsat.selects_iff
    have hfirst := (hiff first).mp ⟨Nat.le_refl first, h.ordered⟩
    have hlast := (hiff last).mp ⟨h.ordered, Nat.le_refl last⟩
    have hlow := (hiff (spec.bounds length).1).mpr ⟨Nat.le_refl _, hfirst.1.trans hfirst.2⟩
    have hhigh := (hiff (spec.bounds length).2).mpr ⟨hfirst.1.trans hfirst.2, Nat.le_refl _⟩
    exact ⟨hsat, Prod.ext (Nat.le_antisymm hfirst.1 hlow.1) (Nat.le_antisymm hhigh.2 hlast.2)⟩
  case mpr =>
    intro ⟨hsat, hbounds⟩
    have hiff : ∀ p, spec.Selects length p ↔ first ≤ p ∧ p ≤ last := by
      intro p
      rw [hsat.selects_iff, hbounds]
    have ⟨p, hp⟩ := hsat
    have ⟨hfirst, hlast⟩ := (hiff p).mp hp
    exact ⟨hfirst.trans hlast, hiff⟩

theorem Assigns.satisfiable (h : spec.Assigns length first last) : spec.Satisfiable length :=
  (assigns_iff.mp h).1

theorem Assigns.last_lt (h : spec.Assigns length first last) : last < length := by
  have hlast := (h.selects last).mpr ⟨h.ordered, Nat.le_refl last⟩
  cases spec <;> simp only [Selects] at hlast <;> omega

end Spec

-- The spelling of a range, for a spelling of its numbers.
inductive Spells (Number : List Char → Nat → Prop) : Spec → List Char → Prop
  | starting {cs n} (first : Number cs n) : Spells Number (.starting n) (cs ++ ['-'])
  | between {cs cs' n n'} (first : Number cs n) (last : Number cs' n') :
    Spells Number (.between n n') (cs ++ '-' :: cs')
  | suffix {cs n} (length : Number cs n) : Spells Number (.suffix n) ('-' :: cs)

-- Digits, and digits after an optional plus sign.
def Numeral (cs : List Char) (n : Nat) : Prop :=
  AllDigits cs ∧ cs ≠ [] ∧ number cs = n

def SignedNumeral (cs : List Char) (n : Nat) : Prop :=
  Numeral (dropSign cs) n

section

variable {cs : List Char} {n n' : Nat}

theorem Numeral.signed (h : Numeral cs n) : SignedNumeral cs n := by
  unfold SignedNumeral
  rw [dropSign_eq h.1]
  exact h

theorem Numeral.not_mem {c : Char} (h : Numeral cs n) (hc : c.isDigit = false) : c ∉ cs :=
  h.1.not_mem hc

theorem SignedNumeral.unsigned (h : SignedNumeral cs n) (hplus : '+' ∉ cs) : Numeral cs n := by
  unfold SignedNumeral dropSign at h
  split at h
  case h_1 => simp at hplus
  case h_2 => exact h

theorem SignedNumeral.ne_nil (h : SignedNumeral cs n) : cs ≠ [] := by
  intro hnil
  rw [hnil] at h
  exact h.2.1 rfl

theorem SignedNumeral.not_mem {c : Char} (h : SignedNumeral cs n) (hc : c.isDigit = false)
    (hplus : c ≠ '+') : c ∉ cs := by
  have hdigits : c ∉ dropSign cs := Numeral.not_mem h hc
  unfold dropSign at hdigits
  split at hdigits
  case h_1 => simp [hplus, hdigits]
  case h_2 => exact hdigits

theorem SignedNumeral.unique (h : SignedNumeral cs n) (h' : SignedNumeral cs n') : n = n' :=
  h.2.2.symm.trans h'.2.2

end

namespace Spells

variable {Number Number' : List Char → Nat → Prop} {spec spec' : Spec} {cs range : List Char}

theorem mono (h : Spells Number spec range)
    (himp : ∀ cs n, cs.Sublist range → n ∈ spec.numbers → Number cs n → Number' cs n) :
    Spells Number' spec range := by
  cases h with
  | starting first => exact .starting (himp _ _ (by simp) (by simp [Spec.numbers]) first)
  | between first last =>
    exact .between (himp _ _ (by simp) (by simp [Spec.numbers]) first)
      (himp _ _ (by simp) (by simp [Spec.numbers]) last)
  | suffix length => exact .suffix (himp _ _ (by simp) (by simp [Spec.numbers]) length)

theorem numbers {n : Nat} (h : Spells Number spec range) (hn : n ∈ spec.numbers) :
    ∃ cs, Number cs n := by
  cases h <;> simp only [Spec.numbers, List.mem_cons, List.not_mem_nil, or_false] at hn
  case starting cs _ first =>
    subst hn
    exact ⟨cs, first⟩
  case between cs cs' _ _ first last =>
    cases hn
    case inl heq => exact ⟨cs, heq ▸ first⟩
    case inr heq => exact ⟨cs', heq ▸ last⟩
  case suffix cs _ length =>
    subst hn
    exact ⟨cs, length⟩

theorem unsigned (h : Spells SignedNumeral spec range) (hplus : '+' ∉ range) :
    Spells Numeral spec range :=
  h.mono fun _ _ hsub _ hcs => hcs.unsigned fun hmem => hplus (hsub.mem hmem)

theorem signed (h : Spells Numeral spec range) : Spells SignedNumeral spec range :=
  h.mono fun _ _ _ _ hcs => hcs.signed

theorem not_mem {c : Char} (hNumber : ∀ cs n, Number cs n → c ∉ cs) (h : Spells Number spec range)
    (hdash : c ≠ '-') : c ∉ range := by
  cases h with
  | starting first => simp [hdash, hNumber _ _ first]
  | between first last => simp [hdash, hNumber _ _ first, hNumber _ _ last]
  | suffix length => simp [hdash, hNumber _ _ length]

theorem plus_not_mem (h : Spells Numeral spec range) : '+' ∉ range :=
  h.not_mem (fun _ _ hcs => hcs.not_mem rfl) (by decide)

theorem comma_not_mem (h : Spells SignedNumeral spec range) : ',' ∉ range :=
  h.not_mem (fun _ _ hcs => hcs.not_mem rfl (by decide)) (by decide)

end Spells

-- The texts before and after the dash of a range.
def Spec.Parts (Number : List Char → Nat → Prop) : Spec → List Char → List Char → Prop
  | starting n, cs, cs'    => Number cs n ∧ cs' = []
  | between n n', cs, cs'  => Number cs n ∧ Number cs' n'
  | suffix n, cs, cs'      => cs = [] ∧ Number cs' n

theorem spells_iff {Number : List Char → Nat → Prop} {spec : Spec} {range : List Char}
    (hNumber : ∀ cs n, Number cs n → '-' ∉ cs) :
    Spells Number spec range ↔
      ∃ cs cs', splitOnce '-' range = some (cs, cs') ∧ spec.Parts Number cs cs' := by
  constructor
  case mp =>
    intro h
    cases h with
    | starting first => exact ⟨_, _, splitOnce_append (hNumber _ _ first), first, rfl⟩
    | between first last => exact ⟨_, _, splitOnce_append (hNumber _ _ first), first, last⟩
    | suffix length =>
      rename_i cs n
      have hsplit : splitOnce '-' ('-' :: cs) = some ([], cs) := by simp [splitOnce]
      exact ⟨_, _, hsplit, rfl, length⟩
  case mpr =>
    rintro ⟨cs, cs', hsplit, hparts⟩
    obtain ⟨hrange, _⟩ := splitOnce_eq_some hsplit
    cases spec with
    | starting n =>
      obtain ⟨hfirst, hnil⟩ := hparts
      subst hnil hrange
      exact .starting hfirst
    | between n n' =>
      subst hrange
      exact .between hparts.1 hparts.2
    | suffix n =>
      obtain ⟨hnil, hlength⟩ := hparts
      subst hnil hrange
      exact .suffix hlength

-- A text spells at most one range.
theorem Spells.unique {spec spec' : Spec} {range : List Char}
    (h : Spells SignedNumeral spec range) (h' : Spells SignedNumeral spec' range) :
    spec = spec' := by
  have hdash : ∀ cs n, SignedNumeral cs n → '-' ∉ cs := fun _ _ hcs => hcs.not_mem rfl (by decide)
  have ⟨cs, cs', hsplit, hparts⟩ := (spells_iff hdash).mp h
  have ⟨_, _, hsplit', hparts'⟩ := (spells_iff hdash).mp h'
  rw [hsplit] at hsplit'
  cases hsplit'
  cases spec <;> cases spec'
  case starting.starting => rw [hparts.1.unique hparts'.1]
  case between.between => rw [hparts.1.unique hparts'.1, hparts.2.unique hparts'.2]
  case suffix.suffix => rw [hparts.2.unique hparts'.2]
  case starting.between => exact absurd hparts.2 hparts'.2.ne_nil
  case starting.suffix => exact absurd hparts'.1 hparts.1.ne_nil
  case between.starting => exact absurd hparts'.2 hparts.2.ne_nil
  case between.suffix => exact absurd hparts'.1 hparts.1.ne_nil
  case suffix.starting => exact absurd hparts.1 hparts'.1.ne_nil
  case suffix.between => exact absurd hparts.1 hparts'.1.ne_nil

end ByteRanges
