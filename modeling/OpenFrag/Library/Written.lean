import OpenFrag.Library.Decimal
import Mathlib.Data.Rat.Floor
import Mathlib.Tactic.FieldSimp

-- Decimal numbers as they are written, with a fraction behind a dot.
namespace Decimal

def AllDigits (cs : List Char) : Prop :=
  ∀ c ∈ cs, c.isDigit

instance (cs : List Char) : Decidable (AllDigits cs) :=
  decidable_of_iff (cs.all Char.isDigit) (by simp [AllDigits])

@[simp]
theorem allDigits_nil : AllDigits [] := by simp [AllDigits]

@[simp]
theorem allDigits_cons {c : Char} {cs : List Char} :
    AllDigits (c :: cs) ↔ c.isDigit ∧ AllDigits cs := by simp [AllDigits]

def number (cs : List Char) : Nat :=
  Nat.ofDigitChars 10 cs 0

def value (whole fraction : List Char) : ℚ :=
  number whole + number fraction / 10 ^ fraction.length

inductive Written : List Char → ℚ → Prop
  | whole {w : List Char} (hw : AllDigits w) (hne : w ≠ []) : Written w (value w [])
  | fraction {w f : List Char} (hw : AllDigits w) (hne : w ≠ []) (hf : AllDigits f)
    (hne' : f ≠ []) : Written (w ++ '.' :: f) (value w f)

-- Digits with a dot behind them, and no fraction.
inductive Pointed : List Char → ℚ → Prop
  | point {w : List Char} (hw : AllDigits w) (hne : w ≠ []) : Pointed (w ++ ['.']) (value w [])

-- The texts before and after the first occurrence of a character.
def splitOnce (c : Char) : List Char → Option (List Char × List Char)
  | []      => none
  | d :: cs => if d = c then some ([], cs) else (splitOnce c cs).map fun (a, b) => (d :: a, b)

section

variable {c : Char} {cs a b w f : List Char} {v v' : ℚ}

theorem splitOnce_eq_none_iff : splitOnce c cs = none ↔ c ∉ cs := by
  induction cs
  case nil => simp [splitOnce]
  case cons d cs ih =>
    by_cases h : d = c
    case pos => simp [splitOnce, h]
    case neg => simp [splitOnce, h, ih, Ne.symm h]

theorem splitOnce_append (h : c ∉ a) : splitOnce c (a ++ c :: b) = some (a, b) := by
  induction a
  case nil => simp [splitOnce]
  case cons d a ih =>
    have ⟨hd, ha⟩ : c ≠ d ∧ c ∉ a := by simpa using h
    simp [splitOnce, hd.symm, ih ha]

theorem splitOnce_eq_some (h : splitOnce c cs = some (a, b)) : cs = a ++ c :: b ∧ c ∉ a := by
  induction cs generalizing a
  case nil => cases h
  case cons d cs ih =>
    unfold splitOnce at h
    split at h
    case isTrue hd =>
      cases h
      simp [hd]
    case isFalse hd =>
      simp only [Option.map_eq_some_iff] at h
      have ⟨⟨a', b'⟩, hsplit, heq⟩ := h
      cases heq
      have ⟨hcs, ha⟩ := ih hsplit
      simp [hcs, ha, Ne.symm hd]

theorem AllDigits.not_mem (h : AllDigits cs) (hc : c.isDigit = false) : c ∉ cs := by
  intro hmem
  simp [h c hmem] at hc

-- The two sides of the first dot, or the whole text.
def parts (cs : List Char) : List Char × List Char :=
  (splitOnce '.' cs).getD (cs, [])

theorem AllDigits.parts (h : AllDigits w) : parts w = (w, []) := by
  have hnone := splitOnce_eq_none_iff.mpr (h.not_mem (c := '.') rfl)
  simp [Decimal.parts, hnone]

theorem AllDigits.parts_append (h : AllDigits w) : Decimal.parts (w ++ '.' :: f) = (w, f) := by
  simp [Decimal.parts, splitOnce_append (h.not_mem (c := '.') rfl)]

-- What is read on the two sides of the first dot is a written number, or it has a lone dot.
theorem parts_iff :
    AllDigits (parts cs).1 ∧ (parts cs).1 ≠ [] ∧ AllDigits (parts cs).2 ∧
      v = value (parts cs).1 (parts cs).2 ↔ Written cs v ∨ Pointed cs v := by
  constructor
  case mp =>
    intro ⟨hw, hne, hf, hv⟩
    subst hv
    cases h : splitOnce '.' cs with
    | none =>
      have hparts : parts cs = (cs, []) := by simp [parts, h]
      rw [hparts] at hw hne ⊢
      exact .inl (.whole hw hne)
    | some p =>
      have ⟨hcs, _⟩ := splitOnce_eq_some (a := p.1) (b := p.2) h
      have hparts : parts cs = p := by simp [parts, h]
      rw [hparts] at hw hne hf ⊢
      subst hcs
      by_cases hempty : p.2 = []
      case pos =>
        rw [hempty]
        exact .inr (.point hw hne)
      case neg => exact .inl (.fraction hw hne hf hempty)
  case mpr =>
    intro h
    rcases h with h | h
    case inl =>
      cases h
      case whole hw hne => simp [hw.parts, hw, hne]
      case fraction hw hne hf _ => simp [hw.parts_append, hw, hne, hf]
    case inr =>
      cases h
      case point hw hne => simp [hw.parts_append, hw, hne]

theorem value_unique (h : Written cs v ∨ Pointed cs v) (h' : Written cs v' ∨ Pointed cs v') :
    v = v' := by
  have ⟨_, _, _, hv⟩ := parts_iff.mpr h
  have ⟨_, _, _, hv'⟩ := parts_iff.mpr h'
  rw [hv, hv']

theorem Written.not_pointed (h : Written cs v) : ¬Pointed cs v' := by
  intro h'
  have hempty : (parts cs).2 = [] ∧ '.' ∈ cs := by
    cases h'
    case point hw _ => simp [hw.parts_append]
  cases h
  case whole hw _ => exact hw.not_mem rfl hempty.2
  case fraction hw _ _ hne => exact hne (by simpa [hw.parts_append] using hempty.1)

end

section

variable {bits acc n : Nat} {c : Char} {cs w f : List Char}

theorem digit_le (h : c.isDigit) : c.toNat - '0'.toNat ≤ 9 := by
  have ⟨_, hle⟩ : 48 ≤ c.toNat ∧ c.toNat ≤ 57 := by
    simpa [Char.isDigit, UInt32.le_iff_toNat_le] using h
  simp
  omega

theorem number_lt (h : AllDigits cs) : number cs < 10 ^ cs.length := by
  unfold number
  induction cs
  case nil => simp
  case cons c cs ih =>
    have ⟨hc, hcs⟩ := allDigits_cons.mp h
    have hle := digit_le hc
    have hlt := ih hcs
    rw [Nat.ofDigitChars_cons, Nat.ofDigitChars_eq_ofDigitChars_zero, List.length_cons, pow_succ]
    nlinarith

theorem le_ofDigitChars : acc ≤ Nat.ofDigitChars 10 cs acc := by
  rw [Nat.ofDigitChars_eq_ofDigitChars_zero]
  have : 1 ≤ 10 ^ cs.length := Nat.one_le_pow _ _ (by decide)
  nlinarith

-- The check after each digit is as good as one check of the number at the end.
theorem foldlM_push_eq_some_iff (h₀ : acc < 2 ^ bits) : cs.foldlM (push bits) acc = some n ↔
    AllDigits cs ∧ Nat.ofDigitChars 10 cs acc = n ∧ n < 2 ^ bits := by
  induction cs generalizing acc
  case nil =>
    simp only [List.foldlM_nil, Option.pure_def, Option.some.injEq, allDigits_nil,
      Nat.ofDigitChars_nil, true_and]
    exact ⟨fun h => ⟨h, h ▸ h₀⟩, And.left⟩
  case cons c cs ih =>
    simp only [List.foldlM_cons, Option.bind_eq_bind, Option.bind_eq_some_iff, allDigits_cons,
      Nat.ofDigitChars_cons]
    constructor
    case mp =>
      intro ⟨next, hnext, hrest⟩
      have ⟨hcs, hn, hlt⟩ := (ih (push_lt hnext)).mp hrest
      unfold push at hnext
      split at hnext
      case isFalse => cases hnext
      case isTrue hc =>
        simp only [Option.ite_none_right_eq_some, Option.some.injEq] at hnext
        exact ⟨⟨hc, hcs⟩, by rw [mul_comm, hnext.2, hn], hlt⟩
    case mpr =>
      intro ⟨⟨hc, hcs⟩, hn, hlt⟩
      have hnext : 10 * acc + (c.toNat - '0'.toNat) < 2 ^ bits :=
        (hn ▸ le_ofDigitChars).trans_lt hlt
      refine ⟨10 * acc + (c.toNat - '0'.toNat), ?_, (ih hnext).mpr ⟨hcs, hn, hlt⟩⟩
      unfold push
      rw [if_pos hc, mul_comm acc, if_pos hnext]

theorem parseUnsigned_eq_some_iff : parseUnsigned bits (.ofList cs) = some n ↔
    dropSign cs ≠ [] ∧ AllDigits (dropSign cs) ∧ number (dropSign cs) = n ∧ n < 2 ^ bits := by
  unfold parseUnsigned
  rw [String.toList_ofList]
  by_cases h : dropSign cs = []
  case pos => simp [h]
  case neg => simp [h, foldlM_push_eq_some_iff (Nat.two_pow_pos bits), number]

theorem dropSign_eq (h : AllDigits cs) : dropSign cs = cs := by
  unfold dropSign
  split
  case h_1 => simp at h
  case h_2 => rfl

-- A fraction has at most two digits, or three digits and a rest.
@[elab_as_elim]
theorem AllDigits.cases_three {P : List Char → Prop} (h : AllDigits f) (h₀ : P [])
    (h₁ : ∀ a : Char, a.isDigit → P [a]) (h₂ : ∀ a b : Char, a.isDigit → b.isDigit → P [a, b])
    (h₃ : ∀ (a b c : Char) (rest : List Char), a.isDigit → b.isDigit → c.isDigit →
      AllDigits rest → P ([a, b, c] ++ rest)) : P f := by
  match f, h with
  | [], _ => exact h₀
  | [a], h => exact h₁ a (by simpa using h)
  | [a, b], h =>
    have ⟨ha, hb⟩ : a.isDigit ∧ b.isDigit := by simpa using h
    exact h₂ a b ha hb
  | a :: b :: c :: rest, h =>
    have ⟨ha, hb, hc, hrest⟩ : a.isDigit ∧ b.isDigit ∧ c.isDigit ∧ AllDigits rest := by
      simpa using h
    exact h₃ a b c rest ha hb hc hrest

theorem parts_dropSign :
    parts (dropSign cs) = (dropSign (parts cs).1, (parts cs).2) := by
  unfold dropSign
  split
  case h_1 rest =>
    cases h : splitOnce '.' rest <;> simp [parts, splitOnce, h]
  case h_2 hplus =>
    have hkeep : ∀ rest, (parts cs).1 ≠ '+' :: rest := by
      intro rest heq
      cases h : splitOnce '.' cs with
      | none => exact hplus rest (by simpa [parts, h] using heq)
      | some p =>
        have ⟨hcs, _⟩ := splitOnce_eq_some (a := p.1) (b := p.2) h
        have hp : p.1 = '+' :: rest := by simpa [parts, h] using heq
        exact hplus _ (by rw [hcs, hp, List.cons_append])
    split
    case h_1 rest heq => exact absurd heq (hkeep rest)
    case h_2 => rfl

-- The thousandths of a fraction are its first three digits.
def thousandths (cs : List Char) : Nat :=
  1000 * number cs / 10 ^ cs.length

theorem number_append {cs' : List Char} :
    number (cs ++ cs') = 10 ^ cs'.length * number cs + number cs' := by
  rw [number, Nat.ofDigitChars_append, Nat.ofDigitChars_eq_ofDigitChars_zero]
  rfl

theorem thousandths_append {cs' : List Char} (h : cs.length = 3) (h' : AllDigits cs') :
    thousandths (cs ++ cs') = number cs := by
  have hlt := number_lt h'
  have hsplit : 1000 * (10 ^ cs'.length * number cs + number cs') =
      number cs' * 10 ^ 3 + number cs * (10 ^ cs'.length * 10 ^ 3) := by ring
  rw [thousandths, number_append, List.length_append, h, add_comm 3, pow_add, hsplit,
    Nat.add_mul_div_right _ _ (by positivity), Nat.mul_div_mul_right _ _ (by decide),
    Nat.div_eq_of_lt hlt, zero_add]

theorem floor_value : ⌊1000 * value w f⌋ = 1000 * number w + thousandths f := by
  have hpow : (0 : ℚ) < 10 ^ f.length := by positivity
  have hvalue : 1000 * value w f =
      ((1000 * number w : Nat) : Int) + ((1000 * number f : Nat) : ℚ) / ((10 ^ f.length : Nat) : ℚ) := by
    rw [value]
    push_cast
    field_simp
  rw [hvalue, Int.floor_intCast_add, Rat.floor_natCast_div_natCast]
  norm_cast

end

-- The digits of a number, with zeros before them up to a width.
def padded (width n : Nat) : List Char :=
  (Nat.toDigits 10 n).leftpad width '0'

-- A number of hundredths, as it is shown.
def hundredths (n : Nat) : String :=
  toString (n / 100) ++ "." ++ .ofList (padded 2 (n % 100))

theorem padded_two : ∀ n < 100,
    AllDigits (padded 2 n) ∧ (padded 2 n).length = 2 ∧ number (padded 2 n) = n := by
  have h : ∀ n < 100, (padded 2 n).all Char.isDigit ∧ (padded 2 n).length = 2 ∧
      number (padded 2 n) = n := by
    decide +kernel
  simpa [AllDigits] using h

theorem written_hundredths (n : Nat) : Written (hundredths n).toList (n / 100 : ℚ) := by
  have ⟨hdigits, hlength, hnumber⟩ := padded_two (n % 100) (Nat.mod_lt n (by decide))
  have hwhole : AllDigits (Nat.repr (n / 100)).toList := fun _ => isDigit_of_mem_repr
  have hne : (Nat.repr (n / 100)).toList ≠ [] := by simp [Nat.toList_repr]
  have htext : (hundredths n).toList =
      (Nat.repr (n / 100)).toList ++ '.' :: padded 2 (n % 100) := by
    simp [hundredths, toString]
  have hvalue : value (Nat.repr (n / 100)).toList (padded 2 (n % 100)) = (n / 100 : ℚ) := by
    have hn : (n : ℚ) = (100 * (n / 100) + n % 100 : Nat) := by rw [Nat.div_add_mod]
    have hhead : number (Nat.repr (n / 100)).toList = n / 100 := by simp [number, Nat.toList_repr]
    rw [value, hhead, hnumber, hlength, hn]
    push_cast
    ring
  rw [htext, ← hvalue]
  exact .fraction hwhole hne hdigits (List.ne_nil_of_length_pos (by simp [hlength]))

-- A text shows one number.
theorem hundredths_injective {n n' : Nat} (h : hundredths n = hundredths n') : n = n' := by
  have hv := value_unique (.inl (written_hundredths n)) (.inl (h ▸ written_hundredths n'))
  have hv' : (n : ℚ) = n' := by linarith
  exact_mod_cast hv'

end Decimal
