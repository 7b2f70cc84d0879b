import OpenFrag.Clips.Probe

open MachineInt Decimal Except

namespace Clips

variable {s : String} {f : List Char} {n ms : Nat}

theorem milliseconds_eq (h : AllDigits f) : ((f.take 3).zip [100, 10, 1]).foldl
    (fun ms p => saturatingAdd 64 ms ((p.1.toNat - '0'.toNat) * p.2)) 0 =
      thousandths f := by
  refine h.cases_three ?none ?one ?two ?three
  case none => simp [thousandths, number]
  case one =>
    intro a ha
    have := digit_le ha
    simp [thousandths, number, saturatingAdd, Nat.ofDigitChars_cons] at *
    omega
  case two =>
    intro a b ha hb
    have := digit_le ha
    have := digit_le hb
    simp [thousandths, number, saturatingAdd, Nat.ofDigitChars_cons] at *
    omega
  case three =>
    intro a b c rest ha hb hc hrest
    have := digit_le ha
    have := digit_le hb
    have := digit_le hc
    rw [thousandths_append rfl hrest]
    simp [number, saturatingAdd, Nat.ofDigitChars_cons] at *
    omega

theorem fractionMs_eq (h : AllDigits f) : ∃ ms digits,
    (f.take 3).foldlM (fun ((ms, digits) : Nat × Nat) c => (toDigit c).map fun digit =>
      (saturatingAdd 64 (saturatingMul 64 ms 10) digit, digits + 1)) (0, 0) =
        some (ms, digits) ∧
    (saturatingMul 64 · 10)^[3 - digits] ms = thousandths f := by
  refine h.cases_three ?none ?one ?two ?three
  case none => exact ⟨0, 0, rfl, rfl⟩
  case one =>
    intro a ha
    have := digit_le ha
    refine ⟨a.toNat - '0'.toNat, 1, ?_, ?_⟩
    · simp [toDigit, ha, saturatingAdd, saturatingMul] at *
      omega
    · simp [thousandths, number, saturatingMul, Nat.ofDigitChars_cons] at *
      omega
  case two =>
    intro a b ha hb
    have := digit_le ha
    have := digit_le hb
    refine ⟨(a.toNat - '0'.toNat) * 10 + (b.toNat - '0'.toNat), 2, ?_, ?_⟩
    · simp [toDigit, ha, hb, saturatingAdd, saturatingMul] at *
      omega
    · simp [thousandths, number, saturatingMul, Nat.ofDigitChars_cons] at *
      omega
  case three =>
    intro a b c rest ha hb hc hrest
    have := digit_le ha
    have := digit_le hb
    have := digit_le hc
    rw [thousandths_append rfl hrest]
    refine ⟨((a.toNat - '0'.toNat) * 10 + (b.toNat - '0'.toNat)) * 10 + (c.toNat - '0'.toNat), 3,
      ?_, ?_⟩
    · simp [toDigit, ha, hb, hc, saturatingAdd, saturatingMul] at *
      omega
    · simp [number, Nat.ofDigitChars_cons] at *
      omega

theorem checked_eq_some_iff {bits a b k : Nat} :
    (checkedMul bits a k).bind (checkedAdd bits · b) = some n ↔ a * k + b = n ∧ n < 2 ^ bits := by
  simp only [checkedMul, checkedAdd, Option.bind_eq_some_iff, Option.ite_none_right_eq_some,
    Option.some.injEq]
  constructor
  case mp =>
    intro ⟨product, ⟨_, hproduct⟩, hlt, hn⟩
    rw [hproduct, hn]
    exact ⟨rfl, hn ▸ hlt⟩
  case mpr =>
    intro ⟨hn, hlt⟩
    exact ⟨a * k, ⟨by omega, rfl⟩, hn ▸ hlt, hn⟩

-- The texts that a reader accepts with this result.
def Reads (cs : List Char) (ms : Nat) : Prop :=
  ∃ v, (Written cs v ∨ Pointed cs v) ∧ ⌊1000 * v⌋ = ms ∧ 0 < ms ∧ ms < 2 ^ 64

theorem reads_iff {cs : List Char} : Reads cs ms ↔
    AllDigits (parts cs).1 ∧ (parts cs).1 ≠ [] ∧ AllDigits (parts cs).2 ∧
      1000 * number (parts cs).1 + thousandths (parts cs).2 = ms ∧ 0 < ms ∧ ms < 2 ^ 64 := by
  unfold Reads
  constructor
  case mp =>
    intro ⟨v, hv, hfloor, hms⟩
    have ⟨hw, hne, hf, hvalue⟩ := parts_iff.mpr hv
    rw [hvalue, floor_value] at hfloor
    exact ⟨hw, hne, hf, by exact_mod_cast hfloor, hms⟩
  case mpr =>
    intro ⟨hw, hne, hf, heq, hms⟩
    exact ⟨_, parts_iff.mp ⟨hw, hne, hf, rfl⟩, by rw [floor_value]; exact_mod_cast heq, hms⟩

theorem parseDurationMs_eq_ok_iff : Capture.parseDurationMs s = .ok ms ↔ Reads s.toList ms := by
  rw [reads_iff]
  unfold Capture.parseDurationMs
  rcases parts s.toList with ⟨w, f⟩
  simp only [bind_eq_ok_iff, check_eq_ok_iff, exists_const, okOr_eq_ok_iff, pure_eq_ok_iff,
    checked_eq_some_iff, parseUnsigned_eq_some_iff]
  constructor
  case mp =>
    rintro ⟨⟨hne, hw, hf⟩, seconds, ⟨_, _, hseconds, _⟩, result, ⟨hresult, hlt⟩, hpos, hms⟩
    rw [dropSign_eq hw] at hseconds
    rw [milliseconds_eq hf] at hresult
    exact ⟨hw, hne, hf, by omega, by omega, hms ▸ hlt⟩
  case mpr =>
    rintro ⟨hw, hne, hf, heq, hpos, hlt⟩
    rw [dropSign_eq hw, milliseconds_eq hf]
    refine ⟨⟨hne, hw, hf⟩, number w, ⟨hne, hw, rfl, by omega⟩, ms, ⟨by omega, hlt⟩, by omega, rfl⟩

theorem parseSecondsAsMilliseconds_eq_ok_iff :
    parseSecondsAsMilliseconds s = .ok ms ↔ Reads (dropSign s.toList) ms := by
  rw [reads_iff, parts_dropSign]
  unfold parseSecondsAsMilliseconds
  rcases parts s.toList with ⟨w, f⟩
  simp only [bind_eq_ok_iff, check_eq_ok_iff, exists_const, okOr_eq_ok_iff, pure_eq_ok_iff,
    checked_eq_some_iff, parseUnsigned_eq_some_iff]
  constructor
  case mp =>
    rintro ⟨seconds, ⟨hne, hw, hseconds, _⟩, hf, read, hread, result, ⟨hresult, hlt⟩, hpos, hms⟩
    obtain ⟨_, _, hfold, hread'⟩ := fractionMs_eq hf
    rw [hfold] at hread
    cases hread
    rw [hread'] at hresult
    exact ⟨hw, hne, hf, by omega, by omega, hms ▸ hlt⟩
  case mpr =>
    rintro ⟨hw, hne, hf, heq, hpos, hlt⟩
    obtain ⟨_, _, hfold, hread⟩ := fractionMs_eq hf
    refine ⟨number (dropSign w), ⟨hne, hw, rfl, by omega⟩, hf, _, hfold, ms, ⟨?_, hlt⟩,
      by omega, rfl⟩
    rw [hread]
    omega

theorem toOption_eq_some_iff {ε : Type} {x : Except ε Nat} : x.toOption = some n ↔ x = .ok n := by
  cases x <;> simp [Except.toOption]

-- The two readers agree on a text, and accept it exactly when it is a positive decimal number
-- whose milliseconds fit.
structure DurationsAgree (s : String) : Prop where
  agree : (Capture.parseDurationMs s).toOption = (parseSecondsAsMilliseconds s).toOption
  exact : ∀ ms, Capture.parseDurationMs s = .ok ms ↔
    ∃ v, Written s.toList v ∧ ⌊1000 * v⌋ = (ms : Int) ∧ 0 < ms ∧ ms < 2 ^ 64

-- A number behind a plus sign.
def PlusDuration (s : String) : Prop :=
  ∃ cs ms, s.toList = '+' :: cs ∧ Reads cs ms

-- A number with nothing behind its dot.
def PointedDuration (s : String) : Prop :=
  ∃ v, ∃ ms : Nat, Pointed s.toList v ∧ ⌊1000 * v⌋ = ms ∧ 0 < ms ∧ ms < 2 ^ 64

theorem not_reads_plus {cs : List Char} : ¬Reads ('+' :: cs) ms := by
  intro h
  have ⟨hw, _⟩ := reads_iff.mp h
  cases hsplit : splitOnce '.' cs <;> simp [parts, splitOnce, hsplit] at hw

theorem dropSign_of_not_plus (h : ¬PlusDuration s) (hread : Reads (dropSign s.toList) ms) :
    dropSign s.toList = s.toList := by
  unfold dropSign at hread ⊢
  split at hread
  case h_1 cs heq => exact absurd ⟨cs, ms, heq, hread⟩ h
  case h_2 => rfl

theorem durationsAgree_iff (s : String) :
    DurationsAgree s ↔ ¬PlusDuration s ∧ ¬PointedDuration s := by
  constructor
  case mp =>
    intro h
    constructor
    case left =>
      intro ⟨cs, ms, heq, hread⟩
      have hclips : parseSecondsAsMilliseconds s = .ok ms :=
        parseSecondsAsMilliseconds_eq_ok_iff.mpr (by rwa [heq])
      have hcapture : Capture.parseDurationMs s = .ok ms := by
        have hagree := h.agree
        rw [hclips] at hagree
        exact toOption_eq_some_iff.mp hagree
      exact not_reads_plus (heq ▸ parseDurationMs_eq_ok_iff.mp hcapture)
    case right =>
      intro ⟨v, ms, hpointed, hfloor, hms⟩
      have hcapture : Capture.parseDurationMs s = .ok ms :=
        parseDurationMs_eq_ok_iff.mpr ⟨v, .inr hpointed, hfloor, hms⟩
      have ⟨_, hwritten, _⟩ := (h.exact ms).mp hcapture
      exact hwritten.not_pointed hpointed
  case mpr =>
    intro ⟨hplus, hpointed⟩
    constructor
    case agree =>
      ext ms
      simp only [toOption_eq_some_iff, parseDurationMs_eq_ok_iff,
        parseSecondsAsMilliseconds_eq_ok_iff]
      constructor
      case mp =>
        intro hread
        have hsign : dropSign s.toList = s.toList := by
          unfold dropSign
          split
          case h_1 cs heq => exact absurd (heq ▸ hread) not_reads_plus
          case h_2 => rfl
        rwa [hsign]
      case mpr => exact fun hread => dropSign_of_not_plus hplus hread ▸ hread
    case exact =>
      intro ms
      rw [parseDurationMs_eq_ok_iff]
      constructor
      case mp =>
        intro ⟨v, hv, hfloor, hms⟩
        rcases hv with hv | hv
        case inl => exact ⟨v, hv, hfloor, hms⟩
        case inr => exact absurd ⟨v, ms, hv, hfloor, hms⟩ hpointed
      case mpr => exact fun ⟨v, hv, h⟩ => ⟨v, .inl hv, h⟩

theorem not_durationsAgree_plus : ¬DurationsAgree "+1" :=
  fun h => absurd h.agree (by decide)

end Clips
