import OpenFrag.Library.ByteRanges
import OpenFrag.Service.Preview

open ByteRanges Decimal
open MachineInt (saturatingAdd)

namespace Service

-- A number that is read as a machine integer.
def Machine64 (cs : List Char) (n : Nat) : Prop :=
  SignedNumeral cs n ∧ n < 2 ^ 64

theorem parseUnsigned_eq_some {cs : List Char} {n : Nat} :
    parseUnsigned 64 (.ofList cs) = some n ↔ Machine64 cs n := by
  rw [parseUnsigned_eq_some_iff, Machine64, SignedNumeral, Numeral]
  tauto

theorem Machine64.dash_not_mem (cs : List Char) (n : Nat) (h : Machine64 cs n) : '-' ∉ cs :=
  h.1.not_mem rfl (by decide)

theorem spells_machine {spec : Spec} {range : List Char} (h : Spells SignedNumeral spec range)
    (hfits : ¬∃ n ∈ spec.numbers, 2 ^ 64 ≤ n) : Spells Machine64 spec range :=
  h.mono fun _ n _ hn hcs => ⟨hcs, Nat.lt_of_not_le fun hle => hfits ⟨n, hn, hle⟩⟩

-- The header spells the range, with numbers as they are given.
def Asks (Number : List Char → Nat → Prop) (value : String) (spec : Spec) : Prop :=
  ∃ range, value.toList = "bytes=".toList ++ range ∧ Spells Number spec range

section

variable {value : String} {length first last : Nat} {spec : Spec} {range : List Char}

theorem byteRange_eq_some (hrange : value.toList = "bytes=".toList ++ range)
    (hspells : Spells Machine64 spec range) (hassigns : spec.Assigns length first last) :
    byteRange value length = some (first, last) := by
  have ⟨hsat, hbounds⟩ := Spec.assigns_iff.mp hassigns
  have hcomma : ',' ∉ range := Spells.comma_not_mem (hspells.mono fun _ _ _ _ h => h.1)
  have hlength : length ≠ 0 := Nat.ne_of_gt hsat.pos
  have ⟨cs, cs', hsplit, hparts⟩ := (spells_iff Machine64.dash_not_mem).mp hspells
  have hbytes : "bytes=".toList.isPrefixOf? value.toList = some range :=
    List.isPrefixOf?_eq_some_iff_append_eq.mpr hrange.symm
  unfold byteRange
  simp only [hbytes, hsplit, hcomma, hlength, Option.bind_eq_bind, Option.bind_some, or_self,
    if_false]
  cases spec with
  | starting n =>
    have ⟨hn, hnil⟩ := hparts
    have hlt := Spec.satisfiable_starting.mp hsat
    have hread := parseUnsigned_eq_some.mpr hn
    cases hbounds
    simp [hread, hnil, hn.1.ne_nil, Nat.not_le_of_lt hlt, Nat.le_sub_one_of_lt hlt]
  | between n n' =>
    have ⟨hn, hn'⟩ := hparts
    have ⟨hle, hlt⟩ := Spec.satisfiable_between.mp hsat
    have hread := parseUnsigned_eq_some.mpr hn
    have hread' := parseUnsigned_eq_some.mpr hn'
    cases hbounds
    simp [hread, hread', hn.1.ne_nil, hn'.1.ne_nil, Nat.not_le_of_lt hlt, hle,
      Nat.le_sub_one_of_lt hlt]
  | suffix n =>
    have ⟨hnil, hn⟩ := hparts
    have ⟨_, hpos⟩ := Spec.satisfiable_suffix.mp hsat
    have hread := parseUnsigned_eq_some.mpr hn
    cases hbounds
    simp [hread, hnil, Nat.ne_of_gt hpos, hlength]

theorem byteRange_eq_some_iff : byteRange value length = some (first, last) ↔
    ∃ spec, Asks Machine64 value spec ∧ spec.Assigns length first last := by
  constructor
  case mpr =>
    intro ⟨spec, ⟨range, hrange, hspells⟩, hassigns⟩
    exact byteRange_eq_some hrange hspells hassigns
  case mp =>
    intro h
    simp only [byteRange, Option.bind_eq_bind, Option.bind_eq_some_iff,
      List.isPrefixOf?_eq_some_iff_append_eq] at h
    have ⟨range, hrange, h⟩ := h
    split at h
    case isTrue => cases h
    case isFalse hok =>
      have ⟨⟨cs, cs'⟩, hsplit, h⟩ := Option.bind_eq_some_iff.mp h
      have hasks : ∀ spec : Spec, spec.Parts Machine64 cs cs' → Asks Machine64 value spec :=
        fun _ hparts =>
          ⟨range, hrange.symm, (spells_iff Machine64.dash_not_mem).mpr ⟨cs, cs', hsplit, hparts⟩⟩
      have hlength : 0 < length := by omega
      dsimp only at h
      split at h
      case isTrue hnil =>
        have ⟨n, hn, h⟩ := Option.bind_eq_some_iff.mp h
        simp only [Option.ite_none_right_eq_some] at h
        have ⟨hpos, h⟩ := h
        have hsat : (Spec.suffix n).Satisfiable length :=
          Spec.satisfiable_suffix.mpr ⟨hlength, by omega⟩
        exact ⟨.suffix n, hasks _ ⟨hnil, parseUnsigned_eq_some.mp hn⟩,
          Spec.assigns_iff.mpr ⟨hsat, Option.some.inj h⟩⟩
      case isFalse hne =>
        have ⟨n, hn, h⟩ := Option.bind_eq_some_iff.mp h
        split at h
        case isTrue => cases h
        case isFalse hlt =>
          rw [Nat.not_le] at hlt
          have hn := parseUnsigned_eq_some.mp hn
          split at h
          case isTrue hnil =>
            simp only [Option.bind_some, Option.ite_none_right_eq_some] at h
            have hsat := Spec.satisfiable_starting.mpr hlt
            exact ⟨.starting n, hasks _ ⟨hn, hnil⟩,
              Spec.assigns_iff.mpr ⟨hsat, Option.some.inj h.2⟩⟩
          case isFalse =>
            simp only [Option.bind_map, Option.bind_eq_some_iff, Function.comp_apply,
              Option.ite_none_right_eq_some] at h
            have ⟨n', hn', hle, h⟩ := h
            have hsat := Spec.satisfiable_between.mpr ⟨hle.trans (Nat.min_le_left _ _), hlt⟩
            exact ⟨.between n n', hasks _ ⟨hn, parseUnsigned_eq_some.mp hn'⟩,
              Spec.assigns_iff.mpr ⟨hsat, Option.some.inj h⟩⟩

end

-- The response carries the range of the file that is asked for, or tells that there is none.
structure Carries (file : File) (range : Option (Nat × Nat)) (response : Response) : Prop where
  sent : ∀ first last, range = some (first, last) →
    response.status = .partialContent ∧
      response.body = (file.content.drop first).take (last - first + 1) ∧
      response.body.length = last - first + 1 ∧
      response.contentLength = some (last - first + 1) ∧
      response.contentRange = some
        ("bytes " ++ toString first ++ "-" ++ toString last ++ "/" ++ toString file.content.length)
  refused : range = none →
    response.status = .rangeNotSatisfiable ∧ response.body = [] ∧
      response.contentRange = some ("bytes */" ++ toString file.content.length)

theorem previewClip_carries {ports : PreviewPorts} {id value : String} {header : List UInt8}
    {preview : ClipPreview} {file : File} {response : Response}
    (hheader : ports.headerText header = some value) (hpreview : ports.previewClip id = .ok preview)
    (hfile : ports.openFile preview.path = some file)
    (hresponse : previewClip ports id (some header) = .ok response) :
    Carries file (byteRange value file.content.length) response := by
  have hranged : (some header).bind ports.headerText = some value := hheader
  simp only [previewClip, Except.bind_eq_ok_iff, Except.mapError_eq_ok_iff, Except.okOr_eq_ok_iff,
    hpreview, Except.ok.injEq, exists_eq_left', hfile, Option.some.injEq, hranged,
    Option.bind_some, Option.isSome_some, true_and] at hresponse
  cases hrange : byteRange value file.content.length
  case none =>
    simp only [hrange, if_true, Except.pure_eq_ok_iff] at hresponse
    subst hresponse
    exact { sent := by simp, refused := fun _ => ⟨rfl, rfl, rfl⟩ }
  case some range =>
    obtain ⟨spec, _, hassigns⟩ := byteRange_eq_some_iff.mp hrange
    have hle := hassigns.ordered
    have hlt := hassigns.last_lt
    have hlength : saturatingAdd 64 (range.2 - range.1) 1 = range.2 - range.1 + 1 := by
      have hsmall := file.length_lt
      unfold saturatingAdd
      omega
    simp only [hrange, reduceCtorEq, if_false, Except.bind_eq_ok_iff, Except.pure_eq_ok_iff,
      hlength] at hresponse
    obtain ⟨_, _, _, _, hresponse⟩ := hresponse
    subst hresponse
    exact {
      sent := by
        intro first last heq
        cases heq
        have hbody : ((file.content.drop first).take (last - first + 1)).length =
            last - first + 1 := by
          rw [List.length_take, List.length_drop]
          omega
        exact ⟨rfl, rfl, hbody, rfl, rfl⟩
      refused := by simp }

-- What is asked of a header and a length: the ranges that the grammar allows are assigned, no
-- others are, and the response carries them.
structure Served (value : String) (length : Nat) : Prop where
  assigned : ∀ first last, byteRange value length = some (first, last) ↔
    ∃ spec, Asks Numeral value spec ∧ spec.Assigns length first last
  inside : ∀ first last, byteRange value length = some (first, last) →
    first ≤ last ∧ last < length
  response : ∀ (ports : PreviewPorts) (id : String) (header : List UInt8) (preview : ClipPreview)
    (file : File) (response : Response), ports.headerText header = some value →
      ports.previewClip id = .ok preview → ports.openFile preview.path = some file →
      file.content.length = length → previewClip ports id (some header) = .ok response →
      Carries file (byteRange value length) response

-- The header is served as the grammar says, unless it names a satisfiable range with plus signs
-- that the reader skips, or with numbers that do not fit in a machine integer.
theorem byteRange_served_iff (value : String) (length : Nat) :
    Served value length ↔ ∀ spec range, value.toList = "bytes=".toList ++ range →
      Spells SignedNumeral spec range → spec.Satisfiable length →
      ('+' ∈ range ↔ ∃ n ∈ spec.numbers, 2 ^ 64 ≤ n) := by
  constructor
  case mp =>
    intro h spec range hrange hspells hsat
    have hassigns : spec.Assigns length _ _ := Spec.assigns_iff.mpr ⟨hsat, rfl⟩
    constructor
    case mp =>
      intro hplus
      by_contra hfits
      have hmachine := spells_machine hspells hfits
      have hrange' := byteRange_eq_some hrange hmachine hassigns
      have ⟨_, ⟨range', heq, hnumerals⟩, _⟩ := (h.assigned _ _).mp hrange'
      rw [hrange, List.append_cancel_left_eq] at heq
      subst heq
      exact hnumerals.plus_not_mem hplus
    case mpr =>
      intro ⟨n, hn, hle⟩
      by_contra hplus
      have hrange' := (h.assigned _ _).mpr ⟨spec, ⟨range, hrange, hspells.unsigned hplus⟩, hassigns⟩
      have ⟨spec', ⟨range', heq, hmachine⟩, _⟩ := byteRange_eq_some_iff.mp hrange'
      rw [hrange, List.append_cancel_left_eq] at heq
      subst heq
      have hspec := Spells.unique hspells (hmachine.mono fun _ _ _ _ hcs => hcs.1)
      subst hspec
      have ⟨_, hlt⟩ := hmachine.numbers hn
      exact Nat.not_lt_of_le hle hlt.2
  case mpr =>
    intro h
    exact {
      assigned := by
        intro first last
        rw [byteRange_eq_some_iff]
        constructor
        case mp =>
          intro ⟨spec, ⟨range, hrange, hmachine⟩, hassigns⟩
          have hspells := hmachine.mono fun _ _ _ _ hcs => hcs.1
          have hplus : '+' ∉ range := by
            intro hplus
            have ⟨n, hn, hle⟩ := (h spec range hrange hspells hassigns.satisfiable).mp hplus
            have ⟨_, hlt⟩ := hmachine.numbers hn
            exact Nat.not_lt_of_le hle hlt.2
          exact ⟨spec, ⟨range, hrange, hspells.unsigned hplus⟩, hassigns⟩
        case mpr =>
          intro ⟨spec, ⟨range, hrange, hnumerals⟩, hassigns⟩
          have hfits : ¬∃ n ∈ spec.numbers, 2 ^ 64 ≤ n := fun hlarge =>
            hnumerals.plus_not_mem
              ((h spec range hrange hnumerals.signed hassigns.satisfiable).mpr hlarge)
          exact ⟨spec, ⟨range, hrange, spells_machine hnumerals.signed hfits⟩, hassigns⟩
      inside := by
        intro first last hrange
        have ⟨spec, _, hassigns⟩ := byteRange_eq_some_iff.mp hrange
        exact ⟨hassigns.ordered, hassigns.last_lt⟩
      response := by
        intro ports id header preview file response hheader hpreview hfile hlength hresponse
        subst hlength
        exact previewClip_carries hheader hpreview hfile hresponse }

example : byteRange "bytes=10-15" 22 = some (10, 15) ∧ byteRange "bytes=-30" 22 = some (0, 21) := by
  decide +kernel

-- A plus sign is skipped.
theorem byteRange_served_fails : ¬∀ value length, Served value length := by
  intro h
  have hread : byteRange "bytes=+5-9" 22 = some (5, 9) := by decide +kernel
  have ⟨_, ⟨range, hrange, hnumerals⟩, _⟩ := ((h "bytes=+5-9" 22).assigned 5 9).mp hread
  have hrange' : "bytes=+5-9".toList = "bytes=".toList ++ "+5-9".toList := by decide +kernel
  rw [hrange', List.append_cancel_left_eq] at hrange
  subst hrange
  exact hnumerals.plus_not_mem (by decide +kernel)

end Service
