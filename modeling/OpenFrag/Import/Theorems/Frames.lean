import OpenFrag.Import.Frames

open MachineInt Except

namespace Import

variable {bytes : List UInt8} {ptr ptr' : Nat}

theorem and_high_bit {b : UInt8} : b &&& 0x80 = 0 ↔ b.toNat < 128 := by
  have hhigh : (0x80 : UInt8).toNat = 2 ^ 7 := rfl
  have hbit : b.toNat / 2 ^ 7 % 2 = b.toNat / 2 ^ 7 := by
    have := b.toNat_lt
    omega
  rw [← UInt8.toNat_inj, UInt8.toNat_and, hhigh, Nat.and_two_pow, Nat.toNat_testBit, hbit]
  simp

theorem getElem?_eq_some_iff_drop {b : UInt8} :
    bytes[ptr]? = some b ↔ bytes.drop ptr = b :: bytes.drop (ptr + 1) := by
  rw [← List.head?_drop, ← List.tail_drop]
  cases bytes.drop ptr <;> simp

theorem readVarint_go_iff {n : Nat} {result v : UInt32} (hn : n ≤ 5)
    (hresult : result.toNat < 2 ^ (7 * (5 - n))) :
    readVarint.go bytes n result ptr = .ok (v, ptr') ↔ ∃ bs k rest, bytes.drop ptr = bs ++ rest ∧
      Varint n bs k ∧ v = result + UInt32.ofNat (k * 2 ^ (7 * (5 - n))) ∧
        ptr' = ptr + bs.length := by
  induction n generalizing result ptr
  case zero =>
    unfold readVarint.go
    constructor
    case mp =>
      intro h
      cases h
      exact ⟨[], 0, _, rfl, .full, by simp, rfl⟩
    case mpr =>
      intro ⟨bs, k, rest, _, hvarint, hv, hptr⟩
      cases hvarint
      simp [hv, hptr]
  case succ n ih =>
    have hshift : 7 * (5 - (n + 1)) = 7 * (4 - n) := by omega
    have hnext : 7 * (5 - n) = 7 * (4 - n) + 7 := by omega
    rw [hshift] at hresult ⊢
    unfold readVarint.go
    cases hget : bytes[ptr]? with
    | none =>
      have hdrop := List.drop_eq_nil_iff.mpr (List.getElem?_eq_none_iff.mp hget)
      apply iff_of_false
      case ha => exact fun h => nomatch h
      case hb =>
        intro ⟨bs, k, rest, hbs, hvarint, _⟩
        have hempty : bs = [] := (List.append_eq_nil_iff.mp (hbs ▸ hdrop)).1
        have hpos := hvarint.length_pos
        simp [hempty] at hpos
    | some b =>
      rw [getElem?_eq_some_iff_drop.mp hget]
      have hor := Varint.or_group result b hresult (by omega)
      simp only [hor, ← and_assoc (b := Varint _ _ _), Varint.cons_eq_append_iff, and_high_bit]
      split
      case isTrue hend =>
        rw [Nat.mod_eq_of_lt hend]
        constructor
        case mp =>
          intro h
          cases h
          exact ⟨[b], b.toNat, _, .inl ⟨hend, rfl, rfl, rfl⟩, rfl, rfl⟩
        case mpr =>
          intro ⟨bs, k, rest, hcases, hv, hptr⟩
          rcases hcases with ⟨_, hbs, _, hk⟩ | ⟨hhigh, _⟩
          case inl => rw [hv, hptr, hbs, hk, List.length_singleton]
          case inr => omega
      case isFalse hmore =>
        have hbound : (result + UInt32.ofNat (b.toNat % 128 * 2 ^ (7 * (4 - n)))).toNat <
            2 ^ (7 * (5 - n)) := by
          rw [UInt32.toNat_add, UInt32.toNat_ofNat', hnext, pow_add]
          have hgroup : b.toNat % 128 * 2 ^ (7 * (4 - n)) ≤ 127 * 2 ^ (7 * (4 - n)) :=
            Nat.mul_le_mul_right _ (by omega)
          have := Nat.mod_le (result.toNat + b.toNat % 128 * 2 ^ (7 * (4 - n)) % 2 ^ 32) (2 ^ 32)
          have := Nat.mod_le (b.toNat % 128 * 2 ^ (7 * (4 - n))) (2 ^ 32)
          omega
        -- The groups that follow stand seven bits higher.
        have hsum : ∀ k, result + UInt32.ofNat (b.toNat % 128 * 2 ^ (7 * (4 - n))) +
            UInt32.ofNat (k * 2 ^ (7 * (5 - n))) =
              result + UInt32.ofNat ((b.toNat % 128 + 128 * k) * 2 ^ (7 * (4 - n))) := by
          intro k
          rw [UInt32.add_assoc, ← UInt32.ofNat_add, hnext]
          congr 2
          ring
        rw [ih (by omega) hbound]
        constructor
        case mp =>
          intro ⟨bs, k, rest, hbs, hvarint, hv, hptr⟩
          refine ⟨b :: bs, _, rest, .inr ⟨by omega, bs, k, ⟨hbs, hvarint⟩, rfl, rfl⟩, ?_, ?_⟩
          · rw [hv, hsum]
          · rw [hptr, List.length_cons]
            omega
        case mpr =>
          intro ⟨bs, k, rest, hcases, hv, hptr⟩
          rcases hcases with ⟨hlt, _⟩ | ⟨_, bs', k', ⟨hrest, hvarint⟩, hbs, hk⟩
          case inl => exact absurd hlt hmore
          case inr =>
            refine ⟨bs', k', rest, hrest, hvarint, ?_, ?_⟩
            · rw [hv, hk, hsum]
            · rw [hptr, hbs, List.length_cons]
              omega

theorem readVarint_eq_ok_iff {v : UInt32} : readVarint bytes ptr = .ok (v, ptr') ↔
    ∃ bs k rest, bytes.drop ptr = bs ++ rest ∧ Varint 5 bs k ∧ v = .ofNat k ∧
      ptr' = ptr + bs.length := by
  unfold readVarint
  rw [readVarint_go_iff le_rfl (by decide)]
  simp

theorem drop_of_append {bs rest : List UInt8} (h : bytes.drop ptr = bs ++ rest) :
    bytes.drop (ptr + bs.length) = rest := by
  rw [← List.drop_drop, h, List.drop_left]

theorem Frame.length_pos (frame : Frame) : 0 < frame.bytes.length := by
  have := frame.commandVarint.length_pos
  simp [Frame.bytes]
  omega

theorem scanFrame_eq_ok_iff {index payloadEnd : Nat} {location : FrameLocation}
    (hfits : bytes.length < 2 ^ 63) :
    scanFrame bytes index ptr = .ok (location, payloadEnd) ↔ ∃ (frame : Frame) (rest : List UInt8),
      bytes.drop ptr = frame.bytes ++ rest ∧ location = frame.location index ptr ∧
        payloadEnd = ptr + frame.bytes.length := by
  unfold scanFrame
  simp only [bind_eq_ok_iff, mapError_eq_ok_iff, Prod.exists, readVarint_eq_ok_iff, okOr_eq_ok_iff,
    check_eq_ok_iff, exists_const, pure_eq_ok_iff, Prod.mk.injEq]
  constructor
  case mp =>
    rintro ⟨command, _, ⟨bs₁, k₁, rest₁, h₁, hv₁, hcommand, hptr₁⟩, tick, _,
      ⟨bs₂, k₂, rest₂, h₂, hv₂, htick, hptr₂⟩, size, _,
      ⟨bs₃, k₃, rest₃, h₃, hv₃, hsize, hptr₃⟩, known, hknown, end', hend, hle, hlocation, hend'⟩
    subst hcommand htick hsize hptr₁ hptr₂ hptr₃ hend'
    rw [drop_of_append h₁] at h₂
    have h₁₂ : bytes.drop ptr = (bs₁ ++ bs₂) ++ rest₂ := by rw [h₁, h₂, List.append_assoc]
    rw [add_assoc ptr, ← List.length_append, drop_of_append h₁₂] at h₃
    have h₁₂₃ : bytes.drop ptr = (bs₁ ++ bs₂ ++ bs₃) ++ rest₃ := by
      simp [h₁₂, h₃]
    simp only [checkedAdd, Option.ite_none_right_eq_some, Option.some.injEq] at hend
    have hlength : (UInt32.ofNat k₃).toNat ≤ rest₃.length := by
      have := congrArg List.length h₁₂₃
      simp only [List.length_drop, List.length_append] at this
      omega
    let frame : Frame := {
      commandBytes := bs₁, tickBytes := bs₂, sizeBytes := bs₃
      payload      := rest₃.take (UInt32.ofNat k₃).toNat
      command := k₁, tick := k₂, size := k₃
      commandVarint := hv₁, tickVarint := hv₂, sizeVarint := hv₃
      known         := ⟨known, hknown⟩
      payloadLength := List.length_take_of_le hlength }
    refine ⟨frame, rest₃.drop (UInt32.ofNat k₃).toNat, ?_, hlocation.symm, ?_⟩
    · simp only [frame, Frame.bytes]
      rw [List.append_assoc _ (rest₃.take _), List.take_append_drop, h₁₂₃]
    · simp only [frame, Frame.bytes, List.length_append, List.length_take_of_le hlength]
      omega
  case mpr =>
    rintro ⟨frame, rest, hbytes, hlocation, hend⟩
    have h₁ : bytes.drop ptr =
        frame.commandBytes ++ (frame.tickBytes ++ (frame.sizeBytes ++ (frame.payload ++ rest))) := by
      simp [hbytes, Frame.bytes]
    have h₂ := drop_of_append h₁
    have h₃ := drop_of_append h₂
    obtain ⟨known, hknown⟩ := frame.known
    have hlength := congrArg List.length h₁
    have hpayload := frame.payloadLength
    have hpos := frame.commandVarint.length_pos
    simp only [List.length_drop, List.length_append] at hlength
    simp only [Frame.bytes, List.length_append] at hend
    refine ⟨_, _, ⟨_, _, _, h₁, frame.commandVarint, rfl, rfl⟩, _, _,
      ⟨_, _, _, h₂, frame.tickVarint, rfl, rfl⟩, _, _, ⟨_, _, _, h₃, frame.sizeVarint, rfl, rfl⟩,
      known, hknown, payloadEnd, ?_, ?_, hlocation.symm, rfl⟩
    · simp only [checkedAdd, Option.ite_none_right_eq_some, Option.some.injEq]
      omega
    · omega

theorem Frame.flatMap_eq_nil_iff {frames : List Frame} :
    frames.flatMap Frame.bytes = [] ↔ frames = [] := by
  cases frames
  case nil => simp
  case cons frame frames =>
    have := frame.length_pos
    simp [List.flatMap_cons, List.ne_nil_of_length_pos this]

variable {index rounds : Nat} {locations result : List FrameLocation}

theorem scanFrames_terminates (hfits : bytes.length < 2 ^ 63)
    (hrounds : bytes.length ≤ ptr + rounds) :
    ∃ r, scanFrames bytes index ptr locations rounds = some r := by
  induction rounds generalizing index ptr locations
  case zero =>
    unfold scanFrames
    rw [if_neg (by omega)]
    exact ⟨_, rfl⟩
  case succ rounds ih =>
    unfold scanFrames
    split
    case isFalse => exact ⟨_, rfl⟩
    case isTrue =>
      split
      case h_1 => exact ⟨_, rfl⟩
      case h_2 location payloadEnd hframe =>
        have ⟨frame, _, _, _, hend⟩ := (scanFrame_eq_ok_iff hfits).mp hframe
        have := frame.length_pos
        exact ih (by omega)

-- At the end of the bytes there are no frames.
theorem frames_of_end (h : bytes.length ≤ ptr) : result = locations ↔ ∃ frames : List Frame,
    bytes.drop ptr = frames.flatMap Frame.bytes ∧ result = locations ++ locate index ptr frames := by
  rw [List.drop_eq_nil_iff.mpr h]
  constructor
  case mp => exact fun h => ⟨[], rfl, by simp [h, locate]⟩
  case mpr =>
    intro ⟨frames, hnil, hresult⟩
    have hframes := Frame.flatMap_eq_nil_iff.mp hnil.symm
    simpa [hframes, locate] using hresult

-- The loop accepts what is left of the bytes exactly when it is a sequence of frames. There are at
-- least as many bytes before a frame as frames.
theorem scanFrames_eq_ok_iff (hfits : bytes.length < 2 ^ 63) (hindex : index ≤ ptr)
    (hrounds : bytes.length ≤ ptr + rounds) :
    scanFrames bytes index ptr locations rounds = some (.ok result) ↔ ∃ frames : List Frame,
      bytes.drop ptr = frames.flatMap Frame.bytes ∧
        result = locations ++ locate index ptr frames := by
  induction rounds generalizing index ptr locations
  case zero =>
    unfold scanFrames
    rw [if_neg (by omega), ← frames_of_end (by omega)]
    simp [eq_comm]
  case succ rounds ih =>
    unfold scanFrames
    split
    case isFalse hle =>
      rw [← frames_of_end (by omega)]
      simp [eq_comm]
    case isTrue hlt =>
      have hindex' : saturatingAdd 64 index 1 = index + 1 := by
        unfold saturatingAdd
        omega
      -- What is left is not empty, so that it starts with a frame.
      have hcons : ∀ frames : List Frame, bytes.drop ptr = frames.flatMap Frame.bytes →
          ∃ frame rest, frames = frame :: rest ∧ scanFrame bytes index ptr =
            .ok (frame.location index ptr, ptr + frame.bytes.length) := by
        intro frames hframes
        cases frames
        case nil =>
          have := List.drop_eq_nil_iff.mp hframes
          omega
        case cons frame rest =>
          exact ⟨frame, rest, rfl, (scanFrame_eq_ok_iff hfits).mpr ⟨frame, _, hframes, rfl, rfl⟩⟩
      split
      case h_1 e herror =>
        apply iff_of_false
        case ha => exact fun h => nomatch h
        case hb =>
          intro ⟨frames, hframes, _⟩
          have ⟨_, _, _, hok⟩ := hcons frames hframes
          rw [herror] at hok
          cases hok
      case h_2 location payloadEnd hframe =>
        have ⟨frame, rest, hbytes, hlocation, hend⟩ := (scanFrame_eq_ok_iff hfits).mp hframe
        have := frame.length_pos
        rw [hindex', ih (by omega) (by omega), hend, drop_of_append hbytes]
        constructor
        case mp =>
          intro ⟨frames, hframes, hresult⟩
          refine ⟨frame :: frames, ?_, ?_⟩
          · rw [hbytes, hframes, List.flatMap_cons]
          · rw [hresult, hlocation, List.append_assoc]
            rfl
        case mpr =>
          intro ⟨frames, hframes, hresult⟩
          have ⟨frame', frames', hcons, hok⟩ := hcons frames hframes
          rw [hframe] at hok
          have ⟨hlocation', hend'⟩ := Prod.mk.inj (Except.ok.inj hok)
          have hlength : frame.bytes.length = frame'.bytes.length := by omega
          rw [hcons, List.flatMap_cons, hbytes] at hframes
          have ⟨_, hrest⟩ := List.append_inj hframes hlength
          refine ⟨frames', hrest, ?_⟩
          rw [hresult, hcons, hlocation', hlength, List.append_assoc]
          rfl

theorem locate_index {offset : Nat} {frames : List Frame} :
    (locate index offset frames).map (·.index) = List.range' index frames.length := by
  induction frames generalizing index offset
  case nil => rfl
  case cons frame frames ih =>
    simp [locate, Frame.location, ih, List.range'_succ]

theorem locate_le {offset : Nat} {frames : List Frame} {location : FrameLocation}
    (h : location ∈ locate index offset frames) : offset ≤ location.byteOffset := by
  induction frames generalizing index offset
  case nil => cases h
  case cons frame frames ih =>
    rcases List.mem_cons.mp h with rfl | h
    case inl => exact le_rfl
    case inr => exact Nat.le_of_add_right_le (ih h)

theorem locate_increasing {offset : Nat} {frames : List Frame} :
    ((locate index offset frames).map (·.byteOffset)).Pairwise (· < ·) := by
  induction frames generalizing index offset
  case nil => exact .nil
  case cons frame frames ih =>
    rw [locate, List.map_cons, List.pairwise_cons]
    refine ⟨?_, ih⟩
    simp only [List.mem_map, forall_exists_index, and_imp]
    intro _ location hlocation rfl
    have := frame.length_pos
    have := locate_le hlocation
    simp only [Frame.location]
    omega

-- The locations of frames that fill the bytes from the sixteenth on.
structure Tiles (bytes : List UInt8) (frames : List Frame) (locations : List FrameLocation) :
    Prop where
  fills      : bytes.drop 16 = frames.flatMap Frame.bytes
  located    : locations = locate 0 16 frames
  indices    : locations.map (·.index) = List.range frames.length
  increasing : (locations.map (·.byteOffset)).Pairwise (· < ·)

structure Scans (slice : Slice) (rounds : Nat) : Prop where
  terminates : ∃ r, scanFrameLocations slice rounds = some r
  accepts    : (∃ locations, scanFrameLocations slice rounds = some (.ok locations)) ↔
    slice.bytes.take 8 = DEMO_MAGIC ∧ 16 ≤ slice.bytes.length ∧
      ∃ frames : List Frame, slice.bytes.drop 16 = frames.flatMap Frame.bytes
  tiles      : ∀ locations, scanFrameLocations slice rounds = some (.ok locations) →
    ∃ frames, Tiles slice.bytes frames locations

theorem scanFrameLocations_eq_ok_iff {slice : Slice} (hrounds : slice.bytes.length ≤ rounds) :
    scanFrameLocations slice rounds = some (.ok result) ↔ slice.bytes.take 8 = DEMO_MAGIC ∧
      16 ≤ slice.bytes.length ∧ ∃ frames : List Frame,
        slice.bytes.drop 16 = frames.flatMap Frame.bytes ∧ result = locate 0 16 frames := by
  have hlength : DEMO_MAGIC.length = 8 := rfl
  unfold scanFrameLocations
  rw [hlength]
  split
  case isTrue h => exact iff_of_false (fun h => nomatch h) (fun h' => by omega)
  case isFalse h =>
    split
    case isTrue h' => exact iff_of_false (fun h => nomatch h) (fun h => h' h.1)
    case isFalse h' =>
      rw [scanFrames_eq_ok_iff slice.fits (by omega) (by omega)]
      simp only [List.nil_append]
      exact ⟨fun hframes => ⟨not_not.mp h', by omega, hframes⟩, fun hframes => hframes.2.2⟩

-- The scan ends after at most as many rounds as there are bytes.
theorem scanFrameLocations_scans (slice : Slice) (extra : Nat) :
    Scans slice (slice.bytes.length + extra) := by
  have hrounds : slice.bytes.length ≤ slice.bytes.length + extra := Nat.le_add_right ..
  constructor
  case terminates =>
    unfold scanFrameLocations
    split
    case isTrue => exact ⟨_, rfl⟩
    case isFalse =>
      split
      case isTrue => exact ⟨_, rfl⟩
      case isFalse => exact scanFrames_terminates slice.fits (by omega)
  case accepts =>
    simp only [scanFrameLocations_eq_ok_iff hrounds]
    constructor
    case mp =>
      intro ⟨locations, hmagic, hlength, frames, hframes, _⟩
      exact ⟨hmagic, hlength, frames, hframes⟩
    case mpr =>
      intro ⟨hmagic, hlength, frames, hframes⟩
      exact ⟨locate 0 16 frames, hmagic, hlength, frames, hframes, rfl⟩
  case tiles =>
    intro locations h
    have ⟨_, _, frames, hframes, hlocated⟩ := (scanFrameLocations_eq_ok_iff hrounds).mp h
    exact ⟨frames, {
      fills      := hframes
      located    := hlocated
      indices    := by rw [hlocated, locate_index, List.range_eq_range']
      increasing := by rw [hlocated]; exact locate_increasing }⟩

end Import
