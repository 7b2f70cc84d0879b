import OpenFrag.Setup.CaptureConfig

open Except

namespace Setup

def fieldNames : List String :=
  ["enabled", "recorder", "recorder_path", "capture_target", "output_directory", "replay_seconds",
    "ffprobe_path"]

-- The header and the seven fields in order.
def configurationLines (values : List (List Char)) : List (List Char) :=
  FORMAT_HEADER.toList :: List.zipWith (fun name value => name.toList ++ '=' :: value)
    fieldNames values

namespace CaptureRecorder

def kind : CaptureRecorder → String
  | native _ => "native"
  | flatpak  => "flatpak"

def path : CaptureRecorder → Path
  | native path => path
  | flatpak     => []

end CaptureRecorder

def CaptureConfiguration.values (c : CaptureConfiguration) : List (List Char) :=
  [(if c.enabled then "true" else "false").toList, c.recorder.kind.toList,
    Hex.encode c.recorder.path, c.captureTarget.toList, Hex.encode c.outputDirectory,
    (toString REPLAY_SECONDS).toList, Hex.encode c.ffprobePath]

variable {fs : FileSystem} {c : CaptureConfiguration} {value : List Char} {path : Path}

theorem toList_encodeText :
    (encodeText c).toList = (configurationLines c.values).flatMap (· ++ ['\n']) := by
  cases c with | mk enabled recorder captureTarget outputDirectory ffprobePath =>
  cases recorder <;>
    simp [encodeText, configurationLines, CaptureConfiguration.values, fieldNames, encodeOs,
      CaptureRecorder.kind, CaptureRecorder.path, Hex.encode]

theorem fromUTF8?_toUTF8 (s : String) : String.fromUTF8? s.toUTF8 = some s := by
  have hvalid : s.toUTF8.IsValidUTF8 := s.isValidUTF8
  unfold String.fromUTF8?
  rw [dif_pos hvalid]
  rfl

theorem field_append {name : String} {lines : List (List Char)} :
    field ((name.toList ++ '=' :: value) :: lines) name = .ok (value, lines) := by
  have hequals : Lines.stripPrefix ['='] ('=' :: value) = some value := Lines.stripPrefix_append
  simp only [field, bind_eq_ok_iff, List.head?_cons, okOr_eq_ok_iff, Option.some.injEq]
  exact ⟨_, rfl, value, by rw [Lines.stripPrefix_append, Option.bind_some, hequals], rfl⟩

theorem decodePath_encode : decodePath (Hex.encode path) = .ok path := by
  have hall : ∀ c ∈ Hex.encode path, (Hex.value c).isSome := fun c hc =>
    Hex.value_of_mem_encode hc
  unfold decodePath
  simp only [bind_eq_ok_iff, check_eq_ok_iff, okOr_eq_ok_iff, exists_const, Hex.length_encode]
  exact ⟨⟨by omega, List.all_eq_true.mpr hall⟩, Hex.decode_encode path⟩

theorem decodeEnabled_eq {enabled : Bool} :
    decodeEnabled (if enabled then "true" else "false").toList = .ok enabled := by
  cases enabled <;> rfl

theorem decodeRecorder_eq {recorder : CaptureRecorder}
    (h : ∀ path, recorder = .native path → path ≠ []) :
    decodeRecorder recorder.kind.toList (Hex.encode recorder.path) = .ok recorder := by
  cases recorder
  case flatpak => rfl
  case native path =>
    have hne : Hex.encode path ≠ [] := by
      intro hempty
      have hlength := Hex.length_encode path
      rw [hempty, List.length_nil] at hlength
      exact h path rfl (List.eq_nil_of_length_eq_zero (by omega))
    have hkind : ¬("native".toList = "flatpak".toList ∧ Hex.encode path = []) := fun h => hne h.2
    change decodeRecorder "native".toList (Hex.encode path) = _
    rw [decodeRecorder, if_neg hkind, if_pos ⟨rfl, hne⟩, decodePath_encode]
    rfl

theorem new_eq_ok_iff {enabled : Bool} {recorder : CaptureRecorder} {captureTarget : String}
    {outputDirectory ffprobePath : Path} :
    CaptureConfiguration.new fs enabled recorder captureTarget outputDirectory ffprobePath = .ok c ↔
      ⟨enabled, recorder, captureTarget, outputDirectory, ffprobePath⟩ = c ∧
        c.validate fs = .ok () := by
  simp only [CaptureConfiguration.new, bind_eq_ok_iff, pure_eq_ok_iff]
  constructor
  case mp =>
    rintro ⟨_, hvalid, heq⟩
    exact ⟨heq, heq ▸ hvalid⟩
  case mpr =>
    rintro ⟨heq, hvalid⟩
    exact ⟨(), heq ▸ hvalid, heq⟩

-- The value of a field has no line end inside.
def OneLine (value : List Char) : Prop := '\n' ∉ value ∧ '\r' ∉ value

instance (value : List Char) : Decidable (OneLine value) :=
  inferInstanceAs (Decidable (_ ∧ _))

theorem oneLine_encode : OneLine (Hex.encode path) := by
  have hnewline : ¬(Hex.value '\n').isSome := by decide
  have hreturn : ¬(Hex.value '\r').isSome := by decide
  exact ⟨fun h => hnewline (Hex.value_of_mem_encode h), fun h => hreturn (Hex.value_of_mem_encode h)⟩

theorem oneLine_target {target : String} (h : validateCaptureTarget target = .ok ()) :
    OneLine target.toList := by
  simp only [validateCaptureTarget, bind_eq_ok_iff, check_eq_ok_iff, exists_const] at h
  have hall : ∀ c ∈ target.toList, isTargetByte c := by
    cases htarget : target.toList with
    | nil => simp
    | cons c cs =>
      have hfirst : c.isAlphanum := by simpa [htarget] using h.1.2
      have hrest : ∀ c ∈ cs, isTargetByte c := by simpa [htarget] using h.2
      simpa [isTargetByte, hfirst] using hrest
  exact ⟨fun h => absurd (hall _ h) (by decide), fun h => absurd (hall _ h) (by decide)⟩

theorem validate_spec (h : c.validate fs = .ok ()) :
    OneLine c.captureTarget.toList ∧ ∀ path, c.recorder = .native path → path ≠ [] := by
  simp only [CaptureConfiguration.validate, bind_eq_ok_iff] at h
  have ⟨_, htarget, _, _, _, _, hrecorder⟩ := h
  constructor
  case left => exact oneLine_target htarget
  case right =>
    intro path hpath
    rw [hpath] at hrecorder
    simp only [requireExecutable, requireAbsoluteCleanPath, bind_eq_ok_iff, check_eq_ok_iff,
      exists_const] at hrecorder
    intro hempty
    simp [hempty, Path.isAbsolute] at hrecorder

theorem oneLine_configurationLines {values : List (List Char)} (h : ∀ v ∈ values, OneLine v) :
    ∀ l ∈ configurationLines values, OneLine l := by
  have hnames : ∀ name ∈ fieldNames, OneLine (name.toList ++ ['=']) := by decide
  intro l hl
  rcases List.mem_cons.mp hl with rfl | hl
  case inl => decide
  case inr =>
    have ⟨i, hi, hget⟩ := List.mem_iff_getElem.mp hl
    rw [List.length_zipWith] at hi
    rw [List.getElem_zipWith] at hget
    have ⟨hn, hr⟩ := hnames _ (List.getElem_mem (by omega : i < fieldNames.length))
    have ⟨hn', hr'⟩ := h _ (List.getElem_mem (by omega : i < values.length))
    simp only [List.mem_append, List.mem_singleton, not_or] at hn hr
    rw [← hget]
    exact ⟨by simp [hn, hn'], by simp [hr, hr']⟩

theorem oneLine_values (h : OneLine c.captureTarget.toList) : ∀ v ∈ c.values, OneLine v := by
  have henabled : OneLine (if c.enabled then "true" else "false").toList := by
    cases c.enabled <;> decide
  have hkind : OneLine c.recorder.kind.toList := by
    have hnative : OneLine "native".toList := by decide
    have hflatpak : OneLine "flatpak".toList := by decide
    cases c.recorder
    case native => exact hnative
    case flatpak => exact hflatpak
  have hseconds : OneLine (toString REPLAY_SECONDS).toList := by decide
  simp only [CaptureConfiguration.values, List.forall_mem_cons]
  exact ⟨henabled, hkind, oneLine_encode, h, oneLine_encode, hseconds, oneLine_encode, by simp⟩

theorem field_eq_ok_iff {lines rest : List (List Char)} {name : String} :
    field lines name = .ok (value, rest) ↔ lines = (name.toList ++ '=' :: value) :: rest := by
  constructor
  case mp =>
    intro h
    simp only [field, bind_eq_ok_iff, okOr_eq_ok_iff, Option.bind_eq_some_iff,
      Lines.stripPrefix_eq_some_iff, pure_eq_ok_iff, Prod.mk.injEq] at h
    obtain ⟨line, hline, value', ⟨tail, htail, hvalue⟩, heq, hrest⟩ := h
    cases lines
    case nil => cases hline
    case cons first lines =>
      simp only [List.head?_cons, Option.some.injEq] at hline
      rw [hline, htail, hvalue, heq, ← hrest]
      rfl
  case mpr =>
    intro h
    rw [h, field_append]

theorem decode_encode (h : c.validate fs = .ok ()) : decode fs (encode c) = .ok c := by
  have ⟨htarget, hrecorder⟩ := validate_spec h
  have hlines : Lines.lines (encodeText c).toList = configurationLines c.values := by
    rw [toList_encodeText]
    exact Lines.lines_flatMap (oneLine_configurationLines (oneLine_values htarget))
  unfold decode
  simp only [bind_eq_ok_iff, okOr_eq_ok_iff, check_eq_ok_iff, Prod.exists, field_eq_ok_iff,
    exists_const, new_eq_ok_iff]
  refine ⟨encodeText c, fromUTF8?_toUTF8 _, ?header, _, _, ?fields, c.enabled, decodeEnabled_eq,
    _, _, rfl, _, _, rfl, c.captureTarget.toList, _, rfl, _, _, rfl, c.outputDirectory,
    decodePath_encode, _, _, rfl, rfl, _, _, rfl, c.ffprobePath, decodePath_encode, rfl,
    c.recorder, decodeRecorder_eq hrecorder, ?same, h⟩
  case header => rw [hlines]; rfl
  case fields => rw [hlines]; rfl
  case same => rw [String.ofList_toList]

-- What a text is when it is accepted.
def IsConfiguration (bytes : ByteArray) : Prop :=
  ∃ text : String, bytes = text.toUTF8 ∧ ∃ values : List (List Char), values.length = 7 ∧
    Lines.lines text.toList = configurationLines values

theorem decode_spec {bytes : ByteArray} (h : decode fs bytes = .ok c) :
    IsConfiguration bytes ∧ c.validate fs = .ok () := by
  unfold decode at h
  simp only [bind_eq_ok_iff, okOr_eq_ok_iff, check_eq_ok_iff, Prod.exists, field_eq_ok_iff,
    exists_const, new_eq_ok_iff] at h
  obtain ⟨text, htext, hheader, v₁, l₁, h₁, _, _, v₂, l₂, h₂, v₃, l₃, h₃, v₄, l₄, h₄, v₅, l₅, h₅, _,
    _, v₆, l₆, h₆, hseconds, v₇, l₇, h₇, _, _, hend, _, _, _, hvalid⟩ := h
  constructor
  case left =>
    refine ⟨text, ?_, [v₁, v₂, v₃, v₄, v₅, v₆, v₇], rfl, ?_⟩
    · unfold String.fromUTF8? at htext
      split at htext
      case isFalse => cases htext
      case isTrue =>
        cases htext
        rfl
    · cases hlines : Lines.lines text.toList with
      | nil => simp [hlines] at hheader
      | cons line lines =>
        simp only [hlines, List.head?_cons, Option.some.injEq, List.tail_cons] at hheader h₁
        rw [hheader, h₁, h₂, h₃, h₄, h₅, h₆, h₇, hend]
        rfl
  case right => exact hvalid

-- A configuration that is accepted is read back from its text, and only a text of the header and
-- the seven fields is read as one.
structure RoundTrips (fs : FileSystem) : Prop where
  accepted : ∀ enabled recorder captureTarget outputDirectory ffprobePath c,
    CaptureConfiguration.new fs enabled recorder captureTarget outputDirectory ffprobePath = .ok c →
      decode fs (encode c) = .ok c
  decoded  : ∀ bytes c, decode fs bytes = .ok c →
    IsConfiguration bytes ∧ decode fs (encode c) = .ok c

theorem roundTrips (fs : FileSystem) : RoundTrips fs := by
  constructor
  case accepted =>
    intro _ _ _ _ _ c h
    exact decode_encode (new_eq_ok_iff.mp h).2
  case decoded =>
    intro bytes c h
    have ⟨htext, hvalid⟩ := decode_spec h
    exact ⟨htext, decode_encode hvalid⟩

end Setup
