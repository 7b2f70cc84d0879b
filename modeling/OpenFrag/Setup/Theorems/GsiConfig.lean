import OpenFrag.Setup.Theorems.Writes

open Trim

namespace Installation

variable {W : Type} {ports : Ports W} {path : FilePath}

section Texts

variable {c : Char} {name : String}

-- The last character of a path.
def lastChar (path : FilePath) : Option Char :=
  path.getLast?.bind fun name => name.toList.getLast?

theorem lastChar_append : lastChar (path ++ [name]) = name.toList.getLast? := by
  simp [lastChar]

theorem lastChar_temporaryPath {sequence : Nat} :
    lastChar (temporaryPath ports (path ++ [name]) sequence) = some 'p' := by
  simp [temporaryPath, withExtension, lastChar_append, List.getLast?_cons]

-- A name that does not end as the temporary names do is none of them.
theorem not_temporary {p : FilePath} (h : lastChar p ≠ some 'p') :
    ¬Temporary ports (path ++ [name]) p := by
  rintro ⟨sequence, rfl⟩
  exact h lastChar_temporaryPath

theorem toNat_of_isAlphanum (h : c.isAlphanum) : 48 ≤ c.toNat ∧ c.toNat ≤ 122 := by
  have h : (decide ('A'.val ≤ c.val ∧ c.val ≤ 'Z'.val) ||
      decide ('a'.val ≤ c.val) && decide (c.val ≤ 'z'.val) ||
      decide ('0'.val ≤ c.val) && decide (c.val ≤ '9'.val)) = true := h
  have hval : c.toNat = c.val.toNat := rfl
  simp only [Bool.or_eq_true, Bool.and_eq_true, decide_eq_true_eq, UInt32.le_iff_toNat_le] at h
  simp at h
  omega

theorem toNat_of_isTokenChar (h : isTokenChar c) : 45 ≤ c.toNat ∧ c.toNat ≤ 122 := by
  simp only [isTokenChar, Bool.or_eq_true, decide_eq_true_eq] at h
  obtain ((h | rfl) | rfl) | rfl := h
  case inl.inl.inl =>
    have hrange := toNat_of_isAlphanum h
    omega
  all_goals simp

theorem isTokenChar_of_isMarkerChar (h : isMarkerChar c) : isTokenChar c := by
  simpa [isTokenChar, isMarkerChar] using Or.inl h

theorem isTokenChar_of_isDigit (h : c.isDigit) : isTokenChar c := by
  simp [isTokenChar, Char.isAlphanum, h]

theorem isWhiteSpace_eq_false (h : isTokenChar c) : isWhiteSpace c = false := by
  have hrange := toNat_of_isTokenChar h
  simp [isWhiteSpace]
  omega

-- What a line with a value of such characters holds is that value.
theorem trim_tokenLine {value : String} (h : ∀ c ∈ value.toList, isTokenChar c) :
    trim (value ++ "\n").toList = value.toList := by
  have htext : (value ++ "\n").toList = value.toList ++ ['\n'] := String.toList_append
  rw [htext, trim_line]
  exact trimMatches_of_forall fun c hc => isWhiteSpace_eq_false (h c hc)

end Texts

section Config

variable {token wanted : String}

-- The quoted parts of the configuration around the token, each with what stands before it.
def partsBefore : List (List Char × List Char) :=
  [("", "openfrag v1"), ("\n\x7b\n  ", "uri"), (" ", GSI_URI), ("\n  ", "timeout"), (" ", "5.0"),
    ("\n  ", "buffer"), (" ", "0.1"), ("\n  ", "throttle"), (" ", "0.1"), ("\n  ", "heartbeat"),
    (" ", "10.0"), ("\n  ", "auth"), (" \x7b ", "token")].map fun p => (p.1.toList, p.2.toList)

def partsAfter : List (List Char × List Char) :=
  [(" \x7d\n  ", "data"), ("\n  \x7b\n    ", "provider"), (" ", "1"), ("\n    ", "map"), (" ", "1"),
    ("\n    ", "round"), (" ", "1"), ("\n    ", "player_id"), (" ", "1"), ("\n    ", "player_state"),
    (" ", "1"), ("\n    ", "player_match_stats"), (" ", "1")].map fun p => (p.1.toList, p.2.toList)

def partsOf (token : String) : List (List Char × List Char) :=
  partsBefore ++ (" ".toList, token.toList) :: partsAfter

theorem rendered_partsBefore :
    "\"openfrag v1\"\n\x7b\n  \"uri\" \"".toList ++ GSI_URI.toList ++
      "\"\n  \"timeout\" \"5.0\"\n  \"buffer\" \"0.1\"\n  \"throttle\" \"0.1\"\n".toList ++
      "  \"heartbeat\" \"10.0\"\n  \"auth\" \x7b \"token\" \"".toList =
    Quoted.rendered [] partsBefore ++ " \"".toList := by
  simp [partsBefore, Quoted.rendered, GSI_URI]

theorem rendered_partsAfter :
    "\" \x7d\n  \"data\"\n  \x7b\n    \"provider\" \"1\"\n    \"map\" \"1\"\n    \"round\" \"1\"\n".toList ++
      "    \"player_id\" \"1\"\n    \"player_state\" \"1\"\n    \"player_match_stats\" \"1\"\n  \x7d\n\x7d\n".toList =
    '"' :: Quoted.rendered "\n  \x7d\n\x7d\n".toList partsAfter := by
  simp [partsAfter, Quoted.rendered]

theorem gsiConfig_eq :
    (gsiConfig token).toList = Quoted.rendered "\n  \x7d\n\x7d\n".toList (partsOf token) := by
  unfold gsiConfig partsOf
  simp only [String.toList_append]
  rw [rendered_partsBefore, List.append_assoc, rendered_partsAfter, Quoted.rendered_append,
    Quoted.rendered_last, Quoted.rendered]
  simp only [List.append_assoc]
  rfl

theorem not_mem_of_valid {c : Char} (hc : isTokenChar c = false) (h : token.toList.all isTokenChar) :
    c ∉ token.toList := by
  intro hmem
  have htoken := List.all_eq_true.mp h c hmem
  rw [hc] at htoken
  cases htoken

theorem quoted_gsiConfig (h : '"' ∉ token.toList) :
    Quoted.quoted (gsiConfig token).toList = (partsOf token).map Prod.snd := by
  rw [gsiConfig_eq]
  apply Quoted.quoted_rendered (by decide)
  intro p hp
  simp only [partsOf, List.mem_append, List.mem_cons] at hp
  obtain hp | rfl | hp := hp
  case inl => exact (by decide : ∀ p ∈ partsBefore, '"' ∉ p.1 ∧ '"' ∉ p.2) p hp
  case inr.inl => exact ⟨(by decide : '"' ∉ " ".toList), h⟩
  case inr.inr => exact (by decide : ∀ p ∈ partsAfter, '"' ∉ p.1 ∧ '"' ∉ p.2) p hp

theorem unescape_of_not_mem {text : List Char} (h : '\\' ∉ text) : unescape text = text := by
  induction text
  case nil => rfl
  case cons c text ih =>
    rw [List.mem_cons, not_or] at h
    rw [unescape, ih h.2]
    intro _ hc
    exact absurd hc.symm h.1

theorem eqIgnoreAsciiCase_length {text wanted : List Char} (h : eqIgnoreAsciiCase text wanted) :
    text.length = wanted.length := by
  have hlength := congrArg List.length (of_decide_eq_true h)
  simpa using hlength

theorem length_of_valid (h : token.toList.all isTokenChar) :
    token.utf8ByteSize = token.toList.length := by
  rw [← String.ofList_toList (s := token)]
  generalize token.toList = cs at h
  rw [String.toList_ofList]
  induction cs
  case nil => rfl
  case cons c cs ih =>
    rw [List.all_cons, Bool.and_eq_true] at h
    have hsize : c.utf8Size = 1 := by
      have hrange := toNat_of_isTokenChar h.1
      have hval : c.toNat = c.val.toNat := rfl
      rw [Char.utf8Size_eq_one_iff, UInt32.le_iff_toNat_le]
      simp
      omega
    rw [String.ofList_cons, String.utf8ByteSize_append, String.utf8ByteSize_singleton, ih h.2, hsize,
      List.length_cons, Nat.add_comm]

theorem not_eqIgnoreAsciiCase {text wanted : List Char} (h : text.length ≠ wanted.length) :
    eqIgnoreAsciiCase text wanted = false :=
  Bool.eq_false_iff.mpr fun heq => h (eqIgnoreAsciiCase_length heq)

theorem vdfValues_of_quoted {input value : String} (front back : List (List Char))
    (hquoted : Quoted.quoted input.toList = front ++ wanted.toList :: value.toList :: back)
    (hfront : ∀ part ∈ front, eqIgnoreAsciiCase part wanted.toList = false)
    (hback : ∀ part ∈ value.toList :: back, eqIgnoreAsciiCase part wanted.toList = false)
    (hvalue : '\\' ∉ value.toList) : vdfValues input wanted = [value] := by
  have hkey : eqIgnoreAsciiCase wanted.toList wanted.toList := decide_eq_true rfl
  have hpairs :=
    Quoted.filter_neighbours (p := fun part => eqIgnoreAsciiCase part wanted.toList) hkey hfront hback
  unfold vdfValues
  simp only [hquoted, hpairs]
  simp [unescape_of_not_mem hvalue]

theorem vdfValues_gsiConfig (h : validToken token) :
    vdfValues (gsiConfig token) "uri" = [GSI_URI] ∧ vdfValues (gsiConfig token) "token" = [token] := by
  simp only [validToken, Bool.and_eq_true, decide_eq_true_eq] at h
  obtain ⟨⟨hlength, -⟩, hchars⟩ := h
  rw [length_of_valid hchars] at hlength
  have hquoted := quoted_gsiConfig (not_mem_of_valid (by decide : isTokenChar '"' = false) hchars)
  constructor
  case left =>
    have huri : token.toList.length ≠ "uri".toList.length := by
      simp
      omega
    apply vdfValues_of_quoted ["openfrag v1".toList]
      ((partsBefore.drop 3).map Prod.snd ++ token.toList :: partsAfter.map Prod.snd)
    case hquoted => simpa [partsOf, partsBefore] using hquoted
    case hfront => decide
    case hback =>
      rw [List.forall_mem_cons, List.forall_mem_append, List.forall_mem_cons]
      exact ⟨by decide, by decide, not_eqIgnoreAsciiCase huri, by decide⟩
    case hvalue => decide
  case right =>
    have htoken : token.toList.length ≠ "token".toList.length := by
      simp
      omega
    apply vdfValues_of_quoted ((partsBefore.map Prod.snd).dropLast) (partsAfter.map Prod.snd)
    case hquoted => simpa [partsOf, partsBefore] using hquoted
    case hfront => decide
    case hback =>
      rw [List.forall_mem_cons]
      exact ⟨not_eqIgnoreAsciiCase htoken, by decide⟩
    case hvalue => exact not_mem_of_valid (by decide) hchars

-- Only the token can bring a pattern into the configuration that its other parts are too poor in
-- noughts for.
theorem gsiInstalled_gsiConfig {files : Files} {cfg : FilePath}
    (h : files (cfg ++ [GSI_FILE]) = some (.text (gsiConfig token))) :
    gsiInstalled files cfg ↔ ¬"0.0.0.0".toList <:+: token.toList := by
  have huri : (" ".toList, GSI_URI.toList) ∈ partsOf token := by
    simp [partsOf, partsBefore]
  have htoken : (" ".toList, token.toList) ∈ partsOf token := by
    simp [partsOf]
  have hnoughts {text : List Char} (hcount : text.count '0' < 4) : ¬"0.0.0.0".toList <:+: text := by
    intro hnought
    have hle := hnought.sublist.count_le '0'
    have hpattern : "0.0.0.0".toList.count '0' = 4 := by decide
    omega
  have hpoor : ∀ p ∈ partsBefore ++ partsAfter, p.1.count '0' < 4 ∧ p.2.count '0' < 4 := by decide
  unfold gsiInstalled
  simp only [h, gsiConfig_eq, decide_eq_true_eq]
  constructor
  case mp =>
    intro hinstalled hnought
    exact hinstalled.2 (hnought.trans (Quoted.infix_of_mem htoken))
  case mpr =>
    intro hnought
    refine ⟨Quoted.infix_of_mem huri, fun hconfig => ?_⟩
    cases Quoted.infix_rendered (by decide) hconfig
    case inl hlast => exact hnoughts (by decide) hlast
    case inr hparts =>
      obtain ⟨p, hp, hpart⟩ := hparts
      have hcases : p = (" ".toList, token.toList) ∨ p ∈ partsBefore ++ partsAfter := by
        simp only [partsOf, List.mem_append, List.mem_cons] at hp ⊢
        exact or_left_comm.mp hp
      cases hcases
      case inl heq =>
        subst heq
        exact hpart.elim (hnoughts (by decide : " ".toList.count '0' < 4)) hnought
      case inr hp =>
        obtain ⟨hgap, hvalue⟩ := hpoor p hp
        exact hpart.elim (hnoughts hgap) (hnoughts hvalue)

end Config

section Markers

variable {bytes : Random}

set_option maxRecDepth 2000 in
theorem alphabet_chars : ∀ i < 64, isMarkerChar (BASE64_URL_ALPHABET[i]?.getD 'A') := by
  decide

theorem randomMarker_chars : ∀ c ∈ (randomMarker bytes).toList, isMarkerChar c := by
  intro c hc
  simp only [randomMarker, String.toList_ofList, List.mem_map] at hc
  obtain ⟨i, hi, rfl⟩ := hc
  exact alphabet_chars i (Base64.encode_lt _ i hi)

theorem validMarker_iff {marker : String} :
    validMarker marker ↔ marker.toList.length = 43 ∧ ∀ c ∈ marker.toList, isMarkerChar c := by
  unfold validMarker
  rw [Bool.and_eq_true, decide_eq_true_eq, List.all_eq_true]
  apply and_congr_left
  intro hchars
  rw [length_of_valid (List.all_eq_true.mpr fun c hc => isTokenChar_of_isMarkerChar (hchars c hc))]

theorem validMarker_randomMarker : validMarker (randomMarker bytes) := by
  rw [validMarker_iff]
  constructor
  case left => simp [randomMarker, Base64.length_encode, bytes.2]
  case right => exact randomMarker_chars

end Markers

end Installation
