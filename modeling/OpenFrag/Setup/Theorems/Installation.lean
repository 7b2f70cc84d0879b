import OpenFrag.Library.Machine
import OpenFrag.Setup.Theorems.GsiConfig

open EStateM Trim

namespace Installation

variable {W : Type} {ports : Ports W} {disk disk' : Disk W} {files files' : Files}
variable {cfg config data : FilePath} {token localSteamId : String}

section Credentials

-- The files of an installation with a given token, in the order in which they are written.
def gsiWrites (cfg data : FilePath) (token localSteamId : String) : List (FilePath × String) :=
  [(data ++ [TOKEN_FILE], token ++ "\n"), (data ++ [LOCAL_STEAM_ID_FILE], localSteamId ++ "\n"),
    (cfg ++ [GSI_FILE], gsiConfig token)]

theorem not_temporary_token : ¬Temporary ports (data ++ [TOKEN_FILE]) (data ++ [TOKEN_FILE]) :=
  not_temporary (by rw [lastChar_append]; decide)

theorem not_temporary_steamId :
    ¬Temporary ports (data ++ [LOCAL_STEAM_ID_FILE]) (data ++ [LOCAL_STEAM_ID_FILE]) :=
  not_temporary (by rw [lastChar_append]; decide)

theorem not_temporary_config : ¬Temporary ports (cfg ++ [GSI_FILE]) (cfg ++ [GSI_FILE]) :=
  not_temporary (by rw [lastChar_append]; decide)

theorem installGsi_interrupted (disk : Disk W) :
    Interrupted ports (gsiWrites cfg data token localSteamId) disk.files
      (installGsi ports cfg data token localSteamId disk).state.files := by
  unfold installGsi gsiWrites
  refine interrupted_bind ports refuse_keeps fun _ disk₁ _ _ => ?_
  refine interrupted_bind ports refuse_keeps fun _ disk₂ _ _ => ?_
  refine interrupted_bind ports requireRealDirectory_keeps fun _ disk₃ _ _ => ?_
  refine interrupted_bind ports requireRealDirectory_keeps fun _ disk₄ _ _ => ?_
  refine interrupted_bind ports requireSafeTarget_keeps fun _ disk₅ _ _ => ?_
  refine interrupted_bind ports requireSafeTarget_keeps fun _ disk₆ _ _ => ?_
  refine interrupted_bind ports requireSafeTarget_keeps fun _ disk₇ _ _ => ?_
  refine interrupted_cons ports not_temporary_token fun disk₈ _ => ?_
  refine interrupted_cons ports not_temporary_steamId fun disk₉ _ => ?_
  exact interrupted_cons ports not_temporary_config fun disk₁₀ _ => interrupted_refl ports

theorem installGsi_ok {installation : GsiInstallation}
    (h : installGsi ports cfg data token localSteamId disk = .ok installation disk') :
    validToken token ∧ validSteamId localSteamId ∧
      disk'.files = written (gsiWrites cfg data token localSteamId) disk.files := by
  obtain ⟨_, disk₁, h₁, h⟩ := bind_ok_iff.mp h
  obtain ⟨_, disk₂, h₂, h⟩ := bind_ok_iff.mp h
  obtain ⟨_, disk₃, h₃, h⟩ := bind_ok_iff.mp h
  obtain ⟨_, disk₄, h₄, h⟩ := bind_ok_iff.mp h
  obtain ⟨_, disk₅, h₅, h⟩ := bind_ok_iff.mp h
  obtain ⟨_, disk₆, h₆, h⟩ := bind_ok_iff.mp h
  obtain ⟨_, disk₇, h₇, h⟩ := bind_ok_iff.mp h
  obtain ⟨_, disk₈, h₈, h⟩ := bind_ok_iff.mp h
  obtain ⟨_, disk₉, h₉, h⟩ := bind_ok_iff.mp h
  obtain ⟨_, disk₁₀, h₁₀, h⟩ := bind_ok_iff.mp h
  cases h
  obtain ⟨htoken, rfl⟩ := refuse_ok h₁
  obtain ⟨hsteamId, rfl⟩ := refuse_ok h₂
  refine ⟨by simpa using htoken, by simpa using hsteamId, ?_⟩
  rw [atomicWritePrivate_ok ports not_temporary_config h₁₀,
    atomicWritePrivate_ok ports not_temporary_steamId h₉,
    atomicWritePrivate_ok ports not_temporary_token h₈, requireSafeTarget_keeps.ok h₇,
    requireSafeTarget_keeps.ok h₆, requireSafeTarget_keeps.ok h₅, requireRealDirectory_keeps.ok h₄,
    requireRealDirectory_keeps.ok h₃]
  rfl

theorem readPrivateLine_ok {path : FilePath} {value : String}
    (h : files path = some (.text (value ++ "\n"))) (hvalue : ∀ c ∈ value.toList, isTokenChar c)
    (hne : value ≠ "") : readPrivateLine files path = .ok value := by
  have hnot {c : Char} (hc : isTokenChar c = false) : c ∉ value.toList := by
    intro hmem
    rw [hvalue c hmem] at hc
    cases hc
  have hline := trim_tokenLine hvalue
  have hnil : value.toList ≠ [] := by simpa using hne
  unfold readPrivateLine
  simp only [h, hline]
  rw [if_neg]
  case hnc => simp [hnil, hnot (by decide : isTokenChar '\n' = false),
    hnot (by decide : isTokenChar '\r' = false)]
  rw [String.ofList_toList]

theorem readGsiCredentials_ok (htoken : files (data ++ [TOKEN_FILE]) = some (.text (token ++ "\n")))
    (hsteamId : files (data ++ [LOCAL_STEAM_ID_FILE]) = some (.text (localSteamId ++ "\n")))
    (hvalid : validToken token) (hvalid' : validSteamId localSteamId) :
    readGsiCredentials files data = .ok (some (token, localSteamId)) := by
  simp only [validToken, validSteamId, Bool.and_eq_true, decide_eq_true_eq, List.all_eq_true] at *
  have hempty {value : String} (h : value.utf8ByteSize ≠ 0) : value ≠ "" := by
    rintro rfl
    exact h rfl
  have hline := readPrivateLine_ok htoken hvalid.2 (hempty (by omega))
  have hline' := readPrivateLine_ok hsteamId
    (fun c hc => isTokenChar_of_isDigit (hvalid'.1.2 c hc)) (hempty (by omega))
  unfold readGsiCredentials
  simp only [htoken, hsteamId, Option.isSome_some, hline, hline']
  rfl

-- Whatever fails on the way, what is done is a first part of the writes. When all went well, the
-- daemon reads the token and the identity back, and the game is given the same token.
theorem installGsi_credentials (disk : Disk W) :
    let result := installGsi ports cfg data token localSteamId disk
    let files' := result.state.files
    Interrupted ports (gsiWrites cfg data token localSteamId) disk.files files' ∧
      ∀ installation, result.toExcept = .ok installation →
        files' = written (gsiWrites cfg data token localSteamId) disk.files ∧
        readGsiCredentials files' data = .ok (some (token, localSteamId)) ∧
        (∃ text, files' (cfg ++ [GSI_FILE]) = some (.text text) ∧
          vdfValues text "uri" = [GSI_URI] ∧ vdfValues text "token" = [token]) ∧
        (gsiInstalled files' cfg ↔ ¬"0.0.0.0".toList <:+: token.toList) := by
  constructor
  case left => exact installGsi_interrupted disk
  case right =>
    intro installation hok
    cases hrun : installGsi ports cfg data token localSteamId disk
    case error =>
      rw [hrun] at hok
      cases hok
    case ok _ disk' =>
      obtain ⟨hvalid, hvalid', hfiles⟩ := installGsi_ok hrun
      have htoken : disk'.files (data ++ [TOKEN_FILE]) = some (.text (token ++ "\n")) := by
        rw [hfiles]
        simp [written, gsiWrites, TOKEN_FILE, LOCAL_STEAM_ID_FILE, GSI_FILE]
      have hsteamId :
          disk'.files (data ++ [LOCAL_STEAM_ID_FILE]) = some (.text (localSteamId ++ "\n")) := by
        rw [hfiles]
        simp [written, gsiWrites, LOCAL_STEAM_ID_FILE, GSI_FILE]
      have hconfig : disk'.files (cfg ++ [GSI_FILE]) = some (.text (gsiConfig token)) := by
        rw [hfiles]
        simp [written, gsiWrites]
      exact ⟨hfiles, readGsiCredentials_ok htoken hsteamId hvalid hvalid',
        ⟨_, hconfig, vdfValues_gsiConfig hvalid⟩, gsiInstalled_gsiConfig hconfig⟩

end Credentials

section Marker

variable {marker : String}

def markerIn (value : String) : Option String :=
  Option.guard validMarker (.ofList (trim value.toList))

-- The marker that an installation finds in the directory.
def markerAt (files : Files) (config : FilePath) : Option String :=
  match files (config ++ [MARKER_FILE]) with
  | some (.text value) => markerIn value
  | _                  => none

-- The game is given the marker that is in the directory, wherever it is given one.
def Paired (config : FilePath) (files : Files) : Prop :=
  ∀ cfg text, files (cfg ++ [GSI_FILE]) = some (.text text) →
    ∃ marker, markerAt files config = some marker ∧ text = gsiConfig marker

-- Markers and configurations that are there stay, and no configuration with another marker comes.
structure Steady (config : FilePath) (files files' : Files) : Prop where
  paired : Paired config files → Paired config files'
  marker : ∀ marker, markerAt files config = some marker → markerAt files' config = some marker
  config : Paired config files → ∀ cfg text, files (cfg ++ [GSI_FILE]) = some (.text text) →
    files' (cfg ++ [GSI_FILE]) = some (.text text)

namespace Steady

theorem refl : Steady config files files where
  paired := id
  marker := fun _ => id
  config := fun _ _ _ => id

theorem trans {files'' : Files} (h : Steady config files files') (h' : Steady config files' files'') :
    Steady config files files'' where
  paired := h'.paired ∘ h.paired
  marker := fun marker hmarker => h'.marker marker (h.marker marker hmarker)
  config := fun hpaired cfg text htext =>
    h'.config (h.paired hpaired) cfg text (h.config hpaired cfg text htext)

-- Beside temporary files, only directories have come.
theorem of_directories (h : ∀ p, lastChar p ≠ some 'p' →
      files' p = files p ∨ files p = none ∧ files' p = some .directory) :
    Steady config files files' := by
  have hconfig (cfg : FilePath) := h (cfg ++ [GSI_FILE]) (by rw [lastChar_append]; decide)
  have hmarker : markerAt files' config = markerAt files config := by
    unfold markerAt
    cases h (config ++ [MARKER_FILE]) (by rw [lastChar_append]; decide)
    case inl h => rw [h]
    case inr h => rw [h.1, h.2]
  constructor
  case paired =>
    intro hpaired cfg text htext
    rw [hmarker]
    cases hconfig cfg
    case inl h => exact hpaired cfg text (h ▸ htext)
    case inr h =>
      rw [h.2] at htext
      cases htext
  case marker =>
    intro marker h
    rwa [hmarker]
  case config =>
    intro _ cfg text htext
    cases hconfig cfg
    case inl h => rwa [h]
    case inr h =>
      rw [h.1] at htext
      cases htext

-- The marker that was there, or a first one, has been given to the game in some places.
theorem of_marker (hmarker : ∀ marker', markerAt files config = some marker' → marker' = marker)
    (hfiles' : markerAt files' config = some marker)
    (hconfig : ∀ cfg, files' (cfg ++ [GSI_FILE]) = files (cfg ++ [GSI_FILE]) ∨
      files' (cfg ++ [GSI_FILE]) = some (.text (gsiConfig marker))) :
    Steady config files files' := by
  constructor
  case paired =>
    intro hpaired cfg text htext
    cases hconfig cfg
    case inl h =>
      obtain ⟨marker', hmarker', rfl⟩ := hpaired cfg text (h ▸ htext)
      exact ⟨marker, hfiles', by rw [hmarker marker' hmarker']⟩
    case inr h =>
      rw [h] at htext
      cases htext
      exact ⟨marker, hfiles', rfl⟩
  case marker =>
    intro marker' hmarker'
    rw [hmarker marker' hmarker', hfiles']
  case config =>
    intro hpaired cfg text htext
    cases hconfig cfg
    case inl h => rwa [h]
    case inr h =>
      obtain ⟨marker', hmarker', rfl⟩ := hpaired cfg text htext
      rw [h, hmarker marker' hmarker']

end Steady

theorem markerIn_line (h : validMarker marker) : markerIn (marker ++ "\n") = some marker := by
  have hchars := (validMarker_iff.mp h).2
  unfold markerIn
  rw [trim_tokenLine fun c hc => isTokenChar_of_isMarkerChar (hchars c hc), String.ofList_toList]
  exact Option.guard_eq_some_iff.mpr ⟨rfl, h⟩

-- The writes of an installation with a marker, as far as they are done.
theorem steady_of_interrupted
    (hmarker : ∀ marker', markerAt files config = some marker' → marker' = marker)
    (hvalid : validMarker marker)
    (h : Interrupted ports
      [(config ++ [MARKER_FILE], marker ++ "\n"), (cfg ++ [GSI_FILE], gsiConfig marker)] files files') :
    Steady config files files' := by
  obtain ⟨n, hn, hwritten⟩ := h
  have hfiles' (p) (hp : lastChar p ≠ some 'p') := hwritten p (by simp [not_temporary hp])
  have hmarkerFile := hfiles' (config ++ [MARKER_FILE]) (by rw [lastChar_append]; decide)
  have hconfigFile (cfg : FilePath) := hfiles' (cfg ++ [GSI_FILE]) (by rw [lastChar_append]; decide)
  cases n
  case zero => exact .of_directories fun p hp => .inl (hfiles' p hp)
  case succ n =>
    apply Steady.of_marker hmarker
    case hfiles' =>
      unfold markerAt
      rw [hmarkerFile]
      cases n
      all_goals simp [written, MARKER_FILE, GSI_FILE, markerIn_line hvalid]
    case hconfig =>
      intro cfg'
      rw [hconfigFile cfg']
      cases n
      case zero =>
        left
        simp [written, MARKER_FILE, GSI_FILE]
      case succ n =>
        cases eq_or_ne cfg' cfg
        case inl heq =>
          right
          simp [written, heq]
        case inr hne =>
          left
          simp [written, MARKER_FILE, GSI_FILE, hne]

theorem not_temporary_marker :
    ¬Temporary ports (config ++ [MARKER_FILE]) (config ++ [MARKER_FILE]) :=
  not_temporary (by rw [lastChar_append]; decide)

theorem requireSafeTarget_ok {path : FilePath} {name : String}
    (h : requireSafeTarget ports path name disk = .ok () disk') :
    disk.files path = none ∨ ∃ entry, disk.files path = some entry ∧ entry.isFile := by
  obtain ⟨_, disk₁, h₁, h⟩ := bind_ok_iff.mp h
  obtain ⟨entry, disk₂, h₂, h⟩ := bind_ok_iff.mp h
  obtain ⟨rfl, rfl⟩ := lookup_ok h₂
  rw [← attempt_ok h₁]
  cases hentry : disk₂.files path
  case none => exact .inl rfl
  case some entry =>
    rw [hentry] at h
    obtain ⟨hfile, -⟩ := refuse_ok h
    exact .inr ⟨entry, rfl, by simpa using hfile⟩

theorem currentMarker_keeps {path : FilePath} : Keeps Disk.files (currentMarker ports path) := by
  refine (observing_keeps readToString_keeps).bind fun outcome => ?_
  split
  case h_1 => exact .ite (fun _ => .pure) fun _ => .throw
  case h_2 => exact attempt_keeps.bind fun _ => reading_keeps
  case h_3 => exact .throw

theorem currentMarker_ok {path : FilePath}
    (hsafe : disk.files path = none ∨ ∃ entry, disk.files path = some entry ∧ entry.isFile)
    (h : currentMarker ports path disk = .ok marker disk') :
    (∃ value, disk.files path = some (.text value) ∧ markerIn value = some marker) ∨
      disk.files path = none ∧ validMarker marker := by
  obtain ⟨outcome, disk₁, h₁, h⟩ := bind_ok_iff.mp h
  cases h₁
  cases hread : readToString ports path disk
  case ok value disk₂ =>
    rw [hread] at h
    left
    refine ⟨value, readToString_ok hread, ?_⟩
    by_cases hvalid : validMarker (.ofList (trim value.toList))
    case pos =>
      have hpure := (congrFun (if_pos hvalid) _).symm.trans h
      obtain ⟨rfl, -⟩ := pure_ok_iff.mp hpure
      exact Option.guard_eq_some_iff.mpr ⟨rfl, hvalid⟩
    case neg =>
      have hthrow := (congrFun (if_neg hvalid) _).symm.trans h
      exact absurd hthrow throw_ne_ok
  case error e disk₂ =>
    rw [hread] at h
    right
    cases e
    case io error =>
      cases error
      case notFound =>
        obtain ⟨_, disk₃, h₃, h⟩ := bind_ok_iff.mp h
        cases h
        refine ⟨?_, validMarker_randomMarker⟩
        cases hsafe
        case inl hnone => exact hnone
        case inr hfile =>
          obtain ⟨entry, hentry, hfile⟩ := hfile
          rw [readToString_notFound hread entry hentry] at hfile
          cases hfile
      case other => exact absurd h throw_ne_ok
    all_goals exact absurd h throw_ne_ok

theorem found_of_currentMarker
    (h : (∃ value, files (config ++ [MARKER_FILE]) = some (.text value) ∧
        markerIn value = some marker) ∨
      files (config ++ [MARKER_FILE]) = none ∧ validMarker marker) :
    (∀ marker', markerAt files config = some marker' → marker' = marker) ∧ validMarker marker := by
  unfold markerAt
  cases h
  case inl h =>
    obtain ⟨value, hvalue, hmarker⟩ := h
    constructor
    case left => simp [hvalue, hmarker]
    case right =>
      obtain ⟨rfl, hvalid⟩ := Option.guard_eq_some_iff.mp hmarker
      exact hvalid
  case inr h =>
    constructor
    case left => simp [h.1]
    case right => exact h.2

abbrev SteadyDisk (config : FilePath) (disk disk' : Disk W) : Prop :=
  Steady config disk.files disk'.files

instance steady_refl : Std.Refl (SteadyDisk (W := W) config) where
  refl _ := .refl

instance steady_trans : IsTrans (Disk W) (SteadyDisk config) where
  trans _ _ _ := .trans

theorem steady_of_keeps {α : Type} {x : Op W α} (h : Keeps Disk.files x) :
    Within (SteadyDisk config) x :=
  h.mono fun _ _ hfiles => .of_directories fun _ _ => .inl (by rw [hfiles])

theorem makeDirectory_steady {path : FilePath} :
    Within (SteadyDisk config) (makeDirectory ports path) := by
  intro disk
  apply Within.bind_at (steady_of_keeps attempt_keeps disk)
  intro _ disk₁ _
  cases hentry : disk₁.files path
  case none =>
    have hlookup : lookup path disk₁ = .ok none disk₁ := by
      rw [← hentry]
      rfl
    rw [bind_ok hlookup]
    apply Steady.of_directories
    intro p _
    cases eq_or_ne p path
    case inl heq =>
      subst heq
      exact .inr ⟨hentry, Function.update_self _ _ _⟩
    case inr hne => exact .inl (Function.update_of_ne hne _ _)
  case some entry =>
    have hlookup : lookup path disk₁ = .ok (some entry) disk₁ := by
      rw [← hentry]
      rfl
    rw [bind_ok hlookup]
    cases entry
    all_goals exact .refl

-- The marker that is written is the one that was there, when there was one.
theorem writes_steady {markerPath : FilePath} (hpath : markerPath = config ++ [MARKER_FILE]) (name : String) :
    Within (SteadyDisk config) (do
      requireSafeTarget ports markerPath name
      let marker ← currentMarker ports markerPath
      atomicWritePrivate ports markerPath (marker ++ "\n")
      atomicWritePrivate ports (cfg ++ [GSI_FILE]) (gsiConfig marker)
      return ({ configPath := cfg ++ [GSI_FILE], markerPath } : ActionableGsiInstallation)) := by
  subst hpath
  intro disk
  apply Within.bind_at (steady_of_keeps requireSafeTarget_keeps disk)
  intro _ disk₁ h₁
  have hsafe := requireSafeTarget_ok h₁
  rw [← requireSafeTarget_keeps.ok h₁] at hsafe
  apply Within.bind_at (steady_of_keeps currentMarker_keeps disk₁)
  intro marker disk₂ h₂
  have hmarker := currentMarker_ok hsafe h₂
  rw [← currentMarker_keeps.ok h₂] at hmarker
  obtain ⟨hfound, hvalid⟩ := found_of_currentMarker hmarker
  apply steady_of_interrupted hfound hvalid
  refine interrupted_cons ports not_temporary_marker fun disk₃ _ => ?_
  exact interrupted_cons ports not_temporary_config fun disk₄ _ => interrupted_refl ports

theorem installActionableGsi_steady :
    Within (SteadyDisk config) (installActionableGsi ports cfg config) := by
  refine (steady_of_keeps validateCs2CfgDirectory_keeps).bind fun _ => ?_
  refine (Within.forM (fun _ => makeDirectory_steady) _).bind fun _ => ?_
  refine (steady_of_keeps requireRealDirectory_keeps).bind fun _ => ?_
  refine (steady_of_keeps hasSymlinkComponent_keeps).bind fun _ => ?_
  refine (steady_of_keeps refuse_keeps).bind fun _ => ?_
  refine (steady_of_keeps attempt_keeps).bind fun _ => ?_
  refine (steady_of_keeps requireSafeTarget_keeps).bind fun _ => ?_
  exact writes_steady rfl _

theorem installActionableGsi_ok {installation : ActionableGsiInstallation}
    (h : installActionableGsi ports cfg config disk = .ok installation disk') :
    ∃ marker, markerAt disk'.files config = some marker ∧
      disk'.files (cfg ++ [GSI_FILE]) = some (.text (gsiConfig marker)) := by
  obtain ⟨_, disk₁, -, h⟩ := bind_ok_iff.mp h
  obtain ⟨_, disk₂, -, h⟩ := bind_ok_iff.mp h
  obtain ⟨_, disk₃, -, h⟩ := bind_ok_iff.mp h
  obtain ⟨_, disk₄, -, h⟩ := bind_ok_iff.mp h
  obtain ⟨_, disk₅, -, h⟩ := bind_ok_iff.mp h
  obtain ⟨_, disk₆, -, h⟩ := bind_ok_iff.mp h
  obtain ⟨_, disk₇, -, h⟩ := bind_ok_iff.mp h
  obtain ⟨_, disk₈, h₈, h⟩ := bind_ok_iff.mp h
  obtain ⟨marker, disk₉, h₉, h⟩ := bind_ok_iff.mp h
  obtain ⟨_, disk₁₀, h₁₀, h⟩ := bind_ok_iff.mp h
  obtain ⟨_, disk₁₁, h₁₁, h⟩ := bind_ok_iff.mp h
  cases h
  have hmarker := currentMarker_ok (requireSafeTarget_keeps.ok h₈ ▸ requireSafeTarget_ok h₈) h₉
  obtain ⟨-, hvalid⟩ := found_of_currentMarker hmarker
  have hconfig := atomicWritePrivate_ok ports not_temporary_config h₁₁
  refine ⟨marker, ?_, by rw [hconfig, Function.update_self]⟩
  unfold markerAt
  rw [hconfig, atomicWritePrivate_ok ports not_temporary_marker h₁₀]
  simp [MARKER_FILE, GSI_FILE, markerIn_line hvalid]

-- The installations of one configuration directory.
def install (ports : Ports W) (config cfg : FilePath) (disk : Disk W) :
    Except InstallError ActionableGsiInstallation × Disk W :=
  let result := installActionableGsi ports cfg config disk
  (result.toExcept, result.state)

theorem install_steady (ports : Ports W) (disk : Disk W) (cfg : FilePath) :
    Steady config disk.files (Machine.step (install ports config) disk cfg).after.files :=
  installActionableGsi_steady disk

theorem installs_steady (disk : Disk W) (calls : List FilePath) :
    Steady config disk.files (Machine.final (install ports config) disk calls).files := by
  induction calls generalizing disk
  case nil => exact .refl
  case cons cfg calls ih => exact (install_steady ports disk cfg).trans (ih _)

theorem validMarker_of_markerAt (h : markerAt files config = some marker) : validMarker marker := by
  unfold markerAt at h
  split at h
  case h_1 =>
    obtain ⟨rfl, hvalid⟩ := Option.guard_eq_some_iff.mp h
    exact hvalid
  case h_2 => cases h

theorem not_nought_of_valid {pattern : List Char} (hdot : '.' ∈ pattern) (h : validMarker marker) :
    ¬pattern <:+: marker.toList := by
  intro hpart
  have hchar := (validMarker_iff.mp h).2 '.' (hpart.subset hdot)
  cases hchar

-- A place where an installation succeeded is still served after the others.
theorem installs_serve {calls : List FilePath} (h : Paired config disk.files) :
    ∀ step ∈ Machine.trace (install ports config) disk calls, ∀ installation,
      step.reply = .ok installation →
        let disk' := Machine.final (install ports config) disk calls
        ∃ marker, markerAt disk'.files config = some marker ∧
          disk'.files (step.call ++ [GSI_FILE]) = some (.text (gsiConfig marker)) := by
  induction calls generalizing disk
  case nil => simp [Machine.trace]
  case cons cfg calls ih =>
    have hpaired := (install_steady ports disk cfg).paired h
    intro step hstep installation hok
    cases List.mem_cons.mp hstep
    case inl heq =>
      subst heq
      cases hrun : installActionableGsi ports cfg config disk
      case error =>
        simp only [Machine.step, install, hrun, Result.toExcept] at hok
        cases hok
      case ok _ disk' =>
        obtain ⟨marker, hmarker, hconfig⟩ := installActionableGsi_ok hrun
        have hafter : (Machine.step (install ports config) disk cfg).after = disk' := by
          simp only [Machine.step, install, hrun, Result.state_ok]
        have hsteady : Steady config disk'.files
            (Machine.final (install ports config) disk' calls).files :=
          installs_steady disk' calls
        rw [hafter] at hpaired
        refine ⟨marker, ?_, ?_⟩
        · rw [Machine.final, hafter]
          exact hsteady.marker marker hmarker
        · rw [Machine.final, hafter]
          exact hsteady.config hpaired cfg _ hconfig
    case inr hstep => exact ih hpaired step hstep installation hok

-- Over all installations, whatever fails in them, the marker never changes once it is there, the
-- game is given no other, and every place where an installation succeeded is still served.
theorem installs_paired {calls : List FilePath} (h : Paired config disk.files) :
    let disk' := Machine.final (install ports config) disk calls
    Paired config disk'.files ∧
      (∀ marker, markerAt disk.files config = some marker →
        markerAt disk'.files config = some marker) ∧
      ∀ step ∈ Machine.trace (install ports config) disk calls, ∀ installation,
        step.reply = .ok installation → gsiInstalled disk'.files step.call ∧
          ∃ marker, markerAt disk'.files config = some marker ∧
            disk'.files (step.call ++ [GSI_FILE]) = some (.text (gsiConfig marker)) := by
  have hsteady : Steady config disk.files (Machine.final (install ports config) disk calls).files :=
    installs_steady disk calls
  refine ⟨hsteady.paired h, hsteady.marker, fun step hstep installation hok => ?_⟩
  obtain ⟨marker, hmarker, hconfig⟩ := installs_serve h step hstep installation hok
  have hvalid := validMarker_of_markerAt hmarker
  exact ⟨(gsiInstalled_gsiConfig hconfig).mpr (not_nought_of_valid (by decide) hvalid), marker,
    hmarker, hconfig⟩

-- A game and a home without any of the files.
def freshFiles : Files := fun path =>
  if path = ["game", "csgo", "gameinfo.gi"] then some (.text "")
  else if path <+: ["game", "csgo", "cfg"] ∨ path <+: ["home"] then some .directory
  else none

def calmPorts : Ports Nat where
  fault _ world  := (none, world)
  written _      := 0
  random world   := (⟨List.replicate 32 0, List.length_replicate⟩, world)
  processId      := 7
  sequence world := (world, world + 1)

theorem freshFiles_paired : Paired ["home", "config"] freshFiles := by
  intro cfg text htext
  have hne : cfg ++ [GSI_FILE] ≠ ["game", "csgo", "gameinfo.gi"] := by
    intro heq
    have hlast := congrArg List.getLast? heq
    rw [List.getLast?_concat] at hlast
    revert hlast
    decide
  unfold freshFiles at htext
  rw [if_neg hne] at htext
  split at htext
  all_goals cases htext

theorem installs_paired_fresh :
    let trace := Machine.trace (install calmPorts ["home", "config"]) ⟨freshFiles, 0⟩
      [["game", "csgo", "cfg"], ["game", "csgo"], ["game", "csgo", "cfg"]]
    trace.map (fun step => step.reply.isOk) = [true, false, true] ∧
      Paired ["home", "config"] (Machine.final (install calmPorts ["home", "config"])
        ⟨freshFiles, 0⟩ [["game", "csgo", "cfg"], ["game", "csgo"], ["game", "csgo", "cfg"]]).files :=
  ⟨by decide, (installs_paired freshFiles_paired).1⟩

end Marker

end Installation
