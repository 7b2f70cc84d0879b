import OpenFrag.Setup.Theorems.Writes
import OpenFrag.Shortcuts.TokenStore

open EStateM Machine Trim

namespace Shortcuts

open Installation (Disk FilePath FileStep Op Entry apart keeps_apart apart_apply attempt_keeps
  attempt_ok createNew_keeps writeAll_keeps removeFile_keeps lookup_keeps setFile_keeps prepared
  moved rename_ok)

namespace FileRestoreTokenStore

variable {W : Type} {ports : Installation.Ports W} {store : FileRestoreTokenStore}
variable {disk disk' : Disk W} {token : RestoreToken} {temporary component : FilePath}

theorem tokenIn_line : store.tokenIn (token ++ "\n") = store.tokenIn token := by
  have htext : (token ++ "\n").toList = token.toList ++ ['\n'] := String.toList_append
  unfold tokenIn
  rw [htext, trim_line]

-- What is loaded of a token is the token itself when nothing is trimmed and nothing is refused.
theorem tokenIn_eq_ok_iff : store.tokenIn token = .ok token ↔ IsKept token := by
  unfold tokenIn IsKept
  constructor
  case mp =>
    intro h
    dsimp only at h
    split at h
    case isTrue => cases h
    case isFalse hvalid =>
      have htoken : String.ofList (trim token.toList) = token := by simpa using h
      have htrim : trim token.toList = token.toList := by
        rw [← String.toList_ofList (l := trim token.toList), htoken]
      rw [htrim] at hvalid
      simp only [not_or] at hvalid
      exact ⟨by simpa using hvalid.1, htrim, hvalid.2⟩
  case mpr =>
    intro h
    obtain ⟨hempty, htrim, hline, hreturn⟩ := h
    have hvalid : ¬(token.toList = [] ∨ '\n' ∈ token.toList ∨ '\r' ∈ token.toList) := by
      simp [hempty, hline, hreturn]
    rw [htrim, if_neg hvalid, String.ofList_toList]

section Save

abbrev entryAt (path : FilePath) (disk : Disk W) : Option Entry :=
  disk.files path

theorem keeps_file {α : Type} {x : Op W α} {path : FilePath} (hne : path ≠ temporary)
    (h : Keeps (apart temporary) x) : Keeps (entryAt path) x := by
  intro disk
  have hdisk := congrFun (h disk) path
  rwa [apart_apply hne, apart_apply hne] at hdisk

theorem makeDirectory_keeps :
    Keeps (apart component) (Installation.makeDirectory ports component) := by
  refine (keeps_apart attempt_keeps).bind fun _ => (keeps_apart lookup_keeps).bind fun entry => ?_
  split
  case h_1 => exact setFile_keeps
  case h_2 => exact .pure
  case h_3 => exact .pure
  all_goals exact .throw

-- The parents of a file are not the file.
theorem createDirAll_keeps (h : store.path ≠ []) :
    Keeps (entryAt store.path) (Installation.createDirAll ports store.path.dropLast) := by
  apply Within.forM_mem
  intro component hmem
  apply keeps_file _ makeDirectory_keeps
  rintro heq
  have hlength := ((List.mem_inits _ _).mp hmem).length_le
  rw [← heq, List.length_dropLast] at hlength
  have hpos := List.length_pos_of_ne_nil h
  omega

theorem rename_error {path : FilePath} {e : Installation.InstallError}
    (h : Installation.rename ports temporary path disk = .error e disk') :
    disk'.files = disk.files := by
  unfold Installation.rename at h
  cases h₁ : Installation.attempt ports .rename disk
  case error e₁ disk₁ =>
    rw [bind_error h₁] at h
    cases h
    exact attempt_keeps.error h₁
  case ok u disk₁ =>
    rw [bind_ok h₁, bind_get] at h
    cases hfiles : Installation.renamed disk₁.files temporary path
    case error =>
      rw [hfiles] at h
      cases h
      exact attempt_ok h₁
    case ok =>
      rw [hfiles] at h
      cases h

-- The file after a save: the token of one that succeeds, and what was there of one that fails.
def Saves (path : FilePath) (token : RestoreToken) (disk : Disk W) {ε : Type} :
    Result ε (Disk W) Unit → Prop
  | .ok _ disk'    => disk'.files path = some (.text (token ++ "\n"))
  | .error _ disk' => disk'.files path = disk.files path

theorem write_saves (hne : store.path ≠ temporary) (disk : Disk W) :
    Saves store.path token disk (store.write ports token temporary disk) := by
  have hcreate : Keeps (entryAt store.path) (Installation.createNew ports temporary) :=
    keeps_file hne createNew_keeps
  have hwrite : Keeps (entryAt store.path)
      (Installation.writeAll ports temporary (token ++ "\n")) := keeps_file hne writeAll_keeps
  unfold write
  cases h₁ : Installation.createNew ports temporary disk
  case error =>
    rw [bind_error h₁]
    exact hcreate.error h₁
  case ok u disk₁ =>
    rw [bind_ok h₁]
    cases h₂ : Installation.writeAll ports temporary (token ++ "\n") disk₁
    case error =>
      rw [bind_error h₂]
      exact (hwrite.error h₂).trans (hcreate.ok h₁)
    case ok u disk₂ =>
      rw [bind_ok h₂]
      have hkept : disk₂.files store.path = disk.files store.path :=
        (hwrite.ok h₂).trans (hcreate.ok h₁)
      cases h₃ : Installation.attempt ports .sync disk₂
      case error =>
        rw [bind_error h₃]
        exact (congrFun (attempt_keeps.error h₃) _).trans hkept
      case ok u disk₃ =>
        rw [bind_ok h₃]
        have hsynced := (congrFun (attempt_ok h₃) store.path).trans hkept
        cases h₄ : Installation.rename ports temporary store.path disk₃
        case error => exact (congrFun (rename_error h₄) _).trans hsynced
        case ok u disk₄ =>
          obtain ⟨-, hfiles⟩ := prepared ports h₁ h₂ h₃
          have hmoved := rename_ok h₄
          rw [hfiles] at hmoved
          have hnew := congrFun (moved hmoved) store.path
          rwa [Function.update_self] at hnew

theorem replace_saves (hpath : ∀ now, store.path ≠ store.temporaryPath ports now)
    (disk : Disk W) : Saves store.path token disk (store.replace ports token disk) := by
  let disk₁ : Disk W := { disk with world := (ports.sequence disk.world).2 }
  let temporary := store.temporaryPath ports (ports.sequence disk.world).1
  have hsaves : Saves store.path token disk₁ (store.write ports token temporary disk₁) :=
    write_saves (hpath _) disk₁
  have hreplace : store.replace ports token disk =
      Installation.orRemove ports temporary (store.write ports token temporary) disk₁ := rfl
  rw [hreplace]
  unfold Installation.orRemove
  cases hwrite : store.write ports token temporary disk₁
  case ok u disk₂ =>
    rw [hwrite] at hsaves
    exact hsaves
  case error e disk₂ =>
    rw [hwrite] at hsaves
    exact (keeps_file (hpath _) removeFile_keeps disk₂).trans hsaves

theorem Saves.adaptExcept {ε τ : Type} {f : ε → τ} {x : EStateM ε (Disk W) Unit}
    {path : FilePath} (h : Saves path token disk (x disk)) :
    Saves path token disk (EStateM.adaptExcept f x disk) := by
  cases hx : x disk
  case ok u disk' =>
    rw [hx] at h
    rw [adaptExcept_ok hx]
    exact h
  case error e disk' =>
    rw [hx] at h
    rw [adaptExcept_error hx]
    exact h

theorem save_saves (hpath : ∀ now, store.path ≠ store.temporaryPath ports now)
    (disk : Disk W) : Saves store.path token disk (store.save ports token disk) := by
  unfold save
  split
  case isTrue => rfl
  case isFalse hroot =>
    cases hparent : Installation.createDirAll ports store.path.dropLast disk
    case error e disk₁ =>
      rw [bind_error (adaptExcept_error hparent)]
      exact (createDirAll_keeps hroot).error hparent
    case ok u disk₁ =>
      rw [bind_ok (adaptExcept_ok hparent)]
      have hkept : disk₁.files store.path = disk.files store.path :=
        (createDirAll_keeps hroot).ok hparent
      have hsaves : Saves store.path token disk₁
          (EStateM.adaptExcept (persistenceError store.path) (store.replace ports token) disk₁) :=
        (replace_saves hpath disk₁).adaptExcept
      cases hresult : EStateM.adaptExcept (persistenceError store.path)
        (store.replace ports token) disk₁
      case ok => rwa [hresult] at hsaves
      case error =>
        rw [hresult] at hsaves
        exact hsaves.trans hkept

end Save

section Load

theorem attempt_none {step : FileStep} (h : (ports.fault step disk.world).1 = none) :
    ∃ disk', Installation.attempt ports step disk = .ok () disk' := by
  unfold Installation.attempt
  cases hfault : ports.fault step disk.world
  case mk fault world =>
    rw [hfault] at h
    cases h
    exact ⟨_, rfl⟩

theorem attempt_some {step : FileStep} {text : String}
    (h : (ports.fault step disk.world).1 = some text) :
    ∃ disk', Installation.attempt ports step disk = .error (.io (.other text)) disk' := by
  unfold Installation.attempt
  cases hfault : ports.fault step disk.world
  case mk fault world =>
    rw [hfault] at h
    cases h
    exact ⟨_, rfl⟩

theorem load_keeps (disk : Disk W) : (store.load ports disk).state.files = disk.files := by
  have hread : (Installation.readToString ports store.path disk).state.files = disk.files :=
    Installation.readToString_keeps disk
  unfold load
  split
  case h_1 heq => rwa [heq] at hread
  case h_2 heq => rwa [heq] at hread
  case h_3 heq =>
    rw [heq] at hread
    split <;> exact hread

end Load

end FileRestoreTokenStore

open FileRestoreTokenStore

section Runs

variable {W : Type} {ports : Installation.Ports W} {store : FileRestoreTokenStore}
variable {disk : Disk W} {steps : List (TokenStep W)} {calls : List (TokenCall W)}

-- The file has the token of the last save that succeeded.
def Stored (store : FileRestoreTokenStore) (steps : List (TokenStep W)) (disk : Disk W) : Prop :=
  disk.files store.path = (lastSaved steps).map fun token => .text (token ++ "\n")

theorem lastSaved_append (step : TokenStep W) :
    lastSaved (steps ++ [step]) = step.saved?.or (lastSaved steps) := by
  unfold lastSaved
  rw [List.filterMap_append, List.filterMap_cons, List.filterMap_nil]
  cases step.saved? <;> simp

theorem serve_stored (hpath : ∀ now, store.path ≠ store.temporaryPath ports now)
    (h : Stored store steps disk) {call : TokenCall W} (hfair : call.Fair store disk) :
    Stored store (steps ++ [Machine.step (TokenCall.serve ports store) disk call])
      (call.serve ports store disk).2 := by
  unfold Stored
  rw [lastSaved_append]
  cases call
  case load =>
    have hkept : ((TokenCall.load).serve ports store disk).2.files = disk.files := by
      have hload : (store.load ports disk).state.files = disk.files := load_keeps disk
      rw [← hload]
      simp only [TokenCall.serve]
      cases store.load ports disk <;> rfl
    rw [hkept]
    exact h
  case save token =>
    have hsaves : Saves store.path token disk (store.save ports token disk) :=
      save_saves hpath disk
    cases hresult : store.save ports token disk
    case ok u disk' =>
      have hserve : (TokenCall.save token).serve ports store disk = (.ok none, disk') := by
        simp only [TokenCall.serve, hresult]
      unfold Machine.step
      rw [hresult] at hsaves
      rw [hserve]
      exact hsaves
    case error e disk' =>
      have hserve : (TokenCall.save token).serve ports store disk = (.error e, disk') := by
        simp only [TokenCall.serve, hresult]
      unfold Machine.step
      rw [hresult] at hsaves
      rw [hserve]
      exact hsaves.trans h
  case other change => exact (hfair change rfl).trans h

theorem loaded_some {token : RestoreToken} :
    store.loaded (some token) = (store.tokenIn token).map some := rfl

theorem load_unreadable {text : String} (h : (ports.fault .read disk.world).1 = some text) :
    (TokenCall.load.serve ports store disk).1 =
      .error (persistenceError store.path (.io (.other text))) := by
  obtain ⟨disk', hattempt⟩ := attempt_some h
  have hread : Installation.readToString ports store.path disk =
      .error (.io (.other text)) disk' := by
    unfold Installation.readToString
    rw [bind_error hattempt]
  simp only [TokenCall.serve, load, hread]

theorem load_stored (h : Stored store steps disk)
    (hfault : (ports.fault .read disk.world).1 = none) :
    (TokenCall.load.serve ports store disk).1 = store.loaded (lastSaved steps) := by
  obtain ⟨disk', hattempt⟩ := attempt_none hfault
  have hfile : Installation.lookup store.path disk' = .ok (disk'.files store.path) disk' := rfl
  rw [attempt_ok hattempt, h] at hfile
  cases hsaved : lastSaved steps
  case none =>
    rw [hsaved] at hfile
    have hread : Installation.readToString ports store.path disk =
        .error (.io .notFound) disk' := by
      unfold Installation.readToString
      rw [bind_ok hattempt, bind_ok hfile]
      rfl
    simp only [TokenCall.serve, load, hread]
    rfl
  case some token =>
    rw [hsaved] at hfile
    have hread : Installation.readToString ports store.path disk =
        .ok (token ++ "\n") disk' := by
      unfold Installation.readToString
      rw [bind_ok hattempt, bind_ok hfile]
      rfl
    simp only [TokenCall.serve, load, hread, tokenIn_line]
    rw [loaded_some]
    cases store.tokenIn token <;> rfl

theorem loaded_eq_iff {token : RestoreToken} :
    store.loaded (some token) = .ok (some token) ↔ IsKept token := by
  have hkept : store.tokenIn token = .ok token ↔ IsKept token := tokenIn_eq_ok_iff
  rw [← hkept, loaded_some]
  cases store.tokenIn token <;> simp [Except.map]

-- In every run a load gives what is left of the token of the last save that succeeded: a save that
-- fails changes nothing, and the token is given as it was when there is no white space around it and
-- no line break in it.
theorem load_of_run (hpath : ∀ now, store.path ≠ store.temporaryPath ports now)
    (hnew : disk.files store.path = none)
    (hfair : Each (TokenCall.serve ports store) (fun _ disk call => call.Fair store disk) [] disk
      calls) :
    let last := final (TokenCall.serve ports store) disk calls
    let saved := lastSaved (trace (TokenCall.serve ports store) disk calls)
    let reply := (TokenCall.load.serve ports store last).1
    (∀ text, (ports.fault .read last.world).1 = some text →
      reply = .error (persistenceError store.path (.io (.other text)))) ∧
    ((ports.fault .read last.world).1 = none → reply = store.loaded saved ∧
      ∀ token ∈ saved, reply = .ok (some token) ↔ IsKept token) := by
  have hstart : Stored store [] disk := hnew
  have hstored := Each.invariant (I := Stored store)
    (fun _ _ _ h hcall => serve_stored hpath h hcall) hstart hfair
  refine ⟨fun text => load_unreadable, fun hfault => ?_⟩
  have hreply := load_stored hstored hfault
  refine ⟨hreply, fun token htoken => ?_⟩
  rw [hreply]
  rw [List.nil_append, htoken]
  exact loaded_eq_iff

-- The step that fails is told by the world.
def failingPorts : Installation.Ports (Option FileStep) where
  fault step failing :=
    (if failing = some step then some "No space left on device (os error 28)" else none, failing)
  written _          := 3
  random failing     := (⟨List.replicate 32 0, rfl⟩, failing)
  processId          := 7
  sequence failing   := (0, failing)

def tokenDemo : FileRestoreTokenStore where
  path := ["data", "manual-flag-restore-token"]

-- The second save fails in the middle of its file.
def tokenDemoCalls : List (TokenCall (Option FileStep)) :=
  [.save "first", .other fun disk => { disk with world := some .write }, .save "second",
    .other fun disk => { disk with world := none }]

theorem load_of_run_failed :
    (TokenCall.load.serve failingPorts tokenDemo (final (TokenCall.serve failingPorts tokenDemo)
      ⟨fun _ => none, none⟩ tokenDemoCalls)).1 = .ok (some "first") := by
  have hpath : ∀ now, tokenDemo.path ≠ tokenDemo.temporaryPath failingPorts now := by
    intro now heq
    have hpoint := congrArg (fun path => path.getLast?.map fun name => '.' ∈ name.toList) heq
    simp [tokenDemo, temporaryPath, Installation.withExtension] at hpoint
  have hfair : Each (TokenCall.serve failingPorts tokenDemo)
      (fun _ disk call => call.Fair tokenDemo disk) [] ⟨fun _ => none, none⟩ tokenDemoCalls := by
    refine ⟨?_, ?_, ?_, ?_, trivial⟩
    all_goals rintro _ ⟨⟩
    all_goals rfl
  have hsaved : lastSaved (trace (TokenCall.serve failingPorts tokenDemo) ⟨fun _ => none, none⟩
      tokenDemoCalls) = some "first" := by
    decide +kernel
  have hkept : IsKept "first" := by
    unfold IsKept
    decide
  have hrun := load_of_run hpath rfl hfair
  exact ((hrun.2 rfl).2 "first" hsaved).mpr hkept

end Runs

end Shortcuts
