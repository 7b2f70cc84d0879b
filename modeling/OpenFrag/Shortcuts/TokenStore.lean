import OpenFrag.Library.Machine
import OpenFrag.Setup.Installation
import OpenFrag.Shortcuts.Service

open Trim

-- The file in which the restore token of the portal is kept.
namespace Shortcuts

open Installation (Disk FilePath InstallError Op)

-- The operations on files report no other errors.
def errorText : InstallError → String
  | .io .notFound     => "No such file or directory (os error 2)"
  | .io (.other text) => text
  | _                 => ""

def persistenceError (path : FilePath) (error : InstallError) : ShortcutDiagnostic :=
  .persistence (Installation.display path ++ ": " ++ errorText error)

structure FileRestoreTokenStore where
  path : FilePath
  deriving DecidableEq, Repr

namespace FileRestoreTokenStore

variable {W : Type} (ports : Installation.Ports W) (store : FileRestoreTokenStore)

def tokenIn (value : String) : Except ShortcutDiagnostic RestoreToken :=
  let value := trim value.toList
  if value = [] ∨ '\n' ∈ value ∨ '\r' ∈ value then
    .error (.persistence (Installation.display store.path ++ " contains an invalid token"))
  else
    .ok (.ofList value)

def load : EStateM ShortcutDiagnostic (Disk W) (Option RestoreToken) := fun disk =>
  match Installation.readToString ports store.path disk with
  | .error (.io .notFound) disk => .ok none disk
  | .error error disk           => .error (persistenceError store.path error) disk
  | .ok value disk              =>
    match store.tokenIn value with
    | .ok token    => .ok (some token) disk
    | .error error => .error error disk

-- The name of a temporary file has the process and the time.
def temporaryPath (now : Nat) : FilePath :=
  Installation.withExtension store.path
    ("tmp-" ++ toString ports.processId ++ "-" ++ toString now)

def write (token : RestoreToken) (temporary : FilePath) : Op W Unit := do
  Installation.createNew ports temporary
  Installation.writeAll ports temporary (token ++ "\n")
  Installation.attempt ports .sync
  Installation.rename ports temporary store.path

def replace (token : RestoreToken) : Op W Unit := do
  let now ← Installation.reading ports.sequence
  let temporary := store.temporaryPath ports now
  Installation.orRemove ports temporary (store.write ports token temporary)

def save (token : RestoreToken) : EStateM ShortcutDiagnostic (Disk W) Unit := do
  if store.path = [] then
    throw (.persistence (Installation.display store.path ++ " has no parent directory"))
  else
    let parent := store.path.dropLast
    EStateM.adaptExcept (persistenceError parent) (Installation.createDirAll ports parent)
    EStateM.adaptExcept (persistenceError store.path) (store.replace ports token)

end FileRestoreTokenStore

-- The last call stands for what others do to the disk.
inductive TokenCall (W : Type)
  | load
  | save (token : RestoreToken)
  | other (change : Disk W → Disk W)

abbrev TokenReply := Except ShortcutDiagnostic (Option RestoreToken)

abbrev TokenStep (W : Type) := Machine.Step (TokenCall W) TokenReply (Disk W)

section

variable {W : Type} (ports : Installation.Ports W) (store : FileRestoreTokenStore)

def TokenCall.serve : TokenCall W → Disk W → TokenReply × Disk W
  | .load, disk         =>
    match store.load ports disk with
    | .ok token? disk   => (.ok token?, disk)
    | .error error disk => (.error error, disk)
  | .save token, disk   =>
    match store.save ports token disk with
    | .ok _ disk        => (.ok none, disk)
    | .error error disk => (.error error, disk)
  | .other change, disk => (.ok none, change disk)

-- The others leave the file of the token.
def TokenCall.Fair (disk : Disk W) (call : TokenCall W) : Prop :=
  ∀ change, call = .other change → (change disk).files store.path = disk.files store.path

def TokenStep.saved? (step : TokenStep W) : Option RestoreToken :=
  match step.call, step.reply with
  | .save token, .ok _ => some token
  | _, _               => none

-- The token of the last save that succeeded.
def lastSaved (steps : List (TokenStep W)) : Option RestoreToken :=
  (steps.filterMap TokenStep.saved?).getLast?

-- What is loaded when the file can be read.
def FileRestoreTokenStore.loaded : Option RestoreToken → TokenReply
  | none       => .ok none
  | some token => (store.tokenIn token).map some

-- A token that is loaded as it was saved.
def IsKept (token : RestoreToken) : Prop :=
  token ≠ "" ∧ trim token.toList = token.toList ∧ '\n' ∉ token.toList ∧ '\r' ∉ token.toList

end

end Shortcuts
