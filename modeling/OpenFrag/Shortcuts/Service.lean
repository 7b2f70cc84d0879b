import Mathlib.Logic.Basic

-- The service of the Manual Flag shortcut, over the portal, the sink and the token store.
namespace Shortcuts

abbrev RestoreToken := String
abbrev SessionHandle := String

def MANUAL_FLAG_ID : String := "openfrag.manual-flag"

def MANUAL_FLAG_DESCRIPTION : String := "Save the preceding play"

structure ShortcutRequest where
  id               : String
  description      : String
  preferredTrigger : Option String
  deriving DecidableEq, Repr

structure OpenedSession where
  session      : SessionHandle
  restoreToken : RestoreToken
  deriving DecidableEq, Repr

inductive PortalSignal
  | activated (id : String)
  | deactivated (id : String)
  | sessionLost
  | portalLost
  deriving DecidableEq, Repr

inductive PollOutcome
  | flagged
  | released
  | ignored
  | reconnected
  deriving DecidableEq, Repr

inductive ShortcutDiagnostic
  | unavailable
  | conflict
  | permissionDenied
  | sessionLost
  | persistence (message : String)
  | sink (message : String)
  | portal (message : String)
  deriving DecidableEq, Repr

-- What the portal, the sink and the store answer during one call of the service, which asks each
-- question at most once.
structure Ports where
  opens      : Option RestoreToken → List ShortcutRequest → Except ShortcutDiagnostic OpenedSession
  nextSignal : Except ShortcutDiagnostic PortalSignal
  close      : SessionHandle → Except ShortcutDiagnostic Unit
  manualFlag : Except ShortcutDiagnostic Unit
  load       : Except ShortcutDiagnostic (Option RestoreToken)
  save       : RestoreToken → Except ShortcutDiagnostic Unit

-- What was asked of the portal and of the sink: the sessions that were opened and closed, and each
-- call of the sink.
inductive PortCall
  | opened (session : SessionHandle)
  | closed (session : SessionHandle)
  | flagged
  deriving DecidableEq, Repr

structure ManualFlagService where
  preferredTrigger : Option String
  session          : Option SessionHandle
  restoreToken     : Option RestoreToken
  held             : Bool
  calls            : List PortCall
  deriving DecidableEq, Repr

-- A call changes the service in place, and keeps what it has done when it fails.
abbrev Call := EStateM ShortcutDiagnostic ManualFlagService

def asked {α : Type} (answer : Except ShortcutDiagnostic α) : Call α :=
  match answer with
  | .ok a    => pure a
  | .error e => throw e

def record (call : PortCall) : Call Unit :=
  modify fun service => { service with calls := call :: service.calls }

namespace ManualFlagService

def new (preferredTrigger : Option String) : ManualFlagService where
  preferredTrigger
  session      := none
  restoreToken := none
  held         := false
  calls        := []

variable (ports : Ports)

def saveToken (restoreToken : Option RestoreToken) (opened : RestoreToken) : Call Unit :=
  if restoreToken ≠ some opened then asked (ports.save opened) else pure ()

def open_ (restoreToken : Option RestoreToken) : Call Unit := do
  let service ← get
  let shortcuts := [{
    id               := MANUAL_FLAG_ID
    description      := MANUAL_FLAG_DESCRIPTION
    preferredTrigger := service.preferredTrigger
  }]
  let opened ← asked (ports.opens restoreToken shortcuts)
  record (.opened opened.session)
  saveToken ports restoreToken opened.restoreToken
  modify fun service => { service with
    restoreToken := some opened.restoreToken, session := some opened.session }

def start : Call Unit := do
  match (← get).session with
  | some _ => pure ()
  | none   => do
    let restoreToken ← asked ports.load
    open_ ports restoreToken

def reconnect : Call PollOutcome := do
  modify fun service => { service with held := false, session := none }
  let service ← get
  open_ ports service.restoreToken
  return .reconnected

def activated : Call PollOutcome := do
  if (← get).held then
    return .ignored
  else do
    record .flagged
    asked ports.manualFlag
    modify fun service => { service with held := true }
    return .flagged

def deactivated : Call PollOutcome := do
  if (← get).held then do
    modify fun service => { service with held := false }
    return .released
  else
    return .ignored

def handle (signal : PortalSignal) : Call PollOutcome :=
  match signal with
  | .portalLost | .sessionLost => reconnect ports
  | .activated id              => if id = MANUAL_FLAG_ID then activated ports else pure .ignored
  | .deactivated id            => if id = MANUAL_FLAG_ID then deactivated else pure .ignored

def poll : Call PollOutcome := do
  match (← get).session with
  | none   => throw .sessionLost
  | some _ =>
    match ports.nextSignal with
    | .ok signal          => handle ports signal
    | .error .sessionLost => reconnect ports
    | .error error        => throw error

-- The session is given up even where the portal fails to close it.
def shutdown : Call Unit := do
  let service ← get
  modify fun service => { service with held := false, session := none }
  match service.session with
  | none         => pure ()
  | some session => do
    asked (ports.close session)
    record (.closed session)

end ManualFlagService

end Shortcuts
