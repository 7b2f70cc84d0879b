import OpenFrag.Library.Machine
import OpenFrag.Shortcuts.Service

-- The worker of the daemon that polls the service until it is stopped.
namespace Shortcuts

open ManualFlagService

inductive ManualFlagWorkerStatus
  | starting
  | ready
  | unavailable (diagnostic : ShortcutDiagnostic)
  | stopped
  deriving DecidableEq, Repr

-- The worker is in its loop while its status is `ready`.
structure Worker where
  service : ManualFlagService
  status  : ManualFlagWorkerStatus
  deriving DecidableEq, Repr

-- The part of `run_manual_flag_service` before its loop.
def begin (ports : Ports) (preferredTrigger : Option String) : Worker :=
  match start ports (.new preferredTrigger) with
  | .ok () service       => ⟨service, .ready⟩
  | .error error service => ⟨service, .unavailable error⟩

-- The part after the loop, which ended with an error or was stopped.
def conclude (ports : Ports) (terminal : Option ShortcutDiagnostic)
    (service : ManualFlagService) : Worker :=
  let (shutdownError, service) :=
    match shutdown ports service with
    | .ok () service       => (none, service)
    | .error error service => (some error, service)
  match terminal.or shutdownError with
  | some error => ⟨service, .unavailable error⟩
  | none       => ⟨service, .stopped⟩

-- One turn of the loop, in which the service is polled or the worker is stopped.
inductive Turn
  | polled (ports : Ports)
  | stopped (ports : Ports)

def turn (t : Turn) (worker : Worker) : Worker :=
  if worker.status ≠ .ready then
    worker
  else
    match t with
    | .stopped ports => conclude ports none worker.service
    | .polled ports  =>
      match poll ports worker.service with
      | .ok _ service        => { worker with service }
      | .error error service => conclude ports (some error) service

end Shortcuts
