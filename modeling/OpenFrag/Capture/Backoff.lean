import OpenFrag.Capture.Run

-- The attempts of a supervisor to spawn the recorder, and the delays between them.
namespace Capture

-- What the ports see of a run: the readings of the clock, the attempts to spawn the recorder by a
-- poll or by a start, the exits that are detected, and the shutdowns that are asked for.
inductive Event
  | reading (now : Nat)
  | attempt (polling spawned : Bool)
  | exited
  | shutdown
  deriving DecidableEq, Repr

variable {ι W α : Type}

def witnessed (events : α → List Event) (f : W → α × W) :
    W × List Event → α × (W × List Event) := fun (w, log) =>
  ((f w).1, (f w).2, log ++ events (f w).1)

def unseen (f : W → α × W) : W × List Event → α × (W × List Event) :=
  witnessed (fun _ => []) f

def exits : Except String (Option Int) → List Event
  | .ok (some _) => [.exited]
  | _            => []

-- The same ports, which keep a log of what they see.
def Ports.timed (polling : Bool) (ports : Ports W) : Ports (W × List Event) where
  spawn argv             := witnessed (fun r => [.attempt polling r.isOk]) (ports.spawn argv)
  tryWait                := witnessed exits ports.tryWait
  signal s               := unseen (ports.signal s)
  drainStderr            := unseen ports.drainStderr
  outputsSince dir since := unseen (ports.outputsSince dir since)
  isSymlink path         := unseen (ports.isSymlink path)
  isRegularFile path     := unseen (ports.isRegularFile path)
  isContained dir path   := unseen (ports.isContained dir path)
  nowMs                  := witnessed (fun now => [.reading now]) ports.nowMs
  wallMs                 := unseen ports.wallMs
  verify path            := unseen (ports.verify path)

-- A supervisor, with what was seen of its run.
structure Watched (ι : Type) where
  supervisor : Supervisor ι
  log        : List Event
  deriving DecidableEq, Repr

def Watched.new (config : Config) : Watched ι where
  supervisor := .new config
  log        := []

def Call.polls : Call ι → Bool
  | .poll => true
  | _     => false

def Call.announced : Call ι → List Event
  | .shutdown => [.shutdown]
  | _         => []

-- The world may change between two calls, so that each call is made in a world of its own.
def Watched.answer (ports : Ports W) (call : Call ι × W) (watched : Watched ι) :
    Except Error (Reply ι) × Watched ι :=
  match Supervisor.perform (ports.timed call.1.polls) call.1
    ⟨watched.supervisor, call.2, watched.log ++ call.1.announced⟩ with
  | .ok reply host => (.ok reply, ⟨host.supervisor, host.world.2⟩)
  | .error e host  => (.error e, ⟨host.supervisor, host.world.2⟩)

-- An attempt of a poll: when it was made, the delay that was scheduled before it, and whether the
-- supervisor was shut down.
structure Attempt where
  time  : Nat
  delay : Nat
  down  : Bool
  deriving DecidableEq, Repr

-- The attempts are listed with the latest first. The crashes are the exits since the child was last
-- stable, those after a shutdown not counted.
structure Watch where
  now      : Nat
  running  : Bool
  started  : Option Nat
  crashes  : Nat
  down     : Bool
  attempts : List Attempt
  deriving DecidableEq, Repr

def Watch.new : Watch where
  now      := 0
  running  := false
  started  := none
  crashes  := 0
  down     := false
  attempts := []

-- A child is started when the clock is first read after its spawn.
def Watch.read (stableAfter : Nat) (w : Watch) (now : Nat) : Watch :=
  match w.running, w.started with
  | true, none         => { w with now, started := some now }
  | true, some started => { w with
    now, crashes := if now - started ≥ stableAfter then 0 else w.crashes }
  | false, _           => { w with now }

def Watch.see (stableAfter : Nat) (w : Watch) : Event → Watch
  | .reading now => w.read stableAfter now
  | .attempt polling spawned =>
    { w with
      running := w.running || spawned
      started := if spawned then none else w.started
      down := w.down && (polling || !spawned)
      attempts :=
        if polling then ⟨w.now, restartDelay (w.crashes - 1), w.down⟩ :: w.attempts
        else w.attempts }
  | .exited => { w with
    running := false, started := none, crashes := if w.down then w.crashes else w.crashes + 1 }
  | .shutdown => { w with down := true }

def watch (stableAfter : Nat) (log : List Event) : Watch :=
  log.foldl (Watch.see stableAfter) .new

-- Two attempts of polls in a row are separated by the delay, and none is made after a shutdown.
structure Backoff (stableAfter : Nat) (log : List Event) : Prop where
  spaced : (watch stableAfter log).attempts.IsChain fun later earlier =>
    earlier.time + later.delay ≤ later.time
  up     : ∀ attempt ∈ (watch stableAfter log).attempts, attempt.down = false

def readings (log : List Event) : List Nat :=
  log.filterMap fun | .reading now => some now | _ => none

-- A monotonic clock, which stays below the largest machine integer by the longest delay.
structure Clocked (log : List Event) : Prop where
  monotone : (readings log).Pairwise (· ≤ ·)
  early    : ∀ now ∈ readings log, now + 30 * 1000 < 2 ^ 64

namespace Supervisor

-- The restart is due, and no new child can be spawned.
def failsRestart (ports : Ports W) (host : Host ι W) : Bool :=
  !host.supervisor.shuttingDown && !host.supervisor.running &&
    match host.supervisor.nextRestartMs with
    | none     => false
    | some due =>
      due ≤ (ports.nowMs host.world).1 &&
        !(ports.spawn host.supervisor.config.launch.argv (ports.nowMs host.world).2).1.isOk

-- The restart that a poll attempts fails.
def pollFails (ports : Ports W) (host : Host ι W) : Bool :=
  match ports.drainStderr host.world with
  | (.error _, _) => false
  | (.ok _, w)    => failsRestart ports { host with world := w }

end Supervisor

-- In this world no child can be spawned while the recorder is not reachable.
def brittlePorts : Ports FakeWorld :=
  { fakePorts with spawn := fun _ w => (if w.reachable then .ok () else .error "no child", w) }

end Capture
