import OpenFrag.Library.Within
import OpenFrag.Live.Run

namespace Live

inductive DeadlineCommand
  | schedule (timer : TimerId) (deadlineMs : Nat)
  | cancel (timer : TimerId)
  deriving DecidableEq, Repr

-- The commands that have been sent and not been received, and the deadlines by the texts of their
-- timers.
structure DeadlineDriver where
  receiver  : List DeadlineCommand
  deadlines : HashMap Nat
  deriving DecidableEq, Repr

namespace DeadlineDriver

def new : DeadlineDriver where
  receiver  := []
  deadlines := []

def send (driver : DeadlineDriver) (command : DeadlineCommand) : DeadlineDriver :=
  { driver with receiver := driver.receiver ++ [command] }

def apply (driver : DeadlineDriver) : DeadlineCommand → DeadlineDriver
  | .schedule timer deadlineMs =>
    { driver with deadlines := driver.deadlines.insert timer.value deadlineMs }
  | .cancel timer              =>
    { driver with deadlines := driver.deadlines.remove timer.value }

def drainCommands (driver : DeadlineDriver) : DeadlineDriver :=
  driver.receiver.foldl apply { driver with receiver := [] }

def dueOrder (left right : Nat × TimerId) : Ordering :=
  (compare left.1 right.1).then (compare left.2.value right.2.value)

-- No two timers have one text, so that the order of the map does not show.
def due (driver : DeadlineDriver) (nowMs : Nat) : List (Nat × TimerId) :=
  ((driver.deadlines.filter fun (_, deadlineMs) => deadlineMs ≤ nowMs).map
    fun (timer, deadlineMs) => (deadlineMs, ⟨timer⟩)).mergeSort
      fun left right => (dueOrder left right).isLE

def takeDue (driver : DeadlineDriver) (nowMs : Nat) : List TimerId × DeadlineDriver :=
  let driver := driver.drainCommands
  let due := driver.due nowMs
  let deadlines := due.foldl (fun deadlines (_, timer) => deadlines.remove timer.value)
    driver.deadlines
  (due.map Prod.snd, { driver with deadlines })

end DeadlineDriver

variable {W : Type}

-- The timers that are dispatched of a batch. The first failure ends it.
def dispatches (ports : Ports W) : List TimerId → Host W → List TimerId
  | [], _                  => []
  | timer :: timers, host =>
    timer :: match Coordinator.onTimer ports timer host with
      | .ok _ host => dispatches ports timers host
      | .error _ _ => []

structure Drive where
  nowMs      : Nat
  dispatched : List TimerId
  result     : Except LiveDiagnostic RuntimeDriveReport
  deriving DecidableEq, Repr

-- The commands of the scheduler handles, and the calls of the driver. Each of these is made with a
-- runtime and in a world of its own, as anything may have happened to them since the last one.
inductive DeadlineCall (W : Type)
  | schedule (timer : TimerId) (deadlineMs : Nat)
  | cancel (timer : TimerId)
  | driveOnce (host : Host W)

-- The host once the driver has read its clock.
def clocked (ports : Ports W) (host : Host W) : Host W :=
  { host with world := (ports.nowMs host.world).2 }

def DeadlineDriver.dueAt (driver : DeadlineDriver) (ports : Ports W) (host : Host W) :
    List TimerId :=
  (driver.takeDue (ports.nowMs host.world).1).1

def DeadlineDriver.serve (ports : Ports W) :
    DeadlineCall W → DeadlineDriver → Option Drive × DeadlineDriver
  | .schedule timer deadlineMs, driver => (none, driver.send (.schedule timer deadlineMs))
  | .cancel timer, driver              => (none, driver.send (.cancel timer))
  | .driveOnce host, driver            =>
    let due := driver.dueAt ports host
    (some {
      nowMs      := (ports.nowMs host.world).1
      dispatched := dispatches ports due (clocked ports host)
      result     := (RuntimeDriver.driveOnce ports (fun _ w => (due, w)) host).toExcept },
      (driver.takeDue (ports.nowMs host.world).1).2)

abbrev DeadlineStep (W : Type) :=
  Machine.Step (DeadlineCall W) (Option Drive) DeadlineDriver

-- What a step makes of the deadline that a timer waits for.
def DeadlineStep.await (timer : TimerId) (awaited : Option Nat) (step : DeadlineStep W) :
    Option Nat :=
  match step.call with
  | .schedule timer' deadlineMs => if timer' = timer then some deadlineMs else awaited
  | .cancel timer'              => if timer' = timer then none else awaited
  | .driveOnce _                =>
    if step.reply.any (timer ∈ ·.dispatched) then none else awaited

-- The deadline of a timer that has not been cancelled and not been dispatched since it has last
-- been scheduled.
def awaited (steps : List (DeadlineStep W)) (timer : TimerId) : Option Nat :=
  steps.foldl (DeadlineStep.await timer) none

-- The timers whose deadlines have passed are dispatched, in order, and no others are.
structure Punctual (before : List (DeadlineStep W)) (drive : Drive) : Prop where
  prompt  : ∀ timer, ∀ deadlineMs ∈ awaited before timer, deadlineMs ≤ drive.nowMs →
    timer ∈ drive.dispatched
  waited  : ∀ timer ∈ drive.dispatched, ∃ deadlineMs ∈ awaited before timer,
    deadlineMs ≤ drive.nowMs
  once    : drive.dispatched.Nodup
  ordered : drive.dispatched.Pairwise fun timer timer' =>
    ∀ deadlineMs ∈ awaited before timer, ∀ deadlineMs' ∈ awaited before timer',
      deadlineMs < deadlineMs' ∨ deadlineMs = deadlineMs' ∧ timer.value < timer'.value

def Deadlines (steps : List (DeadlineStep W)) : Prop :=
  ∀ before step, before ++ [step] <+: steps → ∀ drive ∈ step.reply, Punctual before drive

-- Only the last timer of a batch may fail.
def completes (ports : Ports W) : List TimerId → Host W → Bool
  | [], _                           => true
  | [_], _                          => true
  | timer :: timer' :: timers, host =>
    match Coordinator.onTimer ports timer host with
    | .ok _ host => completes ports (timer' :: timers) host
    | .error _ _ => false

def Completes (ports : Ports W) (_ : List (DeadlineStep W)) (driver : DeadlineDriver) :
    DeadlineCall W → Prop
  | .driveOnce host => completes ports (driver.dueAt ports host) (clocked ports host)
  | _               => True

end Live
