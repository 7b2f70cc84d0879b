import OpenFrag.Library.Within
import OpenFrag.Live.Run

open EStateM
open Live (Observed aside ticking)

namespace Capture

variable {ι W α : Type}

-- The recorder finalizes nothing, its clock does not go back, and the time of a new save in flight
-- has been read meanwhile.
structure Timed (host host' : Host ι (Observed W)) : Prop where
  finalizations : host'.world.1.2.finalizations = host.world.1.2.finalizations
  clock         : host.world.1.2.clock ≤ host'.world.1.2.clock
  inFlight      : ∀ p, host'.supervisor.inFlight = some p → host.supervisor.inFlight = some p ∨
    host.world.1.2.clock ≤ p.requestedAtMs ∧ p.requestedAtMs ≤ host'.world.1.2.clock

instance : Std.Refl (Timed (ι := ι) (W := W)) where
  refl _ := ⟨rfl, Nat.le_refl _, fun _ => .inl⟩

instance : IsTrans (Host ι (Observed W)) Timed where
  trans _ _ _ h h' := {
    finalizations := h'.finalizations.trans h.finalizations
    clock         := h.clock.trans h'.clock
    inFlight      := by
      intro p hp
      rcases h'.inFlight p hp with hp | ⟨hle, hle'⟩
      case inr => exact .inr ⟨h.clock.trans hle, hle'⟩
      case inl =>
        rcases h.inFlight p hp with hp | ⟨hle, hle'⟩
        case inl => exact .inl hp
        case inr => exact .inr ⟨hle, hle'.trans h'.clock⟩ }

namespace Timed

theorem self : Within Timed (Capture.self : Method ι (Observed W) _) :=
  fun _ => ⟨rfl, Nat.le_refl _, fun _ => .inl⟩

theorem update_within {f : Supervisor ι → Supervisor ι}
    (h : ∀ s p, (f s).inFlight = some p → s.inFlight = some p) :
    Within Timed (update f : Method ι (Observed W) _) :=
  fun _ => ⟨rfl, Nat.le_refl _, fun p hp => .inl (h _ p hp)⟩

theorem port_silent (wrap : String → Error) (f : W → Except String α × W) :
    Within Timed (port wrap (silent (aside f)) : Method ι (Observed W) α) := by
  intro host
  rcases h : f host.world.1.1 with ⟨e | a, w'⟩ <;>
    simp only [port, silent, aside, h, Result.state] <;>
    exact ⟨rfl, Nat.le_refl _, fun _ => .inl⟩

theorem port_logging (wrap : String → Error) (effect : Effect) (f : W → Except String α × W) :
    Within Timed (port wrap (logging effect (aside f)) : Method ι (Observed W) α) := by
  intro host
  rcases h : f host.world.1.1 with ⟨e | a, w'⟩ <;>
    simp only [port, logging, aside, h, Result.state] <;>
    exact ⟨rfl, Nat.le_refl _, fun _ => .inl⟩

theorem reading_silent (f : W → Nat × W) :
    Within Timed (reading (silent (aside f)) : Method ι (Observed W) _) :=
  fun _ => ⟨rfl, Nat.le_refl _, fun _ => .inl⟩

theorem reading_ticking (f : W → Nat × W) :
    Within Timed (reading (silent (ticking f)) : Method ι (Observed W) _) :=
  fun _ => ⟨rfl, Nat.le_max_left _ _, fun _ => .inl⟩

variable (ports : Live.Ports W)

open Supervisor

theorem signalSave (recorderRequestId : ι) (provenance : SaveProvenance) :
    Within Timed (signalSave ports.observed.capture recorderRequestId provenance) := by
  refine (port_logging _ _ _).bind fun _ => (reading_silent _).bind fun _ => ?_
  intro host
  refine ⟨rfl, Nat.le_max_left _ _, ?_⟩
  intro p hp
  cases hp
  exact .inr ⟨Nat.le_max_left _ _, Nat.le_refl _⟩

theorem requestSave (recorderRequestId : ι) (provenance : SaveProvenance) :
    Within Timed (requestSave ports.observed.capture recorderRequestId provenance) := by
  refine self.bind fun _ => Within.ite (fun _ => Within.throw) fun _ =>
    Within.ite (fun _ => ?_) fun _ => ?_
  · exact Within.bind (update_within fun _ _ hp => hp) fun _ => Within.pure
  · exact (signalSave ports _ _).bind fun _ => Within.pure

theorem validateOutput (path : Path) :
    Within Timed (validateOutput ports.observed.capture path : Method ι _ _) := by
  refine self.bind fun _ => Within.ite (fun _ => Within.throw) fun _ => ?_
  refine (port_silent _ _).bind fun _ => Within.ite (fun _ => Within.throw) fun _ => ?_
  refine (port_silent _ _).bind fun _ => Within.ite (fun _ => Within.throw) fun _ => ?_
  exact (port_silent _ _).bind fun _ => Within.ite (fun _ => Within.throw) fun _ => Within.pure

theorem acceptOutput (path : Path) :
    Within Timed (acceptOutput ports.observed.capture path : Method ι _ _) :=
  (validateOutput ports path).bind fun _ => port_silent _ _

theorem followUp : Within Timed (followUp ports.observed.capture : Method ι _ _) := by
  refine Within.bind (update_within fun _ _ hp => by cases hp) fun _ => self.bind fun s => ?_
  cases s.queued
  case none => exact Within.pure
  case some => exact Within.bind (update_within fun _ _ hp => hp) fun _ => signalSave ports _ _

theorem acknowledge (path : Path) :
    Within Timed (acknowledge ports.observed.capture path : Method ι _ _) := by
  refine self.bind fun s => ?_
  cases s.inFlight
  case none => exact Within.throw
  case some =>
    exact (acceptOutput ports path).bind fun _ => (followUp ports).bind fun _ => Within.pure

theorem discoverSave : Within Timed (discoverSave ports.observed.capture : Method ι _ _) := by
  refine self.bind fun s => ?_
  cases s.inFlight
  case none => exact Within.throw
  case some =>
    refine (port_silent _ _).bind fun paths => ?_
    cases paths
    case nil => exact Within.pure
    case cons => exact (acknowledge ports _).bind fun _ => Within.pure

theorem appendStderr : Within Timed (appendStderr ports.observed.capture : Method ι _ _) :=
  (port_silent _ _).bind fun _ => update_within fun _ _ hp => hp

theorem spawn : Within Timed (spawn ports.observed.capture : Method ι _ _) :=
  self.bind fun _ => (port_logging _ _ _).bind fun _ => Within.bind (update_within fun _ _ hp => hp) fun _ =>
    (reading_ticking _).bind fun _ => update_within fun _ _ hp => hp

theorem settle : Within Timed (settle ports.observed.capture : Method ι _ _) := by
  refine self.bind fun _ => Within.ite (fun _ => ?_) fun _ => Within.pure
  refine (reading_ticking _).bind fun _ => Within.ite (fun _ => ?_) fun _ => Within.pure
  exact update_within fun _ _ hp => hp

theorem restart : Within Timed (restart ports.observed.capture : Method ι _ _) := by
  refine self.bind fun s => Within.ite (fun _ => ?_) fun _ => Within.pure
  cases s.nextRestartMs
  case none => exact Within.pure
  case some =>
    exact (reading_ticking _).bind fun _ => Within.ite (fun _ => spawn ports) fun _ => Within.pure

theorem exited : Within Timed (exited ports.observed.capture : Method ι _ _) := by
  refine Within.bind (update_within fun _ _ hp => hp) fun _ => self.bind fun _ =>
    Within.ite (fun _ => ?_) fun _ => Within.pure
  exact Within.bind (update_within fun _ _ hp => hp) fun _ => (reading_ticking _).bind fun _ =>
    update_within fun _ _ hp => hp

theorem poll : Within Timed (poll ports.observed.capture : Method ι _ _) := by
  refine (appendStderr ports).bind fun _ => self.bind fun _ => Within.ite (fun _ => ?_) fun _ => ?_
  · refine (settle ports).bind fun _ => (port_silent _ _).bind fun code => ?_
    cases code
    case none => exact (restart ports).bind fun _ => Within.pure
    case some => exact (exited ports).bind fun _ => Within.pure
  · exact (restart ports).bind fun _ => Within.pure

theorem shutdown : Within Timed (shutdown ports.observed.capture : Method ι _ _) := by
  refine Within.bind (update_within fun _ _ hp => hp) fun _ => self.bind fun _ =>
    Within.ite (fun _ => ?_) fun _ => Within.pure
  exact port_logging _ _ _

end Timed

end Capture
