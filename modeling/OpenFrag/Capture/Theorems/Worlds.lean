import OpenFrag.Capture.Supervisor
import OpenFrag.Library.Within

open EStateM

-- What no port does to the world, the supervisor does not do to it.
namespace Capture

variable {ι W α : Type} {R : W → W → Prop}

structure Ports.Within (R : W → W → Prop) (ports : Ports W) : Prop where
  spawn         : ∀ argv w, R w (ports.spawn argv w).2
  tryWait       : ∀ w, R w (ports.tryWait w).2
  signal        : ∀ s w, R w (ports.signal s w).2
  drainStderr   : ∀ w, R w (ports.drainStderr w).2
  outputsSince  : ∀ path since w, R w (ports.outputsSince path since w).2
  isSymlink     : ∀ path w, R w (ports.isSymlink path w).2
  isRegularFile : ∀ path w, R w (ports.isRegularFile path w).2
  isContained   : ∀ dir path w, R w (ports.isContained dir path w).2
  nowMs         : ∀ w, R w (ports.nowMs w).2
  wallMs        : ∀ w, R w (ports.wallMs w).2
  verify        : ∀ path w, R w (ports.verify path w).2

-- The hosts whose worlds are related.
def Besides (R : W → W → Prop) (host host' : Host ι W) : Prop :=
  R host.world host'.world

instance besides_refl [Std.Refl R] : Std.Refl (Besides (ι := ι) R) where
  refl host := Std.Refl.refl host.world

instance besides_trans [IsTrans W R] : IsTrans (Host ι W) (Besides R) where
  trans _ _ _ h h' := trans_of R h h'

namespace Besides

theorem port (wrap : String → Error) {f : W → Except String α × W} (h : ∀ w, R w (f w).2) :
    Within (Besides R) (port wrap f : Method ι W α) := by
  intro host
  have hw := h host.world
  unfold Capture.port Besides
  rcases hf : f host.world with ⟨_ | _, w⟩
  all_goals simpa [hf] using hw

theorem reading {f : W → Nat × W} (h : ∀ w, R w (f w).2) :
    Within (Besides R) (reading f : Method ι W Nat) :=
  fun host => h host.world

variable [Std.Refl R]

theorem update (f : Supervisor ι → Supervisor ι) : Within (Besides R) (update f : Method ι W _) :=
  fun host => Std.Refl.refl host.world

theorem self : Within (Besides R) (self : Method ι W _) :=
  fun host => Std.Refl.refl host.world

variable [IsTrans W R] {ports : Ports W}

open Supervisor

theorem signalSave (h : ports.Within R) (recorderRequestId : ι) (provenance : SaveProvenance) :
    Within (Besides R) (signalSave ports recorderRequestId provenance) := by
  refine Within.bind (port _ (h.signal _)) fun _ => Within.bind (reading h.wallMs) fun _ => ?_
  exact Within.bind (reading h.nowMs) fun _ => update _

theorem requestSave (h : ports.Within R) (recorderRequestId : ι) (provenance : SaveProvenance) :
    Within (Besides R) (requestSave ports recorderRequestId provenance) := by
  refine Within.bind self fun _ => Within.ite (fun _ => Within.throw) fun _ => ?_
  refine Within.ite (fun _ => ?_) fun _ => ?_
  · exact Within.bind (update _) fun _ => Within.pure
  · exact Within.bind (signalSave h _ _) fun _ => Within.pure

theorem acceptOutput (h : ports.Within R) (path : Path) :
    Within (Besides R) (acceptOutput ports path : Method ι W _) := by
  refine Within.bind ?_ fun _ => port _ (h.verify _)
  refine Within.bind self fun _ => Within.ite (fun _ => Within.throw) fun _ => ?_
  refine Within.bind (port _ (h.isSymlink _)) fun _ => Within.ite (fun _ => Within.throw) fun _ => ?_
  refine Within.bind (port _ (h.isRegularFile _)) fun _ => ?_
  refine Within.ite (fun _ => Within.throw) fun _ => ?_
  refine Within.bind (port _ (h.isContained _ _)) fun _ => ?_
  exact Within.ite (fun _ => Within.throw) fun _ => Within.pure

theorem followUp (h : ports.Within R) : Within (Besides R) (followUp ports : Method ι W _) := by
  refine Within.bind (update _) fun _ => Within.bind self fun s => ?_
  cases s.queued
  case none => exact Within.pure
  case some => exact Within.bind (update _) fun _ => signalSave h _ _

theorem discoverSave (h : ports.Within R) :
    Within (Besides R) (discoverSave ports : Method ι W _) := by
  refine Within.bind self fun s => ?_
  cases s.inFlight
  case none => exact Within.throw
  case some =>
    refine Within.bind (port _ (h.outputsSince _ _)) fun paths => ?_
    cases paths
    case nil => exact Within.pure
    case cons =>
      refine Within.bind (Within.bind self fun s => ?_) fun _ => Within.pure
      cases s.inFlight
      case none => exact Within.throw
      case some =>
        refine Within.bind (acceptOutput h _) fun _ => ?_
        exact Within.bind (followUp h) fun _ => Within.pure

theorem spawn (h : ports.Within R) : Within (Besides R) (spawn ports : Method ι W _) := by
  refine Within.bind self fun _ => Within.bind (port _ (h.spawn _)) fun _ => ?_
  exact Within.bind (update _) fun _ => Within.bind (reading h.nowMs) fun _ => update _

theorem restart (h : ports.Within R) : Within (Besides R) (restart ports : Method ι W _) := by
  refine Within.bind self fun s => Within.ite (fun _ => ?_) fun _ => Within.pure
  cases s.nextRestartMs
  case none => exact Within.pure
  case some =>
    refine Within.bind (reading h.nowMs) fun _ => ?_
    exact Within.ite (fun _ => spawn h) fun _ => Within.pure

theorem settle (h : ports.Within R) : Within (Besides R) (settle ports : Method ι W _) := by
  refine Within.bind self fun _ => Within.ite (fun _ => ?_) fun _ => Within.pure
  refine Within.bind (reading h.nowMs) fun _ => ?_
  exact Within.ite (fun _ => update _) fun _ => Within.pure

theorem exited (h : ports.Within R) : Within (Besides R) (exited ports : Method ι W _) := by
  refine Within.bind (update _) fun _ => Within.bind self fun _ => ?_
  refine Within.ite (fun _ => ?_) fun _ => Within.pure
  exact Within.bind (update _) fun _ => Within.bind (reading h.nowMs) fun _ => update _

theorem poll (h : ports.Within R) : Within (Besides R) (poll ports : Method ι W _) := by
  refine Within.bind (Within.bind (port _ h.drainStderr) fun _ => update _) fun _ => ?_
  refine Within.bind self fun _ => Within.ite (fun _ => ?_) fun _ => ?_
  · refine Within.bind (settle h) fun _ => Within.bind (port _ h.tryWait) fun code => ?_
    cases code
    case none => exact Within.bind (restart h) fun _ => Within.pure
    case some => exact Within.bind (exited h) fun _ => Within.pure
  · exact Within.bind (restart h) fun _ => Within.pure

theorem shutdown (h : ports.Within R) : Within (Besides R) (shutdown ports : Method ι W _) := by
  refine Within.bind (update _) fun _ => Within.bind self fun _ => ?_
  exact Within.ite (fun _ => port _ (h.signal _)) fun _ => Within.pure

end Besides

end Capture
