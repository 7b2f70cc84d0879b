import OpenFrag.Capture.Directory
import OpenFrag.Library.Ascending
import OpenFrag.Capture.Theorems.Supervisor

open EStateM

namespace Capture

variable {ι W α : Type}

namespace Directory

variable (directory : Directory W) {files : List Path} {sinceMs : Nat} {path : Path}

instance : Std.TransCmp Component.order :=
  inferInstanceAs (Std.TransCmp (compareLex (compareOn Component.rank) (compareOn Component.name)))

instance : Std.TransCmp fun left right : Nat × Path =>
    List.compareLex Component.order left.2 right.2 where
  eq_swap    := Std.OrientedCmp.eq_swap
  isLE_trans := Std.TransCmp.isLE_trans

instance : Std.TransCmp fun left right : Nat × Path => compare right.1 left.1 :=
  inferInstanceAs (Std.TransCmp fun left right : Nat × Path => compareOn Prod.fst right left)

instance : Std.TransCmp outputOrder :=
  inferInstanceAs (Std.TransCmp (compareLex (fun left right : Nat × Path => compare right.1 left.1)
    (fun left right => List.compareLex Component.order left.2 right.2)))

theorem outputOrder_le {left right : Nat × Path} (h : (outputOrder left right).isLE) :
    right.1 ≤ left.1 := by
  simp only [outputOrder] at h
  cases hcompare : compare right.1 left.1
  case lt => exact (compare_lt_iff_lt.mp hcompare).le
  case eq => exact (compare_eq_iff_eq.mp hcompare).le
  case gt => simp [hcompare] at h

theorem mem_listing :
    path ∈ directory.listing files sinceMs ↔ path ∈ files ∧ sinceMs ≤ directory.modifiedMs path := by
  simp [listing]

-- The first output of a listing is as new as all others.
theorem le_of_listing {rest : List Path} (h : directory.listing files sinceMs = path :: rest)
    {other : Path} (hother : other ∈ directory.listing files sinceMs) :
    directory.modifiedMs other ≤ directory.modifiedMs path := by
  have hsorted : (directory.listing files sinceMs).Pairwise fun left right =>
      directory.modifiedMs right ≤ directory.modifiedMs left := by
    refine List.pairwise_map.mpr ((List.pairwise_mergeSort_cmp outputOrder _).imp_of_mem ?_)
    intro left right hleft hright horder
    simp only [List.mem_mergeSort, List.mem_filter, List.mem_map] at hleft hright
    obtain ⟨⟨_, _, rfl⟩, _⟩ := hleft
    obtain ⟨⟨_, _, rfl⟩, _⟩ := hright
    exact outputOrder_le horder
  rw [h] at hother hsorted
  rcases List.mem_cons.mp hother with rfl | hother
  · exact Nat.le_refl _
  · exact List.rel_of_pairwise_cons hsorted hother

end Directory

namespace Supervisor

-- The save in flight, and the readings of the wall clock.
abbrev flight (host : Host ι (W × List Nat)) : Option (PendingSave ι) × List Nat :=
  (host.supervisor.inFlight, host.world.2)

theorem port_beside_keeps (wrap : String → Error) (f : W → Except String α × W) :
    Keeps flight (port wrap (beside f) : Method ι (W × List Nat) α) := by
  intro host
  rcases h : f host.world.1 with ⟨e | a, w'⟩ <;> simp [port, beside, h]

variable (ports : Ports W) (directory : Directory W)

theorem spawn_flight : Keeps flight (spawn (ports.over directory) : Method ι _ _) := by
  refine Within.bind (fun _ => rfl) fun s => (port_beside_keeps _ _).bind fun _ => ?_
  refine Within.bind (fun _ => rfl) fun _ => Within.bind (fun _ => rfl) fun _ => ?_
  exact fun _ => rfl

theorem restart_flight : Keeps flight (restart (ports.over directory) : Method ι _ _) := by
  refine Within.bind (fun _ => rfl) fun s => Within.ite (fun _ => ?_) fun _ => Within.pure
  cases s.nextRestartMs
  case none => exact Within.pure
  case some due =>
    exact Within.bind (fun _ => rfl) fun _ =>
      Within.ite (fun _ => spawn_flight ports directory) fun _ => Within.pure

theorem settle_flight : Keeps flight (settle (ports.over directory) : Method ι _ _) := by
  refine Within.bind (fun _ => rfl) fun s => Within.ite (fun _ => ?_) fun _ => Within.pure
  refine Within.bind (fun _ => rfl) fun _ => Within.ite (fun _ => ?_) fun _ => Within.pure
  exact fun _ => rfl

theorem exited_flight : Keeps flight (exited (ports.over directory) : Method ι _ _) := by
  refine Within.bind (fun _ => rfl) fun _ => Within.bind (fun _ => rfl) fun s =>
    Within.ite (fun _ => ?_) fun _ => Within.pure
  refine Within.bind (fun _ => rfl) fun _ => Within.bind (fun _ => rfl) fun _ => ?_
  exact fun _ => rfl

theorem poll_flight : Keeps flight (poll (ports.over directory) : Method ι _ _) := by
  have hstderr : Keeps flight (appendStderr (ports.over directory) : Method ι _ _) :=
    (port_beside_keeps _ _).bind fun _ _ => rfl
  refine hstderr.bind fun _ => Within.bind (fun _ => rfl) fun s => Within.ite (fun _ => ?_) fun _ => ?_
  case refine_1 =>
    refine (settle_flight ports directory).bind fun _ => (port_beside_keeps _ _).bind fun code => ?_
    cases code
    case none   => exact (restart_flight ports directory).bind fun _ => Within.pure
    case some _ => exact (exited_flight ports directory).bind fun _ => Within.pure
  case refine_2 => exact (restart_flight ports directory).bind fun _ => Within.pure

theorem shutdown_flight : Keeps flight (shutdown (ports.over directory) : Method ι _ _) := by
  refine Within.bind (fun _ => rfl) fun _ => Within.bind (fun _ => rfl) fun s => ?_
  exact Within.ite (fun _ => port_beside_keeps _ _) fun _ => Within.pure

theorem acceptOutput_flight (path : Path) :
    Keeps flight (acceptOutput (ports.over directory) path : Method ι _ _) := by
  have hvalidate : Keeps flight (validateOutput (ports.over directory) path : Method ι _ _) := by
    refine Within.bind (fun _ => rfl) fun s => Within.ite (fun _ => Within.throw) fun _ => ?_
    refine (port_beside_keeps _ _).bind fun _ => Within.ite (fun _ => Within.throw) fun _ => ?_
    refine (port_beside_keeps _ _).bind fun _ => Within.ite (fun _ => Within.throw) fun _ => ?_
    refine (port_beside_keeps _ _).bind fun _ => ?_
    exact Within.ite (fun _ => Within.throw) fun _ => Within.pure
  exact hvalidate.bind fun _ => port_beside_keeps _ _

-- A save that is signalled keeps the reading of the wall clock.
theorem signalSave_flight (id : ι) (provenance : SaveProvenance) (host : Host ι (W × List Nat)) :
    (∃ e host', signalSave (ports.over directory) id provenance host = .error e host' ∧
      flight host' = flight host) ∨
    ∃ pending host', signalSave (ports.over directory) id provenance host = .ok () host' ∧
      pending.recorderRequestId = id ∧
      flight host' = (some pending, host.world.2 ++ [pending.sinceWallMs]) := by
  unfold signalSave
  rcases h : ports.signal .user1 host.world.1 with ⟨e | ⟨⟩, w'⟩
  case error =>
    have hport : port Error.process ((ports.over directory).signal .user1) host =
        .error (.process e) { host with world := (w', host.world.2) } := by
      simp [port, Ports.over, beside, h]
    exact .inl ⟨_, _, bind_error hport, rfl⟩
  case ok =>
    have hport : port Error.process ((ports.over directory).signal .user1) host =
        .ok () { host with world := (w', host.world.2) } := by
      simp [port, Ports.over, beside, h]
    exact .inr ⟨_, _, bind_ok hport, rfl, rfl⟩

-- The save in flight is over, or the queued one has taken its place.
theorem followUp_flight (host : Host ι (W × List Nat)) :
    (∃ e host', followUp (ports.over directory) host = .error e host' ∧
      flight host' = (none, host.world.2)) ∨
    ∃ host', followUp (ports.over directory) host = .ok () host' ∧
      (flight host' = (none, host.world.2) ∨
        ∃ next, flight host' = (some next, host.world.2 ++ [next.sinceWallMs])) := by
  cases hqueued : host.supervisor.queued
  case none => exact .inr ⟨_, followUp_none hqueued, .inl rfl⟩
  case some queued =>
    rw [followUp_some hqueued]
    rcases signalSave_flight ports directory queued.recorderRequestId queued.provenance
      ⟨{ host.supervisor with inFlight := none, queued := none }, host.world⟩ with
      ⟨e, host', h, hflight⟩ | ⟨next, host', h, _, hflight⟩
    · exact .inl ⟨e, host', h, hflight⟩
    · exact .inr ⟨host', h, .inr ⟨next, hflight⟩⟩

-- What a call does to the save in flight: the acknowledgement, the readings of the wall clock, and
-- the save that is in flight then.
inductive Proceeds (picked : PendingSave ι → Path → Prop) (inFlight : Option (PendingSave ι)) :
    Option (SaveAcknowledgement ι) → List Nat → Option (PendingSave ι) → Prop
  | stays :
    Proceeds picked inFlight none [] inFlight
  | drops :
    Proceeds picked inFlight none [] none
  | sends (next : PendingSave ι) :
    Proceeds picked inFlight none [next.sinceWallMs] (some next)
  | serves (pending : PendingSave ι) (a : SaveAcknowledgement ι) (h : inFlight = some pending)
      (hid : a.recorderRequestId = pending.recorderRequestId) (hpicked : picked pending a.path) :
    Proceeds picked inFlight (some a) [] none
  | follows (pending next : PendingSave ι) (a : SaveAcknowledgement ι) (h : inFlight = some pending)
      (hid : a.recorderRequestId = pending.recorderRequestId) (hpicked : picked pending a.path) :
    Proceeds picked inFlight (some a) [next.sinceWallMs] (some next)

theorem Proceeds.mono {picked picked' : PendingSave ι → Path → Prop}
    {inFlight inFlight' : Option (PendingSave ι)} {a? : Option (SaveAcknowledgement ι)}
    {signalledAtMs : List Nat} (h : Proceeds picked inFlight a? signalledAtMs inFlight')
    (hpicked : ∀ pending path, inFlight = some pending → picked pending path → picked' pending path) :
    Proceeds picked' inFlight a? signalledAtMs inFlight' := by
  cases h
  case stays => exact .stays
  case drops => exact .drops
  case sends next => exact .sends next
  case serves pending a hin hid hpick => exact .serves pending a hin hid (hpicked pending _ hin hpick)
  case follows pending next a hin hid hpick =>
    exact .follows pending next a hin hid (hpicked pending _ hin hpick)

-- The path that a call may acknowledge.
def picked (s : Supervisor ι) : Call ι × W → PendingSave ι → Path → Prop
  | (.discoverSave, w), pending, path => ∃ files rest,
    directory.files s.config.outputDirectory w = .ok files ∧
      directory.listing files pending.sinceWallMs = path :: rest
  | (.acknowledge path', _), _, path  => path = path'
  | _, _, _                           => False

variable {s : Supervisor ι} {w : W}

def Proceeding (picked : PendingSave ι → Path → Prop) (s : Supervisor ι)
    (result : Result Error (Host ι (W × List Nat)) (Reply ι)) : Prop :=
  Proceeds picked s.inFlight (result.toExcept.toOption.bind Reply.acknowledgement?)
    result.state.world.2 result.state.supervisor.inFlight

-- A call that says nothing of outputs, and leaves the save in flight alone.
theorem Proceeding.of_flight {picked : PendingSave ι → Path → Prop} {x : Method ι (W × List Nat) α}
    {f : α → Reply ι} (h : Keeps flight x) (hf : ∀ a, (f a).acknowledgement? = none) :
    Proceeding picked s ((x >>= fun a => pure (f a)) ⟨s, w, []⟩) := by
  have ⟨hinFlight, hlog⟩ := Prod.mk.inj (h ⟨s, w, []⟩)
  have hreply : (((x >>= fun a => pure (f a)) ⟨s, w, []⟩).toExcept.toOption.bind
      Reply.acknowledgement?) = none := by
    cases hx : x ⟨s, w, []⟩
    case ok a host  => simp [bind_ok hx, Result.toExcept, Except.toOption, hf]
    case error e host => simp [bind_error hx, Result.toExcept, Except.toOption]
  rw [Proceeding, hreply, state_bind_pure, hinFlight, hlog]
  exact .stays

theorem Proceeding.of_error {picked : PendingSave ι → Path → Prop} {e : Error}
    {host : Host ι (W × List Nat)}
    (h : flight host = (s.inFlight, []) ∨ flight host = (none, [])) :
    Proceeding picked s (.error e host) := by
  rcases h with h | h <;> have ⟨hinFlight, hlog⟩ := Prod.mk.inj h <;>
    simp only [Proceeding, Result.state_error, hinFlight, hlog]
  · exact .stays
  · exact .drops

theorem acknowledge_proceeding (path : Path) (f : SaveAcknowledgement ι → Reply ι)
    (hf : ∀ a, (f a).acknowledgement? = some a) :
    Proceeding (fun _ path' => path' = path) s
      ((acknowledge (ports.over directory) path >>= fun a => pure (f a)) ⟨s, w, []⟩) := by
  unfold acknowledge
  rw [bind_assoc, bind_ok self_apply]
  cases hinFlight : s.inFlight
  case none => exact .of_error (.inl rfl)
  case some pending =>
    dsimp only
    rw [bind_assoc]
    have hkeep := acceptOutput_flight ports directory path ⟨s, w, []⟩
    cases haccept : acceptOutput (ports.over directory) path ⟨s, w, []⟩
    case error e host =>
      rw [haccept] at hkeep
      rw [bind_error haccept]
      exact .of_error (.inl hkeep)
    case ok media host =>
      have ⟨hsame, hlog⟩ := Prod.mk.inj (haccept ▸ hkeep)
      simp only [Result.state_ok] at hlog
      rw [bind_ok haccept, bind_assoc]
      rcases followUp_flight ports directory host with
        ⟨e, host', h, hflight⟩ | ⟨host', h, hflight⟩
      · rw [bind_error h]
        exact .of_error (.inr (by rw [hflight, hlog]))
      · rw [bind_ok h]
        rcases hflight with hflight | ⟨next, hflight⟩ <;>
          obtain ⟨hnext, hreadings⟩ := Prod.mk.inj hflight <;>
          simp only [Proceeding, Result.toExcept, pure_apply, pure_bind, Result.state_ok, hnext,
            hreadings, hlog, Except.toOption, Option.bind_some, hf]
        · exact .serves pending _ hinFlight rfl rfl
        · exact .follows pending next _ hinFlight rfl rfl

theorem discoverSave_proceeding :
    Proceeding (picked directory s (.discoverSave, w)) s
      ((discoverSave (ports.over directory) >>= fun a => pure (.discovered a)) ⟨s, w, []⟩) := by
  unfold discoverSave
  rw [bind_assoc, bind_ok self_apply]
  dsimp only
  cases hinFlight : s.inFlight
  case none => exact .of_error (.inl rfl)
  case some pending =>
    dsimp only
    rw [bind_assoc]
    cases hfiles : directory.files s.config.outputDirectory w
    case error e =>
      have hport : port Error.filesystem ((ports.over directory).outputsSince
          s.config.outputDirectory pending.sinceWallMs) ⟨s, w, []⟩ =
          .error (.filesystem e) ⟨s, w, []⟩ := by
        simp [port, Ports.over, beside, Directory.outputsSince, hfiles]
      rw [bind_error hport]
      exact .of_error (.inl rfl)
    case ok files =>
      have hport : port Error.filesystem ((ports.over directory).outputsSince
          s.config.outputDirectory pending.sinceWallMs) ⟨s, w, []⟩ =
          .ok (directory.listing files pending.sinceWallMs) ⟨s, w, []⟩ := by
        simp [port, Ports.over, beside, Directory.outputsSince, hfiles]
      rw [bind_ok hport]
      cases hlisting : directory.listing files pending.sinceWallMs
      case nil =>
        have hstays : Proceeds (picked directory s (.discoverSave, w)) s.inFlight none []
            s.inFlight := .stays
        exact hstays
      case cons path rest =>
        have hack := acknowledge_proceeding ports directory path
          (fun a => .discovered (some a)) (fun _ => rfl) (s := s) (w := w)
        dsimp only
        rw [bind_assoc]
        refine Proceeds.mono hack fun pending' path' hpending hpath => ?_
        obtain rfl := Option.some.inj (hinFlight.symm.trans hpending)
        exact ⟨files, rest, hfiles, hpath ▸ hlisting⟩

theorem requestSave_proceeding (recorderRequestId : ι) (provenance : SaveProvenance)
    {picked : PendingSave ι → Path → Prop} :
    Proceeding picked s ((requestSave (ports.over directory) recorderRequestId provenance >>=
      fun outcome => pure (.requested outcome)) ⟨s, w, []⟩) := by
  unfold requestSave
  rw [bind_assoc, bind_ok self_apply]
  dsimp only
  by_cases hrunning : s.running
  case neg =>
    rw [Bool.eq_false_of_not_eq_true hrunning]
    exact .of_error (.inl rfl)
  case pos =>
    rw [hrunning]
    cases hinFlight : s.inFlight
    case some pending =>
      have hstays : Proceeds picked s.inFlight none [] s.inFlight := .stays
      exact hstays
    case none =>
      have hsignalled : Proceeding picked s
          ((signalSave (ports.over directory) recorderRequestId provenance >>= fun _ =>
            pure (Reply.requested ⟨recorderRequestId, .signalled⟩)) ⟨s, w, []⟩) := by
        rcases signalSave_flight ports directory recorderRequestId provenance ⟨s, w, []⟩ with
          ⟨e, host', h, hflight⟩ | ⟨next, host', h, _, hflight⟩
        · rw [bind_error h]
          exact .of_error (.inl hflight)
        · obtain ⟨hnext, hreadings⟩ := Prod.mk.inj hflight
          rw [bind_ok h]
          simp only [Proceeding, pure_apply, Result.toExcept, Result.state_ok, hnext, hreadings]
          exact .sends next
      simpa [hinFlight, bind_assoc] using hsignalled

theorem perform_proceeding (call : Call ι × W) :
    Proceeding (picked directory s call) s
      (perform (ports.over directory) call.1 ⟨s, call.2, []⟩) := by
  obtain ⟨call, w⟩ := call
  cases call
  case start    => exact .of_flight (spawn_flight ports directory) fun _ => rfl
  case poll     => exact .of_flight (poll_flight ports directory) fun _ => rfl
  case shutdown => exact .of_flight (shutdown_flight ports directory) fun _ => rfl
  case requestSave id provenance => exact requestSave_proceeding ports directory id provenance
  case discoverSave              => exact discoverSave_proceeding ports directory
  case acknowledge path          =>
    exact acknowledge_proceeding ports directory path .acknowledged fun _ => rfl

end Supervisor

namespace Directory

open Supervisor

variable {directory : Directory W} {ports : Ports W} {steps : List (DirectoryStep ι W)}
variable {s : Supervisor ι} {call : Call ι × W}

-- The path that is picked is as new as the signal, and newer than the outputs before.
theorem Fresh.newer (h : directory.Fresh steps s call) {pending : PendingSave ι} {path : Path}
    (hinFlight : s.inFlight = some pending) (hpicked : picked directory s call pending path) :
    directory.Newer steps pending.sinceWallMs path := by
  have hfresh := h pending hinFlight
  obtain ⟨call, w⟩ := call
  cases call
  case discoverSave =>
    obtain ⟨files, rest, hfiles, hlisting⟩ := hpicked
    have hfirst : path ∈ directory.listing files pending.sinceWallMs := by simp [hlisting]
    obtain ⟨newest, hmem, hsince, hnewer⟩ := hfresh files (by simp [hfiles, Except.toOption])
      ⟨path, (directory.mem_listing.mp hfirst)⟩
    have hle := directory.le_of_listing hlisting (directory.mem_listing.mpr ⟨hmem, hsince⟩)
    exact ⟨hsince.trans hle, fun earlier hearlier => (hnewer earlier hearlier).trans_le hle⟩
  case acknowledge =>
    obtain rfl := hpicked
    exact hfresh
  all_goals cases hpicked

-- What has been emitted so far, and when the save in flight has been signalled.
structure Tracks (directory : Directory W) (steps : List (DirectoryStep ι W)) (s : Supervisor ι) :
    Prop where
  emitted   : directory.AllEmitted steps
  signalled : ∀ pending, s.inFlight = some pending →
    (signals steps).getLast? = some (pending.recorderRequestId, pending.sinceWallMs)

namespace Tracks

theorem emits (h : directory.Tracks steps s) (hfresh : directory.Fresh steps s call)
    {pending : PendingSave ι} {a : SaveAcknowledgement ι} (hinFlight : s.inFlight = some pending)
    (hid : a.recorderRequestId = pending.recorderRequestId)
    (hpicked : picked directory s call pending a.path) : directory.Emitted steps a where
  since := ⟨pending.sinceWallMs, hid ▸ h.signalled pending hinFlight,
    (hfresh.newer hinFlight hpicked).1⟩
  newer := (hfresh.newer hinFlight hpicked).2
  once  := fun earlier hearlier heq =>
    absurd (heq ▸ (hfresh.newer hinFlight hpicked).2 earlier hearlier) (Nat.lt_irrefl _)

theorem allEmitted_snoc (h : directory.AllEmitted steps) {step : DirectoryStep ι W}
    (hstep : ∀ a ∈ step.reply.acknowledgement?, directory.Emitted steps a) :
    directory.AllEmitted (steps ++ [step]) := by
  intro before last hbefore
  rcases List.prefix_concat_iff.mp hbefore with heq | hbefore
  · have ⟨hbefore, hlast⟩ := List.append_inj' heq rfl
    rw [hbefore, List.singleton_inj.mp hlast]
    exact hstep
  · exact h before last hbefore

theorem signals_silent {step : DirectoryStep ι W} (h : step.reply.signalledAtMs = []) :
    signals [step] = [] := by
  cases hafter : step.after.inFlight <;> simp [signals, hafter, h]

theorem signalled_next {step : DirectoryStep ι W} {next : PendingSave ι}
    (hafter : step.after.inFlight = some next) (h : step.reply.signalledAtMs = [next.sinceWallMs])
    (pending : PendingSave ι) (hpending : step.after.inFlight = some pending) :
    (signals (steps ++ [step])).getLast? =
      some (pending.recorderRequestId, pending.sinceWallMs) := by
  obtain rfl := Option.some.inj (hafter.symm.trans hpending)
  simp [signals, hafter, h]

theorem step (h : directory.Tracks steps s) (hfresh : directory.Fresh steps s call) :
    directory.Tracks (steps ++ [Machine.step (observe ports directory) s call])
      (Machine.step (observe ports directory) s call).after := by
  have hproceeds : Proceeds (picked directory s call) s.inFlight
      (Machine.step (observe ports directory) s call).reply.acknowledgement?
      (Machine.step (observe ports directory) s call).reply.signalledAtMs
      (Machine.step (observe ports directory) s call).after.inFlight :=
    perform_proceeding ports directory call
  generalize Machine.step (observe ports directory) s call = step at hproceeds
  have hsignals : signals (steps ++ [step]) = signals steps ++ (signals [step]) := by
    simp [signals]
  generalize hreply : step.reply.acknowledgement? = a? at hproceeds
  generalize hreadings : step.reply.signalledAtMs = readings at hproceeds
  generalize hafter : step.after.inFlight = after at hproceeds
  have hnothing {a? : Option (SaveAcknowledgement ι)} (hnone : a? = none)
      (hreply : step.reply.acknowledgement? = a?) :
      ∀ a ∈ step.reply.acknowledgement?, directory.Emitted steps a := by simp [hreply, hnone]
  cases hproceeds with
  | stays =>
    refine ⟨allEmitted_snoc h.emitted (hnothing rfl hreply), fun pending hpending => ?_⟩
    rw [hsignals, signals_silent hreadings, List.append_nil]
    exact h.signalled pending (hafter ▸ hpending)
  | drops =>
    refine ⟨allEmitted_snoc h.emitted (hnothing rfl hreply), fun pending hpending => ?_⟩
    cases hafter.symm.trans hpending
  | sends next =>
    exact ⟨allEmitted_snoc h.emitted (hnothing rfl hreply), signalled_next hafter hreadings⟩
  | serves pending a hin hid hpicked =>
    refine ⟨allEmitted_snoc h.emitted ?_, fun pending hpending => ?_⟩
    · rw [hreply]
      exact fun _ ha => Option.some.inj ha ▸ h.emits hfresh hin hid hpicked
    · cases hafter.symm.trans hpending
  | follows pending next a hin hid hpicked =>
    refine ⟨allEmitted_snoc h.emitted ?_, signalled_next hafter hreadings⟩
    rw [hreply]
    exact fun _ ha => Option.some.inj ha ▸ h.emits hfresh hin hid hpicked

theorem start (config : Config) : directory.Tracks ([] : List (DirectoryStep ι W)) (.new config) where
  emitted   := fun before step hbefore => by simp at hbefore
  signalled := fun pending hpending => by cases hpending

end Tracks

-- In a run in which the directory always holds a fresh output, every output is emitted once, after
-- the signal for its request and after all outputs before.
theorem allEmitted_of_fresh (ports : Ports W) (directory : Directory W) (config : Config)
    (calls : List (Call ι × W))
    (hfresh : Machine.Each (observe ports directory) directory.Fresh [] (.new config) calls) :
    Machine.Always (observe ports directory) (fun steps _ => directory.AllEmitted steps) []
      (.new config) calls :=
  Machine.Each.always (I := directory.Tracks) (fun _ _ h => h.emitted)
    (fun _ _ _ h hcall => h.step hcall) (.start config) hfresh

section Demo

def replay (name : String) : Path :=
  [.rootDir, .normal "clips", .normal name]

-- One replay has been written two seconds in, and the other one a second later.
def demoDirectory : Directory FakeWorld where
  files _ w       := .ok w.outputs
  modifiedMs path := if path = replay "one.mp4" then 2000 else 3000

-- A request waits for another one, whose output is discovered as soon as it has been written.
def demoCalls (last : FakeWorld) : List (Call Nat × FakeWorld) :=
  [(.start, { clock := 0 }), (.requestSave 1 .manualFlag, { clock := 1000 }),
    (.requestSave 2 .manualFlag, { clock := 1500 }),
    (.discoverSave, { clock := 2000, outputs := [replay "one.mp4"] }), (.discoverSave, last)]

theorem allEmitted_of_fresh_demo :
    Machine.Always (observe fakePorts demoDirectory)
      (fun steps _ => demoDirectory.AllEmitted steps) [] (.new fakeConfig)
      (demoCalls { clock := 3000, outputs := [replay "one.mp4", replay "two.mp4"] }) :=
  allEmitted_of_fresh fakePorts demoDirectory fakeConfig _
    ⟨by decide +kernel, by decide +kernel, by decide +kernel, by decide +kernel, by decide +kernel,
      True.intro⟩

theorem allEmitted_fails_demo :
    ¬Machine.Always (observe fakePorts demoDirectory)
      (fun steps _ => demoDirectory.AllEmitted steps) [] (.new fakeConfig)
      (demoCalls { clock := 2001, outputs := [replay "one.mp4"] }) := by
  intro ⟨_, _, _, _, _, h⟩
  have hemitted := h (Machine.trace (observe fakePorts demoDirectory) (.new fakeConfig)
    ((demoCalls { clock := 2001, outputs := [replay "one.mp4"] }).take 4)) _ (List.prefix_refl _)
    ⟨replay "one.mp4", 2, .manualFlag, 2000, ⟨100, 1⟩⟩ (by decide +kernel)
  have honce := hemitted.once ⟨replay "one.mp4", 1, .manualFlag, 1000, ⟨100, 1⟩⟩ (by decide +kernel)
  exact honce rfl

end Demo

end Directory

end Capture
