import Mathlib.Data.List.Perm.Subperm
import OpenFrag.Library.Within
import OpenFrag.Shortcuts.Worker

open EStateM Machine

namespace Shortcuts

open ManualFlagService

def flags (calls : List PortCall) : Nat :=
  calls.count .flagged

def opened (calls : List PortCall) : List SessionHandle :=
  calls.filterMap fun | .opened session => some session | _ => none

def closed (calls : List PortCall) : List SessionHandle :=
  calls.filterMap fun | .closed session => some session | _ => none

section

variable {calls : List PortCall} {session : SessionHandle}

@[simp] theorem flags_opened : flags (.opened session :: calls) = flags calls := by simp [flags]

@[simp] theorem flags_closed : flags (.closed session :: calls) = flags calls := by simp [flags]

@[simp] theorem flags_flagged : flags (.flagged :: calls) = flags calls + 1 := by simp [flags]

@[simp] theorem opened_opened : opened (.opened session :: calls) = session :: opened calls := rfl

@[simp] theorem opened_closed : opened (.closed session :: calls) = opened calls := rfl

@[simp] theorem opened_flagged : opened (.flagged :: calls) = opened calls := rfl

@[simp] theorem closed_opened : closed (.opened session :: calls) = closed calls := rfl

@[simp] theorem closed_closed : closed (.closed session :: calls) = session :: closed calls := rfl

@[simp] theorem closed_flagged : closed (.flagged :: calls) = closed calls := rfl

end

-- What is seen of the portal: whether the shortcut is held, how often it was pressed, and the
-- sessions that were reported lost.
structure Observed where
  held    : Bool
  presses : Nat
  lost    : List SessionHandle
  deriving DecidableEq, Repr

def Observed.see (o : Observed) (current : Option SessionHandle)
    (signal : Except ShortcutDiagnostic PortalSignal) : Observed :=
  match signal with
  | .ok (.activated id) =>
    if id = MANUAL_FLAG_ID ∧ ¬o.held then { o with held := true, presses := o.presses + 1 } else o
  | .ok (.deactivated id) => if id = MANUAL_FLAG_ID then { o with held := false } else o
  | .ok .sessionLost | .ok .portalLost | .error .sessionLost =>
    { o with held := false, lost := current.toList ++ o.lost }
  | .error _ => o

structure Run where
  worker   : Worker
  observed : Observed
  deriving DecidableEq, Repr

def Run.first (ports : Ports) (preferredTrigger : Option String) : Run :=
  ⟨begin ports preferredTrigger, ⟨false, 0, []⟩⟩

def answer (t : Turn) (r : Run) : Unit × Run :=
  let observed :=
    match t with
    | .polled ports => r.observed.see r.worker.service.session ports.nextSignal
    | .stopped _    => r.observed
  ((), ⟨turn t r.worker, observed⟩)

-- Each press made one call of the sink, and no session that was opened is left behind.
structure Delivered (r : Run) : Prop where
  presses  : flags r.worker.service.calls = r.observed.presses
  sessions : (opened r.worker.service.calls).Subperm
    (r.worker.service.session.toList ++ r.observed.lost ++ closed r.worker.service.calls)

-- A portal that signals, opens and closes. What the sink and the store answer is left open.
structure Ports.Works (ports : Ports) : Prop where
  signal : ∀ error, ports.nextSignal = .error error → error = .sessionLost
  opens  : ∀ token shortcuts, ∃ session, ports.opens token shortcuts = .ok session
  closes : ∀ session, ports.close session = .ok ()

def Turn.Undisturbed (t : Turn) : Prop :=
  ∃ ports, t = .polled ports ∧ ports.Works

def Ports.Loses (ports : Ports) : Prop :=
  ports.nextSignal = .ok .sessionLost ∨ ports.nextSignal = .ok .portalLost ∨
    ports.nextSignal = .error .sessionLost

-- A press of the shortcut, which is not held yet.
def Turn.Presses (t : Turn) (r : Run) : Prop :=
  ∃ ports, t = .polled ports ∧ ports.nextSignal = .ok (.activated MANUAL_FLAG_ID) ∧
    r.observed.held = false

def Turn.Accepted (t : Turn) : Prop :=
  ∀ ports, t = .polled ports → ports.manualFlag = .ok ()

def request (preferredTrigger : Option String) : List ShortcutRequest :=
  [⟨MANUAL_FLAG_ID, MANUAL_FLAG_DESCRIPTION, preferredTrigger⟩]

-- A token that is new is saved.
def Ports.Saves (ports : Ports) (token : Option RestoreToken) (preferredTrigger : Option String) :
    Prop :=
  ∀ o, ports.opens token (request preferredTrigger) = .ok o → token ≠ some o.restoreToken →
    ports.save o.restoreToken = .ok ()

section

variable {ports : Ports} {token : Option RestoreToken} {service : ManualFlagService}
variable {o : OpenedSession} {e : ShortcutDiagnostic}

theorem saveToken_ok (h : token ≠ some o.restoreToken → ports.save o.restoreToken = .ok ()) :
    saveToken ports token o.restoreToken service = .ok () service := by
  unfold saveToken
  split
  case isTrue hne => rw [h hne]; rfl
  case isFalse => rfl

theorem saveToken_error (h : token ≠ some o.restoreToken) (he : ports.save o.restoreToken = .error e) :
    saveToken ports token o.restoreToken service = .error e service := by
  unfold saveToken
  rw [if_pos h, he]
  rfl

section

variable {α : Type} {question : Except ShortcutDiagnostic α} {a : α} {call : PortCall}

theorem asked_ok (h : question = .ok a) : asked question service = .ok a service := by
  rw [h]
  rfl

theorem asked_error (h : question = .error e) : asked question service = .error e service := by
  rw [h]
  rfl

theorem record_apply :
    record call service = .ok () { service with calls := call :: service.calls } := rfl

end

theorem open_ok (service : ManualFlagService)
    (h : ports.opens token (request service.preferredTrigger) = .ok o)
    (hsave : token ≠ some o.restoreToken → ports.save o.restoreToken = .ok ()) :
    open_ ports token service = .ok () { service with
      restoreToken := some o.restoreToken, session := some o.session,
      calls := .opened o.session :: service.calls } := by
  unfold request at h
  simp only [open_, bind_get, bind_ok (asked_ok h), bind_ok record_apply,
    bind_ok (saveToken_ok hsave), modify_apply]

theorem open_unsaved (service : ManualFlagService)
    (h : ports.opens token (request service.preferredTrigger) = .ok o)
    (hne : token ≠ some o.restoreToken) (he : ports.save o.restoreToken = .error e) :
    open_ ports token service = .error e { service with
      calls := .opened o.session :: service.calls } := by
  unfold request at h
  simp only [open_, bind_get, bind_ok (asked_ok h), bind_ok record_apply,
    bind_error (saveToken_error hne he)]

-- What a turn of the loop does to a service with a session, over a portal that works.
inductive Turned (ports : Ports) (service : ManualFlagService) (session : SessionHandle) :
    Worker → Prop
  | reconnected (o : OpenedSession) (loses : ports.Loses)
    (saves : ports.Saves service.restoreToken service.preferredTrigger) :
    Turned ports service session ⟨{ service with
      held := false, session := some o.session, restoreToken := some o.restoreToken,
      calls := .opened o.session :: service.calls }, .ready⟩
  | leaked (o : OpenedSession) (e : ShortcutDiagnostic) (loses : ports.Loses)
    (unsaved : ¬ports.Saves service.restoreToken service.preferredTrigger) :
    Turned ports service session ⟨{ service with
      held := false, session := none, calls := .opened o.session :: service.calls },
      .unavailable e⟩
  | flagged (pressed : ports.nextSignal = .ok (.activated MANUAL_FLAG_ID))
    (free : service.held = false) (accepted : ports.manualFlag = .ok ()) :
    Turned ports service session ⟨{ service with
      held := true, calls := .flagged :: service.calls }, .ready⟩
  | refused (e : ShortcutDiagnostic)
    (pressed : ports.nextSignal = .ok (.activated MANUAL_FLAG_ID))
    (free : service.held = false) (refused : ports.manualFlag = .error e) :
    Turned ports service session ⟨{ service with
      held := false, session := none, calls := .closed session :: .flagged :: service.calls },
      .unavailable e⟩
  | released (released : ports.nextSignal = .ok (.deactivated MANUAL_FLAG_ID)) :
    Turned ports service session ⟨{ service with held := false }, .ready⟩
  | repeated (pressed : ports.nextSignal = .ok (.activated MANUAL_FLAG_ID))
    (held : service.held = true) :
    Turned ports service session ⟨service, .ready⟩
  | foreign (id : String) (ne : id ≠ MANUAL_FLAG_ID)
    (signal : ports.nextSignal = .ok (.activated id) ∨ ports.nextSignal = .ok (.deactivated id)) :
    Turned ports service session ⟨service, .ready⟩

theorem conclude_unavailable (service : ManualFlagService) {session : Option SessionHandle}
    (hworks : ports.Works)
    (h : service.session = session) :
    conclude ports (some e) service = ⟨{ service with
      held := false, session := none,
      calls := session.toList.map .closed ++ service.calls }, .unavailable e⟩ := by
  have hshutdown : shutdown ports service = .ok () { service with
      held := false, session := none,
      calls := session.toList.map .closed ++ service.calls } := by
    rw [shutdown, bind_get, bind_ok modify_apply, h]
    cases session
    case none => rfl
    case some session => exact bind_ok (asked_ok (hworks.closes session))
  rw [conclude, hshutdown]
  rfl

theorem poll_lost (h : ports.Loses) (hs : service.session.isSome) :
    poll ports service = reconnect ports service := by
  have ⟨session, hs⟩ := Option.isSome_iff_exists.mp hs
  rw [poll, bind_get, hs]
  rcases h with h | h | h
  all_goals simp only [h, handle]

theorem poll_signal {signal : PortalSignal} (h : ports.nextSignal = .ok signal)
    (hs : service.session.isSome) : poll ports service = handle ports signal service := by
  have ⟨session, hs⟩ := Option.isSome_iff_exists.mp hs
  simp only [poll, bind_get, hs, h]

theorem turn_lost {session : SessionHandle} (hworks : ports.Works)
    (hs : service.session = some session) (h : ports.Loses) :
    Turned ports service session (turn (.polled ports) ⟨service, .ready⟩) := by
  obtain ⟨o, ho⟩ := hworks.opens service.restoreToken (request service.preferredTrigger)
  have hpoll := poll_lost h (Option.isSome_iff_exists.mpr ⟨session, hs⟩)
  simp only [turn, ne_eq, not_true_eq_false, if_false, hpoll]
  by_cases hsaves : ports.Saves service.restoreToken service.preferredTrigger
  case pos =>
    have hopen := open_ok { service with held := false, session := none } ho
      (hsaves o ho)
    rw [reconnect, bind_ok modify_apply, bind_get, bind_ok hopen]
    exact .reconnected o h hsaves
  case neg =>
    obtain ⟨hne, e, he⟩ : service.restoreToken ≠ some o.restoreToken ∧
        ∃ e, ports.save o.restoreToken = .error e := by
      simp only [Ports.Saves, not_forall] at hsaves
      obtain ⟨o', ho', hne, hsave⟩ := hsaves
      cases ho.symm.trans ho'
      cases hsaved : ports.save o.restoreToken
      case ok => exact absurd hsaved hsave
      case error e => exact ⟨hne, e, rfl⟩
    have hopen := open_unsaved { service with held := false, session := none } ho hne he
    rw [reconnect, bind_ok modify_apply, bind_get, bind_error hopen]
    change Turned ports service session (conclude ports (some e) { service with
      held := false, session := none, calls := .opened o.session :: service.calls })
    rw [conclude_unavailable _ hworks rfl]
    exact .leaked o e h hsaves

theorem activated_held (h : service.held = true) :
    activated ports service = .ok .ignored service := by
  rw [activated, bind_get, if_pos h]
  rfl

theorem activated_flagged (h : service.held = false) (hflag : ports.manualFlag = .ok ()) :
    activated ports service = .ok .flagged { service with
      held := true, calls := .flagged :: service.calls } := by
  rw [activated, bind_get, if_neg (by simp [h]), bind_ok record_apply, bind_ok (asked_ok hflag),
    bind_ok modify_apply]
  rfl

theorem activated_refused (h : service.held = false) (hflag : ports.manualFlag = .error e) :
    activated ports service = .error e { service with calls := .flagged :: service.calls } := by
  rw [activated, bind_get, if_neg (by simp [h]), bind_ok record_apply,
    bind_error (asked_error hflag)]

theorem deactivated_eq (service : ManualFlagService) :
    ∃ outcome, deactivated service = .ok outcome { service with held := false } := by
  rw [deactivated, bind_get]
  cases h : service.held
  case true =>
    refine ⟨.released, ?_⟩
    rw [if_pos rfl, bind_ok modify_apply]
    rfl
  case false =>
    refine ⟨.ignored, ?_⟩
    rw [if_neg (by simp), ← h]
    rfl

theorem turn_pressed {session : SessionHandle} (hworks : ports.Works)
    (hs : service.session = some session)
    (h : ports.nextSignal = .ok (.activated MANUAL_FLAG_ID)) :
    Turned ports service session (turn (.polled ports) ⟨service, .ready⟩) := by
  have hpoll := poll_signal h (Option.isSome_iff_exists.mpr ⟨session, hs⟩)
  simp only [turn, ne_eq, not_true_eq_false, if_false, hpoll, handle, if_true]
  cases hheld : service.held
  case true =>
    rw [activated_held hheld]
    exact .repeated h hheld
  case false =>
    cases hflag : ports.manualFlag
    case ok =>
      rw [activated_flagged hheld hflag]
      exact .flagged h hheld hflag
    case error e =>
      rw [activated_refused hheld hflag]
      have hconclude := conclude_unavailable (e := e)
        { service with calls := .flagged :: service.calls } hworks hs
      simp only [hconclude]
      exact .refused e h hheld hflag

theorem turn_released {session : SessionHandle} (hs : service.session = some session)
    (h : ports.nextSignal = .ok (.deactivated MANUAL_FLAG_ID)) :
    Turned ports service session (turn (.polled ports) ⟨service, .ready⟩) := by
  have hpoll := poll_signal h (Option.isSome_iff_exists.mpr ⟨session, hs⟩)
  have ⟨outcome, hdeactivated⟩ := deactivated_eq service
  simp only [turn, ne_eq, not_true_eq_false, if_false, hpoll, handle, if_true, hdeactivated]
  exact .released h

theorem turn_turned {session : SessionHandle} (hworks : ports.Works)
    (hs : service.session = some session) :
    Turned ports service session (turn (.polled ports) ⟨service, .ready⟩) := by
  have hsome := Option.isSome_iff_exists.mpr ⟨session, hs⟩
  have hforeign : ∀ id, id ≠ MANUAL_FLAG_ID → (ports.nextSignal = .ok (.activated id) ∨
      ports.nextSignal = .ok (.deactivated id)) →
      Turned ports service session (turn (.polled ports) ⟨service, .ready⟩) := by
    intro id hne h
    have hpoll : poll ports service = .ok .ignored service := by
      rcases h with h | h <;> rw [poll_signal h hsome] <;> simp only [handle, hne, if_false] <;> rfl
    simp only [turn, ne_eq, not_true_eq_false, if_false, hpoll]
    exact .foreign id hne h
  cases h : ports.nextSignal
  case error e =>
    have he := hworks.signal e h
    exact turn_lost hworks hs (.inr (.inr (he ▸ h)))
  case ok signal =>
    cases signal
    case sessionLost => exact turn_lost hworks hs (.inl h)
    case portalLost => exact turn_lost hworks hs (.inr (.inl h))
    case activated id =>
      by_cases hid : id = MANUAL_FLAG_ID
      case pos => exact turn_pressed hworks hs (hid ▸ h)
      case neg => exact hforeign id hid (.inl h)
    case deactivated id =>
      by_cases hid : id = MANUAL_FLAG_ID
      case pos => exact turn_released hs (hid ▸ h)
      case neg => exact hforeign id hid (.inr h)

end

-- The start loaded a token, and the sink has accepted every press.
def Answered (start : Ports) (steps : List (Step Turn Unit Run)) : Prop :=
  (∃ token, start.load = .ok token) ∧
    ∀ step ∈ steps, step.call.Presses step.before → step.call.Accepted

-- When a turn goes well: a token that is new is saved, and no press follows one that failed.
structure Serves (start : Ports) (steps : List (Step Turn Unit Run)) (r : Run) (t : Turn) :
    Prop where
  saved : ∀ ports, t = .polled ports → ports.Loses → r.worker.status = .ready →
    ports.Saves r.worker.service.restoreToken r.worker.service.preferredTrigger
  heard : t.Presses r → Answered start steps

structure Polling (start : Ports) (steps : List (Step Turn Unit Run)) (r : Run) : Prop where
  ready    : r.worker.status = .ready
  answered : Answered start steps
  held     : r.worker.service.held = r.observed.held
  session  : ∃ session, r.worker.service.session = some session

structure Ended (start : Ports) (steps : List (Step Turn Unit Run)) (r : Run) : Prop where
  ended   : r.worker.status ≠ .ready
  failed  : ¬Answered start steps
  session : r.worker.service.session = none

-- Each session that was opened is the current one, or was lost or closed once.
structure Sound (start : Ports) (steps : List (Step Turn Unit Run)) (r : Run) : Prop where
  presses  : flags r.worker.service.calls = r.observed.presses
  sessions : (opened r.worker.service.calls).Perm
    (r.worker.service.session.toList ++ r.observed.lost ++ closed r.worker.service.calls)
  phase    : Polling start steps r ∨ Ended start steps r

theorem Sound.delivered {start : Ports} {steps : List (Step Turn Unit Run)} {r : Run}
    (h : Sound start steps r) : Delivered r :=
  ⟨h.presses, h.sessions.subperm⟩

theorem Answered.snoc {start : Ports} {steps : List (Step Turn Unit Run)}
    {step : Step Turn Unit Run} (h : Answered start steps)
    (hstep : step.call.Presses step.before → step.call.Accepted) :
    Answered start (steps ++ [step]) := by
  refine ⟨h.1, fun s hs => ?_⟩
  rcases List.mem_append.mp hs with hs | hs
  case inl => exact h.2 s hs
  case inr =>
    cases List.mem_singleton.mp hs
    exact hstep

theorem Answered.init {start : Ports} {steps steps' : List (Step Turn Unit Run)}
    (h : Answered start (steps ++ steps')) : Answered start steps :=
  ⟨h.1, fun s hs => h.2 s (List.mem_append_left steps' hs)⟩

section

variable {start ports : Ports} {steps : List (Step Turn Unit Run)} {r : Run} {o : Observed}
variable {service : ManualFlagService} {session : SessionHandle} {current : Option SessionHandle}

theorem see_lost (h : ports.Loses) :
    o.see current ports.nextSignal = { o with held := false, lost := current.toList ++ o.lost } := by
  rcases h with h | h | h <;> simp [Observed.see, h]

theorem Ports.Loses.not_signal (h : ports.Loses) {id : String} :
    ports.nextSignal ≠ .ok (.activated id) ∧ ports.nextSignal ≠ .ok (.deactivated id) := by
  rcases h with h | h | h <;> simp [h]

-- A step without a press.
theorem not_presses (h : ports.nextSignal ≠ .ok (.activated MANUAL_FLAG_ID)) :
    ¬(Turn.polled ports).Presses r := by
  intro ⟨ports', heq, hpressed, _⟩
  cases heq
  exact h hpressed

theorem Polling.snoc (h : Polling start steps r) {step : Step Turn Unit Run} {worker : Worker}
    {o : Observed} (hready : worker.status = .ready) (hheld : worker.service.held = o.held)
    (hsession : ∃ session, worker.service.session = some session)
    (hstep : step.call.Presses step.before → step.call.Accepted) :
    Polling start (steps ++ [step]) ⟨worker, o⟩ :=
  ⟨hready, h.answered.snoc hstep, hheld, hsession⟩

theorem sound_turned {worker : Worker} {s : Step Turn Unit Run}
    (h : Sound start steps ⟨⟨service, .ready⟩, o⟩)
    (hp : Polling start steps ⟨⟨service, .ready⟩, o⟩) (hsession : service.session = some session)
    (hsaved : ports.Loses → ports.Saves service.restoreToken service.preferredTrigger)
    (hcall : s.call = .polled ports) (hbefore : s.before = ⟨⟨service, .ready⟩, o⟩)
    (hturned : Turned ports service session worker) :
    Sound start (steps ++ [s]) ⟨worker, o.see (some session) ports.nextSignal⟩ := by
  have hpresses : flags service.calls = o.presses := h.presses
  have hsessions : (opened service.calls).Perm ([session] ++ o.lost ++ closed service.calls) := by
    have := h.sessions
    rwa [hsession] at this
  have hheld : service.held = o.held := hp.held
  have hquiet : ports.nextSignal ≠ .ok (.activated MANUAL_FLAG_ID) →
      s.call.Presses s.before → s.call.Accepted := by
    rw [hcall]
    exact fun hne hpress => absurd hpress (not_presses hne)
  cases hturned
  case reconnected o' hloses _ =>
    rw [see_lost hloses]
    refine ⟨by simpa using hpresses, ?_,
      .inl (hp.snoc rfl rfl ⟨_, rfl⟩ (hquiet hloses.not_signal.1))⟩
    simpa using hsessions
  case leaked _ _ hloses hunsaved => exact absurd (hsaved hloses) hunsaved
  case flagged hpressed hfree haccepted =>
    have hsee : o.see (some session) ports.nextSignal =
        { o with held := true, presses := o.presses + 1 } := by
      simp [Observed.see, hpressed, ← hheld, hfree]
    rw [hsee]
    refine ⟨by simpa using hpresses, ?_, .inl (hp.snoc rfl rfl ⟨session, hsession⟩ ?_)⟩
    · simpa [hsession] using hsessions
    · rw [hcall]
      intro _ ports' heq
      cases heq
      exact haccepted
  case refused e hpressed hfree hrefused =>
    have hsee : o.see (some session) ports.nextSignal =
        { o with held := true, presses := o.presses + 1 } := by
      simp [Observed.see, hpressed, ← hheld, hfree]
    rw [hsee]
    refine ⟨by simpa using hpresses, ?_, .inr ⟨by simp, fun hanswered => ?_, rfl⟩⟩
    · simpa using hsessions.trans List.perm_middle.symm
    · have haccepted := hanswered.2 s (by simp) ⟨ports, hcall, hpressed, ?_⟩ ports hcall
      · cases haccepted.symm.trans hrefused
      · rw [hbefore]
        exact hheld.symm.trans hfree
  case released hreleased =>
    have hsee : o.see (some session) ports.nextSignal = { o with held := false } := by
      simp [Observed.see, hreleased]
    rw [hsee]
    refine ⟨hpresses, ?_, .inl (hp.snoc rfl rfl ⟨session, hsession⟩ (hquiet (by simp [hreleased])))⟩
    simpa [hsession] using hsessions
  case repeated hpressed hholds =>
    have hsee : o.see (some session) ports.nextSignal = o := by
      simp [Observed.see, hpressed, ← hheld, hholds]
    rw [hsee]
    refine ⟨hpresses, h.sessions, .inl (hp.snoc rfl hheld ⟨session, hsession⟩ ?_)⟩
    rw [hcall, hbefore]
    intro ⟨_, _, _, hfree⟩
    cases hholds.symm.trans (hheld.trans hfree)
  case foreign id hne hsignal =>
    have hsee : o.see (some session) ports.nextSignal = o := by
      rcases hsignal with hsignal | hsignal <;> simp [Observed.see, hsignal, hne]
    rw [hsee]
    refine ⟨hpresses, h.sessions, .inl (hp.snoc rfl hheld ⟨session, hsession⟩ (hquiet ?_))⟩
    rcases hsignal with hsignal | hsignal <;> simp [hsignal, hne]

theorem see_none (ports : Ports) (o : Observed) : (o.see none ports.nextSignal).lost = o.lost ∧
    (o.see none ports.nextSignal).presses = o.presses +
      if ports.nextSignal = .ok (.activated MANUAL_FLAG_ID) ∧ o.held = false then 1 else 0 := by
  cases h : ports.nextSignal
  case error e => cases e <;> simp [Observed.see]
  case ok signal =>
    cases signal
    case activated id => by_cases hid : id = MANUAL_FLAG_ID <;> cases hheld : o.held <;>
      simp [Observed.see, hid, hheld]
    case deactivated id => by_cases hid : id = MANUAL_FLAG_ID <;> simp [Observed.see, hid]
    case sessionLost | portalLost => simp [Observed.see]

theorem sound_ended {s : Step Turn Unit Run} (h : Sound start steps r) (he : Ended start steps r)
    (hquiet : ¬(Turn.polled ports).Presses r) :
    Sound start (steps ++ [s]) ⟨r.worker, r.observed.see r.worker.service.session ports.nextSignal⟩ := by
  have ⟨hlost, hpresses⟩ := see_none ports r.observed
  rw [if_neg fun hpress => hquiet ⟨ports, rfl, hpress⟩, Nat.add_zero] at hpresses
  rw [he.session]
  refine ⟨hpresses ▸ h.presses, hlost ▸ h.sessions, .inr ⟨he.ended, ?_, he.session⟩⟩
  exact fun hanswered => he.failed hanswered.init

theorem turn_ended (h : r.worker.status ≠ .ready) (t : Turn) : turn t r.worker = r.worker := by
  unfold turn
  rw [if_pos h]

theorem Sound.step {t : Turn} (h : Sound start steps r) (ht : t.Undisturbed)
    (hserves : Serves start steps r t) :
    Sound start (steps ++ [Machine.step answer r t]) (Machine.step answer r t).after := by
  have ⟨ports, hpolled, hworks⟩ := ht
  subst hpolled
  rcases h.phase with hp | he
  case inl =>
    obtain ⟨⟨service, status⟩, o⟩ := r
    have hready : status = .ready := hp.ready
    subst hready
    have ⟨session, hsession⟩ := hp.session
    have hsession : service.session = some session := hsession
    have hturned := turn_turned hworks hsession
    have hafter : (Machine.step answer ⟨⟨service, .ready⟩, o⟩ (.polled ports)).after =
        ⟨turn (.polled ports) ⟨service, .ready⟩, o.see (some session) ports.nextSignal⟩ := by
      simp [Machine.step, answer, hsession]
    rw [hafter]
    exact sound_turned h hp hsession (fun hloses => hserves.saved ports rfl hloses rfl) rfl rfl hturned
  case inr =>
    have hafter : (Machine.step answer r (.polled ports)).after =
        ⟨r.worker, r.observed.see r.worker.service.session ports.nextSignal⟩ := by
      simp [Machine.step, answer, turn_ended he.ended]
    rw [hafter]
    exact sound_ended h he fun hpress => he.failed (hserves.heard hpress)

-- A session whose token was not saved is left behind, and a press is lost where the loop has ended.
theorem Sound.serves {t : Turn} (h : Sound start steps r) (ht : t.Undisturbed)
    (hafter : Delivered (Machine.step answer r t).after) : Serves start steps r t := by
  have ⟨ports, hpolled, hworks⟩ := ht
  subst hpolled
  rcases h.phase with hp | he
  case inl =>
    refine ⟨fun ports' heq hloses _ => ?_, fun _ => hp.answered⟩
    cases heq
    obtain ⟨⟨service, status⟩, o⟩ := r
    have hready : status = .ready := hp.ready
    subst hready
    have ⟨session, hsession⟩ := hp.session
    have hsession : service.session = some session := hsession
    have hturned := turn_turned hworks hsession
    have hopened : (opened service.calls).length =
        o.lost.length + (closed service.calls).length + 1 := by
      have := h.sessions.length_eq
      simpa [hsession, Nat.add_assoc] using this
    have hsessions := hafter.sessions.length_le
    simp only [Machine.step, answer, hsession, see_lost hloses] at hsessions
    generalize turn (.polled ports) ⟨service, .ready⟩ = worker at hturned hsessions
    cases hturned
    case reconnected hsaves => exact hsaves
    case leaked =>
      simp only [opened_opened, closed_opened, List.length_cons, List.length_append,
        Option.toList_none, Option.toList_some, List.length_nil] at hsessions
      omega
    case flagged hpressed _ _ | refused hpressed _ _ | repeated hpressed _ =>
      exact absurd hpressed hloses.not_signal.1
    case released hreleased => exact absurd hreleased hloses.not_signal.2
    case foreign hsignal =>
      rcases hsignal with hsignal | hsignal
      · exact absurd hsignal hloses.not_signal.1
      · exact absurd hsignal hloses.not_signal.2
  case inr =>
    refine ⟨fun _ _ _ hready => absurd hready he.ended, fun ⟨ports', heq, hpressed, hfree⟩ => ?_⟩
    cases heq
    have hpresses := hafter.presses
    have ⟨_, hseen⟩ := see_none ports r.observed
    rw [if_pos ⟨hpressed, hfree⟩] at hseen
    simp only [Machine.step, answer, turn_ended he.ended, he.session, hseen, h.presses] at hpresses
    omega

variable {preferredTrigger : Option String}

-- The start saves the token of the session that it opens.
def Ports.Begins (start : Ports) (preferredTrigger : Option String) : Prop :=
  ∀ token, start.load = .ok token → start.Saves token preferredTrigger

theorem start_unloaded {e : ShortcutDiagnostic} (h : start.load = .error e) :
    ManualFlagService.start start (.new preferredTrigger) = .error e (.new preferredTrigger) := by
  have hsession : (new preferredTrigger).session = none := rfl
  rw [ManualFlagService.start, bind_get, hsession]
  exact bind_error (asked_error h)

theorem start_loaded {token : Option RestoreToken} (h : start.load = .ok token) :
    ManualFlagService.start start (.new preferredTrigger) =
      open_ start token (.new preferredTrigger) := by
  have hsession : (new preferredTrigger).session = none := rfl
  rw [ManualFlagService.start, bind_get, hsession]
  exact bind_ok (asked_ok h)

theorem sound_first (hstart : start.Works) (h : start.Begins preferredTrigger) :
    Sound start [] (Run.first start preferredTrigger) := by
  unfold Run.first begin
  cases hload : start.load
  case error e =>
    rw [start_unloaded hload]
    refine ⟨rfl, .refl _, .inr ⟨by simp, fun hanswered => ?_, rfl⟩⟩
    have ⟨_, hloaded⟩ := hanswered.1
    cases hload.symm.trans hloaded
  case ok token =>
    have ⟨o, ho⟩ := hstart.opens token (request preferredTrigger)
    have hopen := open_ok (.new preferredTrigger) ho (h token hload o ho)
    rw [start_loaded hload, hopen]
    exact ⟨rfl, .refl _, .inl ⟨rfl, ⟨⟨token, hload⟩, by simp⟩, rfl, _, rfl⟩⟩

theorem begins_of_delivered (h : Delivered (Run.first start preferredTrigger)) :
    start.Begins preferredTrigger := by
  intro token hload o ho hne
  cases hsave : start.save o.restoreToken
  case ok => rfl
  case error e =>
    have hopen := open_unsaved (.new preferredTrigger) ho hne hsave
    have hlength := h.sessions.length_le
    simp only [Run.first, begin, start_loaded hload, hopen] at hlength
    simp [new, opened, closed] at hlength

-- Over a portal that works, every press makes one call of the sink and no session is left behind as
-- long as no press follows one that failed and every new token is saved.
theorem delivered_iff (hstart : start.Works) {turns : List Turn}
    (hturns : ∀ t ∈ turns, t.Undisturbed) :
    Always answer (fun _ => Delivered) [] (Run.first start preferredTrigger) turns ↔
      start.Begins preferredTrigger ∧
        Each answer (Serves start) [] (Run.first start preferredTrigger) turns := by
  have hiff : start.Begins preferredTrigger →
      (Always answer (fun _ => Delivered) [] (Run.first start preferredTrigger) turns ↔
        Each answer (Serves start) [] (Run.first start preferredTrigger) turns) := by
    intro hbegins
    have hfair : Each answer (fun _ _ t => t.Undisturbed) []
        (Run.first start preferredTrigger) turns := Each.of_forall hturns
    refine always_iff_each (I := Sound start) ?hI ?hstep ?hfine ?hs hfair
    case hI => exact fun _ _ h => h.delivered
    case hstep => exact fun _ _ _ h ht hserves => h.step ht hserves
    case hfine => exact fun _ _ _ h ht hafter => h.serves ht hafter
    case hs => exact sound_first hstart hbegins
  constructor
  case mp =>
    intro h
    have hbegins := begins_of_delivered h.first
    exact ⟨hbegins, (hiff hbegins).mp h⟩
  case mpr => exact fun ⟨hbegins, h⟩ => (hiff hbegins).mpr h

end

-- The ports of a turn in which the portal sends a signal and the sink answers.
def signalled (signal : PortalSignal) (manualFlag : Except ShortcutDiagnostic Unit) : Ports where
  opens _ _  := .ok ⟨"session-1", "restore-1"⟩
  nextSignal := .ok signal
  close _    := .ok ()
  manualFlag
  load       := .ok none
  save _     := .ok ()

theorem signalled_works (signal : PortalSignal) (manualFlag : Except ShortcutDiagnostic Unit) :
    (signalled signal manualFlag).Works :=
  ⟨fun _ => nofun, fun _ _ => ⟨_, rfl⟩, fun _ => rfl⟩

-- The recorder is down at the first press, and is back at the second.
def recoveryTurns : List Turn := [
  .polled (signalled (.activated MANUAL_FLAG_ID) (.error (.sink "recorder"))),
  .polled (signalled (.deactivated MANUAL_FLAG_ID) (.ok ())),
  .polled (signalled (.activated MANUAL_FLAG_ID) (.ok ()))]

theorem recoveryTurns_undisturbed : ∀ t ∈ recoveryTurns, t.Undisturbed := by
  intro t ht
  simp only [recoveryTurns, List.mem_cons, List.not_mem_nil, or_false] at ht
  rcases ht with rfl | rfl | rfl <;> exact ⟨_, rfl, signalled_works _ _⟩

theorem delivered_fails_recovery :
    ¬∀ (start : Ports) (preferredTrigger : Option String) (turns : List Turn), start.Works →
      (∀ t ∈ turns, t.Undisturbed) →
      Always answer (fun _ => Delivered) [] (Run.first start preferredTrigger) turns := by
  intro h
  have hstart := signalled_works .sessionLost (.ok ())
  have ⟨_, _, _, hlast⟩ := h _ none recoveryTurns hstart recoveryTurns_undisturbed
  have hpresses := hlast.presses
  revert hpresses
  decide +kernel

theorem delivered_iff_recovery :
    Always answer (fun _ => Delivered) [] (Run.first (signalled .sessionLost (.ok ())) none)
        recoveryTurns ↔
      (signalled .sessionLost (.ok ())).Begins none ∧
        Each answer (Serves (signalled .sessionLost (.ok ()))) []
          (Run.first (signalled .sessionLost (.ok ())) none) recoveryTurns :=
  delivered_iff (signalled_works _ _) recoveryTurns_undisturbed

end Shortcuts
