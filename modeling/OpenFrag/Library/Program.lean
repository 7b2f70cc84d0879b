import Mathlib.Logic.Basic

-- Programs over a state, whose steps may fail on their own or be stopped from outside. Unlike a
-- transaction, a program that stops keeps what its steps have done.
namespace Program

inductive Moment
  | before
  | after
  deriving DecidableEq, Repr

-- A step is stopped before or after it takes effect: it reports an error, or the process ends.
structure Fault (κ : Type) where
  step   : κ
  moment : Moment
  crash  : Bool
  deriving DecidableEq, Repr

inductive Stop (κ ε : Type)
  | failed (error : ε)
  | interrupted (fault : Fault κ)
  deriving DecidableEq, Repr

end Program

open Program

abbrev Program (κ σ ε : Type) := EStateM (Stop κ ε) σ

namespace Program

variable {κ σ ε α β : Type}

def fail (error : ε) : Program κ σ ε α := throw (.failed error)

-- An operation that leaves the state as it is when it fails.
def atomic (op : σ → Except ε (α × σ)) : Program κ σ ε α := fun s =>
  match op s with
  | .ok (a, s') => .ok a s'
  | .error e    => .error (.failed e) s

variable [DecidableEq κ]

def guarded (plan : Option (Fault κ)) (step : κ) (x : Program κ σ ε α) : Program κ σ ε α :=
  match plan.filter (·.step = step) with
  | none => x
  | some fault =>
    match fault.moment with
    | .before => throw (.interrupted fault)
    | .after  => do let _ ← x; throw (.interrupted fault)

def call (plan : Option (Fault κ)) (step : κ) (op : σ → Except ε (α × σ)) : Program κ σ ε α :=
  guarded plan step (atomic op)

omit [DecidableEq κ] in
-- A loop over a list, whose body knows the index of its element.
def forEach (f : Nat → α → Program κ σ ε Unit) : Nat → List α → Program κ σ ε Unit
  | _, []      => pure ()
  | i, a :: as => do f i a; forEach f (i + 1) as

end Program

namespace Program

variable {κ σ τ ε α β : Type}

def stop? : EStateM.Result (Stop κ ε) σ α → Option (Stop κ ε)
  | .ok _ _       => none
  | .error stop _ => some stop

def final : EStateM.Result (Stop κ ε) σ α → σ
  | .ok _ s    => s
  | .error _ s => s

theorem eq_error_of_stop? {result : EStateM.Result (Stop κ ε) σ α} {stop : Stop κ ε}
    (h : stop? result = some stop) : result = .error stop (final result) := by
  cases result
  case ok => cases h
  case error =>
    cases h
    rfl

-- From a state in `P` a program returns to a state in `Q` when it is `good`, and fails when it is
-- not; where the plan of faults stops it, the state is in `R`. The conditions are about a view of
-- the state.
def Settles (plan : Option (Fault κ)) (view : σ → τ) (good : Prop) (P : τ → Prop)
    (x : Program κ σ ε α) (Q : α → τ → Prop) (R : κ → Moment → τ → Prop) : Prop :=
  ∀ s, P (view s) → match x s with
    | .ok a s'                     => good ∧ Q a (view s')
    | .error (.failed _) _         => ¬good
    | .error (.interrupted f) s'   => plan = some f ∧ R f.step f.moment (view s')

namespace Settles

variable {plan : Option (Fault κ)} {view : σ → τ} {good good' : Prop} {P P' : τ → Prop}
variable {x : Program κ σ ε α} {Q Q' : α → τ → Prop} {R : κ → Moment → τ → Prop}
variable {f : α → Program κ σ ε β} {S : β → τ → Prop}

theorem pure {a : α} (h : ∀ t, P t → Q a t) :
    Settles plan view True P (pure a : Program κ σ ε α) Q R :=
  fun s hs => ⟨trivial, h (view s) hs⟩

theorem fail {error : ε} (h : ∀ t, P t → ¬good) :
    Settles plan view good P (Program.fail error : Program κ σ ε α) Q R :=
  fun s hs => h (view s) hs

theorem bind (hx : Settles plan view good P x Q R)
    (hf : ∀ a, Settles plan view good' (Q a) (f a) S R) :
    Settles plan view (good ∧ good') P (x >>= f) S R := by
  intro s hs
  have h := hx s hs
  simp only [Bind.bind, EStateM.bind]
  rcases hxs : x s with ⟨a, s'⟩ | ⟨stop, s'⟩ <;> simp only [hxs] at h ⊢
  case ok =>
    have h' := hf a s' h.2
    rcases hfs : f a s' with ⟨b, t⟩ | ⟨stop, t⟩ <;> simp only [hfs] at h' ⊢
    case ok => exact ⟨⟨h.1, h'.1⟩, h'.2⟩
    case error =>
      cases stop
      case failed => exact fun hgood => h' hgood.2
      case interrupted => exact h'
  case error =>
    cases stop
    case failed => exact fun hgood => h hgood.1
    case interrupted => exact h

theorem mono (hx : Settles plan view good P x Q R) (hgood : good ↔ good')
    (hP : ∀ t, P' t → P t) (hQ : ∀ a t, Q a t → Q' a t) :
    Settles plan view good' P' x Q' R := by
  intro s hs
  have h := hx s (hP (view s) hs)
  rcases hxs : x s with ⟨a, s'⟩ | ⟨stop, s'⟩ <;> simp only [hxs, hgood] at h ⊢
  case ok => exact ⟨h.1, hQ a (view s') h.2⟩
  case error => cases stop <;> exact h

theorem pre (hx : Settles plan view good P x Q R) (hP : ∀ t, P' t → P t) :
    Settles plan view good P' x Q R :=
  hx.mono Iff.rfl hP (fun _ _ h => h)

-- Another program that does the same from these states.
theorem of_run {y : Program κ σ ε α} (hx : Settles plan view good P x Q R)
    (h : ∀ s, P (view s) → y s = x s) : Settles plan view good P y Q R :=
  fun s hs => h s hs ▸ hx s hs

theorem stops {R' : κ → Moment → τ → Prop} (hx : Settles plan view good P x Q R)
    (hR : ∀ k m t, R k m t → R' k m t) : Settles plan view good P x Q R' := by
  intro s hs
  have h := hx s hs
  rcases hxs : x s with ⟨a, s'⟩ | ⟨stop, s'⟩ <;> simp only [hxs] at h ⊢
  case ok => exact h
  case error =>
    cases stop
    case failed => exact h
    case interrupted f => exact ⟨h.1, hR f.step f.moment (view s') h.2⟩

theorem congr (hgood : good ↔ good') (hx : Settles plan view good P x Q R) :
    Settles plan view good' P x Q R :=
  hx.mono hgood (fun _ h => h) (fun _ _ h => h)

-- A first part that never fails on its own.
theorem seq (hx : Settles plan view True P x Q R)
    (hf : ∀ a, Settles plan view good (Q a) (f a) S R) :
    Settles plan view good P (x >>= f) S R :=
  (hx.bind hf).congr (iff_of_eq (true_and good))

-- A last part that never fails on its own.
theorem bind_last (hx : Settles plan view good P x Q R)
    (hf : ∀ a, Settles plan view True (Q a) (f a) S R) :
    Settles plan view good P (x >>= f) S R :=
  (hx.bind hf).congr (iff_of_eq (and_true good))

theorem map {g : α → β} (hx : Settles plan view good P x Q R) (hS : ∀ a t, Q a t → S (g a) t) :
    Settles plan view good P (do return g (← x)) S R :=
  hx.bind_last fun a => pure (hS a)

-- A precondition that does not depend on the state.
theorem assume {p : Prop} (h : p → Settles plan view good P x Q R) :
    Settles plan view good (fun t => p ∧ P t) x Q R :=
  fun s hs => h hs.1 s hs.2

-- It is enough to start from each view on its own.
theorem of_eq (h : ∀ t, P t → Settles plan view good (· = t) x Q R) :
    Settles plan view good P x Q R :=
  fun s hs => h (view s) hs s rfl

theorem atomic {op : σ → Except ε (α × σ)} (hgood : ∀ s, P (view s) → (good ↔ ∃ r, op s = .ok r))
    (hQ : ∀ s a s', P (view s) → op s = .ok (a, s') → Q a (view s')) :
    Settles plan view good P (Program.atomic op : Program κ σ ε α) Q R := by
  intro s hs
  unfold Program.atomic
  rcases hop : op s with e | ⟨a, s'⟩
  case error => simp [hgood s hs, hop]
  case ok => exact ⟨(hgood s hs).mpr ⟨_, hop⟩, hQ s a s' hs hop⟩

variable [DecidableEq κ]

theorem guarded {step : κ} (hx : Settles plan view good P x Q R)
    (before : ∀ t, P t → R step .before t) (after : ∀ a t, Q a t → R step .after t) :
    Settles plan view good P (Program.guarded plan step x) Q R := by
  unfold Program.guarded
  split
  case h_1 => exact hx
  case h_2 fault hfault =>
    have ⟨hplan, hstep⟩ := Option.filter_eq_some_iff.mp hfault
    have hstep := of_decide_eq_true hstep
    subst hstep
    intro s hs
    cases hm : fault.moment
    case before => exact ⟨hplan, hm ▸ before (view s) hs⟩
    case after =>
      have h := hx s hs
      simp only [Bind.bind, EStateM.bind]
      rcases hxs : x s with ⟨a, s'⟩ | ⟨stop, s'⟩ <;> simp only [hxs] at h ⊢
      case ok => exact ⟨hplan, hm ▸ after a (view s') h.2⟩
      case error => cases stop <;> exact h

theorem call {step : κ} {op : σ → Except ε (α × σ)}
    (hgood : ∀ s, P (view s) → (good ↔ ∃ r, op s = .ok r))
    (hQ : ∀ s a s', P (view s) → op s = .ok (a, s') → Q a (view s'))
    (before : ∀ t, P t → R step .before t) (after : ∀ a t, Q a t → R step .after t) :
    Settles plan view good P (Program.call plan step op) Q R :=
  (atomic hgood hQ).guarded before after

omit [DecidableEq κ] in
-- A loop is good when each of its elements is, after those before it.
theorem forEach {f : Nat → α → Program κ σ ε Unit} {as : List α}
    (I : List α → List α → τ → Prop) (g : List α → α → Prop)
    (h : ∀ done a rest, done ++ a :: rest = as →
      Settles plan view (g done a) (I done (a :: rest)) (f done.length a)
        (fun _ => I (done ++ [a]) rest) R) :
    Settles plan view (∀ done a rest, done ++ a :: rest = as → g done a) (I [] as)
      (Program.forEach f 0 as) (fun _ => I as []) R := by
  suffices hloop : ∀ done rest, done ++ rest = as →
      Settles plan view (∀ mid a tail, done ++ mid ++ a :: tail = as → g (done ++ mid) a)
        (I done rest) (Program.forEach f done.length rest) (fun _ => I as []) R by
    simpa using hloop [] as rfl
  intro done rest hrest
  induction rest generalizing done
  case nil =>
    simp only [List.append_nil] at hrest
    subst hrest
    exact congr (by simp) (pure fun _ hs => hs)
  case cons a rest ih =>
    have hrest' : (done ++ [a]) ++ rest = as := by simpa using hrest
    have htail := ih (done ++ [a]) hrest'
    simp only [List.length_append, List.length_singleton] at htail
    refine ((h done a rest hrest).bind fun _ => htail).congr ⟨?_, ?_⟩
    · intro ⟨hhead, hgood⟩ mid b tail heq
      have heq' : mid ++ b :: tail = a :: rest := by
        simpa only [← hrest, List.append_assoc, List.append_cancel_left_eq] using heq
      cases mid
      case nil =>
        obtain ⟨rfl, rfl⟩ := List.cons_eq_cons.mp heq'
        simpa using hhead
      case cons c mid =>
        obtain ⟨rfl, rfl⟩ := List.cons_eq_cons.mp heq'
        simpa using hgood mid b tail (by simpa using hrest)
    · intro hgood
      refine ⟨by simpa using hgood [] a rest (by simpa using hrest), fun mid b tail heq => ?_⟩
      simpa using hgood (a :: mid) b tail (by simpa using heq)

end Settles

-- A program keeps an invariant of the state, however it ends.
def Preserves (I : σ → Prop) (x : Program κ σ ε α) : Prop :=
  ∀ s, I s → match x s with
    | .ok _ s'    => I s'
    | .error _ s' => I s'

namespace Preserves

variable {I : σ → Prop} {x : Program κ σ ε α} {f : α → Program κ σ ε β}

theorem pure {a : α} : Preserves I (pure a : Program κ σ ε α) :=
  fun _ hs => hs

theorem fail {error : ε} : Preserves I (Program.fail error : Program κ σ ε α) :=
  fun _ hs => hs

theorem bind (hx : Preserves I x) (hf : ∀ a, Preserves I (f a)) : Preserves I (x >>= f) := by
  intro s hs
  have h := hx s hs
  simp only [Bind.bind, EStateM.bind]
  rcases hxs : x s with ⟨a, s'⟩ | ⟨stop, s'⟩ <;> simp only [hxs] at h ⊢
  case ok => exact hf a s' h
  case error => exact h

theorem atomic {op : σ → Except ε (α × σ)} (h : ∀ s r, op s = .ok r → I s → I r.2) :
    Preserves I (Program.atomic op : Program κ σ ε α) := by
  intro s hs
  unfold Program.atomic
  rcases hop : op s with e | ⟨a, s'⟩
  case error => exact hs
  case ok => exact h s _ hop hs

theorem guarded [DecidableEq κ] {plan : Option (Fault κ)} {step : κ} (hx : Preserves I x) :
    Preserves I (Program.guarded plan step x) := by
  unfold Program.guarded
  split
  case h_1 => exact hx
  case h_2 =>
    split
    case h_1 => exact fun _ hs => hs
    case h_2 => exact hx.bind fun _ _ hs => hs

theorem call [DecidableEq κ] {plan : Option (Fault κ)} {step : κ} {op : σ → Except ε (α × σ)}
    (h : ∀ s r, op s = .ok r → I s → I r.2) : Preserves I (Program.call plan step op) :=
  (atomic h).guarded

theorem forEach {f : Nat → α → Program κ σ ε Unit} (h : ∀ i a, Preserves I (f i a)) (i : Nat)
    (as : List α) : Preserves I (Program.forEach f i as) := by
  induction as generalizing i
  case nil => exact pure
  case cons a as ih => exact (h i a).bind fun _ => ih (i + 1)

end Preserves

-- What settles how a program ends goes along with what it preserves.
theorem Settles.keep {plan : Option (Fault κ)} {view : σ → τ} {good : Prop} {P I : τ → Prop}
    {x : Program κ σ ε α} {Q : α → τ → Prop} {R : κ → Moment → τ → Prop}
    (hx : Settles plan view good P x Q R) (hI : Preserves (fun s => I (view s)) x) :
    Settles plan view good (fun t => P t ∧ I t) x (fun a t => Q a t ∧ I t)
      (fun k m t => R k m t ∧ I t) := by
  intro s ⟨hs, hi⟩
  have h := hx s hs
  have hi := hI s hi
  rcases hxs : x s with ⟨a, s'⟩ | ⟨stop, s'⟩ <;> simp only [hxs] at h hi ⊢
  case ok => exact ⟨h.1, h.2, hi⟩
  case error =>
    cases stop
    case failed => exact h
    case interrupted => exact ⟨h.1, h.2, hi⟩

-- Where a program returns from a state in `P`, its value and the state after it are in `Q`.
def Returns (P : σ → Prop) (x : Program κ σ ε α) (Q : α → σ → Prop) : Prop :=
  ∀ s a s', P s → x s = .ok a s' → Q a s'

namespace Returns

variable {P : σ → Prop} {x : Program κ σ ε α} {Q Q' : α → σ → Prop}
variable {f : α → Program κ σ ε β} {S : β → σ → Prop}

theorem trivially : Returns P x (fun _ _ => True) :=
  fun _ _ _ _ _ => trivial

theorem pure {a : α} (h : ∀ s, P s → Q a s) : Returns P (pure a : Program κ σ ε α) Q := by
  intro s _ _ hs hret
  cases hret
  exact h s hs

theorem fail {error : ε} : Returns P (Program.fail error : Program κ σ ε α) Q :=
  fun _ _ _ _ h => nomatch h

theorem bind (hx : Returns P x Q) (hf : ∀ a, Returns (Q a) (f a) S) : Returns P (x >>= f) S := by
  intro s b t hs h
  simp only [Bind.bind, EStateM.bind] at h
  cases hxs : x s <;> simp only [hxs] at h
  case ok a s' => exact hf a s' b t (hx s a s' hs hxs) h
  case error => cases h

theorem pre {P' : σ → Prop} (hx : Returns P x Q) (h : ∀ s, P' s → P s) : Returns P' x Q :=
  fun s a s' hs hret => hx s a s' (h s hs) hret

-- It is enough to start from each state on its own.
theorem of_eq (h : ∀ s, P s → Returns (· = s) x Q) : Returns P x Q :=
  fun s a s' hs hret => h s hs s a s' rfl hret

theorem and (hx : Returns P x Q) (hx' : Returns P x Q') :
    Returns P x (fun a s => Q a s ∧ Q' a s) :=
  fun s a s' hs hret => ⟨hx s a s' hs hret, hx' s a s' hs hret⟩

theorem guarded [DecidableEq κ] {plan : Option (Fault κ)} {step : κ} (hx : Returns P x Q) :
    Returns P (Program.guarded plan step x) Q := by
  unfold Program.guarded
  split
  case h_1 => exact hx
  case h_2 =>
    split
    case h_1 => exact fun _ _ _ _ h => nomatch h
    case h_2 => exact hx.bind fun _ _ _ _ _ h => nomatch h

theorem call [DecidableEq κ] {plan : Option (Fault κ)} {step : κ} {op : σ → Except ε (α × σ)}
    (h : ∀ s a s', P s → op s = .ok (a, s') → Q a s') :
    Returns P (Program.call plan step op) Q := by
  refine guarded fun s a s' hs hret => h s a s' hs ?_
  unfold Program.atomic at hret
  cases hop : op s <;> simp only [hop] at hret <;> cases hret
  rfl

end Returns

theorem Preserves.returns {I : σ → Prop} {x : Program κ σ ε α} (hx : Preserves I x) :
    Returns I x (fun _ => I) := by
  intro s a s' hs h
  simpa only [h] using hx s hs

theorem Settles.returns {plan : Option (Fault κ)} {view : σ → τ} {good : Prop} {P : τ → Prop}
    {x : Program κ σ ε α} {Q : α → τ → Prop} {R : κ → Moment → τ → Prop}
    (hx : Settles plan view good P x Q R) :
    Returns (fun s => P (view s)) x (fun a s => Q a (view s)) := by
  intro s a s' hs h
  have h' := hx s hs
  simp only [h] at h'
  exact h'.2

end Program
