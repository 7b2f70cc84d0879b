import Mathlib.Order.Defs.Unbundled

-- What a computation that may fail can do to its state, however it ends.
namespace EStateM

variable {ε σ τ α β : Type _}

def Result.state : Result ε σ α → σ
  | .ok _ s    => s
  | .error _ s => s

def Result.toExcept : Result ε σ α → Except ε α
  | .ok a _    => .ok a
  | .error e _ => .error e

@[simp]
theorem Result.state_ok {a : α} {s : σ} : (Result.ok a s : Result ε σ α).state = s := rfl

@[simp]
theorem Result.state_error {e : ε} {s : σ} : (Result.error e s : Result ε σ α).state = s := rfl

theorem bind_ok {x : EStateM ε σ α} {f : α → EStateM ε σ β} {s s' : σ} {a : α}
    (h : x s = .ok a s') : (x >>= f) s = f a s' := by
  simp only [Bind.bind, EStateM.bind, h]

theorem bind_error {x : EStateM ε σ α} {f : α → EStateM ε σ β} {s s' : σ} {e : ε}
    (h : x s = .error e s') : (x >>= f) s = .error e s' := by
  simp only [Bind.bind, EStateM.bind, h]

theorem set_apply {s s' : σ} : (set s' : EStateM ε σ PUnit) s = .ok ⟨⟩ s' := rfl

theorem modify_apply {f : σ → σ} {s : σ} :
    (modify f : EStateM ε σ PUnit) s = .ok ⟨⟩ (f s) := rfl

theorem throw_apply {e : ε} {s : σ} : (throw e : EStateM ε σ α) s = .error e s := rfl

theorem bind_get {f : σ → EStateM ε σ β} {s : σ} : ((get : EStateM ε σ σ) >>= f) s = f s s := rfl

theorem bind_ok_iff {x : EStateM ε σ α} {f : α → EStateM ε σ β} {s s'' : σ} {b : β} :
    (x >>= f) s = .ok b s'' ↔ ∃ a s', x s = .ok a s' ∧ f a s' = .ok b s'' := by
  cases hxs : x s
  case ok a s' =>
    rw [bind_ok hxs]
    constructor
    · intro h
      exact ⟨a, s', rfl, h⟩
    · rintro ⟨_, _, heq, h⟩
      cases heq
      exact h
  case error e s' =>
    rw [bind_error hxs]
    simp

theorem adaptExcept_ok {f : ε → τ} {x : EStateM ε σ α} {s s' : σ} {a : α} (h : x s = .ok a s') :
    EStateM.adaptExcept f x s = .ok a s' := by
  simp only [EStateM.adaptExcept, h]

theorem adaptExcept_error {f : ε → τ} {x : EStateM ε σ α} {s s' : σ} {e : ε}
    (h : x s = .error e s') : EStateM.adaptExcept f x s = .error (f e) s' := by
  simp only [EStateM.adaptExcept, h]

theorem adaptExcept_ok_iff {f : ε → τ} {x : EStateM ε σ α} {s s' : σ} {a : α} :
    EStateM.adaptExcept f x s = .ok a s' ↔ x s = .ok a s' := by
  unfold EStateM.adaptExcept
  cases x s <;> simp

@[simp]
theorem pure_ok_iff {a a' : α} {s s' : σ} :
    (pure a : EStateM ε σ α) s = .ok a' s' ↔ a = a' ∧ s = s' := by
  simp [pure, EStateM.pure]

@[simp]
theorem throw_ne_ok {e : ε} {a : α} {s s' : σ} :
    (throw e : EStateM ε σ α) s ≠ .ok a s' :=
  nofun

@[simp]
theorem state_bind_pure {x : EStateM ε σ α} {f : α → β} {s : σ} :
    ((x >>= fun a => pure (f a)) s).state = (x s).state := by
  cases hxs : x s
  case ok => rw [bind_ok hxs]; rfl
  case error => rw [bind_error hxs]; rfl

-- The computation takes each state to a related one.
def Within (R : σ → σ → Prop) (x : EStateM ε σ α) : Prop :=
  ∀ s, R s (x s).state

-- The computation does not change what is seen of the state.
abbrev Keeps (view : σ → τ) (x : EStateM ε σ α) : Prop :=
  Within (fun s s' => view s' = view s) x

instance keeps_refl {view : σ → τ} : Std.Refl (fun s s' => view s' = view s) where
  refl _ := rfl

instance keeps_trans {view : σ → τ} : IsTrans σ (fun s s' => view s' = view s) where
  trans _ _ _ h h' := h'.trans h

-- What holds of the state still holds after the computation.
abbrev Preserves (I : σ → Prop) (x : EStateM ε σ α) : Prop :=
  Within (fun s s' => I s → I s') x

instance preserves_refl {I : σ → Prop} : Std.Refl (fun s s' => I s → I s') where
  refl _ := id

instance preserves_trans {I : σ → Prop} : IsTrans σ (fun s s' => I s → I s') where
  trans _ _ _ h h' := h' ∘ h

namespace Within

variable {R : σ → σ → Prop} {x : EStateM ε σ α} {f : α → EStateM ε σ β}

theorem ok {s s' : σ} {a : α} (hx : Within R x) (h : x s = .ok a s') : R s s' := by
  simpa only [h, Result.state_ok] using hx s

theorem error {s s' : σ} {e : ε} (hx : Within R x) (h : x s = .error e s') : R s s' := by
  simpa only [h, Result.state_error] using hx s

theorem mono {R' : σ → σ → Prop} (hx : Within R x) (h : ∀ s s', R s s' → R' s s') :
    Within R' x :=
  fun s => h s (x s).state (hx s)

theorem ite {p : Prop} [Decidable p] {y : EStateM ε σ α} (hx : p → Within R x)
    (hy : ¬p → Within R y) : Within R (if p then x else y) := by
  split
  case isTrue h => exact hx h
  case isFalse h => exact hy h

theorem pure [Std.Refl R] {a : α} : Within R (pure a : EStateM ε σ α) :=
  fun s => Std.Refl.refl s

theorem throw [Std.Refl R] {e : ε} : Within R (throw e : EStateM ε σ α) :=
  fun s => Std.Refl.refl s

theorem get [Std.Refl R] : Within R (get : EStateM ε σ σ) :=
  fun s => Std.Refl.refl s

theorem bind [IsTrans σ R] (hx : Within R x) (hf : ∀ a, Within R (f a)) :
    Within R (x >>= f) := by
  intro s
  cases hxs : x s
  case ok a s' =>
    rw [bind_ok hxs]
    exact trans_of R (hx.ok hxs) (hf a s')
  case error e s' =>
    rw [bind_error hxs]
    exact hx.error hxs

-- From a given state, where the first part is known.
theorem bind_at [IsTrans σ R] {s : σ} (hx : R s (x s).state)
    (hf : ∀ a s', x s = .ok a s' → R s' (f a s').state) : R s ((x >>= f) s).state := by
  cases hxs : x s
  case ok a s' =>
    rw [hxs] at hx
    rw [bind_ok hxs]
    exact trans_of R hx (hf a s' hxs)
  case error e s' =>
    rw [hxs] at hx
    rw [bind_error hxs]
    exact hx

theorem forM_mem [Std.Refl R] [IsTrans σ R] {f : α → EStateM ε σ PUnit} {as : List α}
    (hf : ∀ a ∈ as, Within R (f a)) : Within R (as.forM f) := by
  induction as
  case nil => exact pure
  case cons a as ih =>
    have ⟨ha, has⟩ := List.forall_mem_cons.mp hf
    exact ha.bind fun _ => ih has

theorem forM [Std.Refl R] [IsTrans σ R] {f : α → EStateM ε σ PUnit} (hf : ∀ a, Within R (f a))
    (as : List α) : Within R (as.forM f) :=
  forM_mem fun a _ => hf a

theorem foldlM [Std.Refl R] [IsTrans σ R] {f : β → α → EStateM ε σ β}
    (hf : ∀ b a, Within R (f b a)) (as : List α) (b : β) : Within R (as.foldlM f b) := by
  induction as generalizing b
  case nil => exact pure
  case cons a as ih => exact (hf b a).bind ih

end Within

end EStateM
