import Mathlib.Algebra.BigOperators.Group.List.Basic

namespace Except

variable {ε ε' : Type _} {α β : Type _}

-- The computation fails in one way only, which `good` excludes, and else returns a value with the
-- property `P`.
def Yields (failure : ε) (good : Prop) (x : Except ε α) (P : α → Prop) : Prop :=
  match x with
  | .ok a    => P a
  | .error e => e = failure ∧ ¬good

namespace Yields

variable {failure : ε} {good : Prop} {P P' : α → Prop} {Q : β → Prop}

theorem pure {a : α} (h : P a) : Yields failure good (pure a) P := h

theorem bind {x : Except ε α} {f : α → Except ε β} (hx : Yields failure good x P)
    (hf : ∀ a, P a → Yields failure good (f a) Q) : Yields failure good (x >>= f) Q := by
  cases x
  case error => exact hx
  case ok a => exact hf a hx

theorem mono {x : Except ε α} (hx : Yields failure good x P) (h : ∀ a, P a → P' a) :
    Yields failure good x P' := by
  cases x
  case error => exact hx
  case ok a => exact h a hx

theorem mapError {x : Except ε α} (f : ε → ε') (hx : Yields failure good x P) :
    Yields (f failure) good (x.mapError f) P := by
  cases x
  case error => exact ⟨congrArg f hx.1, hx.2⟩
  case ok => exact hx

theorem or (hx : Yields failure good x P) : (∃ a, x = .ok a ∧ P a) ∨ x = .error failure := by
  cases x
  case error => exact .inr (congrArg _ hx.1)
  case ok a => exact .inl ⟨a, rfl, hx⟩

theorem ok_of_good (hx : Yields failure good x P) (h : good) : ∃ a, x = .ok a := by
  cases x
  case error => exact absurd h hx.2
  case ok a => exact ⟨a, rfl⟩

end Yields

end Except

namespace Except

variable {ε σ α : Type _}

-- A loop that may fail preserves what each of its steps preserves.
theorem foldlM_preserves {f : σ → α → Except ε σ} (P : σ → Prop) {as : List α} {s s' : σ}
    (hstep : ∀ s a s', a ∈ as → f s a = .ok s' → P s → P s') (h : as.foldlM f s = .ok s')
    (hs : P s) : P s' := by
  induction as generalizing s
  case nil => cases h; exact hs
  case cons a as ih =>
    rw [List.foldlM_cons] at h
    cases hfa : f s a
    case error => rw [hfa] at h; cases h
    case ok t =>
      rw [hfa] at h
      exact ih (fun s b s' hb => hstep s b s' (List.mem_cons_of_mem a hb)) h
        (hstep s a t List.mem_cons_self hfa hs)

-- A loop that succeeds has taken each of its steps.
theorem foldlM_mem {f : σ → α → Except ε σ} {as : List α} {s s' : σ} {a : α}
    (h : as.foldlM f s = .ok s') (ha : a ∈ as) : ∃ t t', f t a = .ok t' := by
  induction as generalizing s
  case nil => cases ha
  case cons b as ih =>
    rw [List.foldlM_cons] at h
    cases hfb : f s b
    case error => rw [hfb] at h; cases h
    case ok t =>
      rw [hfb] at h
      rcases List.mem_cons.mp ha with rfl | ha
      · exact ⟨s, t, hfb⟩
      · exact ih h ha

-- A counter of the state grows by the sum of its increments.
theorem foldlM_count {β : Type _} [AddMonoid β] {f : σ → α → Except ε σ} (count : σ → β)
    {inc : α → β} {as : List α} {s s' : σ}
    (hstep : ∀ s a s', a ∈ as → f s a = .ok s' → count s' = count s + inc a)
    (h : as.foldlM f s = .ok s') : count s' = count s + (as.map inc).sum := by
  induction as generalizing s
  case nil => cases h; simp
  case cons a as ih =>
    rw [List.foldlM_cons] at h
    cases hfa : f s a
    case error => rw [hfa] at h; cases h
    case ok t =>
      rw [hfa] at h
      have h₁ := hstep s a t List.mem_cons_self hfa
      have h₂ := ih (fun s b s' hb => hstep s b s' (List.mem_cons_of_mem a hb)) h
      rw [h₂, h₁, List.map_cons, List.sum_cons, add_assoc]

theorem bind_eq_ok_iff {α β : Type _} {x : Except ε α} {f : α → Except ε β} {b : β} :
    x >>= f = .ok b ↔ ∃ a, x = .ok a ∧ f a = .ok b := by
  cases x <;> simp [bind, Except.bind]

@[simp]
theorem pure_eq_ok_iff {a b : α} : (pure a : Except ε α) = .ok b ↔ a = b :=
  ⟨fun h => by cases h; rfl, congrArg _⟩

@[simp]
theorem throw_ne_ok {e : ε} {a : α} : (throw e : Except ε α) ≠ .ok a := by
  simp [throw, throwThe, MonadExceptOf.throw]

-- A condition that an error reports when it fails.
def check (c : Prop) [Decidable c] (error : ε) : Except ε Unit :=
  if c then pure () else throw error

@[simp]
theorem check_eq_ok_iff {c : Prop} [Decidable c] {error : ε} {u : Unit} :
    check c error = .ok u ↔ c := by
  unfold check
  split <;> simp_all [pure, Except.pure, throw, throwThe, MonadExceptOf.throw]

-- A missing value is an error.
def okOr (error : ε) : Option α → Except ε α
  | some a => .ok a
  | none   => .error error

@[simp]
theorem okOr_eq_ok_iff {error : ε} {o : Option α} {a : α} : okOr error o = .ok a ↔ o = some a := by
  cases o <;> simp [okOr]

theorem mapError_eq_ok_iff {ε' : Type _} {f : ε → ε'} {x : Except ε α} {a : α} :
    x.mapError f = .ok a ↔ x = .ok a := by
  cases x <;> simp [Except.mapError]

end Except
