import OpenFrag.Live.Adapter
import OpenFrag.Live.Theorems.HashMap
import OpenFrag.Storage.Theorems.Live

open EStateM
open Storage (Statement)

namespace Live.StorageAdapter

variable {W α τ : Type} {env : Environment W}

section

variable {b b' : Backend W} {a : α}

theorem store_apply : (store : Adapter W _) b = .ok b.store b := rfl

theorem checked_ok_iff {result : Except LiveDiagnostic α} :
    checked result b = .ok a b' ↔ result = .ok a ∧ b = b' := by
  cases result <;> simp [checked]

@[simp]
theorem required_eq_ok_iff {what : String} {o : Option α} : required what o = .ok a ↔ o = some a := by
  cases o <;> simp [required]

theorem guarded_ok {operation : Operation} {wrap : String → LiveDiagnostic} {u : Unit}
    (h : guarded env operation wrap b = .ok u b') : ∃ w, b' = { b with world := w } := by
  unfold guarded at h
  split at h
  case h_1 => cases h; exact ⟨_, rfl⟩
  case h_2 => cases h

theorem statement_ok {op : Statement α} (h : statement op b = .ok a b') :
    ∃ storage, op b.store.storage = .ok (a, storage) ∧ b' = { b with store.storage := storage } := by
  unfold statement at h
  split at h
  case h_1 storage hop => cases h; exact ⟨storage, hop, rfl⟩
  case h_2 => cases h

-- A statement that is made leaves the database that it returns.
theorem execute_ok {operation : Operation} {op : Statement α}
    (h : execute env operation op b = .ok a b') :
    ∃ storage w, op b.store.storage = .ok (a, storage) ∧
      b' = { b with store.storage := storage, world := w } := by
  obtain ⟨_, b₁, hguarded, hstatement⟩ := bind_ok_iff.mp h
  obtain ⟨w, rfl⟩ := guarded_ok hguarded
  obtain ⟨storage, hop, rfl⟩ := statement_ok hstatement
  exact ⟨storage, w, hop, rfl⟩

end

-- What is seen of a store, and is not changed by what happens around it.
section Views

variable {view : StorageEvidenceStore → τ}

abbrev Sees (view : StorageEvidenceStore → τ) (x : Adapter W α) : Prop :=
  Keeps (fun b => view b.store) x

theorem Sees.store : Sees view (StorageAdapter.store (W := W)) :=
  fun _ => rfl

theorem Sees.modifyStore {f : StorageEvidenceStore → StorageEvidenceStore}
    (h : ∀ s, view (f s) = view s) : Sees view (StorageAdapter.modifyStore (W := W) f) :=
  fun b => h b.store

theorem Sees.reading (f : W → α × W) : Sees view (StorageAdapter.reading f) :=
  fun _ => rfl

theorem Sees.checked (result : Except LiveDiagnostic α) :
    Sees view (StorageAdapter.checked (W := W) result) := by
  intro b
  cases result <;> rfl

theorem Sees.guarded (operation : Operation) (wrap : String → LiveDiagnostic) :
    Sees view (guarded env operation wrap) := by
  intro b
  unfold StorageAdapter.guarded
  split <;> rfl

theorem Sees.execute {operation : Operation} {op : Statement α}
    (h : ∀ s r, op s.storage = .ok r → view { s with storage := r.2 } = view s) :
    Sees view (StorageAdapter.execute env operation op) := by
  refine Within.bind (Sees.guarded _ _) fun _ b => ?_
  unfold statement
  split
  case h_1 a storage hop => exact h b.store (a, storage) hop
  case h_2 => rfl

end Views

end Live.StorageAdapter
