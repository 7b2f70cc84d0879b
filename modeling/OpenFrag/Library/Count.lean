import Mathlib.Algebra.BigOperators.Group.List.Basic
import Mathlib.Algebra.GroupWithZero.Nat

namespace List

variable {α : Type _}

theorem sum_map_le {f g : α → Nat} {l : List α} (h : ∀ a ∈ l, f a ≤ g a) :
    (l.map f).sum ≤ (l.map g).sum := by
  induction l
  case nil => simp
  case cons a l ih =>
    have h₁ := h a mem_cons_self
    have h₂ := ih fun b hb => h b (mem_cons_of_mem a hb)
    simp only [map_cons, sum_cons]
    omega

-- Pointwise smaller terms have the same sum only when they are the same terms.
theorem sum_map_eq_iff {f g : α → Nat} {l : List α} (h : ∀ a ∈ l, f a ≤ g a) :
    (l.map f).sum = (l.map g).sum ↔ ∀ a ∈ l, f a = g a := by
  induction l
  case nil => simp
  case cons a l ih =>
    have h₁ := h a mem_cons_self
    have h₂ : ∀ b ∈ l, f b ≤ g b := fun b hb => h b (mem_cons_of_mem a hb)
    have h₃ := sum_map_le h₂
    rw [forall_mem_cons, ← ih h₂, map_cons, map_cons, sum_cons, sum_cons]
    omega

theorem sum_map_filter {f : α → Nat} {p : α → Bool} {l : List α} (h : ∀ a ∈ l, ¬p a → f a = 0) :
    ((l.filter p).map f).sum = (l.map f).sum := by
  induction l
  case nil => rfl
  case cons a l ih =>
    have h₁ := h a mem_cons_self
    have h₂ := ih fun b hb => h b (mem_cons_of_mem a hb)
    cases hp : p a <;> simp_all

theorem countP_eq_sum {p : α → Bool} {l : List α} :
    l.countP p = (l.map fun a => if p a then 1 else 0).sum := by
  induction l
  case nil => rfl
  case cons a l ih =>
    rw [countP_cons, map_cons, sum_cons, ih, Nat.add_comm]

-- Two tests that exclude each other.
theorem countP_add_countP {p q : α → Bool} {l : List α} (h : ∀ a ∈ l, p a → ¬q a) :
    l.countP p + l.countP q = (l.map fun a => if p a ∨ q a then 1 else 0).sum := by
  induction l
  case nil => rfl
  case cons a l ih =>
    have h₁ := h a mem_cons_self
    have h₂ := ih fun b hb => h b (mem_cons_of_mem a hb)
    rw [countP_cons, countP_cons, map_cons, sum_cons, ← h₂]
    cases hp : p a <;> cases hq : q a <;> simp_all <;> omega

theorem countP_eq_countP_iff {p q : α → Bool} {l : List α} (h : ∀ a ∈ l, p a → q a) :
    l.countP p = l.countP q ↔ ∀ a ∈ l, q a → p a := by
  have hle : ∀ a ∈ l, (if p a then 1 else 0) ≤ if q a then 1 else 0 := by
    intro a ha
    have := h a ha
    split <;> simp_all
  rw [countP_eq_sum, countP_eq_sum, sum_map_eq_iff hle]
  refine forall₂_congr fun a ha => ?_
  have := h a ha
  cases hp : p a <;> cases hq : q a <;> simp_all

-- Equal sums of terms that agree but for one of the elements.
theorem eq_of_sum_map_eq {β : Type _} [AddCancelCommMonoid β] {f g : α → β} {l : List α} {b : α}
    (hnodup : l.Nodup) (hb : b ∈ l) (h : ∀ a ∈ l, a ≠ b → f a = g a)
    (hsum : (l.map f).sum = (l.map g).sum) : f b = g b := by
  obtain ⟨before, after, rfl⟩ := append_of_mem hb
  have hne : ∀ a ∈ before ++ after, a ≠ b := by
    rintro a ha rfl
    exact (nodup_cons.mp (perm_middle.nodup_iff.mp hnodup)).1 ha
  have hbefore : before.map f = before.map g :=
    map_congr_left fun a ha => h a (by simp [ha]) (hne a (by simp [ha]))
  have hafter : after.map f = after.map g :=
    map_congr_left fun a ha => h a (by simp [ha]) (hne a (by simp [ha]))
  simpa [hbefore, hafter] using hsum

end List
