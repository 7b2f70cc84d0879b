import Mathlib.Algebra.BigOperators.Group.List.Basic
import Mathlib.Algebra.Ring.Int.Defs

-- The sum of terms that may be missing.
namespace List

variable {α : Type _} {f g : α → Option Int} {p : α → Bool} {l : List α}

def sum? (f : α → Option Int) : List α → Option Int
  | [] => some 0
  | a :: as =>
    match f a, sum? f as with
    | some x, some s => some (x + s)
    | _, _ => none

theorem sum?_eq_some {v : α → Int} (h : ∀ a ∈ l, f a = some (v a)) :
    l.sum? f = some (l.map v).sum := by
  induction l
  case nil => rfl
  case cons a l ih =>
    have ⟨ha, hl⟩ := forall_mem_cons.mp h
    simp [sum?, ha, ih hl]

theorem sum?_of_isSome (h : ∀ a ∈ l, (f a).isSome) :
    l.sum? f = some (l.map fun a => (f a).getD 0).sum := by
  apply sum?_eq_some
  intro a ha
  exact (Option.some_get (h a ha)).symm.trans (congrArg some (Option.get_eq_getD _))

-- The terms outside of a selection are all there.
theorem sum?_eq_map_filter {v : α → Int} (h : ∀ a ∈ l, ¬p a → f a = some (v a)) :
    l.sum? f = ((l.filter p).sum? f).map (· + ((l.filter (¬p ·)).map v).sum) := by
  induction l
  case nil => rfl
  case cons a l ih =>
    have ⟨ha, hl⟩ := forall_mem_cons.mp h
    by_cases hp : p a
    · simp only [filter_cons, hp, if_true, sum?, ih hl]
      cases f a <;> cases (l.filter p).sum? f <;> simp [add_assoc]
    · simp only [sum?, ih hl, ha hp]
      cases hs : (l.filter p).sum? f <;> simp [hp, hs, add_left_comm]

-- Terms that agree outside of a selection have the same sum when they have it in the selection.
theorem sum?_eq_iff_filter (hg : ∀ a ∈ l, (g a).isSome) (h : ∀ a ∈ l, ¬p a → f a = g a) :
    l.sum? f = l.sum? g ↔ (l.filter p).sum? f = (l.filter p).sum? g := by
  have hv : ∀ a ∈ l, g a = some ((g a).getD 0) := by
    intro a ha
    exact (Option.some_get (hg a ha)).symm.trans (congrArg some (Option.get_eq_getD _))
  rw [sum?_eq_map_filter (fun a ha hp => (h a ha hp).trans (hv a ha)),
    sum?_eq_map_filter (fun a ha _ => hv a ha)]
  exact (Option.map_injective (add_left_injective _)).eq_iff

end List
