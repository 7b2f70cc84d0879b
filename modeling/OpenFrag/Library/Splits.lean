import Mathlib.Data.List.Nodup
import Mathlib.Data.List.Induction

-- What holds of each element of a list, after those before it.
namespace List

variable {α β : Type _}

theorem forall_mem_iff_split {p : α → Prop} {l : List α} :
    (∀ a ∈ l, p a) ↔ ∀ done a rest, done ++ a :: rest = l → p a := by
  constructor
  · rintro h done a rest rfl
    exact h a (by simp)
  · intro h a ha
    obtain ⟨done, rest, rfl⟩ := append_of_mem ha
    exact h done a rest rfl

theorem forall_getElem?_iff_split {p : Nat → α → Prop} {l : List α} :
    (∀ i a, l[i]? = some a → p i a) ↔ ∀ done a rest, done ++ a :: rest = l → p done.length a := by
  constructor
  · rintro h done a rest rfl
    exact h done.length a (by simp)
  · intro h i a ha
    obtain ⟨hi, rfl⟩ := getElem?_eq_some_iff.mp ha
    have hsplit := h (l.take i) l[i] (l.drop (i + 1)) (by simp)
    rwa [length_take_of_le (Nat.le_of_lt hi)] at hsplit

theorem nodup_map_iff_split {f : α → β} {l : List α} :
    (l.map f).Nodup ↔ ∀ done a rest, done ++ a :: rest = l → f a ∉ done.map f := by
  constructor
  · rintro h done a rest rfl hmem
    rw [map_append, map_cons] at h
    exact (nodup_append'.mp h).2.2 hmem mem_cons_self
  · induction l using reverseRecOn
    case nil => simp
    case append_singleton l a ih =>
      intro h
      have hl : (l.map f).Nodup := ih fun done b rest heq =>
        h done b (rest ++ [a]) (by rw [← heq, append_assoc, cons_append])
      have ha := h l a [] rfl
      simpa [nodup_append, hl] using ha

-- A search that finds nothing outside of a selection.
theorem findSome?_filter {f : α → Option β} {p : α → Bool} {l : List α}
    (h : ∀ a ∈ l, ¬p a → f a = none) : (l.filter p).findSome? f = l.findSome? f := by
  induction l
  case nil => rfl
  case cons a l ih =>
    have ⟨ha, hl⟩ := forall_mem_cons.mp h
    by_cases hp : p a
    · simp [findSome?_cons, hp, ih hl]
    · simp [hp, ha hp, ih hl]

end List
