import Mathlib.Data.List.Dedup
import Mathlib.Data.List.Sort

namespace List

variable {α β : Type _}

section

variable [LinearOrder α]

-- The members of a list in ascending order and without repetition, as an ordered set lists them.
def ascending (l : List α) : List α :=
  l.dedup.insertionSort (· ≤ ·)

@[simp]
theorem mem_ascending {l : List α} {a : α} : a ∈ l.ascending ↔ a ∈ l := by
  rw [ascending, mem_insertionSort, mem_dedup]

theorem ascending_pairwise (l : List α) : l.ascending.Pairwise (· < ·) := by
  have hle : l.ascending.Pairwise (· ≤ ·) := pairwise_insertionSort _ _
  have hne : l.ascending.Pairwise (· ≠ ·) :=
    (perm_insertionSort (· ≤ ·) l.dedup).nodup_iff.mpr l.nodup_dedup
  exact hle.imp₂ (fun _ _ => lt_of_le_of_ne) hne

-- An ordered set that falls into a lower and an upper part.
theorem ascending_eq_append {l lower upper : List α}
    (hmem : ∀ a, a ∈ l ↔ a ∈ lower ∨ a ∈ upper) (hlt : ∀ a ∈ lower, ∀ b ∈ upper, a < b) :
    l.ascending = lower.ascending ++ upper.ascending := by
  refine (ascending_pairwise l).eq_of_mem_iff ?_ fun a => by simp [hmem]
  rw [pairwise_append]
  exact ⟨ascending_pairwise lower, ascending_pairwise upper,
    fun a ha b hb => hlt a (mem_ascending.mp ha) b (mem_ascending.mp hb)⟩

end

theorem pairwise_mergeSort_cmp (cmp : α → α → Ordering) [Std.TransCmp cmp] (l : List α) :
    (l.mergeSort fun a b => (cmp a b).isLE).Pairwise fun a b => (cmp a b).isLE := by
  apply pairwise_mergeSort
  · intro _ _ _ h h'
    exact Std.TransCmp.isLE_trans h h'
  · intro a b
    have hswap : cmp b a = (cmp a b).swap := Std.OrientedCmp.eq_swap
    rw [hswap]
    cases cmp a b <;> rfl

section

variable [BEq α]

theorem eraseReps_loop {a : α} {l acc : List α} :
    eraseRepsBy.loop (· == ·) a l acc = acc.reverse ++ (a :: l).eraseReps := by
  induction l generalizing a acc
  case nil => simp [eraseReps, eraseRepsBy, eraseRepsBy.loop]
  case cons b l ih =>
    simp only [eraseReps, eraseRepsBy, eraseRepsBy.loop]
    cases a == b
    case true  => simp only [ih, reverse_nil, nil_append]
    case false => simp [ih]

theorem eraseReps_cons_cons {a b : α} {l : List α} :
    (a :: b :: l).eraseReps = if a == b then (a :: l).eraseReps else a :: (b :: l).eraseReps := by
  simp only [eraseReps, eraseRepsBy, eraseRepsBy.loop]
  cases a == b
  case true  => rfl
  case false => exact eraseReps_loop

theorem eraseReps_sublist {l : List α} : l.eraseReps <+ l := by
  cases l
  case nil => exact .slnil
  case cons a l =>
    induction l generalizing a
    case nil => exact .refl _
    case cons b l ih =>
      rw [eraseReps_cons_cons]
      split
      · exact (ih a).trans ((sublist_cons_self b l).cons_cons a)
      · exact (ih b).cons_cons a

variable [LawfulBEq α]

@[simp]
theorem mem_eraseReps {l : List α} {c : α} : c ∈ l.eraseReps ↔ c ∈ l := by
  refine ⟨eraseReps_sublist.mem, fun h => ?_⟩
  cases l
  case nil => cases h
  case cons a l =>
    induction l generalizing a
    case nil => exact h
    case cons b l ih =>
      rw [eraseReps_cons_cons]
      split
      case isTrue heq =>
        obtain rfl := eq_of_beq heq
        exact ih a (by simpa using h)
      case isFalse =>
        rcases mem_cons.mp h with rfl | h
        · exact mem_cons_self
        · exact mem_cons_of_mem a (ih b h)

theorem eraseReps_of_nodup {l : List α} (h : l.Nodup) : l.eraseReps = l := by
  cases l
  case nil => rfl
  case cons a l =>
    induction l generalizing a
    case nil => rfl
    case cons b l ih =>
      have ⟨hab, h⟩ := nodup_cons.mp h
      have hne : ¬(a == b) := fun heq => hab (eq_of_beq heq ▸ mem_cons_self)
      rw [eraseReps_cons_cons, if_neg hne, ih b h]

end

-- A key without repetition selects one member.
theorem filter_eq_singleton [DecidableEq β] {f : α → β} {l : List α} {a : α}
    (hnodup : (l.map f).Nodup) (ha : a ∈ l) : l.filter (f · = f a) = [a] := by
  induction l
  case nil => cases ha
  case cons b l ih =>
    have ⟨hb, hl⟩ := nodup_cons.mp hnodup
    rcases mem_cons.mp ha with rfl | ha
    · have : l.filter (f · = f a) = [] := by
        rw [filter_eq_nil_iff]
        intro c hc
        simp only [decide_eq_true_eq]
        exact fun h => hb (h ▸ mem_map_of_mem hc)
      simp [this]
    · have hne : f b ≠ f a := fun h => hb (h ▸ mem_map_of_mem ha)
      simp [hne, ih hl ha]

end List
