import Mathlib.Algebra.Order.Group.Abs
import Mathlib.Data.List.Sort
import Mathlib.Data.List.Perm.Basic

-- Medians as numbers with half of the values on either side, and how much of a list lies within
-- the median deviation from its median.
namespace List

variable {α : Type _}

section

variable [LinearOrder α]

structure IsMedian (values : List α) (m : α) : Prop where
  lower : values.length ≤ 2 * values.countP (· ≤ m)
  upper : values.length ≤ 2 * values.countP (m ≤ ·)

variable {values values' : List α} {m : α}

-- The first elements of a sorted list are at most its element at `i`, the last ones at least that.
theorem Pairwise.succ_le_countP (h : values.Pairwise (· ≤ ·)) {i : Nat} (hi : i < values.length)
    (hm : values[i] ≤ m) : i + 1 ≤ values.countP (· ≤ m) := by
  have hall : (values.take (i + 1)).countP (· ≤ m) = (values.take (i + 1)).length := by
    apply countP_eq_length.mpr
    intro a ha
    have ⟨j, hj, hget⟩ := getElem_of_mem ha
    rw [getElem_take] at hget
    rw [length_take] at hj
    have hle : values[j] ≤ values[i] := h.sortedLE.getElem_le_getElem_of_le (by omega)
    simpa [← hget] using hle.trans hm
  have hsub := (take_sublist (i + 1) values).countP_le (p := (· ≤ m))
  rw [hall, length_take] at hsub
  omega

theorem Pairwise.length_le_countP (h : values.Pairwise (· ≤ ·)) {i : Nat} (hi : i < values.length)
    (hm : m ≤ values[i]) : values.length ≤ i + values.countP (m ≤ ·) := by
  have hall : (values.drop i).countP (m ≤ ·) = (values.drop i).length := by
    apply countP_eq_length.mpr
    intro a ha
    have ⟨j, hj, hget⟩ := getElem_of_mem ha
    rw [getElem_drop] at hget
    rw [length_drop] at hj
    have hle : values[i] ≤ values[i + j] := h.sortedLE.getElem_le_getElem_of_le (by omega)
    simpa [← hget] using hm.trans hle
  have hsub := (drop_sublist i values).countP_le (p := (m ≤ ·))
  rw [hall, length_drop] at hsub
  omega

-- Anything between the two elements in the middle is a median.
theorem isMedian_of_middle (h : values.Pairwise (· ≤ ·)) {i j : Nat} (hi : i < values.length)
    (hj : j < values.length) (hil : values.length ≤ 2 * (i + 1)) (hjl : 2 * j ≤ values.length)
    (hlow : values[i] ≤ m) (hhigh : m ≤ values[j]) : IsMedian values m where
  lower := by
    have := h.succ_le_countP hi hlow
    omega
  upper := by
    have := h.length_le_countP hj hhigh
    omega

theorem IsMedian.perm (h : IsMedian values m) (hperm : values.Perm values') :
    IsMedian values' m where
  lower := by rw [← hperm.length_eq, ← hperm.countP_eq]; exact h.lower
  upper := by rw [← hperm.length_eq, ← hperm.countP_eq]; exact h.upper

theorem IsMedian.exists_le (h : IsMedian values m) (hne : values ≠ []) : ∃ a ∈ values, a ≤ m := by
  have hpos : 0 < values.countP (· ≤ m) := by
    have := length_pos_iff.mpr hne
    have := h.lower
    omega
  simpa using countP_pos_iff.mp hpos

theorem IsMedian.exists_ge (h : IsMedian values m) (hne : values ≠ []) : ∃ a ∈ values, m ≤ a := by
  have hpos : 0 < values.countP (m ≤ ·) := by
    have := length_pos_iff.mpr hne
    have := h.upper
    omega
  simpa using countP_pos_iff.mp hpos

end

section

variable [AddCommGroup α] [LinearOrder α] {values : List α} {m d : α}

-- Half of the values are no further from `m` than the median of the distances from it.
theorem IsMedian.half_near (h : IsMedian (values.map fun v => |v - m|) d) :
    values.length ≤ 2 * values.countP fun v => |v - m| ≤ d := by
  simpa [countP_map, Function.comp_def] using h.lower

theorem IsMedian.distance_nonneg [IsOrderedAddMonoid α]
    (h : IsMedian (values.map fun v => |v - m|) d) (hne : values ≠ []) : 0 ≤ d := by
  have ⟨a, ha, hle⟩ := h.exists_le (by simpa using hne)
  have ⟨v, _, hv⟩ := mem_map.mp ha
  exact (hv ▸ abs_nonneg (v - m)).trans hle

end

end List
