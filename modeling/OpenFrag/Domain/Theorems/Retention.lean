import Mathlib.Algebra.BigOperators.Group.List.Basic
import Mathlib.Data.UInt
import OpenFrag.Domain.Retention

open MachineInt

namespace Domain

open ProvisionalMedia

-- The unconfirmed items that are not expired, the oldest first, with their positions.
def evictionQueue (items : List ProvisionalMedia) (nowMs : UInt64) : List (ProvisionalMedia × Nat) :=
  (items.zipIdx.filter fun (item, _) => !item.confirmed && !item.expired nowMs).insertionSort byAge

-- The sum without a bound.
def totalBytes (entries : List (ProvisionalMedia × Nat)) : Nat :=
  (entries.map (·.1.bytes.toNat)).sum

-- The positions of the oldest `n` of the queue.
def oldest (items : List ProvisionalMedia) (nowMs : UInt64) (n : Nat) : List Nat :=
  ((evictionQueue items nowMs).take n).map (·.2)

-- The shortest prefix of the queue whose removal keeps the rest within the budget.
structure ShortestEviction (queue : List (ProvisionalMedia × Nat)) (n : Nat) : Prop where
  le_length : n ≤ queue.length
  within    : totalBytes (queue.drop n) ≤ captureSessionBudgetBytes
  shortest  : ∀ k < n, captureSessionBudgetBytes < totalBytes (queue.drop k)

-- What the decisions about the items are for.
structure Retains (items : List ProvisionalMedia) (nowMs : UInt64)
    (decisions : List RetentionDecision) : Prop where
  ids       : decisions.map (·.1) = items.map (·.mediaId)
  confirmed : ∀ (i : Nat) item, items[i]? = some item → item.confirmed →
    decisions[i]? = some (item.mediaId, .retain)
  expired   : ∀ (i : Nat) item, items[i]? = some item → item.confirmed = false →
    provisionalRetentionMs ≤ nowMs.toNat - item.createdAtMs.toNat →
    decisions[i]? = some (item.mediaId, .expiredAfterThirtyDays)
  budget    : ((retainedUnconfirmed items decisions).map (·.bytes.toNat)).sum ≤
    captureSessionBudgetBytes
  evicted   : ∃ n, ShortestEviction (evictionQueue items nowMs) n ∧
    ∀ i, (∃ id, decisions[i]? = some (id, .evictedBySessionBudget)) ↔
      i ∈ oldest items nowMs n

section

variable {items : List ProvisionalMedia} {nowMs : UInt64}

theorem mem_evictionQueue {entry : ProvisionalMedia × Nat} :
    entry ∈ evictionQueue items nowMs ↔ items[entry.2]? = some entry.1 ∧
      entry.1.confirmed = false ∧ entry.1.expired nowMs = false := by
  simp [evictionQueue, List.mem_zipIdx_iff_getElem?]

theorem evictionQueue_positions_nodup (items : List ProvisionalMedia) (nowMs : UInt64) :
    ((evictionQueue items nowMs).map (·.2)).Nodup := by
  have hperm : (evictionQueue items nowMs).Perm _ := List.perm_insertionSort _ _
  apply (hperm.map (·.2)).nodup_iff.mpr
  have hsub := (List.filter_sublist (l := items.zipIdx)
    (p := fun (item, _) => !item.confirmed && !item.expired nowMs)).map (·.2)
  refine hsub.nodup ?_
  rw [List.zipIdx_map_snd]
  exact List.nodup_range'

@[simp]
theorem totalBytes_nil : totalBytes [] = 0 := rfl

@[simp]
theorem totalBytes_cons {entry : ProvisionalMedia × Nat} {entries : List (ProvisionalMedia × Nat)} :
    totalBytes (entry :: entries) = entry.1.bytes.toNat + totalBytes entries := by
  simp [totalBytes]

theorem totalBytes_append (entries entries' : List (ProvisionalMedia × Nat)) :
    totalBytes (entries ++ entries') = totalBytes entries + totalBytes entries' := by
  simp [totalBytes]

theorem totalBytes_take_add_drop (entries : List (ProvisionalMedia × Nat)) (n : Nat) :
    totalBytes (entries.take n) + totalBytes (entries.drop n) = totalBytes entries := by
  rw [← totalBytes_append, List.take_append_drop]

def ofEvicted (decision : RetentionDecision) : RetentionDecision :=
  (decision.1, .evictedBySessionBudget)

-- The loop marks a prefix of its candidates: it goes on for as long as what is left of the counted
-- bytes is over the budget.
theorem evict_prefix (candidates : List (ProvisionalMedia × Nat)) (retainedBytes : Nat)
    (decisions : List RetentionDecision) : ∃ n ≤ candidates.length,
      (∀ k < n, captureSessionBudgetBytes < retainedBytes - totalBytes (candidates.take k)) ∧
      (n < candidates.length →
        retainedBytes - totalBytes (candidates.take n) ≤ captureSessionBudgetBytes) ∧
      ∀ i, (evict retainedBytes candidates decisions)[i]? =
        if i ∈ (candidates.take n).map (·.2) then decisions[i]?.map ofEvicted else decisions[i]? := by
  induction candidates generalizing retainedBytes decisions
  case nil => exact ⟨0, by simp [evict]⟩
  case cons entry candidates ih =>
    obtain ⟨item, index⟩ := entry
    by_cases hle : retainedBytes ≤ captureSessionBudgetBytes
    case pos => exact ⟨0, by simp [evict, hle]⟩
    case neg =>
      rw [evict, if_neg hle]
      generalize hmarked : decisions.modify index _ = marked
      obtain ⟨n, hn, hover, hwithin, hget⟩ := ih (retainedBytes - item.bytes.toNat) marked
      refine ⟨n + 1, by simpa using hn, ?above, ?within, ?marks⟩
      case above =>
        intro k hk
        cases k
        case zero => simpa using hle
        case succ k => simpa [Nat.sub_sub] using hover k (by omega)
      case within =>
        intro hlt
        simpa [Nat.sub_sub] using hwithin (by simpa using hlt)
      case marks =>
        intro i
        subst hmarked
        simp only [hget, List.take_succ_cons, List.map_cons, List.mem_cons]
        by_cases hi : index = i
        case neg => simp [hi, Ne.symm hi]
        case pos =>
          subst hi
          simp only [List.getElem?_modify]
          split <;> cases decisions[index]? <;> simp_all [ofEvicted]

theorem length_initialDecisions : (initialDecisions items nowMs).length = items.length := by
  simp [initialDecisions]

theorem getElem?_initialDecisions (i : Nat) : (initialDecisions items nowMs)[i]? =
    items[i]?.map fun item =>
      (item.mediaId, if item.expired nowMs then .expiredAfterThirtyDays else .retain) := by
  simp [initialDecisions]

-- The candidates of the code are the queue.
theorem candidates_eq : (items.zipIdx.filter fun (item, index) => !item.confirmed &&
      (initialDecisions items nowMs)[index]?.any (·.2 = .retain)).insertionSort byAge =
    evictionQueue items nowMs := by
  unfold evictionQueue
  congr 1
  apply List.filter_congr
  intro entry hentry
  have hget := List.mem_zipIdx_iff_getElem?.mp hentry
  simp only [getElem?_initialDecisions, hget, Option.map_some, Option.any_some]
  by_cases he : entry.1.expired nowMs <;> simp [he]

theorem zip_eq_map_zipIdx {β : Type _} (default : β) (bs : List β) (h : bs.length = items.length) :
    items.zip bs = items.zipIdx.map fun entry => (entry.1, bs[entry.2]?.getD default) := by
  apply List.ext_getElem
  case hl => simp [h]
  case h =>
    intro i hi _
    have hi' : i < bs.length := by
      rw [List.length_zip] at hi
      omega
    simp [hi']

-- What the decisions keep of the unconfirmed items, as entries with their positions.
theorem retainedUnconfirmed_eq {decisions : List RetentionDecision}
    (h : decisions.length = items.length) : retainedUnconfirmed items decisions =
      (items.zipIdx.filter fun entry => !entry.1.confirmed &&
        (decisions[entry.2]?.getD ("", .evictedBySessionBudget)).2 = .retain).map (·.1) := by
  rw [retainedUnconfirmed, zip_eq_map_zipIdx ("", .evictedBySessionBudget) _ h, List.filter_map,
    List.map_map]
  rfl

theorem foldl_saturatingAdd (sizes : List Nat) (start : Nat) (h : start ≤ 2 ^ 64 - 1) :
    sizes.foldl (saturatingAdd 64) start = min (start + sizes.sum) (2 ^ 64 - 1) := by
  induction sizes generalizing start
  case nil => simpa using h
  case cons size sizes ih =>
    have hstep : saturatingAdd 64 start size ≤ 2 ^ 64 - 1 := min_le_right _ _
    rw [List.foldl_cons, ih _ hstep, saturatingAdd, List.sum_cons]
    omega

-- What is counted at first is the sum over the queue, up to the greatest value of its type.
theorem retainedBytes_eq : ((retainedUnconfirmed items (initialDecisions items nowMs)).map
      (·.bytes.toNat)).foldl (saturatingAdd 64) 0 =
    min (totalBytes (evictionQueue items nowMs)) (2 ^ 64 - 1) := by
  have hqueue : (evictionQueue items nowMs).Perm (items.zipIdx.filter fun entry =>
      !entry.1.confirmed && ((initialDecisions items nowMs)[entry.2]?.getD
        ("", .evictedBySessionBudget)).2 = .retain) := by
    rw [← candidates_eq]
    refine (List.perm_insertionSort _ _).trans (List.Perm.of_eq ?_)
    apply List.filter_congr
    intro entry hentry
    have hget := List.mem_zipIdx_iff_getElem?.mp hentry
    simp [getElem?_initialDecisions, hget]
  rw [foldl_saturatingAdd _ _ (by norm_num), Nat.zero_add,
    retainedUnconfirmed_eq length_initialDecisions, List.map_map]
  exact congrArg (min · _) ((hqueue.map (·.1.bytes.toNat)).sum_eq.symm)

-- The first decisions, with the oldest `n` of the queue marked.
structure Marked (items : List ProvisionalMedia) (nowMs : UInt64) (n : Nat)
    (decisions : List RetentionDecision) : Prop where
  length : decisions.length = items.length
  get    : ∀ i : Nat, decisions[i]? =
    if i ∈ oldest items nowMs n then
      (initialDecisions items nowMs)[i]?.map ofEvicted
    else
      (initialDecisions items nowMs)[i]?

theorem length_evict (candidates : List (ProvisionalMedia × Nat)) (retainedBytes : Nat)
    (decisions : List RetentionDecision) :
    (evict retainedBytes candidates decisions).length = decisions.length := by
  induction candidates generalizing retainedBytes decisions
  case nil => rfl
  case cons entry candidates ih =>
    unfold evict
    split
    · rfl
    · rw [ih, List.length_modify]

theorem retentionDecisions_marked (items : List ProvisionalMedia) (nowMs : UInt64) :
    ∃ n ≤ (evictionQueue items nowMs).length,
      Marked items nowMs n (retentionDecisions items nowMs) ∧
      (∀ k < n, captureSessionBudgetBytes <
        min (totalBytes (evictionQueue items nowMs)) (2 ^ 64 - 1) -
          totalBytes ((evictionQueue items nowMs).take k)) ∧
      min (totalBytes (evictionQueue items nowMs)) (2 ^ 64 - 1) -
        totalBytes ((evictionQueue items nowMs).take n) ≤ captureSessionBudgetBytes := by
  have heq : retentionDecisions items nowMs =
      evict (min (totalBytes (evictionQueue items nowMs)) (2 ^ 64 - 1))
        (evictionQueue items nowMs) (initialDecisions items nowMs) := by
    simp only [retentionDecisions, retainedBytes_eq, candidates_eq]
  have ⟨n, hn, hover, hwithin, hget⟩ := evict_prefix (evictionQueue items nowMs)
    (min (totalBytes (evictionQueue items nowMs)) (2 ^ 64 - 1)) (initialDecisions items nowMs)
  refine ⟨n, hn, ⟨?length, ?get⟩, hover, ?within⟩
  case length => rw [heq, length_evict, length_initialDecisions]
  case get => rwa [heq]
  case within =>
    by_cases hlt : n < (evictionQueue items nowMs).length
    case pos => exact hwithin hlt
    case neg =>
      rw [List.take_of_length_le (by omega)]
      omega

section

variable {n : Nat} {decisions : List RetentionDecision}

theorem mem_oldest {i : Nat} (hi : i ∈ oldest items nowMs n) : ∃ item, items[i]? = some item ∧
      item.confirmed = false ∧ item.expired nowMs = false := by
  have ⟨entry, hentry, hpos⟩ := List.mem_map.mp hi
  subst hpos
  exact ⟨entry.1, mem_evictionQueue.mp (List.mem_of_mem_take hentry)⟩

-- An item that is not in the queue keeps its first decision.
theorem Marked.kept (h : Marked items nowMs n decisions) {i : Nat} {item : ProvisionalMedia}
    (hitem : items[i]? = some item) (hout : item.confirmed ∨ item.expired nowMs) :
    decisions[i]? = some (item.mediaId,
      if item.expired nowMs then .expiredAfterThirtyDays else .retain) := by
  have hnot : i ∉ oldest items nowMs n := by
    intro hi
    have ⟨item', hitem', hc, he⟩ := mem_oldest hi
    simp_all
  rw [h.get, if_neg hnot, getElem?_initialDecisions, hitem, Option.map_some]

theorem Marked.ids (h : Marked items nowMs n decisions) :
    decisions.map (·.1) = items.map (·.mediaId) := by
  apply List.ext_getElem?
  intro i
  simp only [List.getElem?_map, h.get, getElem?_initialDecisions]
  split <;> cases items[i]? <;> rfl

theorem Marked.evicted_iff (h : Marked items nowMs n decisions) (i : Nat) :
    (∃ id, decisions[i]? = some (id, .evictedBySessionBudget)) ↔
      i ∈ oldest items nowMs n := by
  rw [h.get, getElem?_initialDecisions]
  constructor
  case mp =>
    intro ⟨id, hid⟩
    by_contra hi
    rw [if_neg hi] at hid
    cases hitem : items[i]? <;> simp [hitem] at hid
    have := hid.2
    split at this <;> cases this
  case mpr =>
    intro hi
    have ⟨item, hitem, _⟩ := mem_oldest hi
    exact ⟨item.mediaId, by simp [hi, hitem, ofEvicted]⟩

-- The bytes that the decisions keep are those of the rest of the queue.
theorem Marked.retained (h : Marked items nowMs n decisions) :
    ((retainedUnconfirmed items decisions).map (·.bytes.toNat)).sum =
      totalBytes ((evictionQueue items nowMs).drop n) := by
  have hfilter : (items.zipIdx.filter fun entry => !entry.1.confirmed &&
      (decisions[entry.2]?.getD ("", .evictedBySessionBudget)).2 = .retain) =
      (items.zipIdx.filter fun (item, _) => !item.confirmed && !item.expired nowMs).filter
        fun entry => entry.2 ∉ oldest items nowMs n := by
    rw [List.filter_filter]
    apply List.filter_congr
    intro entry hentry
    have hget := List.mem_zipIdx_iff_getElem?.mp hentry
    simp only [h.get, getElem?_initialDecisions, hget]
    by_cases hm : entry.2 ∈ oldest items nowMs n <;> by_cases he : entry.1.expired nowMs <;>
      simp [hm, he, ofEvicted]
  have hqueue : (evictionQueue items nowMs).filter (fun entry => entry.2 ∉ oldest items nowMs n) =
      (evictionQueue items nowMs).drop n := by
    have hnodup := evictionQueue_positions_nodup items nowMs
    conv_lhs => rw [← List.take_append_drop n (evictionQueue items nowMs), List.filter_append]
    rw [← List.take_append_drop n (evictionQueue items nowMs), List.map_append] at hnodup
    have hdisjoint := List.disjoint_of_nodup_append hnodup
    have hnil : ((evictionQueue items nowMs).take n).filter (fun entry => entry.2 ∉ oldest items nowMs n) = [] := by
      apply List.filter_eq_nil_iff.mpr
      intro entry hentry
      have hm : entry.2 ∈ oldest items nowMs n := List.mem_map_of_mem hentry
      simp [hm]
    have hall : ((evictionQueue items nowMs).drop n).filter (fun entry => entry.2 ∉ oldest items nowMs n) =
        (evictionQueue items nowMs).drop n := by
      apply List.filter_eq_self.mpr
      intro entry hentry
      simpa using fun hm : entry.2 ∈ oldest items nowMs n => hdisjoint hm (List.mem_map_of_mem hentry)
    rw [hnil, hall, List.nil_append]
  rw [retainedUnconfirmed_eq h.length, hfilter, List.map_map, ← hqueue]
  have hperm : (evictionQueue items nowMs).Perm _ := List.perm_insertionSort _ _
  exact ((hperm.filter _).map (·.1.bytes.toNat)).sum_eq.symm

end

theorem totalBytes_take_mono (entries : List (ProvisionalMedia × Nat)) {k n : Nat} (h : k ≤ n) :
    totalBytes (entries.take k) ≤ totalBytes (entries.take n) := by
  have := totalBytes_take_add_drop (entries.take n) k
  rw [List.take_take, min_eq_left h] at this
  omega

end

-- The sum fits its type, or every prefix of the queue that brings the greatest value of the type
-- within the budget brings the sum within it as well.
def SumCounted (items : List ProvisionalMedia) (nowMs : UInt64) : Prop :=
  totalBytes (evictionQueue items nowMs) ≤ 2 ^ 64 - 1 ∨
  ∀ k, 2 ^ 64 - 1 ≤ totalBytes ((evictionQueue items nowMs).take k) + captureSessionBudgetBytes →
    totalBytes (evictionQueue items nowMs) ≤
      totalBytes ((evictionQueue items nowMs).take k) + captureSessionBudgetBytes

theorem retentionDecisions_retains_iff (items : List ProvisionalMedia) (nowMs : UInt64) :
    Retains items nowMs (retentionDecisions items nowMs) ↔ SumCounted items nowMs := by
  have ⟨n, hn, hmarked, hover, hwithin⟩ := retentionDecisions_marked items nowMs
  have hsplit := totalBytes_take_add_drop (evictionQueue items nowMs)
  constructor
  case mp =>
    intro h
    have hbudget := h.budget
    rw [hmarked.retained] at hbudget
    apply Or.inr
    intro k hk
    -- A prefix shorter than the one that the code takes leaves too many of the counted bytes.
    have hnk : n ≤ k := by
      by_contra hlt
      have := hover k (by omega)
      omega
    have := totalBytes_take_mono (evictionQueue items nowMs) hnk
    have := hsplit n
    omega
  case mpr =>
    intro h
    have hrest : totalBytes ((evictionQueue items nowMs).drop n) ≤ captureSessionBudgetBytes := by
      have := hsplit n
      cases h
      case inl h => omega
      case inr h =>
        have := h n
        omega
    refine ⟨hmarked.ids, ?confirmed, ?expired, hmarked.retained ▸ hrest,
      n, ⟨hn, hrest, ?shortest⟩, hmarked.evicted_iff⟩
    case confirmed =>
      intro i item hitem hc
      have he : item.expired nowMs = false := by simp [ProvisionalMedia.expired, hc]
      simpa [he] using hmarked.kept hitem (.inl hc)
    case expired =>
      intro i item hitem hc hage
      have he : item.expired nowMs = true := by simp [ProvisionalMedia.expired, hc, hage]
      simpa [he] using hmarked.kept hitem (.inr he)
    case shortest =>
      intro k hk
      have := hover k hk
      have := hsplit k
      omega

-- Two items whose sizes do not fit the sum: one of them is kept.
def unboundedMedia : List ProvisionalMedia := [
  { mediaId := "a", createdAtMs := 0, bytes := 2 ^ 64 - 1, confirmed := false },
  { mediaId := "b", createdAtMs := 0, bytes := 2 ^ 64 - 1, confirmed := false }
]

theorem not_retains_unboundedMedia :
    ¬Retains unboundedMedia 0 (retentionDecisions unboundedMedia 0) := by
  have hkept : captureSessionBudgetBytes <
      ((retainedUnconfirmed unboundedMedia (retentionDecisions unboundedMedia 0)).map
        (·.bytes.toNat)).sum := by
    decide +kernel
  exact fun h => absurd h.budget hkept.not_ge

end Domain
