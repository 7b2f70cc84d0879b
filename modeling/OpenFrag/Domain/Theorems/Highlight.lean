import OpenFrag.Domain.Highlight

namespace Domain

namespace HighlightCandidate

-- Two candidates that only their times and their evidence can tell apart.
structure SameRound (l r : HighlightCandidate) : Prop where
  captureSessionId : l.captureSessionId = r.captureSessionId
  roundId          : l.roundId = r.roundId
  ruleVersion      : l.ruleVersion = r.ruleVersion

variable {l r : HighlightCandidate}

theorem SameRound.order (h : SameRound l r) :
    candidateOrder l r =
      ((compare l.range.startMs r.range.startMs).then <|
        (compare l.range.endMs r.range.endMs).then <| compare l.receiptIds r.receiptIds) := by
  unfold candidateOrder
  rw [h.captureSessionId, h.roundId, h.ruleVersion]
  simp only [Std.ReflOrd.compare_self, Ordering.eq_then]

theorem SameRound.start_le (h : SameRound l r) (hle : (candidateOrder l r).isLE) :
    l.range.startMs ≤ r.range.startMs := by
  rw [h.order] at hle
  by_contra hlt
  rw [Nat.compare_eq_gt.mpr (by omega)] at hle
  cases hle

theorem SameRound.start_ge (h : SameRound l r) (hle : ¬(candidateOrder l r).isLE) :
    r.range.startMs ≤ l.range.startMs := by
  rw [h.order] at hle
  by_contra hlt
  rw [Nat.compare_eq_lt.mpr (by omega)] at hle
  exact hle rfl

theorem sortCandidates_pair (l r : HighlightCandidate) :
    sortCandidates [l, r] = if (candidateOrder l r).isLE then [l, r] else [r, l] := by
  simp [sortCandidates, List.mergeSort, List.merge]

theorem mergeLoop_singleton (rounds : Nat) (c : HighlightCandidate) : mergeLoop rounds [c] = [c] := by
  cases rounds <;> rfl

theorem mergeLoop_pair (rounds : Nat) (x y : HighlightCandidate) :
    mergeLoop (rounds + 1) [x, y] = if x.canMerge y then [x.merged y] else [x, y] := by
  unfold mergeLoop
  by_cases h : x.canMerge y
  case pos =>
    simp [mergePair, takeFirst, h, sortCandidates, mergeLoop_singleton]
  case neg => simp [mergePair, takeFirst, h]

theorem mergeLoop_pair_start {x y c : HighlightCandidate} {cs : List HighlightCandidate}
    (hle : x.range.startMs ≤ y.range.startMs)
    (h : mergeLoop [x, y].eraseReps.length [x, y].eraseReps = c :: cs) :
    c.range.startMs = x.range.startMs := by
  by_cases hxy : x = y
  case pos =>
    simp [List.eraseReps, List.eraseRepsBy, List.eraseRepsBy.loop, hxy, mergeLoop_singleton] at h
    rw [← h.1, hxy]
  case neg =>
    have hne : (x == y) = false := beq_false_of_ne hxy
    simp [List.eraseReps, List.eraseRepsBy, List.eraseRepsBy.loop, hne, mergeLoop_pair] at h
    split at h
    case isTrue =>
      cases h
      exact min_eq_left hle
    case isFalse =>
      cases h
      rfl

-- The first of two merged candidates does not start after the second of them.
theorem mergeCandidates_start_le {c : HighlightCandidate} {cs : List HighlightCandidate}
    (hsame : SameRound l r) (h : mergeCandidates [l, r] = c :: cs) :
    c.range.startMs ≤ r.range.startMs := by
  unfold mergeCandidates at h
  rw [sortCandidates_pair] at h
  split at h
  case isTrue hle =>
    have hstart := hsame.start_le hle
    exact (mergeLoop_pair_start hstart h).trans_le hstart
  case isFalse hle => exact (mergeLoop_pair_start (hsame.start_ge hle) h).le

theorem mergeLoop_ne_nil {rounds : Nat} {cs : List HighlightCandidate} (h : cs ≠ []) :
    mergeLoop rounds cs ≠ [] := by
  induction rounds generalizing cs
  case zero => exact h
  case succ rounds ih =>
    unfold mergeLoop
    split
    case h_1 => exact h
    case h_2 l r rest _ =>
      have hlength : (sortCandidates (rest ++ [l.merged r])).length = rest.length + 1 := by
        simp [sortCandidates]
      exact ih (List.ne_nil_of_length_eq_add_one hlength)

theorem mergeCandidates_ne_nil {cs : List HighlightCandidate} (h : cs ≠ []) :
    mergeCandidates cs ≠ [] := by
  have ⟨c, hc⟩ := List.exists_mem_of_ne_nil cs h
  have hmem : c ∈ (sortCandidates cs).eraseReps :=
    List.mem_eraseReps.mpr (List.mem_mergeSort.mpr hc)
  exact mergeLoop_ne_nil (List.ne_nil_of_mem hmem)

end HighlightCandidate

end Domain
