import Mathlib.Order.Bounds.Basic
import OpenFrag.Domain.Theorems.Highlight
import OpenFrag.Library.Merging

namespace Domain.HighlightCandidate

def Built (c : HighlightCandidate) : Prop :=
  ∃ captureSessionId roundId range trigger receiptId,
    new captureSessionId roundId range trigger receiptId = .ok c

-- The union of what the candidates of a block list, as an ordered set lists it.
structure Unites {α : Type} [LT α] (block : Set HighlightCandidate)
    (f : HighlightCandidate → List α) (set : List α) : Prop where
  ascending : set.Pairwise (· < ·)
  mem_iff   : ∀ a, a ∈ set ↔ ∃ c ∈ block, a ∈ f c

-- A candidate that carries a block of the candidates of one round, and nothing else.
structure Carries (block : Set HighlightCandidate) (c : HighlightCandidate) : Prop where
  built               : ∀ member ∈ block, member.Built
  sameRound           : ∀ member ∈ block, SameRound member c
  startMs             : IsLeast ((fun member => member.range.startMs) '' block) c.range.startMs
  endMs               : IsGreatest ((fun member => member.range.endMs) '' block) c.range.endMs
  contributorStartsMs : Unites block contributorStartsMs c.contributorStartsMs
  triggers            : Unites block triggers c.triggers
  receiptIds          : Unites block receiptIds c.receiptIds

def merging : Merging HighlightCandidate HighlightCandidate where
  carries  := Carries
  canMerge := fun c c' => c.canMerge c'
  merged   := merged

-- What a list of candidates has been merged to. The loop comes to its end, and each member of the
-- result carries one block of the finest partition of the candidates that is closed under merging.
structure MergedTo (candidates result : List HighlightCandidate) : Prop where
  settled : mergePair result = none
  rounds  : ∀ rounds ≥ candidates.length,
    mergeLoop rounds (sortCandidates candidates).eraseReps = result
  apart   : result.Pairwise fun c c' => ¬c.canMerge c'
  fixed   : mergeCandidates result = result
  blocks  : ∃ P blocks, merging.Finest {c | c ∈ candidates} P ∧ merging.Blocks P result blocks

end Domain.HighlightCandidate
