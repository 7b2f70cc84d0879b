import OpenFrag.Domain.Blocks

namespace Domain.HighlightCandidate

variable {c c' d d' : HighlightCandidate} {block block' : Set HighlightCandidate}
variable {cs cs' candidates candidates' : List HighlightCandidate}

@[refl]
theorem SameRound.refl (c : HighlightCandidate) : SameRound c c :=
  ⟨rfl, rfl, rfl⟩

theorem SameRound.symm (h : SameRound c c') : SameRound c' c :=
  ⟨h.captureSessionId.symm, h.roundId.symm, h.ruleVersion.symm⟩

theorem SameRound.trans (h : SameRound c c') (h' : SameRound c' d) : SameRound c d :=
  ⟨h.captureSessionId.trans h'.captureSessionId, h.roundId.trans h'.roundId,
    h.ruleVersion.trans h'.ruleVersion⟩

-- Two starts of contributors are close to each other.
def Close (c c' : HighlightCandidate) : Prop :=
  ∃ l ∈ c.contributorStartsMs, ∃ r ∈ c'.contributorStartsMs,
    (l - r) + (r - l) ≤ candidateMergeGapMs

theorem canMerge_iff : c.canMerge c' ↔
    SameRound c c' ∧
      ((c.range.startMs ≤ c'.range.endMs ∧ c'.range.startMs ≤ c.range.endMs) ∨ Close c c') := by
  simp only [canMerge]
  split
  case isTrue h =>
    have hne : ¬SameRound c c' := fun hsame => by
      simp [hsame.captureSessionId, hsame.roundId, hsame.ruleVersion] at h
    simp [hne]
  case isFalse h =>
    simp only [ne_eq, Bool.or_eq_true, decide_eq_true_eq, not_or, not_not] at h
    have hsame : SameRound c c' := ⟨h.1.1, h.1.2, h.2⟩
    simp [hsame, TimeRange.overlaps, Close]

theorem Built.start_le (h : c.Built) : c.range.startMs ≤ c.range.endMs := by
  obtain ⟨captureSessionId, roundId, range, trigger, receiptId, h⟩ := h
  unfold new at h
  split at h
  case isTrue         => cases h
  case isFalse hrange =>
    cases h
    exact Nat.not_lt.mp hrange

namespace Unites

variable {α : Type} {f : HighlightCandidate → List α} {set set' : List α}

theorem unique [LinearOrder α] (h : Unites block f set) (h' : Unites block f set') : set = set' :=
  h.ascending.eq_of_mem_iff h'.ascending fun a => (h.mem_iff a).trans (h'.mem_iff a).symm

theorem single [LT α] {a : α} (h : f c = [a]) : Unites {c} f (f c) where
  ascending := by simp [h]
  mem_iff   := by simp

theorem union [LinearOrder α] (h : Unites block f set) (h' : Unites block' f set') :
    Unites (block ∪ block') f (set ++ set').ascending where
  ascending := List.ascending_pairwise _
  mem_iff   := fun a => by
    simp [h.mem_iff, h'.mem_iff, or_and_right, exists_or]

end Unites

namespace Carries

theorem single (h : c.Built) : Carries {c} c := by
  obtain ⟨captureSessionId, roundId, range, trigger, receiptId, hnew⟩ := id h
  unfold new at hnew
  split at hnew
  case isTrue  => cases hnew
  case isFalse =>
    have hc := Except.ok.inj hnew
    exact {
      built               := by simpa using h
      sameRound           := by simpa using SameRound.refl c
      startMs             := by simp
      endMs               := by simp
      contributorStartsMs := .single (a := range.startMs) (by rw [← hc])
      triggers            := .single (a := trigger) (by rw [← hc])
      receiptIds          := .single (a := receiptId) (by rw [← hc]) }

theorem nonempty (h : Carries block c) : block.Nonempty := by
  obtain ⟨member, hmember, _⟩ := h.startMs.1
  exact ⟨member, hmember⟩

theorem start_le (h : Carries block c) {member : HighlightCandidate} (hmember : member ∈ block) :
    c.range.startMs ≤ member.range.startMs :=
  h.startMs.2 ⟨member, hmember, rfl⟩

theorem le_end (h : Carries block c) {member : HighlightCandidate} (hmember : member ∈ block) :
    member.range.endMs ≤ c.range.endMs :=
  h.endMs.2 ⟨member, hmember, rfl⟩

theorem unique (h : Carries block c) (h' : Carries block c') : c = c' := by
  obtain ⟨member, hmember⟩ := h.nonempty
  have hsame := (h.sameRound member hmember).symm.trans (h'.sameRound member hmember)
  have hstart := h.startMs.unique h'.startMs
  have hend := h.endMs.unique h'.endMs
  have hcontributors := h.contributorStartsMs.unique h'.contributorStartsMs
  have htriggers := h.triggers.unique h'.triggers
  have hreceipts := h.receiptIds.unique h'.receiptIds
  obtain ⟨session, round, version, ⟨start, stop⟩, contributors, triggers, receipts⟩ := c
  obtain ⟨session', round', version', ⟨start', stop'⟩, contributors', triggers', receipts'⟩ := c'
  obtain ⟨hsession, hround, hversion⟩ := hsame
  simp only at *
  simp [*]

theorem union (h : Carries block c) (h' : Carries block' c') (hsame : SameRound c c') :
    Carries (block ∪ block') (c.merged c') where
  built               := by
    rintro member (hmember | hmember)
    · exact h.built member hmember
    · exact h'.built member hmember
  sameRound           := by
    rintro member (hmember | hmember)
    · exact (h.sameRound member hmember).trans ⟨rfl, rfl, rfl⟩
    · exact ((h'.sameRound member hmember).trans hsame.symm).trans ⟨rfl, rfl, rfl⟩
  startMs             := by
    rw [Set.image_union]
    exact h.startMs.union h'.startMs
  endMs               := by
    rw [Set.image_union]
    exact h.endMs.union h'.endMs
  contributorStartsMs := h.contributorStartsMs.union h'.contributorStartsMs
  triggers            := h.triggers.union h'.triggers
  receiptIds          := h.receiptIds.union h'.receiptIds

end Carries

theorem Close.mono (h : Carries block c) (h' : Carries block' c') {C C' : Set HighlightCandidate}
    (hd : Carries C d) (hd' : Carries C' d') (hC : block ⊆ C) (hC' : block' ⊆ C')
    (hclose : Close c c') : Close d d' := by
  obtain ⟨l, hl, r, hr, hle⟩ := hclose
  obtain ⟨member, hmember, hl⟩ := (h.contributorStartsMs.mem_iff l).mp hl
  obtain ⟨member', hmember', hr⟩ := (h'.contributorStartsMs.mem_iff r).mp hr
  exact ⟨l, (hd.contributorStartsMs.mem_iff l).mpr ⟨member, hC hmember, hl⟩,
    r, (hd'.contributorStartsMs.mem_iff r).mpr ⟨member', hC' hmember', hr⟩, hle⟩

theorem canMerge_symm (h : c.canMerge c') : c'.canMerge c := by
  obtain ⟨hsame, h⟩ := canMerge_iff.mp h
  refine canMerge_iff.mpr ⟨hsame.symm, h.imp And.symm fun ⟨l, hl, r, hr, hle⟩ => ?_⟩
  exact ⟨r, hr, l, hl, by omega⟩

-- A larger block can be merged with whatever a smaller one can be merged with.
theorem canMerge_mono (h : Carries block c) (h' : Carries block' c') {C C' : Set HighlightCandidate}
    (hd : Carries C d) (hd' : Carries C' d') (hC : block ⊆ C) (hC' : block' ⊆ C')
    (hmerge : c.canMerge c') : d.canMerge d' := by
  obtain ⟨hsame, hmerge⟩ := canMerge_iff.mp hmerge
  obtain ⟨member, hmember⟩ := h.nonempty
  obtain ⟨member', hmember'⟩ := h'.nonempty
  have hcd : SameRound c d := (h.sameRound member hmember).symm.trans (hd.sameRound member (hC hmember))
  have hcd' : SameRound c' d' :=
    (h'.sameRound member' hmember').symm.trans (hd'.sameRound member' (hC' hmember'))
  refine canMerge_iff.mpr ⟨(hcd.symm.trans hsame).trans hcd', ?_⟩
  refine hmerge.imp (fun ⟨hle, hle'⟩ => ?_) (Close.mono h h' hd hd' hC hC')
  have hstart := h.startMs.mono hd.startMs (Set.image_mono hC)
  have hstart' := h'.startMs.mono hd'.startMs (Set.image_mono hC')
  have hend := h.endMs.mono hd.endMs (Set.image_mono hC)
  have hend' := h'.endMs.mono hd'.endMs (Set.image_mono hC')
  exact ⟨by omega, by omega⟩

-- A candidate lies within the ranges of all that carry it.
theorem canMerge_shared (h : Carries block c) (h' : Carries block' c')
    (hshared : (block ∩ block').Nonempty) : c.canMerge c' := by
  obtain ⟨member, hmember, hmember'⟩ := hshared
  have hsame := (h.sameRound member hmember).symm.trans (h'.sameRound member hmember')
  have hle := (h.built member hmember).start_le
  have hstart := h.start_le hmember
  have hstart' := h'.start_le hmember'
  have hend := h.le_end hmember
  have hend' := h'.le_end hmember'
  exact canMerge_iff.mpr ⟨hsame, .inl ⟨by omega, by omega⟩⟩

theorem merging_lawful : merging.Lawful where
  symm     := canMerge_symm
  nonempty := Carries.nonempty
  unique   := Carries.unique
  union    := fun h h' hmerge => h.union h' (canMerge_iff.mp hmerge).1
  mono     := fun h h' hd hd' => canMerge_mono h h' hd hd'
  shared   := canMerge_shared

section Loop

theorem takeFirst_some {p : HighlightCandidate → Bool} (h : takeFirst p cs = some (c, cs')) :
    p c ∧ cs.Perm (c :: cs') := by
  induction cs generalizing cs'
  case nil => cases h
  case cons d cs ih =>
    simp only [takeFirst] at h
    split at h
    case isTrue hp =>
      cases h
      exact ⟨hp, .refl _⟩
    case isFalse =>
      obtain ⟨⟨c', rest⟩, htake, heq⟩ := Option.map_eq_some_iff.mp h
      cases heq
      obtain ⟨hp, hperm⟩ := ih htake
      exact ⟨hp, (hperm.cons d).trans (.swap c' d rest)⟩

theorem takeFirst_none {p : HighlightCandidate → Bool} :
    takeFirst p cs = none ↔ ∀ c ∈ cs, ¬p c := by
  induction cs
  case nil => simp [takeFirst]
  case cons d cs ih =>
    simp only [takeFirst, List.forall_mem_cons]
    split
    case isTrue hp  => simp [hp]
    case isFalse hp => simp [hp, ih]

theorem mergePair_some (h : mergePair cs = some (c, c', cs')) :
    c.canMerge c' ∧ cs.Perm (c :: c' :: cs') := by
  induction cs generalizing cs'
  case nil => cases h
  case cons d cs ih =>
    simp only [mergePair] at h
    split at h
    case h_1 c'' rest htake =>
      cases h
      obtain ⟨hmerge, hperm⟩ := takeFirst_some htake
      exact ⟨hmerge, hperm.cons _⟩
    case h_2 =>
      obtain ⟨⟨l, r, rest⟩, hpair, heq⟩ := Option.map_eq_some_iff.mp h
      cases heq
      obtain ⟨hmerge, hperm⟩ := ih hpair
      refine ⟨hmerge, (hperm.cons d).trans ?_⟩
      exact (List.Perm.swap l d _).trans ((List.Perm.swap r d rest).cons l)

theorem mergePair_none : mergePair cs = none ↔ cs.Pairwise fun c c' => ¬c.canMerge c' := by
  induction cs
  case nil => simp [mergePair]
  case cons d cs ih =>
    simp only [mergePair, List.pairwise_cons, ← ih, ← takeFirst_none]
    cases takeFirst d.canMerge cs <;> simp

-- The loop turns two candidates into one in each of its rounds.
theorem mergeLoop_step {rounds : Nat} (h : mergePair cs = some (c, c', cs')) :
    mergeLoop (rounds + 1) cs = mergeLoop rounds (sortCandidates (cs' ++ [c.merged c'])) := by
  simp only [mergeLoop, h]

theorem mergeLoop_of_settled {rounds : Nat} (h : mergePair cs = none) : mergeLoop rounds cs = cs := by
  cases rounds
  case zero => rfl
  case succ => simp only [mergeLoop, h]

theorem sortCandidates_perm : (sortCandidates cs).Perm cs :=
  List.mergeSort_perm cs _

theorem round_perm : (sortCandidates (cs' ++ [c.merged c'])).Perm (c.merged c' :: cs') :=
  sortCandidates_perm.trans (List.perm_append_comm)

theorem round_length (h : mergePair cs = some (c, c', cs')) :
    (sortCandidates (cs' ++ [c.merged c'])).length + 1 = cs.length := by
  rw [round_perm.length_eq, (mergePair_some h).2.length_eq]
  simp

-- There are enough rounds for the loop to come to its end, and more of them change nothing.
theorem mergeLoop_settled {rounds : Nat} (h : cs.length ≤ rounds) :
    mergePair (mergeLoop rounds cs) = none ∧ mergeLoop rounds cs = mergeLoop cs.length cs := by
  induction rounds generalizing cs
  case zero =>
    obtain rfl := List.eq_nil_of_length_eq_zero (Nat.le_zero.mp h)
    exact ⟨rfl, rfl⟩
  case succ rounds ih =>
    cases hpair : mergePair cs
    case none => simp [mergeLoop_of_settled hpair, hpair]
    case some pair =>
      obtain ⟨c, c', rest⟩ := pair
      have hlength := round_length hpair
      have hround : (sortCandidates (rest ++ [c.merged c'])).length ≤ rounds := by omega
      have ⟨hsettled, heq⟩ := ih hround
      rw [mergeLoop_step hpair, ← hlength, mergeLoop_step hpair]
      exact ⟨hsettled, heq⟩

theorem mergeLoop_progress {S : Set HighlightCandidate} {rounds : Nat} (h : merging.Progress S cs) :
    merging.Progress S (mergeLoop rounds cs) := by
  induction rounds generalizing cs
  case zero => exact h
  case succ rounds ih =>
    cases hpair : mergePair cs
    case none => rwa [mergeLoop_of_settled hpair]
    case some pair =>
      obtain ⟨c, c', rest⟩ := pair
      have ⟨hmerge, hperm⟩ := mergePair_some hpair
      rw [mergeLoop_step hpair]
      exact ih (((h.perm hperm.symm).merge merging_lawful hmerge).perm round_perm)

instance : Std.TransCmp candidateOrder :=
  inferInstanceAs (Std.TransCmp (compareLex (compareOn captureSessionId) (compareLex
    (compareOn roundId) (compareLex (compareOn ruleVersion) (compareLex
      (compareOn fun c => c.range.startMs) (compareLex (compareOn fun c => c.range.endMs)
        (compareOn receiptIds)))))))

def Sorted (cs : List HighlightCandidate) : Prop :=
  cs.Pairwise fun c c' => (candidateOrder c c').isLE

theorem sortCandidates_sorted : Sorted (sortCandidates cs) :=
  List.pairwise_mergeSort_cmp candidateOrder cs

theorem sortCandidates_of_sorted (h : Sorted cs) : sortCandidates cs = cs :=
  List.mergeSort_of_pairwise h

theorem mergeLoop_sorted {rounds : Nat} (h : Sorted cs) : Sorted (mergeLoop rounds cs) := by
  induction rounds generalizing cs
  case zero => exact h
  case succ rounds ih =>
    cases hpair : mergePair cs
    case none => rwa [mergeLoop_of_settled hpair]
    case some pair =>
      rw [mergeLoop_step hpair]
      exact ih sortCandidates_sorted

-- Candidates of one rank overlap.
theorem canMerge_of_order (hc : c.range.startMs ≤ c.range.endMs) (h : candidateOrder c c' = .eq) :
    c.canMerge c' := by
  simp only [candidateOrder, Ordering.then_eq_eq, Std.LawfulEqCmp.compare_eq_iff_eq] at h
  obtain ⟨hsession, hround, hversion, hstart, hend, _⟩ := h
  exact canMerge_iff.mpr ⟨⟨hsession, hround, hversion⟩, .inl ⟨by omega, by omega⟩⟩

end Loop

theorem Carries.start_le_end (h : Carries block c) : c.range.startMs ≤ c.range.endMs := by
  obtain ⟨member, hmember⟩ := h.nonempty
  have hle := (h.built member hmember).start_le
  have hstart := h.start_le hmember
  have hend := h.le_end hmember
  omega

section Result

variable (hbuilt : ∀ c ∈ candidates, c.Built)

include hbuilt in
theorem mergeCandidates_progress :
    merging.Progress {c | c ∈ candidates} (mergeCandidates candidates) := by
  have hmem : ∀ c, c ∈ candidates ↔ c ∈ (sortCandidates candidates).eraseReps := by
    simp [sortCandidates_perm.mem_iff]
  have hstart : merging.Progress {c | c ∈ candidates} ((sortCandidates candidates).eraseReps.map id) :=
    .start hmem fun c hc => .single (hbuilt c ((hmem c).mpr hc))
  rw [List.map_id] at hstart
  exact mergeLoop_progress hstart

theorem mergeCandidates_settled : mergePair (mergeCandidates candidates) = none :=
  (mergeLoop_settled (Nat.le_refl _)).1

theorem mergeCandidates_apart : (mergeCandidates candidates).Pairwise fun c c' => ¬c.canMerge c' :=
  mergePair_none.mp mergeCandidates_settled

theorem mergeCandidates_sorted : Sorted (mergeCandidates candidates) :=
  mergeLoop_sorted (sortCandidates_sorted.sublist List.eraseReps_sublist)

include hbuilt in
theorem mergeCandidates_carries (hc : c ∈ mergeCandidates candidates) : ∃ block, Carries block c := by
  obtain ⟨blocks, hstands, _⟩ := mergeCandidates_progress hbuilt
  obtain ⟨block, _, hcarries, _⟩ := Merging.exists_right hstands hc
  exact ⟨block, hcarries⟩

include hbuilt in
theorem mergeCandidates_nodup : (mergeCandidates candidates).Nodup := by
  refine mergeCandidates_apart.imp_of_mem fun {c c'} hc _ hapart heq => ?_
  subst heq
  obtain ⟨block, hcarries⟩ := mergeCandidates_carries hbuilt hc
  exact hapart (canMerge_shared hcarries hcarries (by simpa using hcarries.nonempty))

-- No two candidates of the result have one rank, so there is one way to sort it.
include hbuilt in
theorem mergeCandidates_antisymm (hc : c ∈ mergeCandidates candidates)
    (hc' : c' ∈ mergeCandidates candidates) (hle : (candidateOrder c c').isLE)
    (hle' : (candidateOrder c' c).isLE) : c = c' := by
  by_contra hne
  have : Std.Symm fun c c' : HighlightCandidate => ¬c.canMerge c' :=
    ⟨fun _ _ h hmerge => h (canMerge_symm hmerge)⟩
  obtain ⟨block, hcarries⟩ := mergeCandidates_carries hbuilt hc
  have heq : candidateOrder c c' = .eq := Std.OrientedCmp.isLE_antisymm hle hle'
  exact mergeCandidates_apart.forall hc hc' hne (canMerge_of_order hcarries.start_le_end heq)

include hbuilt in
theorem mergeCandidates_perm (hperm : candidates'.Perm candidates) :
    mergeCandidates candidates' = mergeCandidates candidates := by
  have hbuilt' : ∀ c ∈ candidates', c.Built := fun c hc => hbuilt c (hperm.mem_iff.mp hc)
  have hprogress := mergeCandidates_progress hbuilt'
  simp only [hperm.mem_iff] at hprogress
  have hmem : ∀ c, c ∈ mergeCandidates candidates' ↔ c ∈ mergeCandidates candidates :=
    hprogress.confluent merging_lawful (mergeCandidates_progress hbuilt) mergeCandidates_apart
      mergeCandidates_apart
  have hresult := (List.perm_ext_iff_of_nodup (mergeCandidates_nodup hbuilt')
    (mergeCandidates_nodup hbuilt)).mpr hmem
  exact hresult.eq_of_pairwise
    (fun c c' hc hc' => mergeCandidates_antisymm hbuilt ((hmem c).mp hc) hc')
    mergeCandidates_sorted mergeCandidates_sorted

-- What is sorted and cannot be merged stays as it is.
theorem mergeCandidates_of_settled (hsorted : Sorted cs) (hnodup : cs.Nodup)
    (hsettled : mergePair cs = none) : mergeCandidates cs = cs := by
  unfold mergeCandidates
  rw [sortCandidates_of_sorted hsorted, List.eraseReps_of_nodup hnodup]
  exact mergeLoop_of_settled hsettled

end Result

-- Candidates are merged to the blocks of one partition, in whatever order they come.
theorem mergeCandidates_mergedTo (candidates candidates' : List HighlightCandidate)
    (hbuilt : ∀ c ∈ candidates, c.Built) (hperm : candidates'.Perm candidates) :
    mergeCandidates candidates' = mergeCandidates candidates ∧
      MergedTo candidates (mergeCandidates candidates) := by
  refine ⟨mergeCandidates_perm hbuilt hperm, ?_⟩
  have hlength : (sortCandidates candidates).eraseReps.length ≤ candidates.length :=
    List.eraseReps_sublist.length_le.trans_eq sortCandidates_perm.length_eq
  exact {
    settled := mergeCandidates_settled
    rounds  := fun rounds hrounds => (mergeLoop_settled (hlength.trans hrounds)).2
    apart   := mergeCandidates_apart
    fixed   := mergeCandidates_of_settled mergeCandidates_sorted (mergeCandidates_nodup hbuilt)
      mergeCandidates_settled
    blocks  := (mergeCandidates_progress hbuilt).finest merging_lawful mergeCandidates_apart }

section Demo

def demoCandidate (startMs : Nat) (receiptId : String) : HighlightCandidate where
  captureSessionId    := "session"
  roundId             := "r1"
  ruleVersion         := "highlight-rules-1"
  range               := { startMs := startMs, endMs := startMs + 1000 }
  contributorStartsMs := [startMs]
  triggers            := [.killMilestone]
  receiptIds          := [receiptId]

theorem demoCandidate_built (startMs : Nat) (receiptId : String) :
    (demoCandidate startMs receiptId).Built :=
  ⟨"session", "r1", ⟨startMs, startMs + 1000⟩, .killMilestone, receiptId, by
    simp [new, demoCandidate]⟩

-- The second candidate brings the first and the third together.
theorem mergeCandidates_mergedTo_demo :
    mergeCandidates [demoCandidate 27000 "c", demoCandidate 9000 "a", demoCandidate 18000 "b"] =
      mergeCandidates [demoCandidate 9000 "a", demoCandidate 18000 "b", demoCandidate 27000 "c"] ∧
    MergedTo [demoCandidate 9000 "a", demoCandidate 18000 "b", demoCandidate 27000 "c"]
      (mergeCandidates
        [demoCandidate 9000 "a", demoCandidate 18000 "b", demoCandidate 27000 "c"]) :=
  mergeCandidates_mergedTo _ _ (by simp [demoCandidate_built]) (by decide)

end Demo

end Domain.HighlightCandidate
