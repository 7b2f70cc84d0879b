import Mathlib.Data.List.Dedup
import OpenFrag.Domain.Theorems.Baseline

open Except List

namespace Domain

-- The two ways of asking for a cohort.
inductive LensRequest
  | baseline
  | sideComponent (side : Side) (component : ComponentKind)
  deriving DecidableEq, Repr

namespace LensRequest

def build (request : LensRequest) (history : List HistoryMatch) (query : BaselineQuery) :
    Except BaselineError BaselineReceipt :=
  match request with
  | .baseline                     => buildBaseline history query
  | .sideComponent side component => buildSideComponentLens history query side component

def query (request : LensRequest) (query : BaselineQuery) : BaselineQuery :=
  match request with
  | .baseline                  => query
  | .sideComponent _ component => { query with field := .component component }

def lens (request : LensRequest) (query : BaselineQuery) : Lens :=
  match request with
  | .baseline                     => .whole query.field
  | .sideComponent side component => .sideComponent side component

-- The matches of the history that have a value for the request.
def candidates (request : LensRequest) (history : List HistoryMatch) (query : BaselineQuery) :
    List Candidate :=
  (request.lens query).candidates (request.query query) history

end LensRequest

structure SameReceipt (receipt receipt' : BaselineReceipt) : Prop where
  matchIds   : receipt'.includedMatchIds = receipt.includedMatchIds
  demoHashes : receipt'.includedDemoHashes = receipt.includedDemoHashes
  runIds     : receipt'.includedCalculationRunIds = receipt.includedCalculationRunIds
  values     : receipt'.selectedValues = receipt.selectedValues
  maturity   : receipt'.maturity = receipt.maturity
  stats      : receipt'.stats = receipt.stats
  exclusions : receipt'.exclusions.Perm receipt.exclusions

def SameOutcome : Except BaselineError BaselineReceipt → Except BaselineError BaselineReceipt → Prop
  | .ok receipt, .ok receipt' => SameReceipt receipt receipt'
  | .error e, .error e'       => e = e'
  | _, _                      => False

-- The demos that have a candidate after the given one.
def laterDemos (candidates : List Candidate) (c : Candidate) : List String :=
  ((candidates.filter fun b => c.1.endKey < b.1.endKey).map (·.demoHash)).dedup

-- The last candidate of its demo.
def LastOfDemo (candidates : List Candidate) (c : Candidate) : Prop :=
  c ∈ candidates ∧ ∀ b ∈ candidates, b.demoHash = c.demoHash → b.1.endKey ≤ c.1.endKey

-- Candidates that end together with the last one of their demo are one match, and have one run and
-- one value where the window is not full of later demos.
def Untied (candidates : List Candidate) : Prop :=
  ∀ c c', LastOfDemo candidates c → c' ∈ candidates → c'.1.endKey = c.1.endKey →
    c'.1.matchId = c.1.matchId ∧
    ((laterDemos candidates c).length < baselineWindowMatches →
      c'.1.calculationRunId = c.1.calculationRunId ∧ c'.2 = c.2)

section

variable {query : BaselineQuery} {lens : Lens} {history history' : List HistoryMatch}
  {candidates candidates' : List Candidate} {c c' : Candidate}

theorem recency_eq_iff : c.recency = c'.recency ↔ c.1.endKey = c'.1.endKey :=
  OrderDual.toDual.injective.eq_iff

def keyHash (key : (ℕ ×ₗ String)ᵒᵈ) : String :=
  (ofLex (OrderDual.ofDual key)).2

theorem demoHash_of_recency (c : Candidate) : keyHash c.recency = c.demoHash := rfl

theorem demoHash_eq (h : c.1.endKey = c'.1.endKey) : c.demoHash = c'.demoHash :=
  endKey_injective_hash h

theorem kept_strict (candidates : List Candidate) :
    (kept candidates).Pairwise fun c c' => c'.1.endKey < c.1.endKey := by
  have hlabels := pairwise_map.mp (leaders_nodup Candidate.recency Candidate.demoHash candidates)
  refine (leaders_pairwise _ _ _).imp₂ (fun c c' hle hne => ?_) hlabels
  have hle' : c'.1.endKey ≤ c.1.endKey := OrderDual.toDual_le_toDual.mp hle
  exact lt_of_le_of_ne hle' fun heq => hne (demoHash_eq heq.symm)

theorem kept_covers (h : c ∈ candidates) :
    ∃ b ∈ kept candidates, b.demoHash = c.demoHash ∧ c.1.endKey ≤ b.1.endKey := by
  have ⟨b, hb, hl, hle⟩ := leaders_covers Candidate.recency Candidate.demoHash h
  exact ⟨b, hb, hl, OrderDual.toDual_le_toDual.mp hle⟩

theorem kept_last (h : c ∈ kept candidates) : LastOfDemo candidates c := by
  refine ⟨leaders_subset h, fun b hb hhash => ?_⟩
  have ⟨d, hd, hdhash, hle⟩ := kept_covers hb
  have heq : d = c := inj_on_of_nodup_map (leaders_nodup _ _ _) hd h (hdhash.trans hhash)
  exact heq ▸ hle

-- The place of a candidate that is kept is the number of later demos.
theorem length_laterDemos {s t : List Candidate} (h : kept candidates = s ++ c :: t) :
    (laterDemos candidates c).length = s.length := by
  have hstrict := kept_strict candidates
  rw [h, pairwise_append, pairwise_cons] at hstrict
  have hnodup : (s.map (·.demoHash)).Nodup := by
    have := leaders_nodup Candidate.recency Candidate.demoHash candidates
    change ((kept candidates).map _).Nodup at this
    rw [h, map_append] at this
    exact this.of_append_left
  have hperm : (laterDemos candidates c).Perm (s.map (·.demoHash)) := by
    apply (perm_ext_iff_of_nodup (nodup_dedup _) hnodup).mpr
    intro hash
    simp only [mem_dedup, mem_map, mem_filter, decide_eq_true_eq]
    constructor
    case mp =>
      intro ⟨b, ⟨hb, hlt⟩, hhash⟩
      have ⟨d, hd, hdhash, hle⟩ := kept_covers hb
      refine ⟨d, ?_, hdhash.trans hhash⟩
      rw [h, mem_append, mem_cons] at hd
      refine hd.resolve_right fun hd => ?_
      cases hd
      case inl heq => exact absurd (heq ▸ hlt.trans_le hle) (lt_irrefl _)
      case inr ht => exact absurd ((hlt.trans_le hle).trans (hstrict.2.1.1 d ht)) (lt_irrefl _)
    case mpr =>
      intro ⟨d, hd, hhash⟩
      have hmem : d ∈ kept candidates := h ▸ mem_append_left _ hd
      exact ⟨d, ⟨leaders_subset hmem, hstrict.2.2 d hd c mem_cons_self⟩, hhash⟩
  rw [hperm.length_eq, length_map]

theorem candidates_perm (h : history.Perm history') :
    (lens.candidates query history).Perm (lens.candidates query history') :=
  h.filterMap _

theorem exclusions_perm (h : history.Perm history') :
    (lens.exclusions query history).Perm (lens.exclusions query history') :=
  h.filterMap _

theorem kept_recency_eq (h : candidates.Perm candidates') :
    (kept candidates).map Candidate.recency = (kept candidates').map Candidate.recency :=
  leaders_map_key_eq (f := keyHash) demoHash_of_recency h

-- Two orders keep candidates with the same keys at the same places.
theorem kept_getElem (h : candidates.Perm candidates') {i : Nat} (hi : i < (kept candidates).length) :
    ∃ hi' : i < (kept candidates').length,
      (kept candidates')[i].1.endKey = (kept candidates)[i].1.endKey := by
  have hkeys := kept_recency_eq h
  have hlength : (kept candidates).length = (kept candidates').length := by
    simpa using congrArg length hkeys
  refine ⟨hlength ▸ hi, recency_eq_iff.mp ?_⟩
  have := congrArg (·[i]?) hkeys
  simpa [hi, hlength ▸ hi, eq_comm] using this

theorem Untied.kept_eq (hu : Untied candidates) (h : candidates.Perm candidates') :
    (kept candidates').map (·.1.matchId) = (kept candidates).map (·.1.matchId) ∧
    (window candidates').map (·.1.calculationRunId) =
      (window candidates).map (·.1.calculationRunId) ∧
    (window candidates').map (·.2) = (window candidates).map (·.2) := by
  have hlength : (kept candidates').length = (kept candidates).length := by
    simpa using (congrArg length (kept_recency_eq h)).symm
  have hplace {i : Nat} (hi : i < (kept candidates).length) (hi' : i < (kept candidates').length) :
      (kept candidates')[i].1.matchId = (kept candidates)[i].1.matchId ∧
      (i < baselineWindowMatches →
        (kept candidates')[i].1.calculationRunId = (kept candidates)[i].1.calculationRunId ∧
        (kept candidates')[i].2 = (kept candidates)[i].2) := by
    have ⟨_, hkey⟩ := kept_getElem h hi
    have hmem : (kept candidates')[i] ∈ candidates :=
      h.mem_iff.mpr (leaders_subset (getElem_mem hi'))
    have htie := hu _ _ (kept_last (getElem_mem hi)) hmem hkey
    have hsplit : kept candidates = (kept candidates).take i ++ (kept candidates)[i] ::
        (kept candidates).drop (i + 1) := by
      simp
    have hlater := length_laterDemos hsplit
    rw [length_take, min_eq_left hi.le] at hlater
    rwa [hlater] at htie
  have hwindow (cs : List Candidate) : window cs = (kept cs).take baselineWindowMatches := rfl
  refine ⟨?ids, ?runs, ?values⟩
  case ids =>
    refine ext_getElem (by simp [hlength]) fun i h₁ h₂ => ?_
    simpa using (hplace (by simpa using h₂) (by simpa using h₁)).1
  case runs =>
    refine ext_getElem (by simp [hwindow, hlength]) fun i h₁ h₂ => ?_
    simp only [hwindow, length_map, length_take, lt_min_iff] at h₁ h₂
    simpa [hwindow] using ((hplace h₂.2 h₁.2).2 h₁.1).1
  case values =>
    refine ext_getElem (by simp [hwindow, hlength]) fun i h₁ h₂ => ?_
    simp only [hwindow, length_map, length_take, lt_min_iff] at h₁ h₂
    simpa [hwindow] using ((hplace h₂.2 h₁.2).2 h₁.1).2

theorem map_excluded (reason : CohortExclusionReason) (cs : List Candidate) :
    cs.map (excluded reason) =
      (cs.map (·.1.matchId)).map fun matchId => CohortExclusion.mk matchId reason := by
  rw [map_map]
  rfl

theorem kept_append_dropped (candidates : List Candidate) :
    (kept candidates ++ dropped candidates).Perm candidates :=
  (keepFirst_perm Candidate.demoHash [] _).trans (ranked_perm _ _)

-- The duplicates are what the kept matches leave over.
theorem dropped_perm (h : candidates.Perm candidates')
    (hids : (kept candidates').map (·.1.matchId) = (kept candidates).map (·.1.matchId)) :
    ((dropped candidates').map (·.1.matchId)).Perm ((dropped candidates).map (·.1.matchId)) := by
  have hall : ((kept candidates' ++ dropped candidates').map (·.1.matchId)).Perm
      ((kept candidates ++ dropped candidates).map (·.1.matchId)) :=
    (((kept_append_dropped candidates').trans h.symm).trans
      (kept_append_dropped candidates).symm).map _
  rw [map_append, map_append, hids] at hall
  exact (perm_append_left_iff _).mp hall

theorem leftOut_perm_of_ids (h : candidates.Perm candidates')
    (hids : (kept candidates').map (·.1.matchId) = (kept candidates).map (·.1.matchId)) :
    (leftOut candidates').Perm (leftOut candidates) := by
  simp only [leftOut, map_excluded, map_drop, hids]
  exact ((dropped_perm h hids).map _).append_right _

theorem window_demoHash_eq (h : candidates.Perm candidates') :
    (window candidates').map (·.1.demoHash) = (window candidates).map (·.1.demoHash) := by
  have hkeys := congrArg (map keyHash) (kept_recency_eq h)
  rw [map_map, map_map] at hkeys
  simp only [window, select, map_take]
  exact congrArg (take _) hkeys.symm

theorem finalizeBaseline_sameOutcome {exclusions exclusions' : List CohortExclusion}
    (h : candidates.Perm candidates') (hex : exclusions'.Perm exclusions)
    (hu : Untied candidates) :
    SameOutcome (finalizeBaseline candidates exclusions query)
      (finalizeBaseline candidates' exclusions' query) := by
  have ⟨hids, hruns, hvalues⟩ := hu.kept_eq h
  have hlength : (window candidates').length = (window candidates).length := by
    simpa using congrArg length hvalues
  cases hr : finalizeBaseline candidates exclusions query with
  | ok receipt =>
    have ⟨hi, hreceipt⟩ := finalizeBaseline_eq_ok_iff.mp hr
    have hr' : finalizeBaseline candidates' exclusions' query =
        .ok { receipt with
          includedMatchIds := (window candidates').map (·.1.matchId)
          exclusions       := exclusions' ++ leftOut candidates' } := by
      refine finalizeBaseline_eq_ok_iff.mpr ⟨⟨hi.policyVersion, hi.query_eq, rfl, ?_, ?_, ?_, ?_, ?_⟩, rfl⟩
      · rw [window_demoHash_eq h, ← hi.demoHashes]
      · rw [hruns, ← hi.runIds]
      · rw [hvalues, ← hi.values]
      · rw [hlength, ← hi.maturity]
      · rw [hvalues]
        exact hi.stats
    rw [hr']
    refine ⟨?_, rfl, rfl, rfl, rfl, rfl, ?_⟩
    · rw [hi.matchIds]
      simp only [window, select, map_take]
      exact congrArg (take _) hids
    · rw [hreceipt]
      exact hex.append (leftOut_perm_of_ids h hids)
  | error e =>
    simp only [finalizeBaseline] at hr ⊢
    change (statsOf query.field ((window candidates).map (·.2)) >>= _) = _ at hr
    change SameOutcome _ (statsOf query.field ((window candidates').map (·.2)) >>= _)
    rw [hvalues]
    cases hstats : statsOf query.field ((window candidates).map (·.2)) with
    | ok stats => simp [hstats, bind, Except.bind, pure, Except.pure] at hr
    | error e' =>
      simp only [hstats, bind, Except.bind, error.injEq] at hr ⊢
      exact hr.symm

-- A candidate that is put first takes the place of the one with its key.
theorem kept_front {before after s t : List Candidate} {b : Candidate}
    (h : kept (before ++ b :: after) = s ++ c :: t) (hkey : b.1.endKey = c.1.endKey) :
    kept (b :: (before ++ after)) = s ++ b :: t := by
  have hstrict := kept_strict (before ++ b :: after)
  rw [h, pairwise_append, pairwise_cons] at hstrict
  have hrecency : b.recency = c.recency := recency_eq_iff.mpr hkey
  have hother {d : Candidate} (hd : d ∈ s ++ c :: t) (hne : d.1.endKey ≠ c.1.endKey) :
      (b :: (before ++ after)).find? (Candidate.recency · = d.recency) = some d := by
    have hfind : (before ++ b :: after).find? (Candidate.recency · = d.recency) = some d :=
      leaders_find? (f := keyHash) demoHash_of_recency
        (show d ∈ kept (before ++ b :: after) from h ▸ hd)
    have hbd : b.recency ≠ d.recency := fun heq =>
      hne ((recency_eq_iff.mp heq).symm.trans hkey)
    simpa [find?_cons, find?_append, hbd] using hfind
  have hperm : (before ++ b :: after).Perm (b :: (before ++ after)) := perm_middle
  have hkeys := kept_recency_eq hperm
  have hfilter := leaders_eq_filterMap (f := keyHash) demoHash_of_recency (b :: (before ++ after))
  change kept _ = ((kept _).map Candidate.recency).filterMap _ at hfilter
  rw [← hkeys, h, filterMap_map, filterMap_append, filterMap_cons] at hfilter
  rw [hfilter]
  have hs : s.filterMap ((fun k => (b :: (before ++ after)).find? (Candidate.recency · = k)) ∘
      Candidate.recency) = s := by
    conv_rhs => rw [← filterMap_some (l := s)]
    exact filterMap_congr fun d hd =>
      hother (mem_append_left _ hd) (hstrict.2.2 d hd c mem_cons_self).ne'
  have ht : t.filterMap ((fun k => (b :: (before ++ after)).find? (Candidate.recency · = k)) ∘
      Candidate.recency) = t := by
    conv_rhs => rw [← filterMap_some (l := t)]
    exact filterMap_congr fun d hd =>
      hother (mem_append_right _ (mem_cons_of_mem _ hd)) (hstrict.2.1.1 d hd).ne
  have hc : ((fun k => (b :: (before ++ after)).find? (Candidate.recency · = k)) ∘
      Candidate.recency) c = some b := by
    simp [hrecency]
  rw [hs, ht, hc]

theorem judge_ne_outside (item : HistoryMatch) :
    lens.judge query item ≠ .error .outsideRecentWindow := by
  unfold Lens.judge cohortReason
  repeat' split
  all_goals simp_all
  all_goals grind

-- The matches outside of the window are the entries with that reason.
theorem outside_entries (candidates : List Candidate) :
    (lens.exclusions query history ++ leftOut candidates).filter
      (fun entry => entry.reason = .outsideRecentWindow) =
    ((kept candidates).drop baselineWindowMatches).map (excluded .outsideRecentWindow) := by
  have hcohort : (lens.exclusions query history).filter
      (fun entry => entry.reason = .outsideRecentWindow) = [] := by
    apply filter_eq_nil_iff.mpr
    intro entry hentry
    obtain ⟨item, _, hitem⟩ := mem_filterMap.mp hentry
    split at hitem
    case h_1 reason hj =>
      cases hitem
      simpa using fun heq => judge_ne_outside item (heq ▸ hj)
    case h_2 => cases hitem
  have hdup : ((dropped candidates).map (excluded .duplicateDemo)).filter
      (fun entry => entry.reason = .outsideRecentWindow) = [] := by
    apply filter_eq_nil_iff.mpr
    intro entry hentry
    obtain ⟨c, _, hc⟩ := mem_map.mp hentry
    simp [← hc, excluded]
  have hout : (((kept candidates).drop baselineWindowMatches).map
      (excluded .outsideRecentWindow)).filter (fun entry => entry.reason = .outsideRecentWindow) =
      ((kept candidates).drop baselineWindowMatches).map (excluded .outsideRecentWindow) := by
    apply filter_eq_self.mpr
    intro entry hentry
    obtain ⟨c, _, hc⟩ := mem_map.mp hentry
    simp [← hc, excluded]
  rw [leftOut, filter_append, filter_append, hcohort, hdup, hout, nil_append, nil_append]

theorem perm_replace {α : Type _} {s t : List α} {a b : α} (h : (s ++ a :: t).Perm (s ++ b :: t)) :
    a = b := by
  have h := (perm_append_left_iff s).mp h
  classical
  by_contra hne
  have := h.count_eq a
  simp [Ne.symm hne] at this

theorem SameReceipt.untied {receipt receipt' : BaselineReceipt} {b : Candidate}
    {s t : List Candidate} (h : SameReceipt receipt receipt')
    (hi : receipt.Includes query (window candidates)) (hi' : receipt'.Includes query (window candidates'))
    (hex : receipt.exclusions = lens.exclusions query history ++ leftOut candidates)
    (hex' : receipt'.exclusions = lens.exclusions query history' ++ leftOut candidates')
    (hkept : kept candidates = s ++ c :: t) (hkept' : kept candidates' = s ++ b :: t) :
    b.1.matchId = c.1.matchId ∧ (s.length < baselineWindowMatches →
      b.1.calculationRunId = c.1.calculationRunId ∧ b.2 = c.2) := by
  have hwindow (cs : List Candidate) : window cs = (kept cs).take baselineWindowMatches := rfl
  have hplace {β : Type} (f : Candidate → β) (hlt : s.length < baselineWindowMatches)
      (heq : (window candidates').map f = (window candidates).map f) : f b = f c := by
    have := congrArg (·[s.length]?) heq
    simpa [hwindow, hkept, hkept', getElem?_take, hlt] using this
  by_cases hlt : s.length < baselineWindowMatches
  case pos =>
    refine ⟨hplace (·.1.matchId) hlt ?_, fun _ => ⟨hplace (·.1.calculationRunId) hlt ?_,
      hplace (·.2) hlt ?_⟩⟩
    · rw [← hi'.matchIds, ← hi.matchIds, h.matchIds]
    · rw [← hi'.runIds, ← hi.runIds, h.runIds]
    · rw [← hi'.values, ← hi.values, h.values]
  case neg =>
    refine ⟨?_, fun hlt' => absurd hlt' hlt⟩
    have hperm := h.exclusions.filter fun entry => entry.reason = .outsideRecentWindow
    rw [hex, hex', outside_entries, outside_entries, hkept, hkept',
      drop_append_of_le_length (by omega), drop_append_of_le_length (by omega)] at hperm
    have hids := hperm.map (·.matchId)
    simp only [map_append, map_cons, excluded] at hids
    exact perm_replace hids

-- The forbidden requests fail before they look at the history.
def LensRequest.Forbidden (request : LensRequest) (query : BaselineQuery) : Prop :=
  match request with
  | .baseline          => False
  | .sideComponent _ _ => query.scope ≠ .allMaps

theorem LensRequest.build_of_allowed {request : LensRequest} (h : ¬request.Forbidden query)
    (history : List HistoryMatch) : request.build history query =
      finalizeBaseline (request.candidates history query)
        ((request.lens query).exclusions (request.query query) history) (request.query query) := by
  cases request
  case baseline => rfl
  case sideComponent side component =>
    exact if_neg h

theorem LensRequest.build_of_forbidden {request : LensRequest} (h : request.Forbidden query)
    (history : List HistoryMatch) :
    request.build history query = .error .mapSideScopeForbidden := by
  cases request
  case baseline => cases h
  case sideComponent side component =>
    exact if_pos h

end

-- Every order of the history has the same outcome.
def OrderFree (request : LensRequest) (query : BaselineQuery) (history : List HistoryMatch) : Prop :=
  ∀ history', history.Perm history' →
    SameOutcome (request.build history query) (request.build history' query)

theorem orderFree_of_untied {request : LensRequest} {query : BaselineQuery}
    {history : List HistoryMatch} (hu : Untied (request.candidates history query)) :
    OrderFree request query history := by
  intro history' hperm
  by_cases hf : request.Forbidden query
  case pos =>
    rw [request.build_of_forbidden hf, request.build_of_forbidden hf]
    rfl
  case neg =>
    rw [LensRequest.build_of_allowed hf, LensRequest.build_of_allowed hf]
    exact finalizeBaseline_sameOutcome (candidates_perm hperm) (exclusions_perm hperm).symm hu

theorem untied_of_orderFree {request : LensRequest} {query : BaselineQuery}
    {history : List HistoryMatch} {receipt : BaselineReceipt}
    (h : request.build history query = .ok receipt) (ho : OrderFree request query history) :
    Untied (request.candidates history query) := by
  have hf : ¬request.Forbidden query := by
    intro hf
    rw [request.build_of_forbidden hf] at h
    cases h
  have hr := h
  rw [LensRequest.build_of_allowed hf] at hr
  have ⟨hi, hex⟩ := finalizeBaseline_eq_ok_iff.mp hr
  -- A tied match that is put first takes the place of the one that is kept.
  have hswap {l b : Candidate} {s t : List Candidate}
      (hkept : kept (request.candidates history query) = s ++ l :: t)
      (hb : b ∈ request.candidates history query) (hkey : b.1.endKey = l.1.endKey) :
      b.1.matchId = l.1.matchId ∧ (s.length < baselineWindowMatches →
        b.1.calculationRunId = l.1.calculationRunId ∧ b.2 = l.2) := by
    have ⟨hmem, hj⟩ := mem_candidates.mp hb
    have ⟨before, after, hsplit⟩ := append_of_mem hmem
    have hperm : history.Perm (b.1 :: (before ++ after)) := hsplit ▸ perm_middle
    have hcandidates : request.candidates history query =
        (request.lens query).candidates (request.query query) before ++
          b :: (request.lens query).candidates (request.query query) after := by
      rw [LensRequest.candidates, hsplit, candidates_insert_of_ok hj]
    have hcandidates' : request.candidates (b.1 :: (before ++ after)) query =
        b :: ((request.lens query).candidates (request.query query) before ++
          (request.lens query).candidates (request.query query) after) := by
      have hfront : (request.lens query).candidates (request.query query)
          ([] ++ b.1 :: (before ++ after)) = _ := candidates_insert_of_ok hj
      rw [nil_append, candidates_append] at hfront
      exact hfront
    rw [hcandidates] at hkept
    have hkept' := kept_front hkept hkey
    have hsame := ho _ hperm
    rw [h] at hsame
    cases hr' : request.build (b.1 :: (before ++ after)) query with
    | error e =>
      rw [hr'] at hsame
      cases hsame
    | ok receipt' =>
      rw [hr'] at hsame
      rw [LensRequest.build_of_allowed hf] at hr'
      have ⟨hi', hex'⟩ := finalizeBaseline_eq_ok_iff.mp hr'
      exact hsame.untied hi hi' hex hex' (hcandidates ▸ hkept) (hcandidates' ▸ hkept')
  intro c c' hc hc' hkey
  have ⟨l, hl, hhash, hle⟩ := kept_covers hc.1
  have hlc : l.1.endKey = c.1.endKey := le_antisymm (hc.2 l (leaders_subset hl) hhash) hle
  have ⟨s, t, hsplit⟩ := append_of_mem hl
  have hlater : (laterDemos (request.candidates history query) c).length = s.length := by
    rw [← length_laterDemos hsplit, laterDemos, laterDemos, hlc]
  have ⟨hid, hrest⟩ := hswap hsplit hc.1 hlc.symm
  have ⟨hid', hrest'⟩ := hswap hsplit hc' (hkey.trans hlc.symm)
  refine ⟨hid'.trans hid.symm, fun hlt => ?_⟩
  rw [hlater] at hlt
  exact ⟨(hrest' hlt).1.trans (hrest hlt).1.symm, (hrest' hlt).2.trans (hrest hlt).2.symm⟩

-- The order of the history matters for a receipt exactly when matches are tied.
theorem build_orderFree_iff (request : LensRequest) (query : BaselineQuery)
    (history : List HistoryMatch) :
    (∀ receipt, request.build history query = .ok receipt →
      (OrderFree request query history ↔ Untied (request.candidates history query))) ∧
    (Untied (request.candidates history query) → OrderFree request query history) :=
  ⟨fun _ h => ⟨untied_of_orderFree h, orderFree_of_untied⟩, orderFree_of_untied⟩

-- One demo was imported twice, with two match ids and values.
theorem not_orderFree_reimport : ¬OrderFree .baseline demoQuery [
    ratedMatch "first" "demo" 100 ⟨9000, by decide⟩,
    ratedMatch "second" "demo" 100 ⟨11000, by decide⟩] := by
  intro h
  have hsame := h _ (.swap _ _ _)
  exact absurd hsame.matchIds (by decide)

end Domain
