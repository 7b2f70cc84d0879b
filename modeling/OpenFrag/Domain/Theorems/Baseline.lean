import OpenFrag.Library.Outcome
import OpenFrag.Domain.Baseline

open Except List

namespace Domain

-- What a match needs for a place in a cohort, in the terms of its own fields.
structure Eligible (query : BaselineQuery) (item : HistoryMatch) (value : Rational) : Prop where
  series    : item.series = query.series
  canonical : item.canonical
  trend     : item.trendExclusion = none
  ended     : ∃ interval, item.interval = some interval ∧
    interval.startUtcMs ≤ interval.endUtcMs ∧ interval.endUtcMs ≤ query.cutoffStartUtcMs
  scope     : ∀ map, query.scope = .map map → item.map = .known map
  value     : matchValue item query.field = some value

-- A receipt publishes these candidates, with the statistics of their values.
structure BaselineReceipt.Includes (receipt : BaselineReceipt) (query : BaselineQuery)
    (selected : List Candidate) : Prop where
  policyVersion : receipt.policyVersion = personalBaselinePolicy
  query_eq      : receipt.query = query
  matchIds      : receipt.includedMatchIds = selected.map (·.1.matchId)
  demoHashes    : receipt.includedDemoHashes = selected.map (·.1.demoHash)
  runIds        : receipt.includedCalculationRunIds = selected.map (·.1.calculationRunId)
  values        : receipt.selectedValues = selected.map (·.2)
  maturity      : receipt.maturity = maturityOf selected.length
  stats         : statsOf query.field (selected.map (·.2)) = .ok receipt.stats

-- The candidates with a demo of their own, the latest first.
def kept (candidates : List Candidate) : List Candidate :=
  candidates.leaders Candidate.recency Candidate.demoHash

def window (candidates : List Candidate) : List Candidate :=
  candidates.select Candidate.recency Candidate.demoHash baselineWindowMatches

def dropped (candidates : List Candidate) : List Candidate :=
  (keepFirst Candidate.demoHash [] (candidates.ranked Candidate.recency)).2

def leftOut (candidates : List Candidate) : List CohortExclusion :=
  (dropped candidates).map (excluded .duplicateDemo) ++
  ((kept candidates).drop baselineWindowMatches).map (excluded .outsideRecentWindow)

section

variable {query : BaselineQuery} {item : HistoryMatch} {value : Rational} {lens : Lens}
  {history pre post : List HistoryMatch} {candidates selected : List Candidate}
  {exclusions : List CohortExclusion} {receipt : BaselineReceipt} {side : Option Side}

theorem cohortReason_eq_none_iff : cohortReason item query = none ↔
    item.series = query.series ∧ item.canonical ∧ item.trendExclusion = none ∧
    (∃ interval, item.interval = some interval ∧
      interval.startUtcMs ≤ interval.endUtcMs ∧ interval.endUtcMs ≤ query.cutoffStartUtcMs) ∧
    ∀ map, query.scope = .map map → item.map = .known map := by
  unfold cohortReason
  cases item.trendExclusion <;> cases item.interval <;> cases query.scope <;> cases item.map <;>
    simp <;> grind

theorem judge_whole_iff :
    (Lens.whole query.field).judge query item = .ok value ↔ Eligible query item value := by
  unfold Lens.judge
  constructor
  case mp =>
    intro h
    cases hreason : cohortReason item query with
    | some reason => simp [hreason] at h
    | none =>
      have ⟨hs, hc, ht, he, hm⟩ := cohortReason_eq_none_iff.mp hreason
      simp only [hreason] at h
      split at h
      case h_1 value' hvalue =>
        cases h
        exact ⟨hs, hc, ht, he, hm, hvalue⟩
      case h_2 => cases h
  case mpr =>
    intro h
    have hreason := cohortReason_eq_none_iff.mpr ⟨h.series, h.canonical, h.trend, h.ended, h.scope⟩
    simp [hreason, h.value]

theorem mem_candidates {c : Candidate} :
    c ∈ lens.candidates query history ↔ c.1 ∈ history ∧ lens.judge query c.1 = .ok c.2 := by
  simp only [Lens.candidates, mem_filterMap, Option.map_eq_some_iff]
  constructor
  case mp =>
    intro ⟨item, hitem, value, hvalue, hc⟩
    subst hc
    refine ⟨hitem, ?_⟩
    cases hj : lens.judge query item <;> simp_all [Except.toOption]
  case mpr => exact fun ⟨hitem, hj⟩ => ⟨c.1, hitem, c.2, by simp [hj, Except.toOption], rfl⟩

theorem candidates_append (items items' : List HistoryMatch) :
    lens.candidates query (items ++ items') =
      lens.candidates query items ++ lens.candidates query items' := by
  simp [Lens.candidates]

theorem candidates_insert_of_error {reason : CohortExclusionReason}
    (h : lens.judge query item = .error reason) :
    lens.candidates query (pre ++ item :: post) = lens.candidates query (pre ++ post) := by
  simp [Lens.candidates, h, Except.toOption]

theorem candidates_insert_of_ok (h : lens.judge query item = .ok value) :
    lens.candidates query (pre ++ item :: post) =
      lens.candidates query pre ++ (item, value) :: lens.candidates query post := by
  simp [Lens.candidates, h, Except.toOption]

-- The matches that are no candidates, under the reasons of the code.
theorem candidates_exclusions_perm (lens : Lens) (query : BaselineQuery)
    (history : List HistoryMatch) : ∃ others,
      ((lens.candidates query history).map (·.1) ++ others).Perm history ∧
      (lens.exclusions query history).map (·.matchId) = others.map (·.matchId) := by
  induction history
  case nil => exact ⟨[], by simp [Lens.candidates, Lens.exclusions]⟩
  case cons item history ih =>
    have ⟨others, hperm, hids⟩ := ih
    cases hj : lens.judge query item with
    | ok value =>
      refine ⟨others, ?_, ?_⟩
      · simpa [Lens.candidates, hj, Except.toOption] using hperm
      · simpa [Lens.exclusions, hj] using hids
    | error reason =>
      refine ⟨item :: others, ?_, ?_⟩
      · simpa [Lens.candidates, hj, Except.toOption] using perm_middle.trans (hperm.cons item)
      · simpa [Lens.exclusions, hj] using hids

theorem finalizeBaseline_eq_ok_iff : finalizeBaseline candidates exclusions query = .ok receipt ↔
    receipt.Includes query (window candidates) ∧
    receipt.exclusions = exclusions ++ leftOut candidates := by
  simp only [finalizeBaseline, bind_eq_ok_iff, pure_eq_ok_iff]
  constructor
  case mp =>
    intro ⟨stats, hstats, h⟩
    subst h
    refine ⟨⟨rfl, rfl, rfl, rfl, rfl, rfl, rfl, hstats⟩, ?_⟩
    exact List.append_assoc _ _ _
  case mpr =>
    intro ⟨h, hex⟩
    refine ⟨_, h.stats, ?_⟩
    have := h.policyVersion
    have := h.query_eq
    have := h.matchIds
    have := h.demoHashes
    have := h.runIds
    have := h.values
    have := h.maturity
    cases receipt
    simp_all [window, select, leaders, leftOut, dropped, kept]

theorem buildLens_eq_ok_iff : buildLens history query side = .ok receipt ↔
    ∃ lens, Lens.of query.field side = .ok lens ∧
      receipt.Includes query (window (lens.candidates query history)) ∧
      receipt.exclusions =
        lens.exclusions query history ++ leftOut (lens.candidates query history) := by
  simp only [buildLens, bind_eq_ok_iff, finalizeBaseline_eq_ok_iff]

-- Another history with the same window has a receipt as well.
theorem buildLens_of_window {history' : List HistoryMatch} (hlens : Lens.of query.field side = .ok lens)
    (h : receipt.Includes query (window (lens.candidates query history)))
    (hwindow : window (lens.candidates query history') = window (lens.candidates query history)) :
    ∃ receipt', buildLens history' query side = .ok receipt' ∧
      receipt'.Includes query (window (lens.candidates query history)) := by
  refine ⟨{ receipt with exclusions := _ }, buildLens_eq_ok_iff.mpr ⟨lens, hlens, ?_, rfl⟩, ?_⟩
  · rw [hwindow]
    exact ⟨h.1, h.2, h.3, h.4, h.5, h.6, h.7, h.8⟩
  · exact ⟨h.1, h.2, h.3, h.4, h.5, h.6, h.7, h.8⟩

theorem window_selection (candidates : List Candidate) : Selection Candidate.recency
    Candidate.demoHash baselineWindowMatches candidates (window candidates) := by
  apply select_selection
  intro c c' h
  have h' : c.1.endKey = c'.1.endKey := OrderDual.toDual.injective h
  exact congrArg (fun key => (ofLex key).2) h'

theorem leftOut_perm (candidates : List Candidate) : ∃ others,
    (window candidates ++ others).Perm candidates ∧
    (leftOut candidates).map (·.matchId) = others.map (·.1.matchId) := by
  refine ⟨dropped candidates ++ (kept candidates).drop baselineWindowMatches, ?_, ?_⟩
  · have hkeep := (keepFirst_perm Candidate.demoHash [] (candidates.ranked Candidate.recency)).trans
      (ranked_perm _ _)
    refine Perm.trans ?_ hkeep
    refine (perm_append_comm.append_left _).trans ?_
    rw [← append_assoc]
    refine Perm.append_right _ (Perm.of_eq ?_)
    exact take_append_drop _ _
  · simp [leftOut, excluded, Function.comp_def]

-- An item that can be added to a history without a change of the cohort: it is no candidate, or a
-- full cohort is later than it.
def Ignorable (query : BaselineQuery) (selected : List Candidate) (item : HistoryMatch) : Prop :=
  (∀ value, ¬Eligible query item value) ∨
  selected.length = baselineWindowMatches ∧ ∀ c ∈ selected, item.endKey < c.1.endKey

theorem window_insert_of_excluded
    (h : item ∉ (window (lens.candidates query (pre ++ item :: post))).map (·.1) ∨ item ∈ pre) :
    window (lens.candidates query (pre ++ post)) =
      window (lens.candidates query (pre ++ item :: post)) := by
  cases hj : lens.judge query item with
  | error reason => rw [candidates_insert_of_error hj]
  | ok value =>
    rw [candidates_insert_of_ok hj] at h ⊢
    rw [candidates_append]
    symm
    apply select_insert_of_excluded
    cases h
    case inl hout => exact .inl fun hmem => hout (mem_map_of_mem hmem)
    case inr hpre => exact .inr (mem_candidates.mpr ⟨hpre, hj⟩)

theorem window_insert_of_ignorable
    (h : Ignorable query (window ((Lens.whole query.field).candidates query (pre ++ post))) item) :
    window ((Lens.whole query.field).candidates query (pre ++ item :: post)) =
      window ((Lens.whole query.field).candidates query (pre ++ post)) := by
  cases hj : (Lens.whole query.field).judge query item with
  | error reason => rw [candidates_insert_of_error hj]
  | ok value =>
    have ⟨hfull, hlater⟩ := h.resolve_left fun hnot => hnot value (judge_whole_iff.mp hj)
    rw [candidates_append] at hfull hlater
    rw [candidates_insert_of_ok hj, candidates_append]
    exact select_insert_of_later hfull fun c hc => OrderDual.toDual_lt_toDual.mpr (hlater c hc)

-- What a baseline states about the history it comes from, and what it does not depend on.
structure Selects (history : List HistoryMatch) (query : BaselineQuery) (receipt : BaselineReceipt)
    (selected : List Candidate) : Prop where
  includes  : receipt.Includes query selected
  eligible  : ∀ c ∈ selected, c.1 ∈ history ∧ Eligible query c.1 c.2
  demos     : (selected.map (·.1.demoHash)).Nodup
  latest    : selected.Pairwise fun c c' => c'.1.endKey < c.1.endKey
  bound     : selected.length ≤ baselineWindowMatches
  greatest  : ∀ item ∈ history, ∀ value, Eligible query item value →
    (∃ c ∈ selected, c.1.demoHash = item.demoHash ∧ item.endKey ≤ c.1.endKey) ∨
    selected.length = baselineWindowMatches ∧ ∀ c ∈ selected, item.endKey < c.1.endKey
  accounted : ∃ others, (selected.map (·.1) ++ others).Perm history ∧
    receipt.exclusions.map (·.matchId) = others.map (·.matchId)
  removal   : ∀ pre item post, history = pre ++ item :: post →
    item ∉ selected.map (·.1) ∨ item ∈ pre →
    ∃ receipt', buildBaseline (pre ++ post) query = .ok receipt' ∧ receipt'.Includes query selected
  addition  : ∀ history', Inserted (Ignorable query selected) history history' →
    ∃ receipt', buildBaseline history' query = .ok receipt' ∧ receipt'.Includes query selected

theorem endKey_injective_hash {i j : HistoryMatch} (h : i.endKey = j.endKey) :
    i.demoHash = j.demoHash :=
  congrArg (fun key => (ofLex key).2) h

theorem Selection.strict (h : Selection Candidate.recency Candidate.demoHash baselineWindowMatches
    candidates selected) : selected.Pairwise fun c c' => c'.1.endKey < c.1.endKey := by
  have hlabels := pairwise_map.mp h.labels
  refine h.sorted.imp₂ (fun c c' hle hne => ?_) hlabels
  have hle' : c'.1.endKey ≤ c.1.endKey := OrderDual.toDual_le_toDual.mp hle
  exact lt_of_le_of_ne hle' fun heq => hne (endKey_injective_hash heq.symm)

theorem accounted (h : receipt.exclusions =
      lens.exclusions query history ++ leftOut (lens.candidates query history)) :
    ∃ others, ((window (lens.candidates query history)).map (·.1) ++ others).Perm history ∧
      receipt.exclusions.map (·.matchId) = others.map (·.matchId) := by
  have ⟨ineligible, hperm, hids⟩ := candidates_exclusions_perm lens query history
  have ⟨left, hperm', hids'⟩ := leftOut_perm (lens.candidates query history)
  refine ⟨ineligible ++ left.map (·.1), ?_, by simp [h, hids, hids']⟩
  refine (perm_append_comm.append_left _).trans ?_
  rw [← append_assoc, ← map_append]
  exact ((hperm'.map (·.1)).append_right ineligible).trans hperm

theorem buildBaseline_selects (h : buildBaseline history query = .ok receipt) :
    ∃ selected, Selects history query receipt selected := by
  have ⟨lens, hlens, hincludes, hex⟩ := buildLens_eq_ok_iff.mp h
  cases hlens
  let selected := window ((Lens.whole query.field).candidates query history)
  have hsel : Selection _ _ _ _ selected :=
    window_selection ((Lens.whole query.field).candidates query history)
  refine ⟨selected, ?_⟩
  constructor
  case includes => exact hincludes
  case eligible =>
    intro c hc
    have ⟨rest, hperm⟩ := hsel.within
    have hmem := mem_candidates.mp (hperm.mem_iff.mp (mem_append_left rest hc))
    exact ⟨hmem.1, judge_whole_iff.mp hmem.2⟩
  case demos => exact hsel.labels
  case latest => exact Selection.strict hsel
  case bound => exact hsel.bound
  case greatest =>
    intro item hitem value hvalue
    cases hsel.least (item, value) (mem_candidates.mpr ⟨hitem, judge_whole_iff.mpr hvalue⟩)
    case inl hle =>
      have ⟨c, hc, hhash, hle⟩ := hle
      exact .inl ⟨c, hc, hhash, OrderDual.toDual_le_toDual.mp hle⟩
    case inr hlt => exact .inr ⟨hlt.1, fun c hc => OrderDual.toDual_lt_toDual.mp (hlt.2 c hc)⟩
  case accounted => exact accounted hex
  case removal =>
    intro pre item post heq hout
    subst heq
    exact buildLens_of_window rfl hincludes (window_insert_of_excluded hout)
  case addition =>
    intro history' hinserted
    refine buildLens_of_window rfl (show receipt.Includes query (window (Lens.candidates _ _ history))
      from hincludes) ?_
    induction hinserted
    case refl => rfl
    case insert pre item post _ hitem ih =>
      rw [← ih]
      apply window_insert_of_ignorable
      rw [ih]
      exact hitem

end

def demoSeries : CalculationSeriesIdentity :=
  ⟨"local", "commit", "parser", "proto", "schema", "metrics", "epoch"⟩

def demoQuery : BaselineQuery where
  series           := demoSeries
  cutoffStartUtcMs := 1000
  field            := .rating
  scope            := .allMaps

-- A match of one minute with a rating.
def ratedMatch (matchId demoHash : String) (startUtcMs : UInt64) (rating : RatingBasisPoints) :
    HistoryMatch where
  matchId
  demoHash
  calculationRunId := matchId
  series           := demoSeries
  canonical        := true
  map              := .known "de_dust2"
  interval         := some ⟨startUtcMs, startUtcMs + 60⟩
  rating           := some rating
  components       := none
  sideVectors      := ⟨none, none⟩
  trendExclusion   := none

def demoRating : RatingBasisPoints := ⟨9000, by decide⟩

-- Two imports of one demo, and a match that is not over.
def importedTwice : List HistoryMatch := [
  ratedMatch "first" "demo" 100 demoRating,
  ratedMatch "running" "other" 990 ⟨10000, by decide⟩,
  ratedMatch "second" "demo" 200 ⟨11000, by decide⟩
]

theorem buildBaseline_selects_importedTwice : ∃ receipt,
    buildBaseline importedTwice demoQuery = .ok receipt ∧
    receipt.includedMatchIds = ["second"] ∧
    ∃ selected, Selects importedTwice demoQuery receipt selected :=
  ⟨_, rfl, rfl, buildBaseline_selects rfl⟩

end Domain
