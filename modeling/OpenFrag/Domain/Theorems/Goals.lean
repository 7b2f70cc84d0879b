import Mathlib.Data.List.Dedup
import OpenFrag.Library.Outcome
import OpenFrag.Domain.Goals
import OpenFrag.Domain.Theorems.Baseline

open Except List

namespace Domain

-- A match that counts for the goal: it is of the cohort and started after the goal was created.
structure Qualifies (goal : Goal) (c : GoalCandidate) : Prop where
  eligible : Eligible goal.query c.item c.value
  interval : c.item.interval = some c.interval
  after    : goal.createdAtUtcMs < c.interval.startUtcMs

def goalWindow (candidates : List GoalCandidate) : List GoalCandidate :=
  candidates.select GoalCandidate.key GoalCandidate.demoHash goalEvaluationMatches

def goalKept (candidates : List GoalCandidate) : List GoalCandidate :=
  candidates.leaders GoalCandidate.key GoalCandidate.demoHash

def goalDropped (candidates : List GoalCandidate) : List GoalCandidate :=
  (keepFirst GoalCandidate.demoHash [] (candidates.ranked GoalCandidate.key)).2

structure GoalReceipt.Evaluates (receipt : GoalReceipt) (goal : Goal)
    (selected : List GoalCandidate) : Prop where
  goalId     : receipt.goalId = goal.id
  status     : receipt.status = goal.statusOf selected.length receipt.evaluationMedian
  matchIds   : receipt.selectedMatchIds = selected.map (·.item.matchId)
  demoHashes : receipt.selectedDemoHashes = selected.map (·.item.demoHash)
  median     : Domain.evaluationMedian (selected.map (·.value)) = .ok receipt.evaluationMedian

-- The goal is open, and its series is the active one.
structure Goal.Active (goal : Goal) (activeSeries : CalculationSeriesIdentity) : Prop where
  open_  : goal.cancelled = false
  series : goal.series = activeSeries

section

variable {goal : Goal} {activeSeries : CalculationSeriesIdentity} {item : HistoryMatch}
  {history pre post : List HistoryMatch} {receipt : GoalReceipt} {c : GoalCandidate}
  {candidates selected : List GoalCandidate}

theorem judge_goal_isSome (goal : Goal) (item : HistoryMatch) : (goal.judge item).isSome := by
  unfold Goal.judge
  cases hreason : cohortReason item goal.query with
  | some reason => rfl
  | none =>
    have ⟨_, _, _, ⟨interval, hinterval, _⟩, _⟩ := cohortReason_eq_none_iff.mp hreason
    simp [hinterval]

theorem judge_goal_ok_iff :
    goal.judge item = some (.ok c) ↔ c.item = item ∧ Qualifies goal c := by
  unfold Goal.judge
  constructor
  case mp =>
    intro h
    cases hreason : cohortReason item goal.query with
    | some reason => simp [hreason] at h
    | none =>
      have ⟨hs, hc, ht, he, hm⟩ := cohortReason_eq_none_iff.mp hreason
      simp only [hreason, Option.map_eq_some_iff] at h
      have ⟨interval, hinterval, h⟩ := h
      split at h
      case isTrue => cases h
      case isFalse hafter =>
        split at h
        case h_1 value hvalue =>
          cases h
          exact ⟨rfl, ⟨hs, hc, ht, he, hm, hvalue⟩, hinterval, UInt64.not_le.mp hafter⟩
        case h_2 => cases h
  case mpr =>
    intro ⟨hitem, h⟩
    subst hitem
    have e := h.eligible
    have hreason := cohortReason_eq_none_iff.mpr ⟨e.series, e.canonical, e.trend, e.ended, e.scope⟩
    have hvalue : matchValue c.item goal.field = some c.value := e.value
    simp [hreason, h.interval, h.after, hvalue]

theorem mem_goal_candidates : c ∈ goal.candidates history ↔ c.item ∈ history ∧ Qualifies goal c := by
  simp only [Goal.candidates, mem_filterMap, Option.bind_eq_some_iff]
  constructor
  case mp =>
    intro ⟨item, hitem, verdict, hverdict, hc⟩
    cases verdict with
    | error reason => cases hc
    | ok c' =>
      cases hc
      have ⟨heq, hq⟩ := judge_goal_ok_iff.mp hverdict
      exact ⟨heq ▸ hitem, hq⟩
  case mpr =>
    exact fun ⟨hitem, hq⟩ => ⟨c.item, hitem, .ok c, judge_goal_ok_iff.mpr ⟨rfl, hq⟩, rfl⟩

theorem goal_candidates_append (items items' : List HistoryMatch) :
    goal.candidates (items ++ items') = goal.candidates items ++ goal.candidates items' := by
  simp [Goal.candidates]

theorem goal_candidates_cons_of_ok (h : goal.judge item = some (.ok c)) :
    goal.candidates (item :: post) = c :: goal.candidates post := by
  simp [Goal.candidates, h, Except.toOption]

theorem goal_candidates_cons_of_error {reason : CohortExclusionReason}
    (h : goal.judge item = some (.error reason)) :
    goal.candidates (item :: post) = goal.candidates post := by
  simp [Goal.candidates, h, Except.toOption]

theorem goal_exclusions_perm (goal : Goal) (history : List HistoryMatch) : ∃ others,
    ((goal.candidates history).map (·.item) ++ others).Perm history ∧
    (goal.exclusions history).map (·.matchId) = others.map (·.matchId) := by
  induction history
  case nil => exact ⟨[], by simp [Goal.candidates, Goal.exclusions]⟩
  case cons item history ih =>
    have ⟨others, hperm, hids⟩ := ih
    have ⟨verdict, hverdict⟩ := Option.isSome_iff_exists.mp (judge_goal_isSome goal item)
    cases verdict with
    | ok c =>
      have ⟨hitem, _⟩ := judge_goal_ok_iff.mp hverdict
      refine ⟨others, ?_, ?_⟩
      · rw [goal_candidates_cons_of_ok hverdict, map_cons, hitem]
        exact hperm.cons item
      · simpa [Goal.exclusions, hverdict] using hids
    | error reason =>
      refine ⟨item :: others, ?_, ?_⟩
      · rw [goal_candidates_cons_of_error hverdict]
        exact perm_middle.trans (hperm.cons item)
      · simpa [Goal.exclusions, hverdict] using hids

theorem evaluateGoal_eq_ok_iff (ha : goal.Active activeSeries) :
    evaluateGoal goal activeSeries history = .ok receipt ↔
      receipt.Evaluates goal (goalWindow (goal.candidates history)) ∧
      receipt.exclusions = goal.exclusions history ++
        (goalDropped (goal.candidates history)).map fun c => ⟨c.item.matchId, .duplicateDemo⟩ := by
  simp only [evaluateGoal, ha.open_, ha.series, ne_eq, not_true_eq_false, if_false, bind_eq_ok_iff,
    pure_eq_ok_iff, Bool.false_eq_true]
  constructor
  case mp =>
    intro ⟨median, hmedian, h⟩
    subst h
    exact ⟨⟨rfl, rfl, rfl, rfl, hmedian⟩, rfl⟩
  case mpr =>
    intro ⟨h, hex⟩
    refine ⟨_, h.median, ?_⟩
    have := h.goalId
    have := h.status
    have := h.matchIds
    have := h.demoHashes
    cases receipt
    simp_all [goalWindow, select, leaders, goalDropped]

theorem goalWindow_selection (candidates : List GoalCandidate) : Selection GoalCandidate.key
    GoalCandidate.demoHash goalEvaluationMatches candidates (goalWindow candidates) := by
  apply select_selection
  intro c c' h
  exact congrArg (fun key => (ofLex (ofLex key).2).2) h

theorem goalKept_append_dropped (candidates : List GoalCandidate) :
    (goalKept candidates ++ goalDropped candidates).Perm candidates :=
  (keepFirst_perm GoalCandidate.demoHash [] _).trans (ranked_perm _ _)

-- The demos with a match that counts.
def qualifyingDemos (goal : Goal) (history : List HistoryMatch) : List String :=
  ((goal.candidates history).map (·.demoHash)).dedup

theorem length_qualifyingDemos :
    (qualifyingDemos goal history).length = (goalKept (goal.candidates history)).length := by
  have hperm := leaders_label_perm GoalCandidate.key GoalCandidate.demoHash (goal.candidates history)
  simpa [qualifyingDemos, goalKept] using hperm.length_eq

-- A match whose key is later than those of the selected ones, or that has no key.
def LaterThan (selected : List GoalCandidate) (item : HistoryMatch) : Prop :=
  ∀ interval, item.interval = some interval → ∀ c ∈ selected, c.key < startKey item interval

structure SameEvaluation (receipt receipt' : GoalReceipt) : Prop where
  status     : receipt'.status = receipt.status
  median     : receipt'.evaluationMedian = receipt.evaluationMedian
  matchIds   : receipt'.selectedMatchIds = receipt.selectedMatchIds
  demoHashes : receipt'.selectedDemoHashes = receipt.selectedDemoHashes

-- What a receipt states about the history, and what it does not change with once it is decided.
structure Decides (goal : Goal) (activeSeries : CalculationSeriesIdentity)
    (history : List HistoryMatch) (receipt : GoalReceipt) (selected : List GoalCandidate) : Prop where
  evaluates : receipt.Evaluates goal selected
  qualify   : ∀ c ∈ selected, c.item ∈ history ∧ Qualifies goal c
  demos     : (selected.map (·.item.demoHash)).Nodup
  earliest  : selected.Pairwise fun c c' => c.key < c'.key
  bound     : selected.length ≤ goalEvaluationMatches
  first     : ∀ c, c.item ∈ history → Qualifies goal c →
    (∃ b ∈ selected, b.item.demoHash = c.item.demoHash ∧ b.key ≤ c.key) ∨
    selected.length = goalEvaluationMatches ∧ ∀ b ∈ selected, b.key < c.key
  stable    : receipt.status = .achieved ∨ receipt.status = .notAchieved →
    ∀ history', Inserted (LaterThan selected) history history' →
    ∃ receipt', evaluateGoal goal activeSeries history' = .ok receipt' ∧
      SameEvaluation receipt receipt'

-- Every match is selected or has an entry among the exclusions.
def Accounts (history : List HistoryMatch) (receipt : GoalReceipt) (selected : List GoalCandidate) :
    Prop :=
  ∃ others, (selected.map (·.item) ++ others).Perm history ∧
    receipt.exclusions.map (·.matchId) = others.map (·.matchId)

theorem goalWindow_insert
    (hfull : (goalWindow (goal.candidates (pre ++ post))).length = goalEvaluationMatches)
    (h : LaterThan (goalWindow (goal.candidates (pre ++ post))) item) :
    goalWindow (goal.candidates (pre ++ item :: post)) = goalWindow (goal.candidates (pre ++ post)) := by
  rw [goal_candidates_append] at hfull h ⊢
  rw [goal_candidates_append]
  have ⟨verdict, hverdict⟩ := Option.isSome_iff_exists.mp (judge_goal_isSome goal item)
  cases verdict with
  | error reason => rw [goal_candidates_cons_of_error hverdict]
  | ok c =>
    have ⟨hitem, hq⟩ := judge_goal_ok_iff.mp hverdict
    subst hitem
    rw [goal_candidates_cons_of_ok hverdict]
    exact select_insert_of_later hfull (h c.interval hq.interval)

theorem length_of_decided {selected : Nat} {median : Option Rational}
    (h : goal.statusOf selected median = .achieved ∨ goal.statusOf selected median = .notAchieved) :
    goalEvaluationMatches ≤ selected := by
  by_contra hlt
  simp [Goal.statusOf, not_le.mp hlt] at h

theorem evaluateGoal_stable (ha : goal.Active activeSeries)
    (h : receipt.Evaluates goal (goalWindow (goal.candidates history)))
    (hstatus : receipt.status = .achieved ∨ receipt.status = .notAchieved)
    {history' : List HistoryMatch}
    (hinserted : Inserted (LaterThan (goalWindow (goal.candidates history))) history history') :
    ∃ receipt', evaluateGoal goal activeSeries history' = .ok receipt' ∧
      SameEvaluation receipt receipt' := by
  rw [h.status] at hstatus
  have hfull : (goalWindow (goal.candidates history)).length = goalEvaluationMatches :=
    le_antisymm (goalWindow_selection _).bound (length_of_decided hstatus)
  have hwindow : goalWindow (goal.candidates history') = goalWindow (goal.candidates history) := by
    induction hinserted
    case refl => rfl
    case insert pre item post _ hitem ih =>
      rw [← ih] at hfull hitem ⊢
      exact goalWindow_insert hfull hitem
  refine ⟨{ receipt with exclusions := _ },
    (evaluateGoal_eq_ok_iff ha).mpr ⟨?_, rfl⟩, rfl, rfl, rfl, rfl⟩
  rw [hwindow]
  exact ⟨h.1, h.2, h.3, h.4, h.5⟩

theorem evaluateGoal_decides (ha : goal.Active activeSeries)
    (h : evaluateGoal goal activeSeries history = .ok receipt) :
    Decides goal activeSeries history receipt (goalWindow (goal.candidates history)) := by
  have ⟨he, _⟩ := (evaluateGoal_eq_ok_iff ha).mp h
  have hsel := goalWindow_selection (goal.candidates history)
  constructor
  case evaluates => exact he
  case qualify =>
    intro c hc
    have ⟨rest, hperm⟩ := hsel.within
    exact mem_goal_candidates.mp (hperm.mem_iff.mp (mem_append_left rest hc))
  case demos => exact hsel.labels
  case earliest =>
    have hlabels := pairwise_map.mp hsel.labels
    refine hsel.sorted.imp₂ (fun c c' hle hne => lt_of_le_of_ne hle fun heq => hne ?_) hlabels
    exact congrArg (fun key => (ofLex (ofLex key).2).2) heq
  case bound => exact hsel.bound
  case first => exact fun c hc hq => hsel.least c (mem_goal_candidates.mpr ⟨hc, hq⟩)
  case stable => exact fun hstatus history' => evaluateGoal_stable ha he hstatus

-- The receipt accounts for every match unless more demos than the goal needs have one that counts.
theorem evaluateGoal_decided_iff (ha : goal.Active activeSeries)
    (h : evaluateGoal goal activeSeries history = .ok receipt) :
    (∃ selected, Decides goal activeSeries history receipt selected ∧
      Accounts history receipt selected) ↔
    (qualifyingDemos goal history).length ≤ goalEvaluationMatches := by
  have ⟨he, hex⟩ := (evaluateGoal_eq_ok_iff ha).mp h
  have ⟨ineligible, hperm, hids⟩ := goal_exclusions_perm goal history
  have hkept := goalKept_append_dropped (goal.candidates history)
  have hwindow : goalWindow (goal.candidates history) =
      (goalKept (goal.candidates history)).take goalEvaluationMatches := rfl
  rw [length_qualifyingDemos]
  constructor
  case mp =>
    intro ⟨selected, hd, others, hothers, hexclusions⟩
    have h₁ := congrArg length (he.matchIds.symm.trans hd.evaluates.matchIds)
    have h₂ := congrArg length hexclusions
    have h₃ := hothers.length_eq
    have h₄ := hperm.length_eq
    have h₅ := hkept.length_eq
    have h₆ := congrArg length hids
    rw [hex] at h₂
    simp only [length_map, length_append] at h₁ h₂ h₃ h₄ h₅ h₆
    have h₇ : (goalWindow (goal.candidates history)).length =
        (goalKept (goal.candidates history)).length := by omega
    exact h₇ ▸ (goalWindow_selection _).bound
  case mpr =>
    intro hle
    refine ⟨_, evaluateGoal_decides ha h, ineligible ++
      (goalDropped (goal.candidates history)).map (·.item), ?_, ?_⟩
    · rw [hwindow, take_of_length_le hle]
      refine (perm_append_comm.append_left _).trans ?_
      rw [← append_assoc, ← map_append]
      exact ((hkept.map _).append_right ineligible).trans hperm
    · simp [hex, hids, Function.comp_def]

end

def demoGoal : Goal :=
  .rating "goal" 0 demoSeries .allMaps demoRating []

def elevenMatches : List HistoryMatch := [
  ratedMatch "1" "1" 100 demoRating, ratedMatch "2" "2" 200 demoRating,
  ratedMatch "3" "3" 300 demoRating, ratedMatch "4" "4" 400 demoRating,
  ratedMatch "5" "5" 500 demoRating, ratedMatch "6" "6" 600 demoRating,
  ratedMatch "7" "7" 700 demoRating, ratedMatch "8" "8" 800 demoRating,
  ratedMatch "9" "9" 900 demoRating, ratedMatch "10" "10" 1000 demoRating,
  ratedMatch "11" "11" 1100 demoRating
]

theorem Accounts.length {goal : Goal} {activeSeries : CalculationSeriesIdentity}
    {history : List HistoryMatch} {receipt : GoalReceipt} {selected : List GoalCandidate}
    (h : Decides goal activeSeries history receipt selected) (h' : Accounts history receipt selected) :
    receipt.selectedMatchIds.length + receipt.exclusions.length = history.length := by
  have ⟨others, hothers, hexclusions⟩ := h'
  have h₁ := hothers.length_eq
  have h₂ := congrArg List.length hexclusions
  simp only [length_append, length_map] at h₁ h₂
  rw [h.evaluates.matchIds, length_map]
  omega

theorem elevenMatches_evaluated : (evaluateGoal demoGoal demoSeries elevenMatches).toOption.map
    (fun receipt => (receipt.selectedMatchIds.length, receipt.exclusions.length)) = some (10, 0) := by
  decide +kernel

-- The match after the first ten is neither selected nor excluded.
theorem evaluateGoal_drops_eleventh : ∃ receipt,
    evaluateGoal demoGoal demoSeries elevenMatches = .ok receipt ∧
    ¬∃ selected, Decides demoGoal demoSeries elevenMatches receipt selected ∧
      Accounts elevenMatches receipt selected := by
  have heval := elevenMatches_evaluated
  cases h : evaluateGoal demoGoal demoSeries elevenMatches with
  | error e => simp [h, Except.toOption] at heval
  | ok receipt =>
    refine ⟨receipt, rfl, ?_⟩
    rintro ⟨selected, hd, ha⟩
    have hlength := Accounts.length hd ha
    simp only [h, Except.toOption, Option.map_some, Option.some.injEq, Prod.mk.injEq] at heval
    rw [heval.1, heval.2] at hlength
    exact absurd hlength (by decide)

theorem evaluateGoal_decided_iff_importedTwice : ∃ receipt,
    evaluateGoal demoGoal demoSeries importedTwice = .ok receipt ∧
    ((∃ selected, Decides demoGoal demoSeries importedTwice receipt selected ∧
      Accounts importedTwice receipt selected) ↔
      (qualifyingDemos demoGoal importedTwice).length ≤ goalEvaluationMatches) :=
  ⟨_, rfl, evaluateGoal_decided_iff ⟨rfl, rfl⟩ rfl⟩

end Domain
