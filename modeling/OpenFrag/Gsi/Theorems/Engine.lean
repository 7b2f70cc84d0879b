import OpenFrag.Gsi.Run

namespace Gsi

open TransitionFact

variable {sha256 : Bytes → Bytes} {previous current : Payload} {fact other : TransitionFact}

theorem mem_increase {f : Int → Int → Int → TransitionFact} {previous current : Option Int} :
    fact ∈ increase f previous current ↔
      ∃ before after, previous = some before ∧ current = some after ∧ 0 ≤ before ∧
        before < after ∧ fact = f before after (after - before) := by
  cases previous <;> cases current <;> simp [increase, and_assoc]

theorem mem_depletion {previous current : Option Int} :
    fact ∈ depletion previous current ↔
      ∃ before after, previous = some before ∧ current = some after ∧ 0 < before ∧ after ≤ 0 ∧
        fact = .healthDepleted before after := by
  cases previous <;> cases current <;> simp [depletion, and_assoc]

theorem mem_roundEnds {previous current : Option Nat} :
    fact ∈ roundEnds previous current ↔
      ∃ before after, previous = some before ∧ current = some after ∧
        ∃ completed, before ≤ completed ∧ completed < after ∧
          fact = .roundEnd completed (completed + 1) := by
  cases previous <;> cases current <;> simp [roundEnds]
  case some.some before after =>
    constructor
    · intro ⟨completed, ⟨hlo, hhi⟩, h⟩
      exact ⟨completed, hlo, by omega, h.symm⟩
    · intro ⟨completed, hlo, hhi, h⟩
      exact ⟨completed, ⟨hlo, by omega⟩, h.symm⟩

theorem sameRound_iff {previous current : Option Nat} :
    sameRound previous current ↔ ∃ round, previous = some round ∧ current = some round := by
  cases previous <;> cases current <;> simp [sameRound, eq_comm]

-- Where a derived fact comes from.
inductive Derived (previous current : Payload) : TransitionFact → Prop
  | kills {fact : TransitionFact}
      (h : fact ∈ increase .cumulativeKillDelta previous.kills current.kills) :
    Derived previous current fact
  | deaths {fact : TransitionFact}
      (h : fact ∈ increase .cumulativeDeathDelta previous.deaths current.deaths) :
    Derived previous current fact
  | roundKills {fact : TransitionFact} (hround : sameRound previous.round current.round)
      (h : fact ∈ increase .roundKillDelta previous.roundKills current.roundKills) :
    Derived previous current fact
  | health {fact : TransitionFact} (hround : sameRound previous.round current.round)
      (h : fact ∈ depletion previous.health current.health) :
    Derived previous current fact
  | rounds {fact : TransitionFact} (h : fact ∈ roundEnds previous.round current.round) :
    Derived previous current fact

theorem deriveTransition_derived
    (h : fact ∈ (deriveTransition (.from sha256 previous) (.from sha256 current)).2) :
    Derived previous current fact := by
  simp only [deriveTransition] at h
  split at h
  case isTrue  => cases h
  case isFalse =>
    simp only [List.mem_append, List.mem_ite_nil_right] at h
    rcases h with (((h | h) | ⟨hround, h⟩) | ⟨hround, h⟩) | h
    · exact .kills h
    · exact .deaths h
    · exact .roundKills hround h
    · exact .health hround h
    · exact .rounds h

theorem Derived.compares (h : Derived previous current fact) : Compares previous current fact := by
  cases h
  case kills h =>
    obtain ⟨before, after, hbefore, hafter, hpos, hlt, rfl⟩ := mem_increase.mp h
    exact ⟨hbefore, hafter, hpos, hlt, rfl⟩
  case deaths h =>
    obtain ⟨before, after, hbefore, hafter, hpos, hlt, rfl⟩ := mem_increase.mp h
    exact ⟨hbefore, hafter, hpos, hlt, rfl⟩
  case roundKills hround h =>
    obtain ⟨before, after, hbefore, hafter, hpos, hlt, rfl⟩ := mem_increase.mp h
    exact ⟨hbefore, hafter, hpos, hlt, rfl, sameRound_iff.mp hround⟩
  case health hround h =>
    obtain ⟨before, after, hbefore, hafter, hpos, hle, rfl⟩ := mem_depletion.mp h
    exact ⟨hbefore, hafter, hpos, hle, sameRound_iff.mp hround⟩
  case rounds h =>
    obtain ⟨before, after, hbefore, hafter, completed, hle, hlt, rfl⟩ := mem_roundEnds.mp h
    exact ⟨before, after, hbefore, hafter, hle, hlt, rfl⟩

theorem Compares.sameRound (h : Compares previous current fact) (hfact : fact.withinRound) :
    ∃ round, previous.round = some round ∧ current.round = some round := by
  cases fact <;> simp only [withinRound, Bool.false_eq_true] at hfact
  case roundKillDelta => exact h.2.2.2.2.2
  case healthDepleted => exact h.2.2.2.2

-- A round that has ended is not the round of both payloads.
theorem Compares.exclusive (h : Compares previous current fact) (hfact : fact.endsRound)
    (hother : Compares previous current other) : ¬other.withinRound := by
  cases fact <;> simp only [endsRound, Bool.false_eq_true] at hfact
  case roundEnd completed next =>
    obtain ⟨before, after, hbefore, hafter, hle, hlt, _⟩ := h
    intro hwithin
    obtain ⟨round, hprevious, hcurrent⟩ := hother.sameRound hwithin
    simp only [hprevious, hcurrent, Option.some.injEq] at hbefore hafter
    omega

theorem deriveTransition_silent {previous current : TrustedSnapshot}
    (h : (deriveTransition previous current).1 ≠ .healthy) :
    (deriveTransition previous current).2 = [] := by
  simp only [deriveTransition] at h ⊢
  split <;> simp_all

theorem deriveTransition_ne_stale {previous current : TrustedSnapshot} :
    (deriveTransition previous current).1 ≠ .stale := by
  simp only [deriveTransition]
  split <;> simp

end Gsi
