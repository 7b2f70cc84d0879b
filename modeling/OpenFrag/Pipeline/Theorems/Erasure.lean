import OpenFrag.Pipeline.Theorems.Reconcile
import OpenFrag.Import.Erasure

open Import Domain

namespace Pipeline.Reconcile

-- The disposition keeps the clip.
inductive Retains : ReconciliationDisposition → Prop
  | confirm {labels : List FinalHighlightLabel} {evidence : DemoHighlightEvidence}
    {completeness : EvidenceCompleteness} : Retains (.confirm labels evidence completeness)
  | evidenceUnavailable {reason : UnavailableEvidence} : Retains (.evidenceUnavailable reason)

-- A clip that is kept is not rejected when evidence is lost.
def LossNeverRejects (parsed : ParsedOutput) (localId : SteamId)
    (candidate : ReconciliationCandidate) : Prop :=
  Retains (evaluate parsed localId candidate) →
    ∀ lost, parsed.Erases lost → evaluate lost localId candidate ≠ .rejectOrdinary

-- The scan for a clutch finds all that it reads, and no clutch that the team has won.
def ScansOrdinary (parsed : ParsedOutput) (localId : SteamId) (round : ParsedRound) : Prop :=
  match clutchOpponents parsed localId (previousEnd parsed round.number) round.endTick with
  | .ok none     => True
  | .ok (some _) => ∃ team ∈ teamAt parsed localId round.endTick, ∃ winner ∈ round.winner,
    team ≠ winner
  | .error _     => False

variable {parsed lost : ParsedOutput} {localId : SteamId} {round : ParsedRound}
  {candidate : ReconciliationCandidate}

theorem clutchAt_le {tick : DemoTick} {n : Nat} (h : clutchAt parsed localId tick = .ok (some n)) :
    2 ≤ n := by
  unfold clutchAt at h
  split at h
  case h_1 => cases h
  case h_2 =>
    split at h
    case h_1 | h_2 | h_3 => cases h
    case h_4 =>
      obtain ⟨⟨teammates, enemies⟩, _, h⟩ := Except.bind_eq_ok_iff.mp h
      simp only [Except.pure_eq_ok_iff] at h
      split at h
      case isTrue henough =>
        cases h
        exact henough.2
      case isFalse => cases h

theorem clutchScan_le {ticks : List DemoTick} {n : Nat}
    (h : clutchScan parsed localId ticks = .ok (some n)) : 2 ≤ n := by
  induction ticks
  case nil => cases h
  case cons tick ticks ih =>
    obtain ⟨opponents, hat, h⟩ := Except.bind_eq_ok_iff.mp h
    cases opponents
    case none => exact ih h
    case some =>
      cases h
      exact clutchAt_le hat

theorem clutchOpponents_le {startTick endTick : DemoTick} {n : Nat}
    (h : clutchOpponents parsed localId startTick endTick = .ok (some n)) : 2 ≤ n := by
  simp only [clutchOpponents] at h
  split at h
  case isTrue => cases h
  case isFalse => exact clutchScan_le h

theorem dispose_eq_rejectOrdinary_iff {evidence : DemoHighlightEvidence}
    {missing : Option UnavailableEvidence} :
    dispose evidence missing = .rejectOrdinary ↔ finalLabels evidence = [] ∧ missing = none := by
  unfold dispose
  by_cases hlabels : finalLabels evidence = [] <;> cases missing <;> simp [hlabels]

theorem linkedRound_not_reject {disposition : ReconciliationDisposition}
    (h : linkedRound parsed candidate = .error disposition) : disposition ≠ .rejectOrdinary := by
  unfold linkedRound at h
  split at h
  case isTrue => cases h; simp
  case isFalse =>
    split at h
    case h_1 => cases h; simp
    case h_2 =>
      split at h
      case h_1 => cases h
      case h_2 => cases h; simp

theorem evaluate_eq_rejectOrdinary_iff :
    evaluate parsed localId candidate = .rejectOrdinary ↔
      ∃ round, linkedRound parsed candidate = .ok round ∧
        finalLabels (gather parsed localId round).1 = [] ∧ (gather parsed localId round).2 = none := by
  unfold evaluate
  cases hlinked : linkedRound parsed candidate
  case error disposition => simp [linkedRound_not_reject hlinked]
  case ok round => simp [dispose_eq_rejectOrdinary_iff]

-- Nothing is missing from an evaluation that gets to the end of the clutch scan without a win.
theorem scansOrdinary_of_gather (hlabels : finalLabels (gather parsed localId round).1 = [])
    (hmissing : (gather parsed localId round).2 = none) : ScansOrdinary parsed localId round := by
  unfold ScansOrdinary
  cases hclutch : clutchOpponents parsed localId (previousEnd parsed round.number) round.endTick
  case error reason => simp [gather, hclutch] at hmissing
  case ok opponents =>
    cases opponents
    case none => trivial
    case some n =>
      have hn := clutchOpponents_le hclutch
      cases hteam : teamAt parsed localId round.endTick
      case none => simp [gather, hclutch, hteam] at hmissing
      case some team =>
        cases hwinner : round.winner
        case none => simp [gather, hclutch, hteam, hwinner] at hmissing
        case some winner =>
          refine ⟨team, rfl, winner, rfl, ?_⟩
          rintro rfl
          simp [gather, hclutch, hteam, hwinner, finalLabels, hn] at hlabels

-- Without a kill of the local player, the clutch decides.
theorem gather_of_scansOrdinary (hkills : killsBy parsed localId = [])
    (h : ScansOrdinary parsed localId round) :
    finalLabels (gather parsed localId round).1 = [] ∧ (gather parsed localId round).2 = none := by
  unfold ScansOrdinary at h
  split at h
  case h_1 hclutch => simp [gather, hclutch, hkills, scanKills, finalLabels]
  case h_2 n hclutch =>
    obtain ⟨team, hteam, winner, hwinner, hne⟩ := h
    rw [Option.mem_def] at hteam hwinner
    simp [gather, hclutch, hkills, scanKills, finalLabels, hteam, hwinner, hne]
  case h_3 => cases h

section

variable {events : List ParsedEvent} {rounds : List ParsedRound}

-- The clutch scan reads the snapshots and the participants only.
theorem clutchScan_events {ticks : List DemoTick} :
    clutchScan { parsed with events, rounds } localId ticks = clutchScan parsed localId ticks := by
  induction ticks
  case nil => rfl
  case cons tick ticks ih =>
    simp only [clutchScan, ih]
    rfl

theorem clutchOpponents_events {startTick endTick : DemoTick} :
    clutchOpponents { parsed with events, rounds } localId startTick endTick =
      clutchOpponents parsed localId startTick endTick := by
  simp only [clutchOpponents, clutchScan_events]
  rfl

theorem scansOrdinary_events :
    ScansOrdinary { parsed with events } localId round = ScansOrdinary parsed localId round := by
  have hclutch : clutchOpponents { parsed with events } localId = clutchOpponents parsed localId := by
    funext startTick endTick
    exact clutchOpponents_events
  simp only [ScansOrdinary, hclutch]
  rfl

end

-- What the link to a round reads is kept.
theorem ends_of_erases {rounds lost : List ParsedRound}
    (h : List.Forall₂ ParsedRound.Erases rounds lost) :
    lost.map (fun r => (r.number, r.endTick)) = rounds.map fun r => (r.number, r.endTick) := by
  induction h
  case nil => rfl
  case cons hround _ ih => simp [hround.number, hround.endTick, ih]

theorem previousEnd_of_erases {number : RoundNumber} (h : parsed.Erases lost) :
    previousEnd lost number = previousEnd parsed number := by
  have hends : ∀ rounds : List ParsedRound,
      (rounds.filter (·.number < number)).map (·.endTick) =
        ((rounds.map fun r => (r.number, r.endTick)).filter (·.1 < number)).map (·.2) := by
    intro rounds
    simp [List.filter_map, Function.comp_def]
  rw [previousEnd, previousEnd, hends, hends, ends_of_erases h.rounds]

theorem linkedRound_of_erases {round' : ParsedRound} (h : parsed.Erases lost)
    (hlinked : linkedRound lost candidate = .ok round') :
    ∃ round, linkedRound parsed candidate = .ok round ∧ round.Erases round' := by
  unfold linkedRound at hlinked ⊢
  split at hlinked
  case isTrue => cases hlinked
  case isFalse horigin =>
    rw [if_neg horigin]
    cases hnumber : candidate.demoRoundNumber
    case none => simp [hnumber] at hlinked
    case some number =>
      have hfilter : List.Forall₂ ParsedRound.Erases (parsed.rounds.filter (·.number = number))
          (lost.rounds.filter (·.number = number)) := by
        apply List.rel_filter _ h.rounds
        intro r r' hr
        simp [hr.number]
      simp only [hnumber] at hlinked ⊢
      split at hlinked
      case h_2 => cases hlinked
      case h_1 hsingle =>
        cases hlinked
        rw [hsingle] at hfilter
        cases hfilter' : parsed.rounds.filter (·.number = number)
        case nil => simp [hfilter'] at hfilter
        case cons round rest =>
          rw [hfilter'] at hfilter
          obtain ⟨hround, hrest⟩ := List.forall₂_cons.mp hfilter
          cases hrest
          exact ⟨round, rfl, hround⟩

theorem scansOrdinary_of_erases {round' : ParsedRound} (h : parsed.Erases lost)
    (hround : round.Erases round') (hscan : ScansOrdinary lost localId round') :
    ScansOrdinary { parsed with playerSnapshots := lost.playerSnapshots } localId round := by
  have hend : previousEnd { parsed with playerSnapshots := lost.playerSnapshots } round.number =
      previousEnd lost round'.number := by
    rw [previousEnd_of_erases h, hround.number]
    rfl
  have hclutch : clutchOpponents { parsed with playerSnapshots := lost.playerSnapshots } localId =
      clutchOpponents lost localId := by
    funext startTick endTick
    rw [h.rest]
    exact clutchOpponents_events.symm
  have hteam : teamAt { parsed with playerSnapshots := lost.playerSnapshots } localId =
      teamAt lost localId := by
    rw [h.rest]
    rfl
  unfold ScansOrdinary at hscan ⊢
  rw [hend, hclutch, hteam, ← hround.endTick]
  split at hscan
  case h_1 => trivial
  case h_2 =>
    obtain ⟨team, hteam, winner, hwinner, hne⟩ := hscan
    exact ⟨team, hteam, winner, hround.winner.eq_some hwinner, hne⟩
  case h_3 => cases hscan

theorem killsBy_withoutAttacker {snapshots : List PlayerSnapshot} :
    killsBy { parsed with
      events := parsed.events.map ParsedEvent.withoutAttacker, playerSnapshots := snapshots }
      localId = [] := by
  simp only [killsBy, List.filter_eq_nil_iff, List.forall_mem_map]
  intro e _
  cases he : e.event <;>
    simp [ParsedEvent.death?, ParsedEvent.withoutAttacker, NormalizedEvent.withoutAttacker, he]

theorem lossNeverRejects_iff (h : Retains (evaluate parsed localId candidate)) :
    LossNeverRejects parsed localId candidate ↔
      ∀ round, linkedRound parsed candidate = .ok round → ∀ snapshots,
        ErasesSnapshots parsed.playerSnapshots snapshots →
        ¬ScansOrdinary { parsed with playerSnapshots := snapshots } localId round := by
  constructor
  · intro hnever round hlinked snapshots hlost hscan
    let lost : ParsedOutput :=
      { parsed with
        events := parsed.events.map ParsedEvent.withoutAttacker, playerSnapshots := snapshots }
    have herases : parsed.Erases lost := by
      refine ⟨?_, List.forall₂_same.mpr fun round _ => .refl round, hlost, rfl⟩
      apply List.forall₂_map_right_iff.mpr
      exact List.forall₂_same.mpr fun e _ => e.erases_withoutAttacker
    have hscan' : ScansOrdinary lost localId round := scansOrdinary_events ▸ hscan
    apply hnever h lost herases
    rw [evaluate_eq_rejectOrdinary_iff]
    exact ⟨round, hlinked, gather_of_scansOrdinary killsBy_withoutAttacker hscan'⟩
  · intro hcondition _ lost hlost hreject
    obtain ⟨round', hlinked', hlabels, hmissing⟩ := evaluate_eq_rejectOrdinary_iff.mp hreject
    obtain ⟨round, hlinked, hround⟩ := linkedRound_of_erases hlost hlinked'
    exact hcondition round hlinked lost.playerSnapshots hlost.snapshots
      (scansOrdinary_of_erases hlost hround (scansOrdinary_of_gather hlabels hmissing))

theorem lateKillCandidate_retained :
    evaluate lateKillDemo 1 lateKillCandidate =
      .confirm [.knife] ⟨1, none, false, true⟩ .complete := by
  decide

-- The knife kill that has lost its attacker leaves an ordinary round.
def anonymousKillDemo : ParsedOutput :=
  { lateKillDemo with events := lateKillDemo.events.map ParsedEvent.withoutAttacker }

theorem lateKillDemo_erases : lateKillDemo.Erases anonymousKillDemo where
  events    := List.forall₂_map_right_iff.mpr <|
    List.forall₂_same.mpr fun e _ => e.erases_withoutAttacker
  rounds    := List.forall₂_same.mpr fun round _ => .refl round
  snapshots := ⟨_, List.forall₂_same.mpr fun _ _ => ⟨.refl _, .refl _, rfl⟩, .refl _⟩
  rest      := rfl

theorem loss_rejects_late_kill :
    ¬∀ parsed localId candidate, candidate.origin = .provisionalAutoRound →
      LossNeverRejects parsed localId candidate := by
  intro h
  have hnever := h lateKillDemo 1 lateKillCandidate rfl (lateKillCandidate_retained ▸ .confirm)
  exact hnever anonymousKillDemo lateKillDemo_erases (by decide)

theorem lossNeverRejects_iff_late_kill :
    LossNeverRejects lateKillDemo 1 lateKillCandidate ↔
      ∀ round, linkedRound lateKillDemo lateKillCandidate = .ok round → ∀ snapshots,
        ErasesSnapshots lateKillDemo.playerSnapshots snapshots →
        ¬ScansOrdinary { lateKillDemo with playerSnapshots := snapshots } 1 round :=
  lossNeverRejects_iff (lateKillCandidate_retained ▸ .confirm)

end Pipeline.Reconcile
