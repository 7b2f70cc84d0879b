import OpenFrag.Analysis.Theorems.Trades
import OpenFrag.Analysis.Theorems.Ledger
import OpenFrag.Pipeline.Reconcile

open Import Domain Except
open Analysis (RoundLedger AnalysisReceipt)

namespace Pipeline.Reconcile

section

variable (parsed : ParsedOutput) (localId : SteamId)

def isEnemyKill (e : ParsedEvent) : Bool :=
  e.death?.any fun death => death.victim.any fun victim =>
    (teamsAt parsed localId victim e.tick).any fun teams => teams.1 ≠ teams.2

def isEnemyKnifeKill (e : ParsedEvent) : Bool :=
  isEnemyKill parsed localId e && e.death?.any fun death => death.weapon.any isKnife

def killsIn (inside : DemoTick → Bool) : List ParsedEvent :=
  (killsBy parsed localId).filter fun e => inside e.tick

def ticksIn (inside : DemoTick → Bool) : List DemoTick :=
  ((snapshotTicks parsed).filter inside).ascending

-- The clutch that the ticks of a list show; missing evidence shows none.
def clutchOf (ticks : List DemoTick) : Option Nat :=
  match clutchScan parsed localId ticks with
  | .ok opponents => opponents
  | .error _ => none

structure RoundEvidence where
  enemyKills      : Nat
  enemyKnifeKill  : Bool
  clutchOpponents : Option Nat
  deriving DecidableEq, Repr

def DemoHighlightEvidence.ofRound (evidence : DemoHighlightEvidence) : RoundEvidence where
  enemyKills      := evidence.enemyKills
  enemyKnifeKill  := evidence.enemyKnifeKill
  clutchOpponents := evidence.clutchOpponentsAtStart

-- The evidence of the deaths and snapshots whose ticks lie inside of a window.
def evidenceIn (inside : DemoTick → Bool) : RoundEvidence where
  enemyKills      := (scanKills parsed localId (killsIn parsed localId inside)).enemyKills
  enemyKnifeKill  := (scanKills parsed localId (killsIn parsed localId inside)).enemyKnifeKill
  clutchOpponents := clutchOf parsed localId (ticksIn parsed inside)

end

section

variable {parsed : ParsedOutput} {localId : SteamId}

theorem scanKill_enemyKills (scan : KillScan) (e : ParsedEvent) :
    (scanKill parsed localId scan e).enemyKills =
      if isEnemyKill parsed localId e then increment scan.enemyKills else scan.enemyKills := by
  unfold scanKill isEnemyKill
  cases e.death?
  case none => rfl
  case some death =>
    cases hv : death.victim
    case none => simp [hv, KillScan.getOrInsert]
    case some victim =>
      cases ht : teamsAt parsed localId victim e.tick
      case none => simp [hv, ht, KillScan.getOrInsert]
      case some teams =>
        by_cases heq : teams.1 = teams.2
        · simp [hv, ht, heq]
        · cases hw : death.weapon <;> simp [hv, ht, hw, heq, KillScan.getOrInsert]

theorem scanKill_enemyKnifeKill (scan : KillScan) (e : ParsedEvent) :
    (scanKill parsed localId scan e).enemyKnifeKill =
      (scan.enemyKnifeKill || isEnemyKnifeKill parsed localId e) := by
  unfold scanKill isEnemyKnifeKill isEnemyKill
  cases e.death?
  case none => simp
  case some death =>
    cases hv : death.victim
    case none => simp [hv, KillScan.getOrInsert]
    case some victim =>
      cases ht : teamsAt parsed localId victim e.tick
      case none => simp [hv, ht, KillScan.getOrInsert]
      case some teams =>
        by_cases heq : teams.1 = teams.2
        · simp [hv, ht, heq]
        · cases hw : death.weapon <;> simp [hv, ht, hw, heq, KillScan.getOrInsert]

theorem foldl_scanKill {kills : List ParsedEvent} {scan : KillScan} (h : scan.enemyKills ≤ 255) :
    (kills.foldl (scanKill parsed localId) scan).enemyKills =
      min 255 (scan.enemyKills + kills.countP (isEnemyKill parsed localId)) ∧
    (kills.foldl (scanKill parsed localId) scan).enemyKnifeKill =
      (scan.enemyKnifeKill || kills.any (isEnemyKnifeKill parsed localId)) := by
  induction kills generalizing scan
  case nil => simp [h]
  case cons e kills ih =>
    have hstep : (scanKill parsed localId scan e).enemyKills ≤ 255 := by
      rw [scanKill_enemyKills]
      split
      · exact min_le_left _ _
      · exact h
    rw [List.foldl_cons, (ih hstep).1, (ih hstep).2, scanKill_enemyKills, scanKill_enemyKnifeKill,
      List.countP_cons, List.any_cons, Bool.or_assoc]
    refine ⟨?_, rfl⟩
    cases isEnemyKill parsed localId e <;>
      simp only [increment, Bool.false_eq_true, if_true, if_false] <;> omega

-- The loop counts the enemy kills up to saturation, and looks for one with a knife.
theorem scanKills_eq (kills : List ParsedEvent) :
    (scanKills parsed localId kills).enemyKills =
      min 255 (kills.countP (isEnemyKill parsed localId)) ∧
    (scanKills parsed localId kills).enemyKnifeKill =
      kills.any (isEnemyKnifeKill parsed localId) := by
  simpa [scanKills] using @foldl_scanKill parsed localId kills ⟨0, false, none⟩ (Nat.zero_le _)

end

-- The ticks that `evaluate` reads for a round, and those of the round in the ledger.
def evaluateWindow (previousEnd : DemoTick) (round : RoundLedger) (tick : DemoTick) : Bool :=
  previousEnd < tick ∧ tick ≤ round.endTick

def ledgerWindow (round : RoundLedger) (tick : DemoTick) : Bool :=
  round.covers tick

-- The ticks of exactly one of the windows, and those of both: the windows end at the same tick.
def edge (previousEnd : DemoTick) (round : RoundLedger) (tick : DemoTick) : Bool :=
  tick ≤ round.endTick ∧
  (previousEnd < tick ∧ tick < round.freezeTick ∨ round.freezeTick ≤ tick ∧ tick ≤ previousEnd)

def inner (previousEnd : DemoTick) (round : RoundLedger) (tick : DemoTick) : Bool :=
  previousEnd < tick ∧ round.covers tick

-- One of two windows is the other one and an earlier part.
structure Extends (longer shorter earlier : DemoTick → Bool) : Prop where
  parts   : ∀ t, longer t ↔ earlier t ∨ shorter t
  earlier : ∀ t t', earlier t → shorter t' → t < t'

theorem windows_nested (previousEnd : DemoTick) (round : RoundLedger) :
    Extends (evaluateWindow previousEnd round) (ledgerWindow round) (edge previousEnd round) ∧
      ledgerWindow round = inner previousEnd round ∨
    Extends (ledgerWindow round) (evaluateWindow previousEnd round) (edge previousEnd round) ∧
      evaluateWindow previousEnd round = inner previousEnd round := by
  rcases lt_or_ge previousEnd round.freezeTick with hlt | hge
  · refine .inl ⟨⟨fun t => ?_, fun t t' => ?_⟩, funext fun t => ?_⟩
    all_goals grind [evaluateWindow, ledgerWindow, edge, inner, RoundLedger.covers]
  · refine .inr ⟨⟨fun t => ?_, fun t t' => ?_⟩, funext fun t => ?_⟩
    all_goals grind [evaluateWindow, ledgerWindow, edge, inner, RoundLedger.covers]

namespace Extends

variable {longer shorter earlier : DemoTick → Bool}

theorem disjoint (h : Extends longer shorter earlier) (t : DemoTick) :
    ¬(earlier t ∧ shorter t) :=
  fun ⟨h₁, h₂⟩ => lt_irrefl t (h.earlier t t h₁ h₂)

theorem countP (h : Extends longer shorter earlier) (p : ParsedEvent → Bool)
    (parsed : ParsedOutput) (localId : SteamId) :
    (killsIn parsed localId longer).countP p =
      (killsIn parsed localId earlier).countP p + (killsIn parsed localId shorter).countP p := by
  unfold killsIn
  induction killsBy parsed localId
  case nil => rfl
  case cons e kills ih =>
    have hparts := h.parts e.tick
    have hdisjoint := h.disjoint e.tick
    cases h₁ : longer e.tick <;> cases h₂ : earlier e.tick <;> cases h₃ : shorter e.tick <;>
      simp_all [List.countP_cons] <;> omega

theorem any (h : Extends longer shorter earlier) (p : ParsedEvent → Bool)
    (parsed : ParsedOutput) (localId : SteamId) :
    (killsIn parsed localId longer).any p =
      ((killsIn parsed localId earlier).any p || (killsIn parsed localId shorter).any p) := by
  rw [Bool.eq_iff_iff]
  simp only [killsIn, Bool.or_eq_true, List.any_eq_true, List.mem_filter, h.parts, ← exists_or]
  exact exists_congr fun e => by tauto

theorem ticks (h : Extends longer shorter earlier) (parsed : ParsedOutput) :
    ticksIn parsed longer = ticksIn parsed earlier ++ ticksIn parsed shorter := by
  refine List.ascending_eq_append (fun t => ?_) fun t ht t' ht' => ?_
  · simp only [List.mem_filter, h.parts]
    tauto
  · exact h.earlier t t' (List.mem_filter.mp ht).2 (List.mem_filter.mp ht').2

end Extends

theorem clutchScan_append {parsed : ParsedOutput} {localId : SteamId} {ticks ticks' : List DemoTick} :
    clutchScan parsed localId (ticks ++ ticks') =
      match clutchScan parsed localId ticks with
      | .ok none => clutchScan parsed localId ticks'
      | decided => decided := by
  induction ticks
  case nil => rfl
  case cons t ticks ih =>
    simp only [List.cons_append, clutchScan]
    cases clutchAt parsed localId t
    case error => rfl
    case ok opponents =>
      cases opponents
      case none => exact ih
      case some => rfl

section

variable {parsed : ParsedOutput} {localId : SteamId} {longer shorter earlier : DemoTick → Bool}

theorem killsIn_evidence (inside : DemoTick → Bool) :
    (evidenceIn parsed localId inside).enemyKills =
      min 255 ((killsIn parsed localId inside).countP (isEnemyKill parsed localId)) ∧
    (evidenceIn parsed localId inside).enemyKnifeKill =
      (killsIn parsed localId inside).any (isEnemyKnifeKill parsed localId) :=
  scanKills_eq _

theorem clutchOf_append_iff {ticks ticks' : List DemoTick} :
    clutchOf parsed localId (ticks ++ ticks') = clutchOf parsed localId ticks' ↔
      clutchScan parsed localId ticks = .ok none ∨
      clutchOf parsed localId ticks = clutchOf parsed localId ticks' := by
  unfold clutchOf
  rw [clutchScan_append]
  rcases clutchScan parsed localId ticks with _ | _ | _ <;> simp

-- Two nested windows give the same evidence unless what lies in one of them only shows more.
theorem evidenceIn_eq_iff (h : Extends longer shorter earlier) :
    evidenceIn parsed localId longer = evidenceIn parsed localId shorter ↔
      ((killsIn parsed localId earlier).countP (isEnemyKill parsed localId) = 0 ∨
        255 ≤ (killsIn parsed localId shorter).countP (isEnemyKill parsed localId)) ∧
      ((killsIn parsed localId earlier).any (isEnemyKnifeKill parsed localId) →
        (killsIn parsed localId shorter).any (isEnemyKnifeKill parsed localId)) ∧
      (clutchScan parsed localId (ticksIn parsed earlier) = .ok none ∨
        clutchOf parsed localId (ticksIn parsed earlier) =
          clutchOf parsed localId (ticksIn parsed shorter)) := by
  have hlonger := @killsIn_evidence parsed localId longer
  have hshorter := @killsIn_evidence parsed localId shorter
  have hclutch := @clutchOf_append_iff parsed localId (ticksIn parsed earlier)
    (ticksIn parsed shorter)
  have hkills : (evidenceIn parsed localId longer).enemyKills =
      (evidenceIn parsed localId shorter).enemyKills ↔
      (killsIn parsed localId earlier).countP (isEnemyKill parsed localId) = 0 ∨
        255 ≤ (killsIn parsed localId shorter).countP (isEnemyKill parsed localId) := by
    rw [hlonger.1, hshorter.1, h.countP]
    omega
  have hknife : (evidenceIn parsed localId longer).enemyKnifeKill =
      (evidenceIn parsed localId shorter).enemyKnifeKill ↔
      ((killsIn parsed localId earlier).any (isEnemyKnifeKill parsed localId) →
        (killsIn parsed localId shorter).any (isEnemyKnifeKill parsed localId)) := by
    rw [hlonger.2, hshorter.2, h.any]
    generalize (killsIn parsed localId earlier).any _ = before
    generalize (killsIn parsed localId shorter).any _ = within
    cases before <;> cases within <;> simp
  rw [← hkills, ← hknife, ← hclutch, ← h.ticks]
  exact RoundEvidence.mk.injEq .. ▸ Iff.rfl

end

section

variable (parsed : ParsedOutput) (localId : SteamId)

-- The snapshots give neither team, and the roster makes the players enemies: only `evaluate` counts.
def isRosterKill (e : ParsedEvent) : Bool :=
  e.death?.any fun death => death.victim.any fun victim =>
    (Analysis.teamAt parsed localId e.tick).isNone &&
    (Analysis.teamAt parsed victim e.tick).isNone && isEnemyKill parsed localId e

-- The snapshots give one of the teams, and the roster does not make the other player an enemy: only
-- the analysis counts.
def isUnknownKill (e : ParsedEvent) : Bool :=
  e.death?.any fun death => death.victim.any fun victim =>
    (Analysis.teamAt parsed localId e.tick).isNone !=
      (Analysis.teamAt parsed victim e.tick).isNone && !isEnemyKill parsed localId e

def isAgreedKill (e : ParsedEvent) : Bool :=
  isEnemyKill parsed localId e && !isRosterKill parsed localId e

end

section

variable {parsed : ParsedOutput} {localId : SteamId} {round : RoundLedger}

theorem teamAt_eq (steamId : SteamId) (tick : DemoTick) :
    teamAt parsed steamId tick =
      (Analysis.teamAt parsed steamId tick).or (rosterTeam parsed steamId) := rfl

theorem isEnemyKill_iff (e : ParsedEvent) :
    isEnemyKill parsed localId e ↔ isAgreedKill parsed localId e ∨ isRosterKill parsed localId e := by
  have hroster : isRosterKill parsed localId e → isEnemyKill parsed localId e := by
    unfold isRosterKill
    simp only [Option.any_eq_true, Bool.and_eq_true]
    exact fun ⟨_, _, _, _, _, h⟩ => h
  rw [isAgreedKill]
  cases h : isRosterKill parsed localId e <;> simp_all

theorem killCount_eq {e : ParsedEvent} (he : e ∈ killsBy parsed localId) :
    Analysis.killCount parsed localId e =
      if isAgreedKill parsed localId e ∨ isUnknownKill parsed localId e then 1 else 0 := by
  have ⟨death, hd, ha⟩ := (Option.any_eq_true _ _).mp (List.mem_filter.mp he).2
  have hevent : e.event = .playerDeath death := by
    unfold ParsedEvent.death? at hd
    split at hd <;> simp_all
  have ha := of_decide_eq_true ha
  cases hv : death.victim
  case none => simp [Analysis.killCount, hevent, hv, isAgreedKill, isEnemyKill, isUnknownKill, hd]
  case some victim =>
    simp only [Analysis.killCount, hevent, hv, isAgreedKill, isRosterKill, isUnknownKill, isEnemyKill,
      hd, Option.any_some, Analysis.countsAsKill, ha, teamsAt, teamAt_eq, true_and]
    generalize Analysis.teamAt parsed localId e.tick = a
    generalize Analysis.teamAt parsed victim e.tick = v
    generalize rosterTeam parsed localId = ra
    generalize rosterTeam parsed victim = rv
    cases a <;> cases v <;> cases ra <;> cases rv <;> simp

theorem isUnknownKill_not_enemy {e : ParsedEvent} (h : isUnknownKill parsed localId e) :
    isEnemyKill parsed localId e = false := by
  simp only [isUnknownKill, Option.any_eq_true, Bool.and_eq_true, Bool.not_eq_true'] at h
  have ⟨_, _, _, _, _, h⟩ := h
  exact h

theorem killCount_of_not_local {e : ParsedEvent}
    (h : ¬e.death?.any (·.attacker = some localId)) : Analysis.killCount parsed localId e = 0 := by
  unfold Analysis.killCount
  cases he : e.event
  case playerDeath death =>
    have ha : death.attacker ≠ some localId := by simpa [ParsedEvent.death?, he] using h
    cases hv : death.victim <;> simp [hv, Analysis.countsAsKill, ha]
  all_goals rfl

theorem killsIn_ledgerWindow :
    (Analysis.roundEvents parsed round).filter (fun e => e.death?.any (·.attacker = some localId)) =
      killsIn parsed localId (ledgerWindow round) := by
  rw [Analysis.roundEvents, killsIn, killsBy, List.filter_comm]
  rfl

theorem roundKills_eq :
    Analysis.roundKills parsed localId round =
      (killsIn parsed localId (ledgerWindow round)).countP (isAgreedKill parsed localId) +
      (killsIn parsed localId (ledgerWindow round)).countP (isUnknownKill parsed localId) := by
  rw [Analysis.roundKills, ← List.sum_map_filter fun _ _ h => killCount_of_not_local h,
    killsIn_ledgerWindow, List.countP_add_countP]
  · refine congrArg List.sum (List.map_congr_left fun e he => ?_)
    exact killCount_eq (List.mem_filter.mp he).1
  · intro e _ hagreed hunknown
    simp [isAgreedKill, isUnknownKill_not_enemy hunknown] at hagreed

theorem enemyKills_eq (inside : DemoTick → Bool) :
    (killsIn parsed localId inside).countP (isEnemyKill parsed localId) =
      (killsIn parsed localId inside).countP (isAgreedKill parsed localId) +
      (killsIn parsed localId inside).countP (isRosterKill parsed localId) := by
  rw [List.countP_add_countP, List.countP_eq_sum]
  · simp only [isEnemyKill_iff]
  · intro e _ hagreed hroster
    simp [isAgreedKill, hroster] at hagreed

end

-- The parsed rounds are the ends of the rounds in order, numbered from one.
structure ListsRoundEnds (parsed : ParsedOutput) : Prop where
  numbers : parsed.rounds.map (·.number) = List.range' 1 (Analysis.ends parsed).length
  ends    : parsed.rounds.map (·.endTick) = (Analysis.ends parsed).map (·.tick)

-- What has to hold of the deaths and snapshots for both readers to see the same round.
structure ReadersAgree (parsed : ParsedOutput) (localId : SteamId) (round : RoundLedger) : Prop where
  kills  :
    let edgeKills := killsIn parsed localId (edge (previousEnd parsed round.number) round)
    let innerKills := killsIn parsed localId (inner (previousEnd parsed round.number) round)
    edgeKills.countP (isEnemyKill parsed localId) = 0 ∨
      255 ≤ innerKills.countP (isEnemyKill parsed localId)
  knife  :
    let edgeKills := killsIn parsed localId (edge (previousEnd parsed round.number) round)
    let innerKills := killsIn parsed localId (inner (previousEnd parsed round.number) round)
    edgeKills.any (isEnemyKnifeKill parsed localId) →
      innerKills.any (isEnemyKnifeKill parsed localId)
  clutch :
    let edgeTicks := ticksIn parsed (edge (previousEnd parsed round.number) round)
    let innerTicks := ticksIn parsed (inner (previousEnd parsed round.number) round)
    clutchScan parsed localId edgeTicks = .ok none ∨
      clutchOf parsed localId edgeTicks = clutchOf parsed localId innerTicks
  teams  :
    let kills := killsIn parsed localId (ledgerWindow round)
    kills.countP (isRosterKill parsed localId) = kills.countP (isUnknownKill parsed localId) ∨
      255 ≤ kills.countP (isAgreedKill parsed localId) +
        min (kills.countP (isRosterKill parsed localId)) (kills.countP (isUnknownKill parsed localId))

section

variable {parsed : ParsedOutput} {localId : SteamId} {round : RoundLedger}

theorem gather_evidence (linked : ParsedRound) (hend : linked.endTick = round.endTick)
    (hnumber : linked.number = round.number) :
    DemoHighlightEvidence.ofRound (gather parsed localId linked).1 =
      evidenceIn parsed localId (evaluateWindow (previousEnd parsed round.number) round) := by
  have hclutch : clutchOf parsed localId
        (ticksIn parsed (evaluateWindow (previousEnd parsed round.number) round)) =
      match clutchOpponents parsed localId (previousEnd parsed round.number) round.endTick with
      | .ok opponents => opponents
      | .error _ => none := by
    unfold ticksIn evaluateWindow clutchOpponents
    simp only
    generalize List.ascending (α := DemoTick) _ = ticks
    cases ticks <;> rfl
  simp only [DemoHighlightEvidence.ofRound, gather, evidenceIn, hnumber, hend, hclutch]
  cases clutchOpponents parsed localId (previousEnd parsed round.number) round.endTick <;> rfl

theorem linkedRound_eq {candidate : ReconciliationCandidate} {rounds : List RoundLedger}
    (ho : Analysis.verifyOrder parsed = .ok ()) (hr : Analysis.buildRounds parsed localId = .ok rounds)
    (hl : ListsRoundEnds parsed) (hround : round ∈ rounds)
    (horigin : candidate.origin = .provisionalAutoRound)
    (hn : candidate.demoRoundNumber = some round.number) :
    ∃ linked, linkedRound parsed candidate = .ok linked ∧ linked.number = round.number ∧
      linked.endTick = round.endTick := by
  have ⟨hnumbers, hends⟩ := Analysis.buildRounds_eq_ok ho hr
  have hlength : parsed.rounds.length = rounds.length := by
    simpa using congrArg List.length (hl.numbers.trans hnumbers.symm)
  -- Both lists are indexed by the ends of the Demo.
  have ⟨i, hi, hget⟩ := List.mem_iff_getElem.mp hround
  have hi' : i < parsed.rounds.length := hlength ▸ hi
  have hnumber : parsed.rounds[i].number = rounds[i].number := by
    simpa [hi, hi'] using congrArg (·[i]?) (hl.numbers.trans hnumbers.symm)
  have hend : parsed.rounds[i].endTick = rounds[i].endTick := by
    simpa [hi, hi'] using congrArg (·[i]?) (hl.ends.trans hends.symm)
  rw [hget] at hnumber hend
  refine ⟨parsed.rounds[i], ?_, hnumber, hend⟩
  have hnodup : (parsed.rounds.map (·.number)).Nodup := hl.numbers ▸ List.nodup_range'
  have hfilter := List.filter_eq_singleton hnodup (List.getElem_mem hi')
  rw [hnumber] at hfilter
  simp only [linkedRound, horigin, hn, reduceCtorEq, if_false]
  rw [hfilter]

-- The evidence is that of the ledger's window exactly when nothing at the edge matters.
theorem evaluateWindow_eq_iff :
    evidenceIn parsed localId (evaluateWindow (previousEnd parsed round.number) round) =
      evidenceIn parsed localId (ledgerWindow round) ↔
    ((killsIn parsed localId (edge (previousEnd parsed round.number) round)).countP
        (isEnemyKill parsed localId) = 0 ∨
      255 ≤ (killsIn parsed localId (inner (previousEnd parsed round.number) round)).countP
        (isEnemyKill parsed localId)) ∧
    ((killsIn parsed localId (edge (previousEnd parsed round.number) round)).any
        (isEnemyKnifeKill parsed localId) →
      (killsIn parsed localId (inner (previousEnd parsed round.number) round)).any
        (isEnemyKnifeKill parsed localId)) ∧
    (clutchScan parsed localId (ticksIn parsed (edge (previousEnd parsed round.number) round)) =
        .ok none ∨
      clutchOf parsed localId (ticksIn parsed (edge (previousEnd parsed round.number) round)) =
        clutchOf parsed localId (ticksIn parsed (inner (previousEnd parsed round.number) round))) := by
  rcases windows_nested (previousEnd parsed round.number) round with ⟨h, he⟩ | ⟨h, he⟩
  · rw [evidenceIn_eq_iff h, he]
  · rw [eq_comm, evidenceIn_eq_iff h, he]

theorem saturatedKills_eq_iff :
    (evidenceIn parsed localId (ledgerWindow round)).enemyKills =
      min 255 (Analysis.roundKills parsed localId round) ↔
    ((killsIn parsed localId (ledgerWindow round)).countP (isRosterKill parsed localId) =
        (killsIn parsed localId (ledgerWindow round)).countP (isUnknownKill parsed localId) ∨
      255 ≤ (killsIn parsed localId (ledgerWindow round)).countP (isAgreedKill parsed localId) +
        min ((killsIn parsed localId (ledgerWindow round)).countP (isRosterKill parsed localId))
          ((killsIn parsed localId (ledgerWindow round)).countP (isUnknownKill parsed localId))) := by
  rw [(killsIn_evidence _).1, enemyKills_eq, roundKills_eq]
  omega

end

-- The evidence that `evaluate` uses is that of the ledger's round, and its kills are those that the
-- analysis adds to the metrics for it.
structure EvidenceAgrees (parsed : ParsedOutput) (localId : SteamId) (tickRate : Nat)
    (round : RoundLedger) (evidence : DemoHighlightEvidence) : Prop where
  window : DemoHighlightEvidence.ofRound evidence = evidenceIn parsed localId (ledgerWindow round)
  kills  : ∀ m m', Analysis.scoreRound parsed localId tickRate m round = .ok m' →
    evidence.enemyKills = min 255 (m'.kills.toNat - m.kills.toNat)

theorem evaluate_linked {parsed : ParsedOutput} {localId : SteamId}
    {candidate : ReconciliationCandidate} {linked : ParsedRound}
    (h : linkedRound parsed candidate = .ok linked) :
    evaluate parsed localId candidate =
      dispose (gather parsed localId linked).1 (gather parsed localId linked).2 := by
  rw [evaluate, h]

theorem evaluate_agrees_iff {parsed : ParsedOutput} {localId : SteamId} {tickRate : Nat}
    {rounds : List RoundLedger} {round : RoundLedger} {receipt : AnalysisReceipt}
    {candidate : ReconciliationCandidate} (h : Analysis.analyze parsed localId = .ok receipt)
    (ht : Analysis.parseTickRate parsed = .ok tickRate)
    (hr : Analysis.buildRounds parsed localId = .ok rounds) (hl : ListsRoundEnds parsed)
    (hround : round ∈ rounds) (heligible : round.eligible)
    (horigin : candidate.origin = .provisionalAutoRound)
    (hn : candidate.demoRoundNumber = some round.number) :
    ∃ evidence missing, evaluate parsed localId candidate = dispose evidence missing ∧
      (∃ linked, linkedRound parsed candidate = .ok linked ∧
        gather parsed localId linked = (evidence, missing)) ∧
      (EvidenceAgrees parsed localId tickRate round evidence ↔
        ReadersAgree parsed localId round) := by
  have ⟨tickRate', ha⟩ := Analysis.analyze_eq_ok h
  cases ha.rate.symm.trans ht
  cases ha.rounds.symm.trans hr
  have ⟨linked, hlinked, hnumber, hend⟩ := linkedRound_eq ha.order hr hl hround horigin hn
  have hevidence := @gather_evidence parsed localId _ linked hend hnumber
  have hkills : (gather parsed localId linked).1.enemyKills =
      (evidenceIn parsed localId
        (evaluateWindow (previousEnd parsed round.number) round)).enemyKills :=
    congrArg RoundEvidence.enemyKills hevidence
  refine ⟨(gather parsed localId linked).1, (gather parsed localId linked).2,
    evaluate_linked hlinked, ⟨linked, hlinked, rfl⟩, ?_⟩
  have hmem : round ∈ receipt.rounds.filter (·.eligible) := List.mem_filter.mpr ⟨hround, heligible⟩
  have ⟨m₀, m₁, hscore⟩ := foldlM_mem ha.metrics hmem
  constructor
  case mp =>
    intro ⟨hwindow, hscored⟩
    rw [hevidence, evaluateWindow_eq_iff] at hwindow
    have hcount := (Analysis.scoreRound_counts hscore).1
    have hsat := hscored m₀ m₁ hscore
    rw [hkills, evaluateWindow_eq_iff.mpr hwindow, hcount, Nat.add_sub_cancel_left,
      saturatedKills_eq_iff] at hsat
    exact ⟨hwindow.1, hwindow.2.1, hwindow.2.2, hsat⟩
  case mpr =>
    intro hagree
    have hwindow := evaluateWindow_eq_iff.mpr ⟨hagree.kills, hagree.knife, hagree.clutch⟩
    refine ⟨hevidence.trans hwindow, fun m m' hs => ?_⟩
    rw [hkills, hwindow, saturatedKills_eq_iff.mpr hagree.teams, (Analysis.scoreRound_counts hs).1,
      Nat.add_sub_cancel_left]

-- A Demo of two rounds in which the local player, number 1, kills an opponent with a knife between
-- the end of the first round and the freeze end of the second one.
def lateKillDemo : ParsedOutput where
  metadata        := ⟨some "de_dust2", some "14000", none, none, none, some "64", none⟩
  participants    := [⟨1, none, some 2⟩, ⟨2, none, some 3⟩]
  rounds          := [⟨1, 90, some 2⟩, ⟨2, 190, some 2⟩]
  events          := [
    ⟨10, 0, .roundFreezeEnd ⟨false⟩⟩,
    ⟨20, 1, .playerHurt ⟨some 2, some 1, some 10, some "ak47"⟩⟩,
    ⟨90, 2, .roundEnd ⟨some 2⟩⟩,
    ⟨95, 3, .playerDeath ⟨some 1, some 2, none, false, some "knife_t"⟩⟩,
    ⟨110, 4, .roundFreezeEnd ⟨false⟩⟩,
    ⟨190, 5, .roundEnd ⟨some 2⟩⟩
  ]
  receipts        := [⟨0, "round_freeze_end", 10, "evidence-0"⟩]
  playerSnapshots := [
    ⟨10, 0, .requestedTick, 1, none, some 2, some 100, some true, some 0, some 0⟩,
    ⟨10, 1, .requestedTick, 2, none, some 3, some 100, some true, some 0, some 0⟩,
    ⟨90, 2, .requestedTick, 1, none, some 2, some 100, some true, some 0, some 1⟩,
    ⟨110, 3, .requestedTick, 1, none, some 2, some 100, some true, some 0, some 1⟩,
    ⟨190, 4, .requestedTick, 1, none, some 2, some 100, some true, some 0, some 2⟩
  ]
  suspiciousEmpty := false
  identity        := ⟨"demo", "commit", "parser", "proto", "query", "metrics", "ofr-1.0.0", "epoch"⟩

def lateKillReceipt : AnalysisReceipt :=
  (Analysis.analyze lateKillDemo 1).toOption.get (by decide)

def lateKillRound : RoundLedger :=
  ⟨2, 110, 190, 2, 2, true, none, []⟩

def lateKillCandidate : ReconciliationCandidate :=
  ⟨"candidate", "clip", some 2, .provisionalAutoRound⟩

theorem lateKillDemo_listsRoundEnds : ListsRoundEnds lateKillDemo :=
  ⟨by decide, by decide⟩

-- The knife kill before the second round confirms its clip.
theorem evaluate_disagrees_late_kill :
    ¬∀ parsed localId tickRate rounds receipt round candidate,
      Analysis.analyze parsed localId = .ok receipt →
      Analysis.parseTickRate parsed = .ok tickRate →
      Analysis.buildRounds parsed localId = .ok rounds → ListsRoundEnds parsed →
      round ∈ rounds → round.eligible → candidate.origin = .provisionalAutoRound →
      candidate.demoRoundNumber = some round.number →
      ∃ linked, linkedRound parsed candidate = .ok linked ∧
        EvidenceAgrees parsed localId tickRate round (gather parsed localId linked).1 := by
  intro h
  have ⟨linked, hlinked, hagree⟩ := h lateKillDemo 1 64 lateKillReceipt.rounds lateKillReceipt
    lateKillRound lateKillCandidate (by rfl) (by rfl) (by rfl) lateKillDemo_listsRoundEnds
    (by decide) rfl rfl rfl
  have : linked = ⟨2, 190, some 2⟩ := by
    cases hlinked
    rfl
  subst this
  exact absurd hagree.window (by decide)

theorem evaluate_agrees_iff_late_kill :
    ∃ evidence missing, evaluate lateKillDemo 1 lateKillCandidate = dispose evidence missing ∧
      (∃ linked, linkedRound lateKillDemo lateKillCandidate = .ok linked ∧
        gather lateKillDemo 1 linked = (evidence, missing)) ∧
      (EvidenceAgrees lateKillDemo 1 64 lateKillRound evidence ↔
        ReadersAgree lateKillDemo 1 lateKillRound) :=
  @evaluate_agrees_iff _ _ _ _ _ lateKillReceipt _ (by rfl)
    (by rfl) (by rfl) lateKillDemo_listsRoundEnds (by decide) rfl rfl rfl

end Pipeline.Reconcile
