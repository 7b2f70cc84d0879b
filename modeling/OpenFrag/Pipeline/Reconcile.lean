import OpenFrag.Import.Evidence
import OpenFrag.Domain.Highlight
import OpenFrag.Library.Ascending
import Mathlib.Data.List.Infix

open Import Domain

-- The evaluation of highlight candidates against a parsed Demo.
namespace Pipeline.Reconcile

inductive CandidateOrigin
  | provisionalAutoRound
  | manualFlag
  deriving DecidableEq, Repr

structure ReconciliationCandidate where
  candidateId     : String
  clipId          : String
  demoRoundNumber : Option RoundNumber
  origin          : CandidateOrigin
  deriving DecidableEq, Repr

inductive UnavailableEvidence
  | roundLinkMissing
  | roundMissingOrAmbiguous
  | localTeam
  | victimIdentityOrTeam
  | killWeapon
  | liveness
  | roundWinner
  deriving DecidableEq, Repr

inductive EvidenceCompleteness
  | complete
  | partially (reason : UnavailableEvidence)
  deriving DecidableEq, Repr

inductive ReconciliationDisposition
  | confirm (labels : List FinalHighlightLabel) (evidence : DemoHighlightEvidence)
    (completeness : EvidenceCompleteness)
  | rejectOrdinary
  | evidenceUnavailable (reason : UnavailableEvidence)
  | manualIndependent
  deriving DecidableEq, Repr

def snapshotAt (parsed : ParsedOutput) (steamId : SteamId) (tick : DemoTick) :
    Option PlayerSnapshot :=
  parsed.snapshotAt steamId tick

def rosterTeam (parsed : ParsedOutput) (steamId : SteamId) : Option Int :=
  (parsed.participants.find? (·.steamId = steamId)).bind (·.team)

-- Unlike `team_at` of the analysis, with the roster in place of an unknown team.
def teamAt (parsed : ParsedOutput) (steamId : SteamId) (tick : DemoTick) : Option Int :=
  ((snapshotAt parsed steamId tick).bind (·.team)).or (rosterTeam parsed steamId)

def knives : List String :=
  ["bayonet", "karambit", "daggers", "butterfly", "falchion", "kukri", "machete"]

def isKnife (weapon : String) : Bool :=
  let normalized := weapon.toList.map Char.toLower
  "knife".toList <:+: normalized || normalized ∈ knives.map String.toList

-- The increment of a `u8` that saturates.
def increment (n : Nat) : Nat := min 255 (n + 1)

-- The local variables of the loop over the local kills.
structure KillScan where
  enemyKills     : Nat
  enemyKnifeKill : Bool
  missing        : Option UnavailableEvidence
  deriving DecidableEq, Repr

def KillScan.getOrInsert (scan : KillScan) (reason : UnavailableEvidence) : KillScan :=
  { scan with missing := scan.missing.or (some reason) }

def teamsAt (parsed : ParsedOutput) (localId victim : SteamId) (tick : DemoTick) :
    Option (Int × Int) :=
  match teamAt parsed localId tick, teamAt parsed victim tick with
  | some localTeam, some victimTeam => some (localTeam, victimTeam)
  | _, _ => none

def scanKill (parsed : ParsedOutput) (localId : SteamId) (scan : KillScan) (event : ParsedEvent) :
    KillScan :=
  match event.death? with
  | none => scan
  | some death =>
    match death.victim with
    | none => scan.getOrInsert .victimIdentityOrTeam
    | some victim =>
      match teamsAt parsed localId victim event.tick with
      | none => scan.getOrInsert .victimIdentityOrTeam
      | some (localTeam, victimTeam) =>
        if localTeam = victimTeam then
          scan
        else
          let scan := { scan with enemyKills := increment scan.enemyKills }
          match death.weapon with
          | some weapon => { scan with enemyKnifeKill := scan.enemyKnifeKill || isKnife weapon }
          | none => scan.getOrInsert .killWeapon

def killsBy (parsed : ParsedOutput) (localId : SteamId) : List ParsedEvent :=
  parsed.events.filter fun e => e.death?.any (·.attacker = some localId)

def scanKills (parsed : ParsedOutput) (localId : SteamId) (kills : List ParsedEvent) : KillScan :=
  kills.foldl (scanKill parsed localId) ⟨0, false, none⟩

-- Living teammates and enemies, each counted on `u8`.
def countAlive (parsed : ParsedOutput) (localTeam : Int) (tick : DemoTick)
    (alive : Nat × Nat) (p : Participant) : Except UnavailableEvidence (Nat × Nat) :=
  match snapshotAt parsed p.steamId tick with
  | none => .error .liveness
  | some snapshot =>
    match snapshot.team, snapshot.alive with
    | none, _ => .error .localTeam
    | some _, none => .error .liveness
    | some team, some isAlive =>
      if isAlive ∧ team = localTeam then .ok (increment alive.1, alive.2)
      else if isAlive ∧ (team = 2 ∨ team = 3) then .ok (alive.1, increment alive.2)
      else .ok alive

-- One turn of the loop of `clutch_opponents`: the opponents of a clutch that starts at this tick.
def clutchAt (parsed : ParsedOutput) (localId : SteamId) (tick : DemoTick) :
    Except UnavailableEvidence (Option Nat) :=
  match snapshotAt parsed localId tick with
  | none => .error .liveness
  | some localSnapshot =>
    match localSnapshot.team, localSnapshot.alive with
    | none, _ => .error .localTeam
    | some _, none => .error .liveness
    | some _, some false => .ok none
    | some localTeam, some true => do
      let (teammates, enemies) ←
        (parsed.participants.filter (·.steamId ≠ localId)).foldlM
          (countAlive parsed localTeam tick) (0, 0)
      return if teammates = 0 ∧ 2 ≤ enemies then some enemies else none

def clutchScan (parsed : ParsedOutput) (localId : SteamId) :
    List DemoTick → Except UnavailableEvidence (Option Nat)
  | [] => .ok none
  | tick :: ticks => do
    match ← clutchAt parsed localId tick with
    | some opponents => return some opponents
    | none => clutchScan parsed localId ticks

def snapshotTicks (parsed : ParsedOutput) : List DemoTick :=
  parsed.playerSnapshots.map (·.tick)

def clutchOpponents (parsed : ParsedOutput) (localId : SteamId) (startTick endTick : DemoTick) :
    Except UnavailableEvidence (Option Nat) :=
  let ticks := ((snapshotTicks parsed).filter fun t => startTick < t ∧ t ≤ endTick).ascending
  if ticks.isEmpty then .error .liveness else clutchScan parsed localId ticks

-- The least `i32`.
def firstTick : DemoTick := -2147483648

def previousEnd (parsed : ParsedOutput) (number : RoundNumber) : DemoTick :=
  ((parsed.rounds.filter (·.number < number)).map (·.endTick)).max?.getD firstTick

-- The part of `evaluate` from the scan of the kills to the evidence, with what is missing from it.
def gather (parsed : ParsedOutput) (localId : SteamId) (round : ParsedRound) :
    DemoHighlightEvidence × Option UnavailableEvidence :=
  let start := previousEnd parsed round.number
  let scan := scanKills parsed localId
    ((killsBy parsed localId).filter fun e => start < e.tick ∧ e.tick ≤ round.endTick)
  let (clutch, missing) :=
    match clutchOpponents parsed localId start round.endTick with
    | .ok value => (value, scan.missing)
    | .error reason => (none, scan.missing.or (some reason))
  let localTeam := teamAt parsed localId round.endTick
  let (teamWonRound, missing) :=
    if clutch.isSome then
      match localTeam, round.winner with
      | some localTeam, some winner => (decide (localTeam = winner), missing)
      | none, _ => (false, missing.or (some .localTeam))
      | some _, none => (false, missing.or (some .roundWinner))
    else
      (false, missing)
  ({ enemyKills := scan.enemyKills
     clutchOpponentsAtStart := clutch
     teamWonRound
     enemyKnifeKill := scan.enemyKnifeKill }, missing)

-- The round that a candidate is linked to, or the disposition that ends the evaluation before it.
def linkedRound (parsed : ParsedOutput) (candidate : ReconciliationCandidate) :
    Except ReconciliationDisposition ParsedRound :=
  if candidate.origin = .manualFlag then
    .error .manualIndependent
  else
    match candidate.demoRoundNumber with
    | none => .error (.evidenceUnavailable .roundLinkMissing)
    | some number =>
      match parsed.rounds.filter (·.number = number) with
      | [round] => .ok round
      | _ => .error (.evidenceUnavailable .roundMissingOrAmbiguous)

def dispose (evidence : DemoHighlightEvidence) (missing : Option UnavailableEvidence) :
    ReconciliationDisposition :=
  if finalLabels evidence ≠ [] then
    .confirm (finalLabels evidence) evidence
      (match missing with | none => .complete | some reason => .partially reason)
  else
    match missing with
    | none => .rejectOrdinary
    | some reason => .evidenceUnavailable reason

def evaluate (parsed : ParsedOutput) (localId : SteamId) (candidate : ReconciliationCandidate) :
    ReconciliationDisposition :=
  match linkedRound parsed candidate with
  | .error disposition => disposition
  | .ok round =>
    let (evidence, missing) := gather parsed localId round
    dispose evidence missing

structure ReconciliationDecision where
  candidateId : String
  clipId      : String
  disposition : ReconciliationDisposition
  deriving DecidableEq, Repr

-- The stable order of the candidates, by their identifiers.
def precedes (left right : ReconciliationCandidate) : Bool :=
  left.candidateId < right.candidateId ||
    left.candidateId = right.candidateId && left.clipId ≤ right.clipId

-- The persistence is injected by the caller; the first error that it reports ends the loop.
def reconcileDemoCandidates {π : Type} (parsed : ParsedOutput) (localId : SteamId)
    (candidates : List ReconciliationCandidate)
    (persistReconciliation : ReconciliationDecision → EStateM String π Unit) :
    EStateM String π (List ReconciliationDecision) :=
  (candidates.mergeSort precedes).mapM fun candidate => do
    let decision := {
      candidateId := candidate.candidateId
      clipId      := candidate.clipId
      disposition := evaluate parsed localId candidate
    }
    persistReconciliation decision
    return decision

end Pipeline.Reconcile
