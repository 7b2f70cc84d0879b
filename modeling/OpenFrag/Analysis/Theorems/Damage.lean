import OpenFrag.Analysis.Theorems.Trades
import OpenFrag.Library.OptionSum

open Import Domain Except MachineInt

namespace Analysis

section

variable (parsed : ParsedOutput) (localId : SteamId)

-- A snapshot taken after the packet that emitted an event of its tick does not precede that event.
def Precedes (s : PlayerSnapshot) (tick : DemoTick) : Prop :=
  s.tick < tick ∨ s.tick = tick ∧ s.phase = .requestedTick

instance (s : PlayerSnapshot) (tick : DemoTick) : Decidable (Precedes s tick) :=
  inferInstanceAs (Decidable (_ ∨ _))

def precedingHealth (steamId : SteamId) (tick : DemoTick) : Option Int :=
  ((parsed.playerSnapshots.filter fun s => s.steamId = steamId ∧ Precedes s tick).maxByKey?
    PlayerSnapshot.position).bind (·.health)

-- The health that the code takes, of whatever phase.
def lastHealth (steamId : SteamId) (tick : DemoTick) : Option Int :=
  (snapshotAt parsed steamId tick).bind (·.health)

-- The opponent that the local player hurts.
def hurtEnemy (tick : DemoTick) (hurt : PlayerHurtEvent) : Option SteamId :=
  if hurt.attacker = some localId then
    hurt.victim.filter (OnOtherTeam parsed localId · tick)
  else
    none

-- The damage of an event, capped by the health of the victim. Events that do not hurt an opponent
-- add nothing.
def cappedDamage (health : SteamId → DemoTick → Option Int) (e : ParsedEvent) : Option Int :=
  match e.event with
  | .playerHurt hurt =>
    match hurtEnemy parsed localId e.tick hurt with
    | none => some 0
    | some victim => return min (← hurt.damageHealth) (← health victim e.tick)
  | _ => some 0

def exactDamage : ParsedEvent → Option Int :=
  cappedDamage parsed localId (precedingHealth parsed)

def scoredDamage : ParsedEvent → Option Int :=
  cappedDamage parsed localId (lastHealth parsed)

def isUtility (hurt : PlayerHurtEvent) : Bool :=
  hurt.weapon.any (· ∈ UTILITY_WEAPONS)

-- What an event adds to one of the two damage counters.
def bucketDamage (utility : Bool) (e : ParsedEvent) : Int :=
  match e.event with
  | .playerHurt hurt =>
    if isUtility hurt = utility then (scoredDamage parsed localId e).getD 0 else 0
  | _ => 0

end

def bucket (utility : Bool) (m : RatingMetrics) : UInt32 :=
  if utility then m.utilityDamage else m.directDamage

def addDamage (utility : Bool) (scored : Nat) (m : RatingMetrics) : Except Failure RatingMetrics := do
  if utility then
    return { m with utilityDamage := ← addU32 m.utilityDamage scored }
  else
    return { m with directDamage := ← addU32 m.directDamage scored }

variable {parsed : ParsedOutput} {localId : SteamId} {m m' : RatingMetrics}

-- An event that hurts an opponent, with the two values that the code compares.
structure EnemyHurt (parsed : ParsedOutput) (localId : SteamId) (tick : DemoTick)
    (hurt : PlayerHurtEvent) (reported remaining : Nat) : Prop where
  victim    : ∃ victim, hurtEnemy parsed localId tick hurt = some victim ∧
    lastHealth parsed victim tick = some (remaining : Int)
  damage    : hurt.damageHealth = some (reported : Int)
  reported  : Unsigned 32 (reported : Int)
  remaining : Unsigned 32 (remaining : Int)

@[simp]
theorem require_none {α} {reason : AnalysisUnavailable} :
    require reason (none : Option α) = .error (.unavailable reason) := rfl

@[simp]
theorem require_some {α} {reason : AnalysisUnavailable} {a : α} :
    require reason (some a) = .ok a := rfl

theorem ensure_of_not {c : Prop} [Decidable c] {failure : Failure} (h : ¬c) :
    ensure c failure = .error failure := if_neg h

theorem ensure_of {c : Prop} [Decidable c] {failure : Failure} (h : c) :
    ensure c failure = .ok () := if_pos h

@[simp]
theorem error_bind {α β} {failure : Failure} {f : α → Except Failure β} :
    (.error failure >>= f : Except Failure β) = .error failure := rfl

@[simp]
theorem ok_bind {α β} {a : α} {f : α → Except Failure β} :
    ((.ok a : Except Failure α) >>= f) = f a := rfl

theorem hurtEnemy_eq_some {tick : DemoTick} {hurt : PlayerHurtEvent} {victim : SteamId} :
    hurtEnemy parsed localId tick hurt = some victim ↔ hurt.attacker = some localId ∧
      hurt.victim = some victim ∧ OnOtherTeam parsed localId victim tick := by
  simp [hurtEnemy, Option.filter_eq_some_iff]

theorem EnemyHurt.scoreHurt_eq {tick : DemoTick} {hurt : PlayerHurtEvent} {reported remaining : Nat}
    (h : EnemyHurt parsed localId tick hurt reported remaining) :
    scoreHurt parsed localId tick hurt m =
      addDamage (isUtility hurt) (min reported remaining) m := by
  have ⟨victim, henemy, hhealth⟩ := h.victim
  have ⟨hattacker, hvictim, hother⟩ := hurtEnemy_eq_some.mp henemy
  have ⟨a, ha, v, hv, hne⟩ := hother
  have hskip : ¬(a = v ∨ victim = localId) := not_or.mpr ⟨hne, hother.ne.symm⟩
  rw [Option.mem_def] at ha hv
  rw [lastHealth] at hhealth
  unfold scoreHurt
  rw [if_neg (not_not.mpr hattacker), hvictim, require_some, ok_bind, ha, require_some, ok_bind, hv,
    require_some, ok_bind, if_neg hskip, h.damage, require_some, ok_bind, ensure_of h.reported,
    ok_bind, hhealth, require_some, ok_bind, ensure_of h.remaining, ok_bind]
  by_cases hutility : isUtility hurt
  · rw [addDamage, if_pos hutility]
    exact if_pos hutility
  · rw [addDamage, if_neg hutility]
    exact if_neg hutility

-- All that the scoring of a hurt event can do.
theorem scoreHurt_cases {tick : DemoTick} {hurt : PlayerHurtEvent} :
    (hurtEnemy parsed localId tick hurt = none ∧ scoreHurt parsed localId tick hurt m = .ok m) ∨
    (∃ reason, scoreHurt parsed localId tick hurt m = .error (.unavailable reason)) ∨
    ∃ reported remaining, EnemyHurt parsed localId tick hurt reported remaining := by
  by_cases hattacker : hurt.attacker = some localId
  case neg => exact .inl ⟨if_neg hattacker, if_pos hattacker⟩
  case pos =>
  rcases hvictim : hurt.victim with _ | victim
  · exact .inr <| .inl ⟨.missingIdentity, by simp [scoreHurt, hattacker, hvictim]⟩
  rcases ha : teamAt parsed localId tick with _ | a
  · exact .inr <| .inl ⟨.missingTeamOrLiveness, by simp [scoreHurt, hattacker, hvictim, ha]⟩
  rcases hv : teamAt parsed victim tick with _ | v
  · exact .inr <| .inl ⟨.missingTeamOrLiveness, by simp [scoreHurt, hattacker, hvictim, ha, hv]⟩
  by_cases hskip : a = v ∨ victim = localId
  · refine .inl ⟨?_, by simp [scoreHurt, hattacker, hvictim, ha, hv, hskip]⟩
    simp only [hurtEnemy, hattacker, hvictim, if_true, Option.filter_eq_none_iff, OnOtherTeam, ha]
    rintro victim' ⟨⟩
    rcases hskip with rfl | rfl <;> simp_all
  have henemy : hurtEnemy parsed localId tick hurt = some victim :=
    hurtEnemy_eq_some.mpr ⟨hattacker, hvictim, a, ha, v, hv, fun h => hskip (.inl h)⟩
  rcases hdamage : hurt.damageHealth with _ | damage
  · exact .inr <| .inl ⟨.malformedEvidence,
      by simp [scoreHurt, hattacker, hvictim, ha, hv, hskip, hdamage]⟩
  by_cases hreported : Unsigned 32 damage
  case neg => exact .inr <| .inl ⟨.malformedEvidence,
    by simp [scoreHurt, hattacker, hvictim, ha, hv, hskip, hdamage, ensure_of_not hreported]⟩
  rcases hhealth : (snapshotAt parsed victim tick).bind (·.health) with _ | health
  · exact .inr <| .inl ⟨.missingTeamOrLiveness, by
      simp [scoreHurt, hattacker, hvictim, ha, hv, hskip, hdamage, ensure_of hreported, hhealth]⟩
  by_cases hremaining : Unsigned 32 health
  case neg => exact .inr <| .inl ⟨.malformedEvidence, by
    simp [scoreHurt, hattacker, hvictim, ha, hv, hskip, hdamage, ensure_of hreported, hhealth,
      ensure_of_not hremaining]⟩
  refine .inr <| .inr ⟨damage.toNat, health.toNat, ⟨victim, henemy, ?_⟩, ?_, ?_, ?_⟩
  · rw [lastHealth, hhealth, Int.toNat_of_nonneg hremaining.1]
  · rw [hdamage, Int.toNat_of_nonneg hreported.1]
  · rwa [Int.toNat_of_nonneg hreported.1]
  · rwa [Int.toNat_of_nonneg hremaining.1]

theorem EnemyHurt.scoredDamage_eq {e : ParsedEvent} {hurt : PlayerHurtEvent}
    {reported remaining : Nat} (h : EnemyHurt parsed localId e.tick hurt reported remaining)
    (he : e.event = .playerHurt hurt) :
    scoredDamage parsed localId e = some (min reported remaining : Nat) := by
  have ⟨victim, henemy, hhealth⟩ := h.victim
  simp [scoredDamage, cappedDamage, he, henemy, hhealth, h.damage]

theorem addU32_eq_panic {a : UInt32} {n : Nat} :
    addU32 a n = .error .panic ↔ 2 ^ 32 ≤ a.toNat + n := by
  unfold addU32
  split
  case isTrue h => exact iff_of_false nofun (not_le.mpr h)
  case isFalse h => exact iff_of_true rfl (not_lt.mp h)

theorem addDamage_eq_ok {utility : Bool} {scored : Nat} (h : addDamage utility scored m = .ok m')
    (b : Bool) :
    (bucket b m').toNat = (bucket b m).toNat + if utility = b then scored else 0 := by
  unfold addDamage at h
  split at h
  all_goals
    have ⟨_, ha, h⟩ := bind_eq_ok_iff.mp h
    cases h
    cases b <;> simp_all [bucket, addU32_eq_ok ha]

theorem addDamage_eq_panic {utility : Bool} {scored : Nat} :
    addDamage utility scored m = .error .panic ↔ 2 ^ 32 ≤ (bucket utility m).toNat + scored := by
  rw [← addU32_eq_panic]
  cases utility
  case true =>
    cases ha : addU32 m.utilityDamage scored <;> simp [addDamage, bucket, ha, pure, Except.pure]
  case false =>
    cases ha : addU32 m.directDamage scored <;> simp [addDamage, bucket, ha, pure, Except.pure]

-- An event that is scored has a damage, and adds it to its counter.
theorem scoreEvent_damage {acc acc' : Bool × RatingMetrics} {e : ParsedEvent}
    (h : scoreEvent parsed localId acc e = .ok acc') :
    (scoredDamage parsed localId e).isSome ∧ ∀ b, ((bucket b acc'.2).toNat : Int) =
      (bucket b acc.2).toNat + bucketDamage parsed localId b e := by
  unfold scoreEvent at h
  split at h
  case h_1 hurt he =>
    obtain ⟨m', hm, h⟩ := bind_eq_ok_iff.mp h
    cases h
    rcases @scoreHurt_cases parsed localId acc.2 e.tick hurt with
      ⟨hnone, hskip⟩ | ⟨reason, herror⟩ | ⟨reported, remaining, henemy⟩
    · cases hskip.symm.trans hm
      simp [scoredDamage, cappedDamage, bucketDamage, he, hnone]
    · cases herror.symm.trans hm
    · rw [henemy.scoreHurt_eq] at hm
      have hscored := henemy.scoredDamage_eq he
      refine ⟨by simp [hscored], fun b => ?_⟩
      simp only [addDamage_eq_ok hm, bucketDamage, he, hscored]
      split <;> simp
  case h_2 death he =>
    simp only [bind_eq_ok_iff, require_eq_ok_iff] at h
    obtain ⟨_, _, _, h₁, _, h₂, ⟨_, _⟩, h₃, _, h₄, h⟩ := h
    cases h
    rw [scoreFlash_frame h₄, scoreOpening_frame h₃, scoreKills_frame h₂, scoreDeaths_frame h₁]
    simp [scoredDamage, cappedDamage, bucketDamage, bucket, he]
  case h_3 hhurt hdeath =>
    cases h
    cases he : e.event <;> simp_all [scoredDamage, cappedDamage, bucketDamage]

theorem scoreRound_damage {tickRate : Nat} {round : RoundLedger}
    (h : scoreRound parsed localId tickRate m round = .ok m') :
    (∀ e ∈ roundEvents parsed round, (scoredDamage parsed localId e).isSome) ∧
    ∀ b, ((bucket b m').toNat : Int) =
      (bucket b m).toNat + ((roundEvents parsed round).map (bucketDamage parsed localId b)).sum := by
  have ⟨m₁, m₂, hs⟩ := scoreRound_eq_ok h
  have ⟨_, hevents⟩ := hs.events
  constructor
  · intro e he
    have ⟨_, _, hevent⟩ := foldlM_mem hevents he
    exact (scoreEvent_damage hevent).1
  · intro b
    have hkept : bucket b m' = bucket b m₁ := by
      rw [scoreClutch_frame hs.clutch, hs.frame₂]
      rfl
    rw [hkept]
    exact foldlM_count (fun acc => ((bucket b acc.2).toNat : Int))
      (fun _ _ _ _ hevent => (scoreEvent_damage hevent).2 b) hevents

-- The analysis gets to the scoring of the rounds.
structure Ready (parsed : ParsedOutput) (localId : SteamId) (tickRate : Nat)
    (rounds : List RoundLedger) : Prop where
  rate    : parseTickRate parsed = .ok tickRate
  build   : parsed.metadata.patchBuild.isSome
  local_  : parsed.participants.any (·.steamId = localId)
  order   : verifyOrder parsed = .ok ()
  streams : requireStreams parsed requiredStreams = .ok ()
  ledger  : buildRounds parsed localId = .ok rounds
  count   : (rounds.filter (·.eligible)).length < 2 ^ 32

-- The analysis gets to an event of an eligible round, after it has scored others.
def Reaches (parsed : ParsedOutput) (localId : SteamId) (scored : List ParsedEvent)
    (m : RatingMetrics) (e : ParsedEvent) : Prop :=
  ∃ tickRate rounds earlier round later before after start seen,
    Ready parsed localId tickRate rounds ∧
    rounds.filter (·.eligible) = earlier ++ round :: later ∧
    roundEvents parsed round = before ++ e :: after ∧
    scored = earlier.flatMap (roundEvents parsed) ++ before ∧
    earlier.foldlM (scoreRound parsed localId tickRate)
      (initialMetrics (.ofNat (rounds.filter (·.eligible)).length)) = .ok start ∧
    before.foldlM (scoreEvent parsed localId) (false, start) = .ok (seen, m)

def eligibleEvents (parsed : ParsedOutput) (rounds : List RoundLedger) : List ParsedEvent :=
  (rounds.filter (·.eligible)).flatMap (roundEvents parsed)

-- The victim has a snapshot of after the packet that emitted the event.
def InPacket (parsed : ParsedOutput) (localId : SteamId) (e : ParsedEvent) : Prop :=
  ∃ s ∈ parsed.playerSnapshots, s.tick = e.tick ∧ s.phase = .afterEventPacket ∧
    match e.event with
    | .playerHurt hurt => hurtEnemy parsed localId e.tick hurt = some s.steamId
    | _ => False

instance {e : ParsedEvent} : Decidable (InPacket parsed localId e) := by
  unfold InPacket
  cases e.event <;> infer_instance

theorem scoreRounds_damage {tickRate : Nat} {rounds : List RoundLedger}
    (h : rounds.foldlM (scoreRound parsed localId tickRate) m = .ok m') (b : Bool) :
    ((bucket b m').toNat : Int) = (bucket b m).toNat +
      ((rounds.flatMap (roundEvents parsed)).map (bucketDamage parsed localId b)).sum := by
  rw [foldlM_count (f := scoreRound parsed localId tickRate) (fun m => ((bucket b m).toNat : Int))
    (fun _ _ _ _ hs => (scoreRound_damage hs).2 b) h]
  simp [List.flatMap, List.sum_flatten, List.map_flatten, Function.comp_def]

theorem initialMetrics_bucket {eligibleRounds : UInt32} {b : Bool} :
    bucket b (initialMetrics eligibleRounds) = 0 := by
  cases b <;> rfl

theorem Reaches.damage {scored : List ParsedEvent} {e : ParsedEvent}
    (h : Reaches parsed localId scored m e) (b : Bool) :
    ((bucket b m).toNat : Int) = (scored.map (bucketDamage parsed localId b)).sum := by
  obtain ⟨_, _, _, _, _, _, _, start, _, _, _, _, rfl, hrounds, hevents⟩ := h
  have hstart := scoreRounds_damage hrounds b
  have hm := foldlM_count (fun acc => ((bucket b acc.2).toNat : Int))
    (fun _ _ _ _ hevent => (scoreEvent_damage hevent).2 b) hevents
  rw [List.map_append, List.sum_append, hm, hstart, initialMetrics_bucket]
  simp

-- The counter of the event has room for its damage.
def Fits (parsed : ParsedOutput) (localId : SteamId) (scored : List ParsedEvent)
    (e : ParsedEvent) : Prop :=
  ∀ hurt reported remaining, e.event = .playerHurt hurt →
    EnemyHurt parsed localId e.tick hurt reported remaining →
    (scored.map (bucketDamage parsed localId (isUtility hurt))).sum + min reported remaining < 2 ^ 32

theorem Reaches.fits_iff {scored : List ParsedEvent} {e : ParsedEvent}
    (h : Reaches parsed localId scored m e) :
    (∀ hurt, e.event = .playerHurt hurt →
      scoreHurt parsed localId e.tick hurt m ≠ .error .panic) ↔ Fits parsed localId scored e := by
  constructor
  · intro hbounded hurt reported remaining he henemy
    have hpanic := hbounded hurt he
    rw [henemy.scoreHurt_eq, Ne, addDamage_eq_panic, not_le] at hpanic
    rw [← h.damage]
    exact_mod_cast hpanic
  · intro hfits hurt he
    rcases @scoreHurt_cases parsed localId m e.tick hurt with
      ⟨_, hskip⟩ | ⟨_, herror⟩ | ⟨reported, remaining, henemy⟩
    · simp [hskip]
    · simp [herror]
    · have hroom := hfits hurt reported remaining he henemy
      rw [← h.damage] at hroom
      rw [henemy.scoreHurt_eq, Ne, addDamage_eq_panic, not_le]
      exact_mod_cast hroom

theorem precedingHealth_eq_lastHealth {steamId : SteamId} {tick : DemoTick}
    (h : ∀ s ∈ parsed.playerSnapshots, s.steamId = steamId → s.tick = tick →
      s.phase = .requestedTick) :
    precedingHealth parsed steamId tick = lastHealth parsed steamId tick := by
  have hfilter : (parsed.playerSnapshots.filter fun s => s.steamId = steamId ∧ Precedes s tick) =
      parsed.playerSnapshots.filter fun s => s.steamId = steamId ∧ s.tick ≤ tick := by
    apply List.filter_congr
    intro s hs
    refine decide_eq_decide.mpr (and_congr_right fun hid => ?_)
    rw [Precedes, le_iff_lt_or_eq]
    exact or_congr_right (and_iff_left_of_imp (h s hs hid))
  rw [precedingHealth, lastHealth, snapshotAt, ParsedOutput.snapshotAt, hfilter]

theorem exactDamage_eq_scoredDamage {e : ParsedEvent} (h : ¬InPacket parsed localId e) :
    exactDamage parsed localId e = scoredDamage parsed localId e := by
  unfold exactDamage scoredDamage cappedDamage
  split
  case h_2 => rfl
  case h_1 hurt he =>
    split
    case h_1 => rfl
    case h_2 victim hvictim =>
      rw [precedingHealth_eq_lastHealth]
      intro s hs hid htick
      cases hphase : s.phase
      case requestedTick => rfl
      case afterEventPacket =>
        exact absurd ⟨s, hs, htick, hphase, by simp [he, hid, hvictim]⟩ h

-- The damage counters have the exact sum, and no addition to them overflows.
structure DamageSound (parsed : ParsedOutput) (localId : SteamId) : Prop where
  total   : ∀ receipt, analyze parsed localId = .ok receipt →
    (eligibleEvents parsed receipt.rounds).sum? (exactDamage parsed localId) =
      some ((receipt.ratingInput.metrics.directDamage.toNat : Int) +
        receipt.ratingInput.metrics.utilityDamage.toNat)
  bounded : ∀ scored m e, Reaches parsed localId scored m e → ∀ hurt, e.event = .playerHurt hurt →
    scoreHurt parsed localId e.tick hurt m ≠ .error .panic

-- What goes wrong with the snapshots of after a packet evens out, and every event has room.
structure DamageFits (parsed : ParsedOutput) (localId : SteamId) : Prop where
  packets : ∀ receipt, analyze parsed localId = .ok receipt →
    ((eligibleEvents parsed receipt.rounds).filter (InPacket parsed localId ·)).sum?
      (exactDamage parsed localId) =
    ((eligibleEvents parsed receipt.rounds).filter (InPacket parsed localId ·)).sum?
      (scoredDamage parsed localId)
  room    : ∀ scored m e, Reaches parsed localId scored m e → Fits parsed localId scored e

theorem bucketDamage_add {e : ParsedEvent} :
    bucketDamage parsed localId false e + bucketDamage parsed localId true e =
      (scoredDamage parsed localId e).getD 0 := by
  unfold bucketDamage
  split
  case h_1 hurt _ => cases isUtility hurt <;> simp
  case h_2 hnot =>
    cases he : e.event <;> simp_all [scoredDamage, cappedDamage]

theorem sum_bucketDamage {events : List ParsedEvent} :
    (events.map (bucketDamage parsed localId false)).sum +
      (events.map (bucketDamage parsed localId true)).sum =
    (events.map fun e => (scoredDamage parsed localId e).getD 0).sum := by
  rw [← List.sum_map_add]
  simp only [bucketDamage_add]

theorem analyze_damage {receipt : AnalysisReceipt} (h : analyze parsed localId = .ok receipt) :
    (∀ e ∈ eligibleEvents parsed receipt.rounds, (scoredDamage parsed localId e).isSome) ∧
    (eligibleEvents parsed receipt.rounds).sum? (scoredDamage parsed localId) =
      some ((receipt.ratingInput.metrics.directDamage.toNat : Int) +
        receipt.ratingInput.metrics.utilityDamage.toNat) := by
  have ⟨_, ha⟩ := analyze_eq_ok h
  have hdirect := scoreRounds_damage ha.metrics false
  have hutility := scoreRounds_damage ha.metrics true
  rw [initialMetrics_bucket] at hdirect hutility
  have hsome : ∀ e ∈ eligibleEvents parsed receipt.rounds,
      (scoredDamage parsed localId e).isSome := by
    intro e he
    have ⟨round, hround, hmem⟩ := List.mem_flatMap.mp he
    have ⟨_, _, hscore⟩ := foldlM_mem ha.metrics hround
    exact (scoreRound_damage hscore).1 e hmem
  refine ⟨hsome, ?_⟩
  rw [List.sum?_of_isSome hsome, eligibleEvents, ← sum_bucketDamage]
  simpa [bucket] using congrArg₂ (· + ·) hdirect.symm hutility.symm

theorem damageSound_iff : DamageSound parsed localId ↔ DamageFits parsed localId := by
  have htotal : ∀ receipt, analyze parsed localId = .ok receipt →
      ((eligibleEvents parsed receipt.rounds).sum? (exactDamage parsed localId) =
        some ((receipt.ratingInput.metrics.directDamage.toNat : Int) +
          receipt.ratingInput.metrics.utilityDamage.toNat) ↔
      ((eligibleEvents parsed receipt.rounds).filter (InPacket parsed localId ·)).sum?
        (exactDamage parsed localId) =
      ((eligibleEvents parsed receipt.rounds).filter (InPacket parsed localId ·)).sum?
        (scoredDamage parsed localId)) := by
    intro receipt h
    have ⟨hsome, hscored⟩ := analyze_damage h
    rw [← hscored]
    apply List.sum?_eq_iff_filter hsome
    intro e _ he
    exact exactDamage_eq_scoredDamage (by simpa using he)
  constructor
  · intro ⟨hexact, hbounded⟩
    exact ⟨fun receipt h => (htotal receipt h).mp (hexact receipt h),
      fun scored m e h => h.fits_iff.mp (hbounded scored m e h)⟩
  · intro ⟨hpackets, hroom⟩
    exact ⟨fun receipt h => (htotal receipt h).mpr (hpackets receipt h),
      fun scored m e h => h.fits_iff.mpr (hroom scored m e h)⟩

-- The local player takes sixty points of health from an opponent, who has forty left after the
-- packet.
def packetDemo : ParsedOutput :=
  { suicideDemo with
    events          := suicideDemo.events.map fun e =>
      if e.kind = .playerHurt then
        { e with event := .playerHurt ⟨some 1, some 2, some 60, some "ak47"⟩ }
      else e
    playerSnapshots := [
      ⟨10, 0, .requestedTick, 1, none, some 2, some 100, some true, some 0, some 0⟩,
      ⟨10, 1, .requestedTick, 2, none, some 3, some 100, some true, some 0, some 0⟩,
      ⟨20, 2, .afterEventPacket, 2, none, some 3, some 40, some true, some 0, some 0⟩,
      ⟨90, 3, .requestedTick, 1, none, some 2, some 0, some false, some 2, some 1⟩
    ] }

def packetReceipt : AnalysisReceipt :=
  (analyze packetDemo 1).toOption.get (by decide)

theorem damageSound_fails_packet : ¬∀ parsed localId, DamageSound parsed localId := by
  intro h
  have htotal := (h packetDemo 1).total packetReceipt (by rfl)
  exact absurd htotal (by decide)

end Analysis
