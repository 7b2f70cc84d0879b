import OpenFrag.Analysis.Theorems.Rounds
import OpenFrag.Library.Splits
import Mathlib.Algebra.Group.Prod

open Import Domain Except

namespace Analysis

-- A death with all of its fields. Those that the Demo lacks are filled in, and so are the teams
-- that players have at the event.
structure Attribution where
  attacker : SteamId
  victim   : SteamId
  team     : SteamId → Int

namespace Attribution

-- The fields that the Demo has are kept.
structure Completes (parsed : ParsedOutput) (e : ParsedEvent) (x : Attribution) : Prop where
  attacker : ∀ death ∈ e.death?, ∀ a ∈ death.attacker, x.attacker = a
  victim   : ∀ death ∈ e.death?, ∀ v ∈ death.victim, x.victim = v
  team     : ∀ steamId, ∀ t ∈ teamAt parsed steamId e.tick, x.team steamId = t

def EnemyDeath (x : Attribution) : Prop := x.team x.attacker ≠ x.team x.victim

instance (x : Attribution) : Decidable x.EnemyDeath := inferInstanceAs (Decidable (_ ≠ _))

end Attribution

abbrev Filling := ParsedEvent → Attribution

section

variable (parsed : ParsedOutput) (localId : SteamId) (f : Filling) (round : RoundLedger)

def filledKill (e : ParsedEvent) : Nat :=
  if (f e).attacker = localId ∧ (f e).EnemyDeath then 1 else 0

def filledKills : Nat :=
  ((roundDeaths parsed round).map (filledKill localId f)).sum

-- The two players of the first death of an enemy.
def filledOpening : Option (SteamId × SteamId) :=
  ((roundDeaths parsed round).find? fun e => (f e).EnemyDeath).map fun e => ((f e).attacker, (f e).victim)

-- The players of the death that opens the round for the code.
def opener (e : ParsedEvent) : Option (SteamId × SteamId) := do
  let death ← e.death?
  let victim ← death.victim
  return (← opens parsed e.tick death.attacker victim, victim)

def scoredOpening : Option (SteamId × SteamId) :=
  (roundDeaths parsed round).findSome? (opener parsed)

end

-- The win and the loss that an opening adds for the local player.
def credit (localId : SteamId) (opening : Option (SteamId × SteamId)) : Nat × Nat :=
  (if opening.any (·.1 = localId) then 1 else 0, if opening.any (·.2 = localId) then 1 else 0)

-- However the missing fields are filled in, the kills and the openings are those of the receipt.
def AttributionSound (parsed : ParsedOutput) (localId : SteamId) (receipt : AnalysisReceipt) : Prop :=
  ∀ f : Filling, (∀ e ∈ parsed.events, (f e).Completes parsed e) →
    receipt.ratingInput.metrics.kills.toNat =
      ((receipt.rounds.filter (·.eligible)).map (filledKills parsed localId f)).sum ∧
    (receipt.ratingInput.metrics.openingWins.toNat,
        receipt.ratingInput.metrics.openingLosses.toNat) =
      ((receipt.rounds.filter (·.eligible)).map fun round =>
        credit localId (filledOpening parsed f round)).sum

section

variable (parsed : ParsedOutput) (localId : SteamId)

-- The known fields do not rule out that the attacker is an opponent of the victim.
def MayBeKill (e : ParsedEvent) (attacker victim : SteamId) : Prop :=
  ∃ death ∈ e.death?, (∀ a ∈ death.attacker, a = attacker) ∧ death.victim = some victim ∧
    attacker ≠ victim ∧ ∀ s ∈ teamAt parsed attacker e.tick, ∀ t ∈ teamAt parsed victim e.tick, s ≠ t

-- All of the fields are known, and the attacker is an opponent of the victim.
def IsKill (e : ParsedEvent) (attacker victim : SteamId) : Prop :=
  ∃ death ∈ e.death?, death.attacker = some attacker ∧ death.victim = some victim ∧
    OnOtherTeam parsed attacker victim e.tick

-- What may be a kill of the local player is one, and all deaths that may open the round credit the
-- local player as the one that opens it for the code does.
structure Attributed (round : RoundLedger) : Prop where
  kills    : ∀ e ∈ roundDeaths parsed round, ∀ victim, MayBeKill parsed e localId victim →
    IsKill parsed e localId victim
  openings : ∀ before e after, before ++ e :: after = roundDeaths parsed round →
    (∀ earlier ∈ before, ∀ a v, ¬IsKill parsed earlier a v) →
    ∀ attacker victim, MayBeKill parsed e attacker victim →
      credit localId (some (attacker, victim)) = credit localId (scoredOpening parsed round)

end

variable {parsed : ParsedOutput} {localId : SteamId} {e : ParsedEvent} {a v : SteamId}

theorem opens_eq_some {tick : DemoTick} {attacker : Option SteamId} :
    opens parsed tick attacker v = some a ↔ attacker = some a ∧ OnOtherTeam parsed a v tick := by
  simp only [opens, Option.filter_eq_some_iff, decide_eq_true_eq, OnOtherTeam]
  constructor
  · intro ⟨⟨ha, _⟩, hteams⟩
    cases hs : teamAt parsed a tick <;> cases ht : teamAt parsed v tick <;> simp_all
  · intro ⟨ha, hother⟩
    refine ⟨⟨ha, OnOtherTeam.ne hother⟩, ?_⟩
    obtain ⟨s, hs, t, ht, hne⟩ := hother
    rw [Option.mem_def] at hs ht
    simp [hs, ht, hne]

theorem opener_eq_some : opener parsed e = some (a, v) ↔ IsKill parsed e a v := by
  simp only [opener, Option.bind_eq_bind, Option.bind_eq_some_iff, opens_eq_some, IsKill,
    Option.pure_def, Option.some.injEq, Prod.mk.injEq]
  constructor
  · rintro ⟨death, hdeath, _, hvictim, _, ⟨hattacker, hother⟩, rfl, rfl⟩
    exact ⟨death, hdeath, hattacker, hvictim, hother⟩
  · intro ⟨death, hdeath, hattacker, hvictim, hother⟩
    exact ⟨death, hdeath, v, hvictim, a, ⟨hattacker, hother⟩, rfl, rfl⟩

section

variable {m m' : RatingMetrics} {seen seen' : Bool}

def opened (m : RatingMetrics) : Nat × Nat := (m.openingWins.toNat, m.openingLosses.toNat)

theorem scoreOpeningWins_opened (h : scoreOpeningWins localId a m = .ok m') :
    opened m' = opened m + (if a = localId then 1 else 0, 0) := by
  unfold scoreOpeningWins at h
  split at h
  case isTrue ha =>
    have ⟨_, hadd, h⟩ := bind_eq_ok_iff.mp h
    cases h
    simp [opened, ha, addU32_eq_ok hadd]
  case isFalse ha =>
    cases h
    simp [ha]

theorem scoreOpeningLosses_opened (h : scoreOpeningLosses localId v m = .ok m') :
    opened m' = opened m + (0, if v = localId then 1 else 0) := by
  unfold scoreOpeningLosses at h
  split at h
  case isTrue hv =>
    have ⟨_, hadd, h⟩ := bind_eq_ok_iff.mp h
    cases h
    simp [opened, hv, addU32_eq_ok hadd]
  case isFalse hv =>
    cases h
    simp [hv]

theorem scoreOpening_opened {tick : DemoTick} {attacker : Option SteamId}
    (h : scoreOpening parsed localId tick attacker v seen m = .ok (seen', m')) :
    seen' = (seen || (opens parsed tick attacker v).isSome) ∧
    opened m' = opened m +
      if seen then 0 else credit localId ((opens parsed tick attacker v).map (·, v)) := by
  unfold scoreOpening at h
  split at h
  case isTrue hseen =>
    cases h
    simp [hseen]
  case isFalse hseen =>
    split at h
    case h_1 hnone =>
      cases h
      simp [hseen, hnone, credit]
    case h_2 attacker hsome =>
      simp only [bind_eq_ok_iff] at h
      have ⟨m₁, h₁, m₂, h₂, h⟩ := h
      cases h
      simp [hseen, hsome, credit, scoreOpeningLosses_opened h₂, scoreOpeningWins_opened h₁, add_assoc]

theorem scoreEvent_opened (h : scoreEvent parsed localId (seen, m) e = .ok (seen', m')) :
    seen' = (seen || (opener parsed e).isSome) ∧
    opened m' = opened m + if seen then 0 else credit localId (opener parsed e) := by
  unfold scoreEvent at h
  split at h
  case h_1 hurt he =>
    obtain ⟨_, h₁, h⟩ := bind_eq_ok_iff.mp h
    cases h
    rw [scoreHurt_frame h₁]
    simp [opened, opener, ParsedEvent.death?, he, credit]
  case h_2 death he =>
    simp only [bind_eq_ok_iff, require_eq_ok_iff] at h
    obtain ⟨victim, hv, _, h₁, m₂, h₂, ⟨_, _⟩, h₃, _, h₄, h⟩ := h
    cases h
    obtain ⟨hseen, hopened⟩ := scoreOpening_opened h₃
    have hopener : opener parsed e =
        (opens parsed e.tick death.attacker victim).map (·, victim) := by
      simp [opener, ParsedEvent.death?, he, hv, Option.map_eq_bind]
    have hm : opened m₂ = opened m := by
      rw [scoreKills_frame h₂, scoreDeaths_frame h₁]
      rfl
    rw [scoreFlash_frame h₄, hopener]
    refine ⟨by simpa using hseen, ?_⟩
    rw [← hm]
    exact hopened
  case h_3 hhurt hdeath =>
    cases h
    cases he : e.event <;> simp_all [opener, ParsedEvent.death?, credit]

theorem scoreEvents_opened {events : List ParsedEvent}
    (h : events.foldlM (scoreEvent parsed localId) (seen, m) = .ok (seen', m')) :
    opened m' = opened m +
      if seen then 0 else credit localId (events.findSome? (opener parsed)) := by
  induction events generalizing seen m
  case nil =>
    cases h
    simp [credit]
  case cons e events ih =>
    rw [List.foldlM_cons] at h
    have ⟨⟨seen₁, m₁⟩, h₁, h⟩ := bind_eq_ok_iff.mp h
    have ⟨hseen, hopened⟩ := scoreEvent_opened h₁
    rw [ih h, hopened, hseen, List.findSome?_cons]
    cases seen <;> cases opener parsed e <;> simp [credit, add_assoc]

end

namespace Attribution.Completes

variable {x : Attribution}

theorem enemyDeath (hx : x.Completes parsed e) (h : IsKill parsed e a v) :
    x.attacker = a ∧ x.victim = v ∧ x.EnemyDeath := by
  have ⟨death, hdeath, hattacker, hvictim, s, hs, t, ht, hne⟩ := h
  have ha := hx.attacker death hdeath a hattacker
  have hv := hx.victim death hdeath v hvictim
  refine ⟨ha, hv, ?_⟩
  rwa [EnemyDeath, ha, hv, hx.team a s hs, hx.team v t ht]

theorem mayBeKill {death : PlayerDeathEvent} (hx : x.Completes parsed e)
    (hdeath : e.death? = some death) (hvictim : death.victim = some v) (h : x.EnemyDeath) :
    MayBeKill parsed e x.attacker v := by
  have hv := hx.victim death hdeath v hvictim
  refine ⟨death, hdeath, fun b hb => (hx.attacker death hdeath b hb).symm, hvictim, ?_, ?_⟩
  · intro hsame
    exact h (by rw [hv, hsame])
  · intro s hs t ht
    rw [← hx.team _ s hs, ← hx.team _ t ht, ← hv]
    exact h

end Attribution.Completes

section

variable (parsed : ParsedOutput) (e : ParsedEvent)

-- Every missing field is filled in so that the death is not of an enemy, where that is possible.
def quiet : Attribution :=
  let victim := (e.death?.bind (·.victim)).getD 0
  let attacker := (e.death?.bind (·.attacker)).getD victim
  { attacker
    victim
    team := fun steamId => (teamAt parsed steamId e.tick).getD
      (((teamAt parsed attacker e.tick).or (teamAt parsed victim e.tick)).getD 0) }

-- Every missing field is filled in so that the attacker kills an enemy.
def loud (attacker victim : SteamId) : Attribution where
  attacker := attacker
  victim   := victim
  team     := fun steamId => (teamAt parsed steamId e.tick).getD <|
    if steamId = attacker then
      (teamAt parsed victim e.tick).getD 0 + 1
    else
      (teamAt parsed attacker e.tick).getD 1 + 1

end

theorem quiet_completes : (quiet parsed e).Completes parsed e where
  attacker := by
    intro death hdeath a ha
    rw [Option.mem_def] at hdeath ha
    simp [quiet, hdeath, ha]
  victim := by
    intro death hdeath v hv
    rw [Option.mem_def] at hdeath hv
    simp [quiet, hdeath, hv]
  team := by
    intro steamId t ht
    rw [Option.mem_def] at ht
    simp [quiet, ht]

theorem quiet_isKill {death : PlayerDeathEvent} (hdeath : e.death? = some death)
    (hvictim : death.victim = some v) (h : (quiet parsed e).EnemyDeath) :
    IsKill parsed e (quiet parsed e).attacker (quiet parsed e).victim := by
  simp only [Attribution.EnemyDeath, quiet, hdeath, hvictim, Option.bind_some, Option.getD_some] at h ⊢
  cases hattacker : death.attacker
  case none => simp [hattacker] at h
  case some a =>
    simp only [hattacker, Option.getD_some] at h ⊢
    refine ⟨death, hdeath, hattacker, hvictim, ?_⟩
    cases hs : teamAt parsed a e.tick <;> cases ht : teamAt parsed v e.tick <;>
      simp_all [OnOtherTeam]

theorem loud_completes (h : MayBeKill parsed e a v) : (loud parsed e a v).Completes parsed e := by
  have ⟨death, hdeath, hattacker, hvictim, _⟩ := h
  refine ⟨?_, ?_, ?_⟩
  · intro death' hdeath' b hb
    cases Option.mem_unique hdeath hdeath'
    exact (hattacker b hb).symm
  · intro death' hdeath' b hb
    cases Option.mem_unique hdeath hdeath'
    exact Option.mem_unique hvictim hb
  · intro steamId t ht
    rw [Option.mem_def] at ht
    simp [loud, ht]

theorem loud_enemyDeath (h : MayBeKill parsed e a v) : (loud parsed e a v).EnemyDeath := by
  have ⟨_, _, _, _, hne, hteams⟩ := h
  simp only [Attribution.EnemyDeath, loud, if_true, if_neg hne.symm]
  cases hs : teamAt parsed a e.tick <;> cases ht : teamAt parsed v e.tick <;> simp_all

section

variable {round : RoundLedger} {f : Filling}

-- The deaths of a scored round have a victim.
def VictimsKnown (parsed : ParsedOutput) (round : RoundLedger) : Prop :=
  ∀ e ∈ roundDeaths parsed round, ∃ death victim, e.death? = some death ∧
    death.victim = some victim

instance : Decidable (IsKill parsed e a v) :=
  inferInstanceAs (Decidable (∃ death ∈ e.death?, _ ∧ _ ∧ _))

theorem countsAsKill_mayBeKill {death : PlayerDeathEvent} (hdeath : e.death? = some death)
    (hvictim : death.victim = some v)
    (h : countsAsKill parsed localId e.tick death.attacker v) : MayBeKill parsed e localId v := by
  have ⟨hattacker, hteams⟩ := h
  refine ⟨death, hdeath, ?_, hvictim, ?_, ?_⟩
  · intro b hb
    exact Option.mem_unique hb hattacker
  · rintro rfl
    exact hteams rfl
  · rintro s hs t ht rfl
    exact hteams (hs.trans ht.symm)

theorem IsKill.countsAsKill {death : PlayerDeathEvent} (hdeath : e.death? = some death)
    (h : IsKill parsed e localId v) : countsAsKill parsed localId e.tick death.attacker v := by
  have ⟨death', hdeath', hattacker, _, s, hs, t, ht, hne⟩ := h
  cases Option.mem_unique hdeath hdeath'
  refine ⟨hattacker, ?_⟩
  rw [Option.mem_def] at hs ht
  simpa [hs, ht] using hne

theorem killCount_of_death {death : PlayerDeathEvent} (hdeath : e.death? = some death)
    (hvictim : death.victim = some v) : killCount parsed localId e =
      if countsAsKill parsed localId e.tick death.attacker v then 1 else 0 := by
  have he : e.event = .playerDeath death := by
    unfold ParsedEvent.death? at hdeath
    split at hdeath <;> simp_all
  simp [killCount, he, hvictim]

theorem filledKill_eq (hf : (f e).Completes parsed e) {death : PlayerDeathEvent}
    (hdeath : e.death? = some death) (hvictim : death.victim = some v)
    (h : MayBeKill parsed e localId v → IsKill parsed e localId v) :
    filledKill localId f e = killCount parsed localId e := by
  have hiff : ((f e).attacker = localId ∧ (f e).EnemyDeath) ↔
      countsAsKill parsed localId e.tick death.attacker v := by
    constructor
    · intro ⟨hlocal, henemy⟩
      have hmay := hf.mayBeKill hdeath hvictim henemy
      rw [hlocal] at hmay
      exact (h hmay).countsAsKill hdeath
    · intro hcounts
      have ⟨hlocal, _, henemy⟩ := hf.enemyDeath (h (countsAsKill_mayBeKill hdeath hvictim hcounts))
      exact ⟨hlocal, henemy⟩
  rw [killCount_of_death hdeath hvictim, filledKill]
  simp only [hiff]

theorem roundKills_eq : roundKills parsed localId round =
    ((roundDeaths parsed round).map (killCount parsed localId)).sum := by
  refine (List.sum_map_filter fun e _ hnot => ?_).symm
  unfold killCount
  split
  case h_1 death he => simp [ParsedEvent.death?, he] at hnot
  case h_2 => rfl

theorem filledKills_eq (hv : VictimsKnown parsed round)
    (hf : ∀ e ∈ roundDeaths parsed round, (f e).Completes parsed e)
    (h : Attributed parsed localId round) :
    filledKills parsed localId f round = roundKills parsed localId round := by
  rw [filledKills, roundKills_eq]
  congr 1
  apply List.map_congr_left
  intro e he
  have ⟨death, victim, hdeath, hvictim⟩ := hv e he
  exact filledKill_eq (hf e he) hdeath hvictim (h.kills e he victim)

theorem scoredOpening_eq_none (h : ∀ e ∈ roundDeaths parsed round, ∀ a v, ¬IsKill parsed e a v) :
    scoredOpening parsed round = none := by
  rw [scoredOpening, List.findSome?_eq_none_iff]
  intro e he
  rw [Option.eq_none_iff_forall_ne_some]
  rintro ⟨a, v⟩ hopener
  exact h e he a v (opener_eq_some.mp hopener)

theorem credit_filledOpening (hv : VictimsKnown parsed round)
    (hf : ∀ e ∈ roundDeaths parsed round, (f e).Completes parsed e)
    (h : Attributed parsed localId round) :
    credit localId (filledOpening parsed f round) =
      credit localId (scoredOpening parsed round) := by
  rw [filledOpening]
  cases hfind : (roundDeaths parsed round).find? fun e => (f e).EnemyDeath
  case none =>
    rw [scoredOpening_eq_none]
    · rfl
    · intro e he a v hkill
      have hnot := List.find?_eq_none.mp hfind e he
      exact hnot (decide_eq_true ((hf e he).enemyDeath hkill).2.2)
  case some e =>
    have ⟨henemy, before, after, hsplit, hbefore⟩ := List.find?_eq_some_iff_append.mp hfind
    have hmem : ∀ e', e' ∈ before ∨ e' = e → e' ∈ roundDeaths parsed round := by
      intro e' he'
      rw [hsplit]
      rcases he' with he' | rfl <;> simp [*]
    have ⟨death, victim, hdeath, hvictim⟩ := hv e (hmem e (.inr rfl))
    have hcompletes := hf e (hmem e (.inr rfl))
    have hmay := hcompletes.mayBeKill hdeath hvictim (of_decide_eq_true henemy)
    rw [Option.map_some, hcompletes.victim death hdeath victim hvictim]
    refine h.openings before e after hsplit.symm ?_ _ _ hmay
    intro earlier hearlier a v hkill
    have hnot := hbefore earlier hearlier
    have hyes := ((hf earlier (hmem earlier (.inl hearlier))).enemyDeath hkill).2.2
    simp [hyes] at hnot

theorem find?_map_eq_findSome? {events : List ParsedEvent}
    (hf : ∀ e ∈ events, (f e).Completes parsed e)
    (hkill : ∀ e ∈ events, (f e).EnemyDeath → IsKill parsed e (f e).attacker (f e).victim) :
    ((events.find? fun e => (f e).EnemyDeath).map fun e => ((f e).attacker, (f e).victim)) =
      events.findSome? (opener parsed) := by
  induction events
  case nil => rfl
  case cons e events ih =>
    have ⟨hfe, hf⟩ := List.forall_mem_cons.mp hf
    have ⟨hkill₁, hkill⟩ := List.forall_mem_cons.mp hkill
    by_cases henemy : (f e).EnemyDeath
    · simp [henemy, opener_eq_some.mpr (hkill₁ henemy)]
    · have hnone : opener parsed e = none := by
        rw [Option.eq_none_iff_forall_ne_some]
        rintro ⟨a, v⟩ hopener
        exact henemy (hfe.enemyDeath (opener_eq_some.mp hopener)).2.2
      simp [henemy, hnone, ih hf hkill]

-- Where nothing is filled in loudly, the opening is that of the code.
theorem filledOpening_quiet (hv : VictimsKnown parsed round)
    (hquiet : ∀ e ∈ roundDeaths parsed round, f e = quiet parsed e) :
    filledOpening parsed f round = scoredOpening parsed round := by
  apply find?_map_eq_findSome?
  · intro e he
    exact hquiet e he ▸ quiet_completes
  · intro e he henemy
    have ⟨_, _, hdeath, hvictim⟩ := hv e he
    rw [hquiet e he] at henemy ⊢
    exact quiet_isKill hdeath hvictim henemy

theorem mem_of_roundDeaths (h : e ∈ roundDeaths parsed round) :
    e ∈ parsed.events ∧ round.covers e.tick ∧ e.death?.isSome := by
  simp only [roundDeaths, roundEvents, List.mem_filter, decide_eq_true_eq] at h
  exact ⟨h.1.1, h.1.2, h.2⟩

theorem roundDeaths_nodup (h : verifyOrder parsed = .ok ()) : (roundDeaths parsed round).Nodup := by
  have hchain := List.isChain_iff_pairwise.mp (ensure_eq_ok_iff.mp h).1
  have hnodup : parsed.events.Nodup := by
    apply (List.pairwise_map.mp hchain).imp
    rintro a _ hlt rfl
    exact lt_irrefl _ hlt
  exact (hnodup.filter _).filter _

-- One loud death opens its round, unless a death before it does.
theorem filledOpening_update {before after : List ParsedEvent} (hv : VictimsKnown parsed round)
    (hnodup : (roundDeaths parsed round).Nodup)
    (hsplit : before ++ e :: after = roundDeaths parsed round)
    (hbefore : ∀ earlier ∈ before, ∀ a v, ¬IsKill parsed earlier a v)
    (h : MayBeKill parsed e a v) :
    filledOpening parsed (Function.update (quiet parsed) e (loud parsed e a v)) round =
      some (a, v) := by
  rw [← hsplit] at hnodup
  have hfind : (roundDeaths parsed round).find? (fun e' =>
      (Function.update (quiet parsed) e (loud parsed e a v) e').EnemyDeath) = some e := by
    rw [List.find?_eq_some_iff_append]
    refine ⟨by simp [loud_enemyDeath h], before, after, hsplit.symm, ?_⟩
    intro earlier hearlier
    have hne : earlier ≠ e := by
      rintro rfl
      exact (List.nodup_append.mp hnodup).2.2 earlier hearlier earlier List.mem_cons_self rfl
    have ⟨_, _, hdeath, hvictim⟩ := hv earlier (hsplit ▸ List.mem_append_left _ hearlier)
    simp only [Function.update_of_ne hne, Bool.not_eq_true', decide_eq_false_iff_not]
    intro henemy
    exact hbefore earlier hearlier _ _ (quiet_isKill hdeath hvictim henemy)
  rw [filledOpening, hfind, Option.map_some, Function.update_self]
  rfl

theorem scoreRound_opened {tickRate : Nat} {m m' : RatingMetrics}
    (h : scoreRound parsed localId tickRate m round = .ok m') :
    opened m' = opened m + credit localId (scoredOpening parsed round) := by
  have ⟨m₁, m₂, hs⟩ := scoreRound_eq_ok h
  have ⟨_, hevents⟩ := hs.events
  have hkept : opened m' = opened m₁ := by
    rw [scoreClutch_frame hs.clutch, hs.frame₂]
    rfl
  -- The events that are not deaths open nothing.
  have hdeaths : (roundEvents parsed round).findSome? (opener parsed) =
      scoredOpening parsed round := by
    refine (List.findSome?_filter fun e _ hnot => ?_).symm
    simp [opener, Option.not_isSome_iff_eq_none.mp hnot]
  rw [hkept, scoreEvents_opened hevents, hdeaths]
  rfl

theorem scoreRound_victimsKnown {tickRate : Nat} {m m' : RatingMetrics}
    (h : scoreRound parsed localId tickRate m round = .ok m') : VictimsKnown parsed round := by
  obtain ⟨m₁, m₂, hs⟩ := scoreRound_eq_ok h
  obtain ⟨_, hevents⟩ := hs.events
  intro e he
  obtain ⟨death, hdeath⟩ := Option.isSome_iff_exists.mp (mem_of_roundDeaths he).2.2
  obtain ⟨_, _, hevent⟩ := foldlM_mem hevents (List.mem_filter.mp he).1
  have hkind : e.event = .playerDeath death := by
    unfold ParsedEvent.death? at hdeath
    split at hdeath <;> simp_all
  simp only [scoreEvent, hkind, bind_eq_ok_iff, require_eq_ok_iff] at hevent
  obtain ⟨victim, hvictim, _⟩ := hevent
  exact ⟨death, victim, hdeath, hvictim⟩

end

theorem update_completes (h : MayBeKill parsed e a v) (e' : ParsedEvent) :
    (Function.update (quiet parsed) e (loud parsed e a v) e').Completes parsed e' := by
  by_cases he : e' = e
  · subst he
    rw [Function.update_self]
    exact loud_completes h
  · rw [Function.update_of_ne he]
    exact quiet_completes

-- A loud death of the local player adds a kill, which it does not quietly when it may be none.
theorem filledKill_quiet_le (h : MayBeKill parsed e localId v) (e' : ParsedEvent) :
    filledKill localId (quiet parsed) e' ≤
      filledKill localId (Function.update (quiet parsed) e (loud parsed e localId v)) e' := by
  by_cases he : e' = e
  · subst he
    have henemy := loud_enemyDeath h
    simp only [filledKill, Function.update_self, henemy, and_true]
    split <;> simp [loud]
  · simp [filledKill, Function.update_of_ne he]

theorem isKill_of_filledKill (h : MayBeKill parsed e localId v)
    (heq : filledKill localId (quiet parsed) e =
      filledKill localId (Function.update (quiet parsed) e (loud parsed e localId v)) e) :
    IsKill parsed e localId v := by
  have ⟨death, hdeath, _, hvictim, _⟩ := h
  have hone : filledKill localId (quiet parsed) e = 1 := by
    rw [heq]
    simp only [filledKill, Function.update_self, loud_enemyDeath h, and_true]
    exact if_pos rfl
  have ⟨hlocal, henemy⟩ : (quiet parsed e).attacker = localId ∧ (quiet parsed e).EnemyDeath := by
    by_contra hnot
    simp [filledKill, hnot] at hone
  have hkill := quiet_isKill hdeath hvictim henemy
  rwa [hlocal, quiet_completes.victim death hdeath v hvictim] at hkill

-- Two rounds of a ledger have no tick in common.
theorem Chained.disjoint_ticks {index : Nat} {freezes chosen : List ParsedEvent}
    {rounds : List RoundLedger} (h : Chained parsed localId index freezes chosen rounds)
    {round other : RoundLedger} (hr : round ∈ rounds) (ho : other ∈ rounds) (hne : round ≠ other)
    {tick : DemoTick} (hround : round.covers tick) : ¬other.covers tick := by
  have hapart : rounds.Pairwise fun r r' => ∀ tick, ¬(r.covers tick ∧ r'.covers tick) := by
    apply h.disjoint.imp
    intro r r' hlt tick ⟨hr, hr'⟩
    exact absurd (hr'.1.trans hr.2) (not_le.mpr hlt)
  have : Std.Symm fun r r' : RoundLedger => ∀ tick, ¬(r.covers tick ∧ r'.covers tick) :=
    ⟨fun _ _ hr tick hboth => hr tick hboth.symm⟩
  exact fun hother => hapart.forall hr ho hne tick ⟨hround, hother⟩

theorem Chained.nodup {index : Nat} {freezes chosen : List ParsedEvent}
    {rounds : List RoundLedger} (h : Chained parsed localId index freezes chosen rounds) :
    rounds.Nodup := by
  apply List.Pairwise.imp_of_mem _ h.disjoint
  rintro round _ hround _ hlt rfl
  exact absurd (h.interval round hround) (not_lt.mpr hlt.le)

theorem attributionSound_iff {receipt : AnalysisReceipt} (h : analyze parsed localId = .ok receipt) :
    AttributionSound parsed localId receipt ↔
      ∀ round ∈ receipt.rounds, round.eligible → Attributed parsed localId round := by
  obtain ⟨tickRate, ha⟩ := analyze_eq_ok h
  have hchain := buildRounds_chained ha.order ha.rounds
  have hmem : ∀ {round}, round ∈ receipt.rounds.filter (·.eligible) ↔
      round ∈ receipt.rounds ∧ round.eligible := List.mem_filter
  have hvictims : ∀ round ∈ receipt.rounds.filter (·.eligible), VictimsKnown parsed round := by
    intro round hround
    obtain ⟨_, _, hscore⟩ := foldlM_mem ha.metrics hround
    exact scoreRound_victimsKnown hscore
  have hkills : receipt.ratingInput.metrics.kills.toNat =
      ((receipt.rounds.filter (·.eligible)).map (roundKills parsed localId)).sum := by
    have hcount := foldlM_count (fun m => m.kills.toNat)
      (fun _ _ _ _ hs => (scoreRound_counts hs).1) ha.metrics
    simpa [initialMetrics] using hcount
  have hopened : opened receipt.ratingInput.metrics =
      ((receipt.rounds.filter (·.eligible)).map fun round =>
        credit localId (scoredOpening parsed round)).sum := by
    have hcount := foldlM_count opened (fun _ _ _ _ hs => scoreRound_opened hs) ha.metrics
    have hzero : ∀ eligibleRounds, opened (initialMetrics eligibleRounds) = 0 := fun _ => rfl
    rw [hcount, hzero, zero_add]
  constructor
  · intro hsound round hround heligible
    have hin := hmem.mpr ⟨hround, heligible⟩
    have hquiet := hsound (quiet parsed) fun _ _ => quiet_completes
    constructor
    case kills =>
      intro e he victim hmay
      have hloud := hsound _ fun e' _ => update_completes hmay e'
      have hrounds := (List.sum_map_eq_iff fun round _ =>
        List.sum_map_le fun e' _ => filledKill_quiet_le hmay e').mp (hquiet.1.symm.trans hloud.1)
      have hdeaths := (List.sum_map_eq_iff fun e' _ => filledKill_quiet_le hmay e').mp
        (hrounds round hin)
      exact isKill_of_filledKill hmay (hdeaths e he)
    case openings =>
      intro before e after hsplit hbefore attacker victim hmay
      have hloud := hsound _ fun e' _ => update_completes hmay e'
      have hevent : round.covers e.tick :=
        (mem_of_roundDeaths (hsplit ▸ List.mem_append_right before List.mem_cons_self)).2.1
      -- The other rounds do not have the loud death.
      have hothers : ∀ other ∈ receipt.rounds.filter (·.eligible), other ≠ round →
          credit localId (filledOpening parsed
            (Function.update (quiet parsed) e (loud parsed e attacker victim)) other) =
          credit localId (scoredOpening parsed other) := by
        intro other hother hne
        refine congrArg _ (filledOpening_quiet (hvictims other hother) fun e' he' => ?_)
        apply Function.update_of_ne
        rintro rfl
        exact hchain.disjoint_ticks hround (hmem.mp hother).1 hne.symm hevent
          (mem_of_roundDeaths he').2.1
      have heq := List.eq_of_sum_map_eq (hchain.nodup.filter _) hin hothers
        (hloud.2.symm.trans hopened)
      rwa [filledOpening_update (hvictims round hin) (roundDeaths_nodup ha.order) hsplit hbefore
        hmay] at heq
  · intro hattributed f hf
    have hcompletes : ∀ round, ∀ e ∈ roundDeaths parsed round, (f e).Completes parsed e :=
      fun round e he => hf e (mem_of_roundDeaths he).1
    rw [hkills]
    refine ⟨congrArg _ (List.map_congr_left fun round hround => ?_), hopened.trans
      (congrArg _ (List.map_congr_left fun round hround => ?_))⟩
    · obtain ⟨hround', heligible⟩ := hmem.mp hround
      exact (filledKills_eq (hvictims round hround) (hcompletes round)
        (hattributed round hround' heligible)).symm
    · obtain ⟨hround', heligible⟩ := hmem.mp hround
      exact (credit_filledOpening (hvictims round hround) (hcompletes round)
        (hattributed round hround' heligible)).symm

-- The local player kills a player whose snapshots do not tell the team.
def teamlessDemo : ParsedOutput :=
  { suicideDemo with
    events          := suicideDemo.events.map fun e =>
      if e.kind = .playerDeath then
        { e with event := .playerDeath ⟨some 1, some 2, none, false, some "ak47"⟩ }
      else e
    playerSnapshots := suicideDemo.playerSnapshots.map fun s =>
      if s.steamId = 2 then { s with team := none } else s }

def teamlessReceipt : AnalysisReceipt :=
  (analyze teamlessDemo 1).toOption.get (by decide)

theorem attributionSound_fails_teamless :
    ¬∀ parsed localId receipt, analyze parsed localId = .ok receipt →
      AttributionSound parsed localId receipt := by
  intro h
  have hsound := h teamlessDemo 1 teamlessReceipt (by rfl)
  have hkills := (hsound (quiet teamlessDemo) fun _ _ => quiet_completes).1
  exact absurd hkills (by decide)

theorem attributionSound_iff_teamless :
    AttributionSound teamlessDemo 1 teamlessReceipt ↔
      ∀ round ∈ teamlessReceipt.rounds, round.eligible → Attributed teamlessDemo 1 round :=
  attributionSound_iff (show analyze teamlessDemo 1 = .ok teamlessReceipt by rfl)

end Analysis
