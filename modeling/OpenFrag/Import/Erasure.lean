import OpenFrag.Import.Evidence
import Mathlib.Data.List.Forall2

-- Outputs that have lost a part of the evidence of another one.
namespace Import

-- An optional field is kept or missing.
def Loses {α : Type} (field lost : Option α) : Prop := lost = field ∨ lost = none

@[simp]
theorem Loses.refl {α : Type} (field : Option α) : Loses field field := .inl rfl

theorem Loses.eq_some {α : Type} {field lost : Option α} {a : α} (h : Loses field lost)
    (ha : lost = some a) : field = some a := by
  rcases h with rfl | rfl
  · exact ha
  · cases ha

structure PlayerHurtEvent.Erases (hurt lost : PlayerHurtEvent) : Prop where
  attacker     : Loses hurt.attacker lost.attacker
  victim       : Loses hurt.victim lost.victim
  weapon       : Loses hurt.weapon lost.weapon
  damageHealth : lost.damageHealth = hurt.damageHealth

structure PlayerDeathEvent.Erases (death lost : PlayerDeathEvent) : Prop where
  attacker      : Loses death.attacker lost.attacker
  victim        : Loses death.victim lost.victim
  weapon        : Loses death.weapon lost.weapon
  assister      : lost.assister = death.assister
  assistedFlash : lost.assistedFlash = death.assistedFlash

inductive NormalizedEvent.Erases : NormalizedEvent → NormalizedEvent → Prop
  | refl (event : NormalizedEvent) : Erases event event
  | hurt {hurt lost : PlayerHurtEvent} (h : hurt.Erases lost) :
    Erases (.playerHurt hurt) (.playerHurt lost)
  | death {death lost : PlayerDeathEvent} (h : death.Erases lost) :
    Erases (.playerDeath death) (.playerDeath lost)
  | roundEnd {roundEnd lost : RoundEndEvent} (h : Loses roundEnd.winner lost.winner) :
    Erases (.roundEnd roundEnd) (.roundEnd lost)

structure ParsedEvent.Erases (e lost : ParsedEvent) : Prop where
  tick             : lost.tick = e.tick
  ingestionOrdinal : lost.ingestionOrdinal = e.ingestionOrdinal
  event            : e.event.Erases lost.event

structure ParsedRound.Erases (round lost : ParsedRound) : Prop where
  number  : lost.number = round.number
  endTick : lost.endTick = round.endTick
  winner  : Loses round.winner lost.winner

structure PlayerSnapshot.Erases (s lost : PlayerSnapshot) : Prop where
  team  : Loses s.team lost.team
  alive : Loses s.alive lost.alive
  rest  : lost = { s with team := lost.team, alive := lost.alive }

-- Fields of the snapshots may be missing, and whole snapshots.
def ErasesSnapshots (snapshots lost : List PlayerSnapshot) : Prop :=
  ∃ kept, List.Forall₂ PlayerSnapshot.Erases snapshots kept ∧ lost.Sublist kept

structure ParsedOutput.Erases (parsed lost : ParsedOutput) : Prop where
  events    : List.Forall₂ ParsedEvent.Erases parsed.events lost.events
  rounds    : List.Forall₂ ParsedRound.Erases parsed.rounds lost.rounds
  snapshots : ErasesSnapshots parsed.playerSnapshots lost.playerSnapshots
  rest      : lost = { parsed with
    events := lost.events, rounds := lost.rounds, playerSnapshots := lost.playerSnapshots }

theorem ParsedRound.Erases.refl (round : ParsedRound) : round.Erases round :=
  ⟨rfl, rfl, .refl _⟩

def NormalizedEvent.withoutAttacker : NormalizedEvent → NormalizedEvent
  | .playerDeath death => .playerDeath { death with attacker := none }
  | event => event

-- All deaths have lost their attacker.
def ParsedEvent.withoutAttacker (e : ParsedEvent) : ParsedEvent :=
  { e with event := e.event.withoutAttacker }

theorem ParsedEvent.erases_withoutAttacker (e : ParsedEvent) : e.Erases e.withoutAttacker := by
  refine ⟨rfl, rfl, ?_⟩
  unfold withoutAttacker NormalizedEvent.withoutAttacker
  split
  case h_1 death he =>
    rw [he]
    exact .death ⟨.inr rfl, .refl _, .refl _, rfl, rfl⟩
  case h_2 => exact .refl _

end Import
