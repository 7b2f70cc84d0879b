import OpenFrag.Analysis.Score
import OpenFrag.Import.Theorems.Normalize

open Import Except

namespace Analysis

variable {toVec : Nat × String × DemoTick × RawFields → Except String (List UInt8)}
variable {sha256 : List UInt8 → String} {bytes : List UInt8} {out : DemoOutput}
variable {parsed : ParsedOutput}

theorem position_lt_succ {tick tick' : DemoTick} {n : Nat} :
    (toLex (tick, n) : DemoTick ×ₗ IngestionOrdinal) < toLex (tick', n + 1) ↔ tick ≤ tick' := by
  rw [Prod.Lex.toLex_lt_toLex]
  simp only [Nat.lt_succ_self, and_true]
  exact le_iff_lt_or_eq.symm

-- Events that are numbered in their order are in order when their ticks never decrease.
theorem positions_isChain {events : List GameEvent} (n : Nat) :
    ((events.zipIdx n).map fun event =>
        (toLex (event.1.tick, event.2) : DemoTick ×ₗ IngestionOrdinal)).IsChain (· < ·) ↔
      (events.map (·.tick)).IsChain (· ≤ ·) := by
  induction events generalizing n
  case nil => exact iff_of_true .nil .nil
  case cons event events ih =>
    cases events
    case nil => exact iff_of_true (.singleton _) (.singleton _)
    case cons event' events =>
      have ih' := ih (n + 1)
      simp only [List.zipIdx_cons, List.map_cons, List.isChain_cons_cons] at ih' ⊢
      rw [ih', position_lt_succ]

theorem positions_of_canonical (h : Canonical out parsed) :
    parsed.events.map ParsedEvent.position =
      out.gameEvents.zipIdx.map fun event => toLex (event.1.tick, event.2) :=
  map_eq_of_forall₂ h.events fun event e he => by rw [ParsedEvent.position, he.1, he.2.1]

theorem receipts_isChain (h : Canonical out parsed) :
    (parsed.receipts.map (·.ingestionOrdinal)).IsChain (· < ·) := by
  have hreceipts : parsed.receipts.map (·.ingestionOrdinal) = parsed.events.map (·.ingestionOrdinal) :=
    map_eq_of_forall₂ h.receipts fun _ _ he => he.1
  have hevents : parsed.events.map (·.ingestionOrdinal) = out.gameEvents.zipIdx.map Prod.snd :=
    map_eq_of_forall₂ h.events fun _ _ he => he.2.1
  rw [hreceipts, hevents, List.zipIdx_map_snd]
  exact (List.pairwise_lt_range' 1).isChain

theorem requireStreams_ok {kinds : List NormalizedEventKind}
    (h : ∀ kind ∈ kinds, ∃ e ∈ parsed.events, e.kind = kind) : requireStreams parsed kinds = .ok () := by
  induction kinds
  case nil => rfl
  case cons kind kinds ih =>
    rw [List.forall_mem_cons] at h
    rw [requireStreams, if_pos]
    case hc => simpa using h.1
    exact ih h.2

-- What the import accepts is in the form that the analysis asks for. Its order is that of the Demo.
theorem analysis_of_finishOutput (h : finishOutput toVec sha256 bytes out = .ok parsed) :
    Canonical out parsed ∧ requireStreams parsed requiredStreams = .ok () ∧
      (verifyOrder parsed = .ok () ↔ (out.gameEvents.map (·.tick)).IsChain (· ≤ ·)) := by
  have hcanonical := canonical_of_ok h
  refine ⟨hcanonical, requireStreams_ok fun kind hkind => hcanonical.kinds kind ?_, ?_⟩
  · rintro rfl
    revert hkind
    decide
  · unfold verifyOrder
    rw [ensure_eq_ok_iff, positions_of_canonical hcanonical, positions_isChain,
      and_iff_left ⟨receipts_isChain hcanonical, hcanonical.snapshots.isChain⟩]

-- A Demo with one event of each kind that is asked for, and one player.
def smallDemo : DemoOutput where
  header     := some [("map_name", "de_dust2"), ("patch_version", "14000")]
  convars    := [("sv_tickrate", "64")]
  roster     := [⟨some 7, some "player", some 2⟩]
  rows       := [[("tick", .number 1)], [("steamid", .string "7"), ("tick", .number 1)]]
  gameEvents := [
    ⟨"round_freeze_end", [], 1⟩,
    ⟨"player_hurt", [⟨"attacker_steamid", some (.string "7")⟩, ⟨"dmg_health", some (.number 20)⟩], 2⟩,
    ⟨"player_death", [⟨"user_steamid", none⟩, ⟨"userid", some (.number 8)⟩], 2⟩,
    ⟨"round_end", [⟨"winner", some (.number 3)⟩], 5⟩]

theorem smallDemo_accepted :
    ∃ parsed, finishOutput (fun _ => .ok []) (fun _ => "") [] smallDemo = .ok parsed :=
  ⟨_, rfl⟩

theorem analysis_of_finishOutput_small :
    ∃ parsed, finishOutput (fun _ => .ok []) (fun _ => "") [] smallDemo = .ok parsed ∧
      verifyOrder parsed = .ok () := by
  obtain ⟨parsed, h⟩ := smallDemo_accepted
  exact ⟨parsed, h, (analysis_of_finishOutput h).2.2.mpr (by decide)⟩

end Analysis
