import OpenFrag.Analysis.Theorems.Score

open Import Domain Except MachineInt

namespace Analysis

variable {parsed : ParsedOutput} {localId : SteamId}

-- What a round of the ledger takes from its freeze event and from the only end that follows.
structure BuiltFrom (parsed : ParsedOutput) (index : Nat) (freeze : ParsedEvent)
    (next : DemoTick) (end_ : ParsedEvent) (round : RoundLedger) : Prop where
  only       : matchingEnds parsed freeze next = [end_]
  number     : round.number = index + 1
  freezeTick : round.freezeTick = freeze.tick
  endTick    : round.endTick = end_.tick

namespace BuiltFrom

variable {index : Nat} {freeze end_ : ParsedEvent} {next : DemoTick} {round : RoundLedger}

theorem mem (h : BuiltFrom parsed index freeze next end_ round) :
    end_ ∈ ends parsed ∧ freeze.tick < end_.tick ∧ end_.tick < next := by
  have : end_ ∈ matchingEnds parsed freeze next := by
    rw [h.only]
    exact List.mem_singleton_self end_
  simpa [matchingEnds] using this

end BuiltFrom

theorem single?_eq_some {α} {as : List α} {a : α} (h : single? as = some a) : as = [a] := by
  unfold single? at h
  split at h <;> simp_all

theorem buildRound_eq_ok {index : Nat} {freeze : ParsedEvent} {next : DemoTick}
    {round : RoundLedger} (h : buildRound parsed localId index freeze next = .ok round) :
    ∃ end_, BuiltFrom parsed index freeze next end_ round := by
  simp only [buildRound, bind_eq_ok_iff, require_eq_ok_iff] at h
  obtain ⟨end_, honly, _, _, ⟨_, _, _⟩, _, _, _, _, _, _, _, h⟩ := h
  cases h
  exact ⟨end_, single?_eq_some honly, rfl, rfl, rfl⟩

-- The ends of the rounds built from a suffix of the freeze events, in order.
structure BuiltFromEnds (parsed : ParsedOutput) (index : Nat) (freezes : List ParsedEvent)
    (chosen : List ParsedEvent) (rounds : List RoundLedger) : Prop where
  numbers : rounds.map (·.number) = List.range' (index + 1) chosen.length
  ends    : rounds.map (·.endTick) = chosen.map (·.tick)
  mem     : ∀ e ∈ chosen, e ∈ Analysis.ends parsed
  sorted  : chosen.Pairwise fun e e' => e.tick < e'.tick
  after   : ∀ freeze ∈ freezes.head?, ∀ e ∈ chosen, freeze.tick < e.tick

theorem BuiltFromEnds.cons {index : Nat} {freeze end_ : ParsedEvent} {rest chosen : List ParsedEvent}
    {round : RoundLedger} {rounds : List RoundLedger}
    (hchosen : BuiltFromEnds parsed (index + 1) rest chosen rounds)
    (hend : BuiltFrom parsed index freeze (nextFreezeTick rest) end_ round)
    (hlength : rest.length = chosen.length) :
    BuiltFromEnds parsed index (freeze :: rest) (end_ :: chosen) (round :: rounds) := by
  have ⟨hmem, hfreeze, hnext⟩ := hend.mem
  -- Every later end comes after the next freeze event, and so after this end.
  have hafter : ∀ e ∈ chosen, end_.tick < e.tick := by
    intro e he
    rcases rest with _ | ⟨next, rest⟩
    · rw [List.length_eq_zero_iff.mp hlength.symm] at he
      cases he
    · exact hnext.trans (hchosen.after next rfl e he)
  refine ⟨?_, ?_, ?_, ?_, ?_⟩
  · simp [hend.number, hchosen.numbers, List.range'_succ]
  · simp [hend.endTick, hchosen.ends]
  · exact List.forall_mem_cons.mpr ⟨hmem, hchosen.mem⟩
  · exact List.pairwise_cons.mpr ⟨hafter, hchosen.sorted⟩
  · intro _ hf
    cases hf
    exact List.forall_mem_cons.mpr ⟨hfreeze, fun e he => hfreeze.trans (hafter e he)⟩

theorem buildRoundsFrom_eq_ok {index : Nat} {freezes : List ParsedEvent}
    {rounds : List RoundLedger} (h : buildRoundsFrom parsed localId index freezes = .ok rounds) :
    ∃ chosen, BuiltFromEnds parsed index freezes chosen rounds ∧
      freezes.length = chosen.length := by
  induction freezes generalizing index rounds
  case nil =>
    cases h
    exact ⟨[], ⟨rfl, rfl, nofun, .nil, nofun⟩, rfl⟩
  case cons freeze rest ih =>
    have ⟨round, hround, h⟩ := bind_eq_ok_iff.mp h
    have ⟨rounds', hrounds, h⟩ := bind_eq_ok_iff.mp h
    cases h
    have ⟨end_, hend⟩ := buildRound_eq_ok hround
    have ⟨chosen, hchosen, hlength⟩ := ih hrounds
    exact ⟨end_ :: chosen, hchosen.cons hend hlength, by simp [hlength]⟩

theorem ends_sorted (h : verifyOrder parsed = .ok ()) :
    (ends parsed).Pairwise fun e e' => e.position < e'.position := by
  have hchain := (ensure_eq_ok_iff.mp h).1
  have hpairwise := List.isChain_iff_pairwise.mp hchain
  exact (List.pairwise_map.mp hpairwise).filter _

theorem ParsedEvent.position_lt {e e' : ParsedEvent} (h : e.tick < e'.tick) :
    e.position < e'.position :=
  Prod.Lex.lt_iff.mpr (.inl h)

-- As many ends as rounds: none is left over.
theorem BuiltFromEnds.chosen_eq_ends {index : Nat} {freezes chosen : List ParsedEvent}
    {rounds : List RoundLedger} (h : BuiltFromEnds parsed index freezes chosen rounds)
    (ho : verifyOrder parsed = .ok ())
    (hlength : (Analysis.ends parsed).length = rounds.length) :
    chosen = Analysis.ends parsed := by
  have hsorted : chosen.Pairwise fun e e' => e.position < e'.position :=
    h.sorted.imp ParsedEvent.position_lt
  have hnodup : chosen.Nodup := hsorted.imp fun h he => absurd (he ▸ h) (lt_irrefl _)
  have hlength' : chosen.length = rounds.length := by
    simpa using (congrArg List.length h.ends).symm
  have hperm := (List.subperm_of_subset hnodup h.mem).perm_of_length_le (by omega)
  exact hperm.eq_of_pairwise (fun _ _ _ _ h h' => absurd (h.trans h') (lt_irrefl _)) hsorted
    (ends_sorted ho)

-- The ledger enumerates the ends of the Demo, one round for each.
theorem buildRounds_eq_ok {rounds : List RoundLedger} (ho : verifyOrder parsed = .ok ())
    (h : buildRounds parsed localId = .ok rounds) :
    rounds.map (·.number) = List.range' 1 (ends parsed).length ∧
    rounds.map (·.endTick) = (ends parsed).map (·.tick) := by
  simp only [buildRounds, bind_eq_ok_iff, ensure_eq_ok_iff] at h
  have ⟨rounds', hrounds, _, hlength, _, _, h⟩ := h
  cases h
  have ⟨chosen, hchosen, _⟩ := buildRoundsFrom_eq_ok hrounds
  rw [← hchosen.chosen_eq_ends ho hlength]
  exact ⟨hchosen.numbers, hchosen.ends⟩

end Analysis
