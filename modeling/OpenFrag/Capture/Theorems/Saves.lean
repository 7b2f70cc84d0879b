import OpenFrag.Capture.Theorems.Answers

namespace Capture

variable {ι W : Type} [DecidableEq ι]

-- The identities that a run of calls asks for.
def requestedIds (calls : List (Call ι × W)) : List ι :=
  calls.filterMap fun
    | (.requestSave recorderRequestId _, _) => some recorderRequestId
    | _                                     => none

-- A manual request has been coalesced into the save.
def Flagged (steps : List (Step ι W)) (recorderRequestId : ι) : Prop :=
  ∃ step ∈ steps, ∃ requested, step.call.1 = .requestSave requested .manualFlag ∧
    step.reply.outcome? = some ⟨recorderRequestId, .coalesced⟩

structure NoSaveLost (steps : List (Step ι W)) (s : Supervisor ι) : Prop where
  kept    : ∀ id ∈ issued steps,
    id ∈ s.inFlight.map (·.recorderRequestId) ∨ id ∈ s.queued.map (·.recorderRequestId) ∨
      id ∈ acknowledged steps
  once    : (acknowledged steps).Nodup
  ordered : (acknowledged steps).Pairwise fun a b => (issued steps).idxOf a < (issued steps).idxOf b
  manual  : ∀ id, Flagged steps id → ∀ acknowledgement ∈ acknowledgements steps,
    acknowledgement.recorderRequestId = id → acknowledgement.provenance = .manualFlag

-- The saves of a run, acknowledged or not, in the order of their signals.
def savesOf (steps : List (Step ι W)) (s : Supervisor ι) : List (ι × SaveProvenance) :=
  (acknowledgements steps).map (fun a => (a.recorderRequestId, a.provenance)) ++
    (s.inFlight.toList ++ s.queued.toList).map fun p => (p.recorderRequestId, p.provenance)

-- The saves of a run are those that have been issued, in the order of their first issue.
structure InOrder (steps : List (Step ι W)) (s : Supervisor ι) : Prop where
  inFlight : s.queued.isSome → s.inFlight.isSome
  issued   : ∀ id, id ∈ issued steps ↔ id ∈ (savesOf steps s).map Prod.fst
  ordered  : ((savesOf steps s).map Prod.fst).Pairwise fun a b =>
    (Capture.issued steps).idxOf a < (Capture.issued steps).idxOf b
  manual   : ∀ id, Flagged steps id → ∀ save ∈ savesOf steps s, save.1 = id → save.2 = .manualFlag
  asked    : ∀ id ∈ Capture.issued steps, id ∈ requestedIds (steps.map (·.call))

variable {steps : List (Step ι W)} {step : Step ι W} {s : Supervisor ι} {id : ι}

section Append

omit [DecidableEq ι]

theorem issued_append :
    issued (steps ++ [step]) =
      issued steps ++ (step.reply.outcome?.map (·.recorderRequestId)).toList := by
  cases h : step.reply.outcome? <;> simp [issued, h]

theorem acknowledgements_append :
    acknowledgements (steps ++ [step]) =
      acknowledgements steps ++ step.reply.acknowledgement?.toList := by
  cases h : step.reply.acknowledgement? <;> simp [acknowledgements, h]

theorem flagged_append :
    Flagged (steps ++ [step]) id ↔ Flagged steps id ∨ Flagged [step] id := by
  simp only [Flagged, List.mem_append, or_and_right, exists_or]

theorem requestedIds_append {call : Call ι × W} {calls : List (Call ι × W)} :
    requestedIds (calls ++ [call]) = requestedIds calls ++ requestedIds [call] :=
  List.filterMap_append

theorem Flagged.outcome? (h : Flagged [step] id) :
    step.reply.outcome? = some ⟨id, .coalesced⟩ := by
  obtain ⟨step', hmem, _, _, houtcome⟩ := h
  rwa [← List.mem_singleton.mp hmem]

theorem Flagged.eq_of_outcome? {id' : ι} {disposition : SaveDisposition} (h : Flagged [step] id)
    (houtcome : step.reply.outcome? = some ⟨id', disposition⟩) : id' = id := by
  have heq := houtcome.symm.trans h.outcome?
  simp only [Option.some.injEq, SaveRequestOutcome.mk.injEq] at heq
  exact heq.1

theorem Flagged.provenance_eq {requested : ι} {provenance : SaveProvenance}
    (h : Flagged [step] id) (hcall : step.call.1 = .requestSave requested provenance) :
    provenance = .manualFlag := by
  obtain ⟨step', hmem, _, hcall', _⟩ := h
  rw [List.mem_singleton.mp hmem, hcall] at hcall'
  cases hcall'
  rfl

theorem Flagged.issued (h : Flagged steps id) : id ∈ issued steps := by
  obtain ⟨step, hmem, _, _, houtcome⟩ := h
  exact List.mem_filterMap.mpr ⟨step, hmem, by simp [houtcome]⟩

theorem upgrade_provenance {queued : PendingSave ι} {provenance : SaveProvenance}
    (h : provenance = .manualFlag ∨ queued.provenance = .manualFlag) :
    (Supervisor.upgrade queued provenance).provenance = .manualFlag := by
  unfold Supervisor.upgrade
  split
  case isTrue => rfl
  case isFalse hp => exact h.resolve_left hp

end Append

namespace InOrder

theorem nodup (h : InOrder steps s) : ((savesOf steps s).map Prod.fst).Nodup := by
  apply h.ordered.imp
  intro a b hlt heq
  exact absurd hlt (by simp [heq])

theorem acknowledged_ordered (h : InOrder steps s) :
    (acknowledged steps).Pairwise fun a b =>
      (Capture.issued steps).idxOf a < (Capture.issued steps).idxOf b := by
  have hordered := h.ordered
  rw [savesOf, List.map_append, List.map_map] at hordered
  exact (List.pairwise_append.mp hordered).1

theorem noSaveLost (h : InOrder steps s) : NoSaveLost steps s where
  kept := by
    intro id hid
    have hmem := (h.issued id).mp hid
    simp only [savesOf, List.map_append, List.map_map, List.mem_append] at hmem
    rcases hmem with hmem | hmem | hmem
    · exact .inr (.inr hmem)
    · exact .inl (by simpa [eq_comm] using hmem)
    · exact .inr (.inl (by simpa [eq_comm] using hmem))
  once := by
    have hnodup := h.nodup
    rw [savesOf, List.map_append, List.map_map] at hnodup
    exact (List.nodup_append.mp hnodup).1
  ordered := h.acknowledged_ordered
  manual := by
    intro id hid acknowledgement hack
    exact h.manual id hid (acknowledgement.recorderRequestId, acknowledgement.provenance)
      (List.mem_append_left _ (List.mem_map_of_mem hack))

-- The step issues nothing, and keeps the saves as they are.
theorem same (h : InOrder steps s) {after : Supervisor ι} (houtcome : step.reply.outcome? = none)
    (hsaves : savesOf (steps ++ [step]) after = savesOf steps s)
    (hinFlight : after.queued.isSome → after.inFlight.isSome) :
    InOrder (steps ++ [step]) after := by
  have hissued : Capture.issued (steps ++ [step]) = Capture.issued steps := by
    simp [issued_append, houtcome]
  exact {
    inFlight := hinFlight
    issued := by rw [hissued, hsaves]; exact h.issued
    ordered := by rw [hissued, hsaves]; exact h.ordered
    manual := by
      intro id hid
      rcases flagged_append.mp hid with hid | hid
      · rw [hsaves]; exact h.manual id hid
      · cases houtcome.symm.trans hid.outcome?
    asked := by
      rw [hissued, List.map_append]
      intro id hid
      exact requestedIds_append ▸ List.mem_append_left _ (h.asked id hid) }

-- The step issues a save that is new.
theorem append (h : InOrder steps s) {after : Supervisor ι} (provenance : SaveProvenance)
    {disposition : SaveDisposition} (houtcome : step.reply.outcome? = some ⟨id, disposition⟩)
    (hsaves : savesOf (steps ++ [step]) after = savesOf steps s ++ [(id, provenance)])
    (hinFlight : after.inFlight.isSome) (hnew : id ∉ Capture.issued steps)
    (hmanual : Flagged [step] id → provenance = .manualFlag) (hasked : id ∈ requestedIds [step.call]) :
    InOrder (steps ++ [step]) after := by
  have hissued : Capture.issued (steps ++ [step]) = Capture.issued steps ++ [id] := by
    simp [issued_append, houtcome]
  have hold : ∀ a ∈ (savesOf steps s).map Prod.fst, a ∈ Capture.issued steps :=
    fun a => (h.issued a).mpr
  exact {
    inFlight := fun _ => hinFlight
    issued := by
      intro a
      simp only [hissued, hsaves, List.map_append, List.mem_append, h.issued a]
      simp
    ordered := by
      rw [hissued, hsaves, List.map_append, List.pairwise_append]
      refine ⟨?_, List.pairwise_singleton _ _, ?_⟩
      · apply h.ordered.imp_of_mem
        intro a b ha hb hlt
        rwa [List.idxOf_append_of_mem (hold a ha), List.idxOf_append_of_mem (hold b hb)]
      · intro a ha b hb
        rw [List.mem_singleton.mp hb, List.idxOf_append_of_mem (hold a ha),
          List.idxOf_append_of_notMem hnew]
        exact Nat.lt_add_right _ (List.idxOf_lt_length_of_mem (hold a ha))
    manual := by
      intro a ha save hsave heq
      rw [hsaves] at hsave
      rcases flagged_append.mp ha with ha | ha <;> rcases List.mem_append.mp hsave with hsave | hsave
      case inl.inl => exact h.manual a ha save hsave heq
      case inl.inr =>
        rw [List.mem_singleton.mp hsave] at heq
        subst heq
        exact absurd ha.issued hnew
      case inr.inl =>
        have hid := ha.eq_of_outcome? houtcome
        exact absurd (hold _ (List.mem_map_of_mem hsave)) (by rwa [heq, ← hid])
      case inr.inr =>
        rw [List.mem_singleton.mp hsave]
        exact hmanual (ha.eq_of_outcome? houtcome ▸ ha)
    asked := by
      intro a ha
      rw [List.map_append, List.map_singleton, requestedIds_append]
      rw [hissued, List.mem_append, List.mem_singleton] at ha
      rcases ha with ha | rfl
      · exact List.mem_append_left _ (h.asked a ha)
      · exact List.mem_append_right _ hasked }

-- The step issues the last save once more, and may change its provenance.
theorem upgrade (h : InOrder steps s) {after : Supervisor ι} (saves : List (ι × SaveProvenance))
    (provenance provenance' : SaveProvenance) {disposition : SaveDisposition}
    (houtcome : step.reply.outcome? = some ⟨id, disposition⟩)
    (hbefore : savesOf steps s = saves ++ [(id, provenance)])
    (hafter : savesOf (steps ++ [step]) after = saves ++ [(id, provenance')])
    (hinFlight : after.inFlight.isSome)
    (hkeep : provenance = .manualFlag → provenance' = .manualFlag)
    (hmanual : Flagged [step] id → provenance' = .manualFlag) :
    InOrder (steps ++ [step]) after := by
  have hids : (savesOf (steps ++ [step]) after).map Prod.fst = (savesOf steps s).map Prod.fst := by
    simp [hbefore, hafter]
  have hid : id ∈ Capture.issued steps := by
    rw [h.issued, hbefore]
    simp
  have hissued : Capture.issued (steps ++ [step]) = Capture.issued steps ++ [id] := by
    simp [issued_append, houtcome]
  exact {
    inFlight := fun _ => hinFlight
    issued := by
      intro a
      rw [hissued, hids, ← h.issued a, List.mem_append, List.mem_singleton]
      exact ⟨fun ha => ha.elim (fun ha => ha) fun ha => ha ▸ hid, .inl⟩
    ordered := by
      rw [hissued, hids]
      apply h.ordered.imp_of_mem
      intro a b ha hb hlt
      rwa [List.idxOf_append_of_mem ((h.issued a).mpr ha),
        List.idxOf_append_of_mem ((h.issued b).mpr hb)]
    manual := by
      intro a ha save hsave heq
      have hother : ∀ save ∈ saves, save.1 ≠ id := by
        have hnodup := h.nodup
        rw [hbefore, List.map_append, List.nodup_append] at hnodup
        intro save hsave
        exact hnodup.2.2 _ (List.mem_map_of_mem hsave) id (by simp)
      rw [hafter] at hsave
      rcases List.mem_append.mp hsave with hsave | hsave
      case inl =>
        rcases flagged_append.mp ha with ha | ha
        · exact h.manual a ha save (hbefore ▸ List.mem_append_left _ hsave) heq
        · exact absurd (heq.trans (ha.eq_of_outcome? houtcome).symm) (hother save hsave)
      case inr =>
        rw [List.mem_singleton.mp hsave] at heq ⊢
        subst heq
        rcases flagged_append.mp ha with ha | ha
        · exact hkeep (h.manual _ ha (id, provenance) (by simp [hbefore]) rfl)
        · exact hmanual ha
    asked := by
      intro a ha
      rw [List.map_append, List.map_singleton, requestedIds_append]
      rw [hissued, List.mem_append, List.mem_singleton] at ha
      apply List.mem_append_left
      rcases ha with ha | rfl
      · exact h.asked a ha
      · exact h.asked a hid }

end InOrder

namespace Supervisor

theorem Answers.inOrder {spawned : Bool}
    (h : Answers s step.call.1 false spawned step.reply step.after) (hs : InOrder steps s)
    (hnew : ∀ id ∈ requestedIds [step.call], id ∉ requestedIds (steps.map (·.call))) :
    InOrder (steps ++ [step]) step.after := by
  obtain ⟨before, ⟨call, w⟩, reply, after⟩ := step
  dsimp only at h hnew ⊢
  cases h with
  | rests houtcome hack hinFlight hqueued =>
    apply hs.same houtcome
    · simp [savesOf, acknowledgements_append, hack, hinFlight, hqueued]
    · rw [hinFlight, hqueued]
      exact hs.inFlight
  | spawned houtcome hack hinFlight hqueued =>
    apply hs.same houtcome
    · simp [savesOf, acknowledgements_append, hack, hinFlight, hqueued]
    · rw [hinFlight, hqueued]
      exact hs.inFlight
  | @sent id provenance wall now hrunning hinFlight =>
    have hqueued : s.queued = none := by
      have hslots := hs.inFlight
      rw [hinFlight] at hslots
      simpa using hslots
    apply hs.append provenance rfl
    · simp [savesOf, acknowledgements_append, Answer.acknowledgement?, Except.toOption,
        Reply.acknowledgement?, hinFlight, hqueued]
    · simp
    · intro hissued
      exact hnew id (by simp [requestedIds]) (hs.asked id hissued)
    · intro hflag
      cases hflag.outcome?
    · simp [requestedIds]
  | @coalesced id provenance pending queued hinFlight hqueued =>
    cases hq : s.queued with
    | none =>
      rw [hq] at hqueued
      subst hqueued
      apply hs.append (upgrade ⟨id, provenance, 0, 0⟩ provenance).provenance rfl
      · simp [savesOf, acknowledgements_append, Answer.acknowledgement?, Except.toOption,
          Reply.acknowledgement?, hinFlight, hq]
      · simp [hinFlight]
      · intro hissued
        exact hnew id (by simp [requestedIds]) (hs.asked id hissued)
      · intro hflag
        exact upgrade_provenance (.inl (hflag.provenance_eq rfl))
      · simp [requestedIds]
    | some last =>
      rw [hq] at hqueued
      subst hqueued
      apply hs.upgrade ((acknowledgements steps).map (fun a => (a.recorderRequestId, a.provenance)) ++
        [(pending.recorderRequestId, pending.provenance)]) last.provenance
        (upgrade last provenance).provenance rfl
      · simp [savesOf, hinFlight, hq]
      · simp [savesOf, acknowledgements_append, Answer.acknowledgement?, Except.toOption,
          Reply.acknowledgement?, hinFlight]
      · simp [hinFlight]
      · intro hmanual
        exact upgrade_provenance (.inr hmanual)
      · intro hflag
        exact upgrade_provenance (.inl (hflag.provenance_eq rfl))
  | served hinFlight hqueued houtcome hack =>
    apply hs.same houtcome
    · simp [savesOf, acknowledgements_append, hack, hinFlight, hqueued]
    · simp [hqueued]
  | followed hinFlight hqueued houtcome hack =>
    apply hs.same houtcome
    · simp [savesOf, acknowledgements_append, hack, hinFlight, hqueued]
    · simp

theorem Answers.lost_false {lost spawned : Bool}
    (h : Answers s step.call.1 lost spawned step.reply step.after) (hs : InOrder steps s)
    (hstep : NoSaveLost (steps ++ [step]) step.after) : lost = false := by
  obtain ⟨before, ⟨call, w⟩, reply, after⟩ := step
  dsimp only at h hstep
  cases h with
  | @dropped _ _ pending next hinFlight hqueued houtcome hack =>
    have hissued : next.recorderRequestId ∈ issued steps := by
      rw [hs.issued]
      simp [savesOf, hqueued]
    have hkept := hstep.kept next.recorderRequestId (by simp [issued_append, hissued])
    have hnodup := hs.nodup
    simp [savesOf, acknowledged, acknowledgements_append, hack, hinFlight, hqueued,
      List.nodup_append] at hkept hnodup
    obtain ⟨a, ha, heq⟩ := hkept
    exact absurd heq (hnodup.2.2 a ha).2
  | _ => rfl

omit [DecidableEq ι] in
theorem newIds (ports : Ports W) {calls : List (Call ι × W)}
    (h : (requestedIds (steps.map (·.call) ++ calls)).Nodup) :
    Machine.Each (answer ports)
      (fun steps _ call => ∀ id ∈ requestedIds [call], id ∉ requestedIds (steps.map (·.call)))
      steps s calls := by
  induction calls generalizing steps s
  case nil => exact True.intro
  case cons call calls ih =>
    constructor
    · intro id hid hmem
      rw [← List.singleton_append, ← List.append_assoc, requestedIds, List.filterMap_append,
        List.nodup_append] at h
      have hnodup := h.1
      rw [List.filterMap_append, List.nodup_append] at hnodup
      exact hnodup.2.2 id hmem id hid rfl
    · apply ih
      simpa [Machine.step] using h

-- No save is lost exactly as long as the signal for a queued save never fails.
theorem noSaveLost_iff (ports : Ports W) (config : Config) (calls : List (Call ι × W))
    (hids : (requestedIds calls).Nodup) :
    Machine.Always (answer ports) NoSaveLost [] (new config) calls ↔
      Machine.Each (answer ports) (fun _ s call => loses ports call s = false) []
        (new config) calls := by
  apply Machine.always_iff_each (I := InOrder)
  case hI => exact fun _ _ h => h.noSaveLost
  case hstep =>
    intro steps s call hs hnew hfine
    have h := step_answers ports s call
    rw [hfine] at h
    exact h.inOrder hs hnew
  case hfine =>
    intro steps s call hs _ hP
    exact (step_answers ports s call).lost_false hs hP
  case hs =>
    exact {
      inFlight := id
      issued := by simp [issued, savesOf, acknowledgements, new]
      ordered := by simp [savesOf, acknowledgements, new]
      manual := by simp [savesOf, acknowledgements, new]
      asked := by simp [issued] }
  case hfair => exact newIds ports hids

def clip (name : String) : Path :=
  [.rootDir, .normal "clips", .normal name]

-- A manual request is coalesced into the second save, and both outputs are found.
def followUpDemo : List (Call Nat × FakeWorld) :=
  [(.start, { clock := 0 }),
    (.requestSave 1 .manualFlag, { clock := 5 }),
    (.requestSave 2 .autoRoundEnd, { clock := 6 }),
    (.requestSave 3 .manualFlag, { clock := 7 }),
    (.acknowledge (clip "one.mp4"), { clock := 8 }),
    (.acknowledge (clip "two.mp4"), { clock := 9 })]

theorem noSaveLost_iff_followUp :
    Machine.Always (answer fakePorts) NoSaveLost [] (new fakeConfig) followUpDemo :=
  (noSaveLost_iff fakePorts fakeConfig followUpDemo (by decide)).mpr
    ⟨rfl, rfl, rfl, rfl, rfl, rfl, True.intro⟩

-- The recorder is gone when the output of the first save is acknowledged.
def lostDemo : List (Call Nat × FakeWorld) :=
  [(.start, { clock := 0 }),
    (.requestSave 1 .autoRoundEnd, { clock := 5 }),
    (.requestSave 2 .autoRoundEnd, { clock := 6 }),
    (.acknowledge (clip "one.mp4"), { clock := 7, reachable := false })]

theorem noSaveLost_fails_follow_up :
    ¬Machine.Always (answer fakePorts) NoSaveLost [] (new fakeConfig) lostDemo := by
  intro ⟨_, _, _, _, h⟩
  have hkept := h.kept 2 (by decide +kernel)
  revert hkept
  decide +kernel

end Supervisor

end Capture
