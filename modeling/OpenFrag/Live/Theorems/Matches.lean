import Mathlib.Data.List.Induction
import OpenFrag.Domain.Theorems.Highlight
import OpenFrag.Live.Matches
import OpenFrag.Live.Theorems.Coordinator
import OpenFrag.Live.Theorems.HashMap

open EStateM Machine
open Domain (CandidateTrigger HighlightCandidate)
open Gsi (EvidenceReceipt TransitionFact)

namespace Live

variable {W α : Type} {ports : Ports W} {host : Host W} {receipt : EvidenceReceipt}

section Keys

variable {map : HashMap α} {key key' : String} {value : α}

theorem containsKey_insert :
    (map.insert key value).containsKey key' ↔ map.containsKey key' ∨ key' = key := by
  unfold HashMap.containsKey
  by_cases h : key' = key
  case pos => simp [h, HashMap.get?_insert_self]
  case neg => simp [h, HashMap.get?_insert_of_ne h]

theorem containsKey_of_mem {entry : String × α} (h : entry ∈ map) : map.containsKey entry.1 := by
  unfold HashMap.containsKey HashMap.get?
  rw [List.lookup_isSome_iff]
  exact ⟨entry, h, by simp⟩

theorem autoId_inj {id other : String} : s!"auto:{id}" = s!"auto:{other}" ↔ id = other := by
  simp [toString]

end Keys

section Counts

variable {seen added more : Finset String} {ids : List String} {found : Option String}

-- What is added in two parts is counted once.
theorem card_union_sdiff :
    ((added ∪ more) \ seen).card = (added \ seen).card + (more \ (seen ∪ added)).card := by
  have hdisjoint : Disjoint (added \ seen) (more \ (seen ∪ added)) := by
    rw [Finset.disjoint_left]
    intro id hid hid'
    simp only [Finset.mem_sdiff, Finset.mem_union, not_or] at hid hid'
    exact hid'.2.2 hid.1
  rw [← Finset.card_union_of_disjoint hdisjoint]
  congr 1
  ext id
  simp only [Finset.mem_sdiff, Finset.mem_union]
  tauto

theorem card_eq_length_iff :
    (ids.toFinset \ seen).card = ids.length ↔ ids.Nodup ∧ ∀ id ∈ ids, id ∉ seen := by
  constructor
  · intro h
    have hle : (ids.toFinset \ seen).card ≤ ids.toFinset.card :=
      Finset.card_le_card Finset.sdiff_subset
    have hlength := ids.toFinset_card_le
    have hnodup : ids.Nodup := by
      rw [← List.dedup_eq_self]
      apply (List.dedup_sublist ids).eq_of_length
      rw [← List.card_toFinset]
      omega
    have hall : ids.toFinset \ seen = ids.toFinset :=
      Finset.eq_of_subset_of_card_le Finset.sdiff_subset (by omega)
    refine ⟨hnodup, fun id hid => ?_⟩
    have hmem : id ∈ ids.toFinset \ seen := by
      rw [hall]
      exact List.mem_toFinset.mpr hid
    exact (Finset.mem_sdiff.mp hmem).2
  · rintro ⟨hnodup, hnew⟩
    have hdisjoint : Disjoint ids.toFinset seen :=
      Finset.disjoint_left.mpr fun id hid => hnew id (List.mem_toFinset.mp hid)
    rw [Finset.sdiff_eq_self_of_disjoint hdisjoint, List.toFinset_card_of_nodup hnodup]

theorem card_eq_one_iff : (found.toFinset \ seen).card = 1 ↔ ∃ id, found = some id ∧ id ∉ seen := by
  cases found
  case none => simp
  case some id =>
    by_cases h : id ∈ seen
    case pos => simp [h, Finset.sdiff_eq_empty_iff_subset.mpr (Finset.singleton_subset_iff.mpr h)]
    case neg =>
      have hdisjoint : Disjoint {id} seen := Finset.disjoint_singleton_left.mpr h
      simp [h, Finset.sdiff_eq_self_of_disjoint hdisjoint]

end Counts

-- The rounds that a coordinator has captured, those it has a candidate for, and its receipts.
structure Knows (ended counted : Finset String) (ids : List String) (c : Coordinator) : Prop where
  captures   : ∀ id, c.captures.containsKey s!"auto:{id}" ↔ id ∈ ended
  candidates : ∀ id, c.candidates.containsKey id ↔ id ∈ counted
  receipts   : ∀ id, id ∈ c.processedReceipts ↔ id ∈ ids

namespace Knows

variable {ended made : Finset String} {ids : List String} {c : Coordinator}

theorem propose (h : Knows ended made ids c) (id : String) (record : CandidateRecord) :
    Knows ended (made ∪ {id}) ids { c with candidates := c.candidates.insert id record } where
  captures   := h.captures
  candidates := fun id' => by simp [containsKey_insert, h.candidates, or_comm]
  receipts   := h.receipts

theorem capture (h : Knows ended made ids c) (id : String) (capture : CaptureRecord)
    (timers : HashMap String) :
    Knows (ended ∪ {id}) made ids { c with
      timers   := timers
      captures := c.captures.insert s!"auto:{id}" capture } where
  captures   := fun id' => by
    simp only [containsKey_insert, h.captures, autoId_inj]
    simp [or_comm]
  candidates := h.candidates
  receipts   := h.receipts

-- A capture that is there already is stored again.
theorem store (h : Knows ended made ids c) {key : String} (hkey : c.captures.containsKey key)
    (capture : CaptureRecord) :
    Knows ended made ids { c with captures := c.captures.insert key capture } where
  captures   := fun id => by
    simp only [containsKey_insert, h.captures, or_iff_left_iff_imp]
    intro heq
    exact (h.captures id).mp (heq ▸ hkey)
  candidates := h.candidates
  receipts   := h.receipts

theorem process (h : Knows ended made ids c) (id : String) :
    Knows ended made (ids ++ [id]) { c with processedReceipts := id :: c.processedReceipts } where
  captures   := h.captures
  candidates := h.candidates
  receipts   := fun id' => by simp [h.receipts, or_comm]

end Knows


section Succeeds

variable {β : Type} {x : Method W α} {f : α → Method W β} {P : α → Coordinator → Prop}
variable {Q : β → Coordinator → Prop}

-- The method does not fail, and leaves the coordinator in a state with the property.
def Succeeds (x : Method W α) (host : Host W) (P : α → Coordinator → Prop) : Prop :=
  ∃ a host', x host = .ok a host' ∧ P a host'.coordinator

theorem Succeeds.bind (hx : Succeeds x host P)
    (hf : ∀ a host', P a host'.coordinator → Succeeds (f a) host' Q) : Succeeds (x >>= f) host Q := by
  obtain ⟨a, host', h, hP⟩ := hx
  obtain ⟨b, host'', h', hQ⟩ := hf a host' hP
  exact ⟨b, host'', (bind_ok h).trans h', hQ⟩

theorem Succeeds.pure {a : α} (h : P a host.coordinator) : Succeeds (Pure.pure a) host P :=
  ⟨a, host, rfl, h⟩

theorem Succeeds.self_bind {f : Coordinator → Method W β}
    (h : Succeeds (f host.coordinator) host Q) : Succeeds (Live.self >>= f) host Q := by
  obtain ⟨b, host', hrun, hQ⟩ := h
  exact ⟨b, host', (bind_ok self_apply).trans hrun, hQ⟩

theorem Succeeds.update {g : Coordinator → Coordinator} {P : Unit → Coordinator → Prop}
    (h : P () (g host.coordinator)) : Succeeds (W := W) (Live.update g) host P :=
  ⟨(), _, rfl, h⟩

theorem Succeeds.port {g : W → Except LiveDiagnostic α × W} {a : α} (hg : ∀ w, (g w).1 = .ok a)
    (h : P a host.coordinator) : Succeeds (Live.port g) host P := by
  refine ⟨a, { host with world := (g host.world).2 }, ?_, h⟩
  have hok := hg host.world
  rcases hresult : g host.world with ⟨_ | b, w⟩ <;> rw [hresult] at hok <;> cases hok
  simp [Live.port, hresult]

theorem Succeeds.attempt {g : W → Except LiveDiagnostic α × W} {a : α}
    {P : Except LiveDiagnostic α → Coordinator → Prop} (hg : ∀ w, (g w).1 = .ok a)
    (h : P (.ok a) host.coordinator) : Succeeds (Live.attempt g) host P :=
  ⟨.ok a, { host with world := (g host.world).2 }, by simp [Live.attempt, hg host.world], h⟩

theorem Succeeds.reading {g : W → α × W} (h : ∀ a, P a host.coordinator) :
    Succeeds (Live.reading g) host P :=
  ⟨_, _, rfl, h _⟩

theorem Succeeds.forM {g : α → Method W PUnit} {as : List α} {I : Coordinator → Prop}
    (hg : ∀ a ∈ as, ∀ host : Host W, I host.coordinator → Succeeds (g a) host fun _ => I)
    (h : I host.coordinator) : Succeeds (as.forM g) host fun _ => I := by
  induction as generalizing host
  case nil => exact .pure h
  case cons a as ih =>
    refine (hg a (by simp) host h).bind fun _ host' h' => ?_
    exact ih (fun b hb => hg b (by simp [hb])) h'

end Succeeds

section Ingest

variable {ended made : Finset String} {ids : List String}

-- The round for which a fact makes a candidate.
def countedRound (receipt : EvidenceReceipt) (fact : TransitionFact) : Option String :=
  if countsThree receipt fact then observedRoundId receipt else none

theorem new_point (captureSessionId roundId : String) (atMs : Nat) (trigger : CandidateTrigger)
    (receiptId : String) :
    ∃ c, HighlightCandidate.new captureSessionId roundId ⟨atMs, atMs⟩ trigger receiptId = .ok c := by
  simp [HighlightCandidate.new]

theorem roundCandidate_ok (existing : Option CandidateRecord) (official : HighlightCandidate)
    (roundEndMs : Nat) :
    ∃ candidate, Coordinator.roundCandidate existing official roundEndMs = .ok candidate := by
  cases existing
  case none => exact ⟨official, rfl⟩
  case some existing =>
    unfold Coordinator.roundCandidate
    cases hmerged : Domain.mergeCandidates [{ existing.candidate with
        range.endMs := max roundEndMs existing.candidate.range.endMs }, official]
    case nil => exact absurd hmerged (HighlightCandidate.mergeCandidates_ne_nil (by simp))
    case cons candidate _ => exact ⟨candidate, by simp only [hmerged]⟩

theorem createCandidate_succeeds (receipt : EvidenceReceipt) (hworks : ports.Works)
    (h : Knows ended made ids host.coordinator) (receiptId : String) {previous current delta : Int}
    (hguard : previous ≥ 0 ∧ delta > 0 ∧ current ≥ 3) :
    Succeeds (Coordinator.createCandidate ports receipt receiptId current) host fun created c =>
      let round := (countedRound receipt (.roundKillDelta previous current delta)).toFinset
      Knows ended (made ∪ round) ids c ∧ created.toNat = (round \ made).card := by
  obtain ⟨hprevious, hdelta, hcurrent⟩ := hguard
  have hskip (hnone : countedRound receipt (.roundKillDelta previous current delta) = none) :
      Succeeds (W := W) (pure false) host fun created c =>
        let round := (countedRound receipt (.roundKillDelta previous current delta)).toFinset
        Knows ended (made ∪ round) ids c ∧ created.toNat = (round \ made).card :=
    .pure (by simpa [hnone] using h)
  unfold Coordinator.createCandidate
  split
  case h_2 hnone =>
    apply hskip
    unfold countedRound observedRoundId countsThree
    cases hmap : receipt.context.mapHash <;> cases hround : receipt.context.observedRound <;>
      cases hkills : receipt.context.roundKills <;> simp_all
  case h_1 mapHash round kills hmap hround hkills =>
    have hid : observedRoundId receipt = some (roundId mapHash round) := by
      simp [observedRoundId, hmap, hround]
    split
    case isTrue hbad =>
      apply hskip
      simp only [countedRound, countsThree, hkills]
      simp only [MachineInt.Unsigned] at hbad
      simp
      omega
    case isFalse hgood =>
      rw [not_or, not_not, not_not] at hgood
      have hsmall : current < 256 := by simpa using hgood.2.2
      have hcounted : countedRound receipt (.roundKillDelta previous current delta) =
          some (roundId mapHash round) := by
        simp [countedRound, countsThree, hkills, hid, hgood.1, hprevious, hdelta, hcurrent, hsmall]
      have htrigger : Domain.liveKillTrigger true current.toNat = some .killMilestone := by
        simp [Domain.liveKillTrigger]
        omega
      simp only [htrigger, hcounted]
      apply Succeeds.self_bind
      by_cases hkey : host.coordinator.candidates.containsKey (roundId mapHash round)
      case pos =>
        rw [if_pos hkey]
        have hmade : {roundId mapHash round} ⊆ made :=
          Finset.singleton_subset_iff.mpr ((h.candidates _).mp hkey)
        refine .pure ⟨?_, ?_⟩
        · simpa [Finset.union_eq_left.mpr hmade] using h
        · simp [Finset.sdiff_eq_empty_iff_subset.mpr hmade]
      case neg =>
        rw [if_neg hkey]
        obtain ⟨candidate, hnew⟩ := new_point host.coordinator.captureSessionId
          (roundId mapHash round) (durationMs receipt) .killMilestone receiptId
        rw [hnew]
        refine Succeeds.bind (.port (hworks.upsertCandidate _) (P := fun _ => Knows ended made ids) h) ?_
        intro _ host' h'
        refine Succeeds.bind (.update (P := fun _ => Knows ended (made ∪ {roundId mapHash round}) ids)
          (h'.propose _ _)) ?_
        intro _ host'' h''
        have hnotin : roundId mapHash round ∉ made := fun hin => hkey ((h.candidates _).mpr hin)
        refine .pure ⟨by simpa using h'', ?_⟩
        exact (card_eq_one_iff.mpr ⟨_, rfl, hnotin⟩).symm

theorem scheduleRoundCapture_succeeds (hworks : ports.Works)
    (h : Knows ended made ids host.coordinator) (receiptId : String) {completed current : Nat} :
    Succeeds (Coordinator.scheduleRoundCapture ports receipt receiptId completed) host
      fun scheduled c =>
        let round := (endedRound receipt (.roundEnd completed current)).toFinset
        Knows (ended ∪ round) made ids c ∧ scheduled.toNat = (round \ ended).card := by
  unfold Coordinator.scheduleRoundCapture
  split
  case h_2 hnone =>
    have hround : endedRound receipt (.roundEnd completed current) = [] := by
      simp only [endedRound]
    exact .pure (by simpa [hround] using h)
  case h_1 mapHash round hmap hround =>
    have hended : endedRound receipt (.roundEnd completed current) = [roundId mapHash completed] := by
      simp [endedRound, hmap, hround]
    simp only [hended]
    apply Succeeds.self_bind
    by_cases hkey : host.coordinator.captures.containsKey s!"auto:{roundId mapHash completed}"
    case pos =>
      rw [if_pos hkey]
      have hsubset : {roundId mapHash completed} ⊆ ended :=
        Finset.singleton_subset_iff.mpr ((h.captures _).mp hkey)
      refine .pure ⟨?_, ?_⟩
      · simpa [Finset.union_eq_left.mpr hsubset] using h
      · simp [Finset.sdiff_eq_empty_iff_subset.mpr hsubset]
    case neg =>
      rw [if_neg hkey]
      obtain ⟨official, hnew⟩ := new_point host.coordinator.captureSessionId
        (roundId mapHash completed) (durationMs receipt) .officialRoundEndCapture receiptId
      obtain ⟨candidate, hcandidate⟩ := roundCandidate_ok
        (host.coordinator.candidates.get? (roundId mapHash completed)) official
        (durationMs receipt)
      simp only [hnew, hcandidate]
      unfold Coordinator.scheduleCapture
      refine Succeeds.bind (.port (hworks.schedule _ _) (P := fun _ => Knows ended made ids) h) ?_
      intro _ host' h'
      refine Succeeds.bind (.attempt (hworks.upsertCapture _)
        (P := fun result c => result = .ok () ∧ Knows ended made ids c) ⟨rfl, h'⟩) ?_
      rintro _ host'' ⟨rfl, h''⟩
      refine Succeeds.bind (.update (P := fun _ => Knows (ended ∪ {roundId mapHash completed}) made ids)
        (h''.capture _ _ _)) ?_
      intro _ host₃ h₃
      have hnotin : roundId mapHash completed ∉ ended := fun hin => hkey ((h.captures _).mpr hin)
      refine .pure ⟨by simpa using h₃, ?_⟩
      simpa using (card_eq_one_iff.mpr ⟨_, rfl, hnotin⟩).symm

theorem cancelCapture_succeeds (hworks : ports.Works) (reason : CancelReason) {key : String}
    (h : Knows ended made ids host.coordinator)
    (hkey : host.coordinator.captures.containsKey key) :
    Succeeds (Coordinator.cancelCapture ports reason key) host fun _ c =>
      Knows ended made ids c ∧
        ∀ key', host.coordinator.captures.containsKey key' → c.captures.containsKey key' := by
  obtain ⟨capture, hcapture⟩ := Option.isSome_iff_exists.mp hkey
  unfold Coordinator.cancelCapture
  apply Succeeds.self_bind
  simp only [hcapture]
  have hstore (host' : Host W) (hsame : host'.coordinator = host.coordinator) :
      Succeeds (Coordinator.store ports { capture with status := .cancelled reason } key) host'
        fun _ c => Knows ended made ids c ∧
          ∀ key', host.coordinator.captures.containsKey key' → c.captures.containsKey key' := by
    rw [← hsame] at h hkey
    refine Succeeds.bind (.port (hworks.upsertCapture _)
      (P := fun _ c => c = host.coordinator) hsame) ?_
    intro _ host'' hsame'
    rw [hsame, ← hsame'] at h hkey
    refine .update ⟨h.store hkey _, ?_⟩
    intro key' hkey'
    rw [← hsame'] at hkey'
    exact containsKey_insert.mpr (.inl hkey')
  split
  case h_1 =>
    exact Succeeds.bind (.port (hworks.cancel _) (P := fun _ c => c = host.coordinator) rfl)
      fun _ => hstore
  case h_2 => exact hstore host rfl

theorem cancelUnsaved_succeeds (hworks : ports.Works) (reason : CancelReason)
    (h : Knows ended made ids host.coordinator) :
    Succeeds (Coordinator.cancelUnsaved ports reason) host fun _ => Knows ended made ids := by
  unfold Coordinator.cancelUnsaved
  apply Succeeds.self_bind
  refine Succeeds.bind (.reading (P := fun _ c => c = host.coordinator) fun _ => rfl) ?_
  intro rank host' hsame
  have hids (p : String × CaptureRecord → Bool) (order : String → String → Bool) :
      ∀ key ∈ ((host.coordinator.captures.filter p).map Prod.fst).mergeSort order,
        host'.coordinator.captures.containsKey key := by
    intro key hkey
    rw [List.mem_mergeSort, List.mem_map] at hkey
    obtain ⟨_, hentry, heq⟩ := hkey
    rw [hsame]
    exact heq ▸ containsKey_of_mem (List.mem_filter.mp hentry).1
  rw [← hsame] at h
  refine Succeeds.bind (Succeeds.forM (I := fun c => Knows ended made ids c ∧
    ∀ key, host'.coordinator.captures.containsKey key → c.captures.containsKey key) ?_
      ⟨h, fun _ hkey => hkey⟩) fun _ _ h' => .pure h'.1
  rintro key hkey host'' ⟨h'', hkeys⟩
  obtain ⟨_, host₃, hrun, h₃, hkept⟩ :=
    cancelCapture_succeeds hworks reason h'' (hkeys key (hids _ _ key hkey))
  exact ⟨_, host₃, hrun, h₃, fun key' hkey' => hkept key' (hkeys key' hkey')⟩

theorem ingestFact_succeeds (hworks : ports.Works)
    (h : Knows ended made ids host.coordinator) (receiptId : String) (outcome : IngestOutcome)
    (fact : TransitionFact) :
    Succeeds (Coordinator.ingestFact ports receipt receiptId outcome fact) host fun outcome' c =>
      Knows (ended ∪ (endedRound receipt fact).toFinset)
        (made ∪ (countedRound receipt fact).toFinset) ids c ∧
      outcome'.capturesScheduled =
        outcome.capturesScheduled + ((endedRound receipt fact).toFinset \ ended).card ∧
      outcome'.candidatesCreated =
        outcome.candidatesCreated + ((countedRound receipt fact).toFinset \ made).card := by
  cases fact
  case roundKillDelta previous current delta =>
    simp only [Coordinator.ingestFact, endedRound]
    split
    case isTrue hguard =>
      have hcreate := createCandidate_succeeds receipt hworks h receiptId hguard
      apply hcreate.bind
      rintro created host' ⟨hknows, hcreated⟩
      exact .pure ⟨by simpa using hknows, by simp, by simp [hcreated]⟩
    case isFalse hguard =>
      have hnone : countedRound receipt (.roundKillDelta previous current delta) = none := by
        simp only [countedRound, countsThree]
        simp
        omega
      exact .pure ⟨by simpa [hnone] using h, by simp, by simp [hnone]⟩
  case roundEnd completed next =>
    have hnone : countedRound receipt (.roundEnd completed next) = none := by
      simp [countedRound, countsThree]
    simp only [Coordinator.ingestFact]
    apply (scheduleRoundCapture_succeeds hworks h receiptId).bind
    rintro scheduled host' ⟨hknows, hscheduled⟩
    exact .pure ⟨by simpa [hnone] using hknows, by simp [hscheduled], by simp [hnone]⟩
  all_goals exact .pure ⟨by simpa [endedRound, countedRound, countsThree] using h,
    by simp [endedRound], by simp [countedRound, countsThree]⟩

theorem filterMap_toFinset {f : TransitionFact → Option String} {fact : TransitionFact}
    {facts : List TransitionFact} :
    ((fact :: facts).filterMap f).toFinset = (f fact).toFinset ∪ (facts.filterMap f).toFinset := by
  cases h : f fact
  case none => simp [h]
  case some id =>
    rw [List.filterMap_cons_some h, List.toFinset_cons]
    rfl

theorem ingestFacts_succeeds (hworks : ports.Works) (receiptId : String)
    (facts : List TransitionFact) (outcome : IngestOutcome)
    (h : Knows ended made ids host.coordinator) :
    Succeeds (facts.foldlM (Coordinator.ingestFact ports receipt receiptId) outcome) host
      fun outcome' c =>
        Knows (ended ∪ (facts.flatMap (endedRound receipt)).toFinset)
          (made ∪ (facts.filterMap (countedRound receipt)).toFinset) ids c ∧
        outcome'.capturesScheduled = outcome.capturesScheduled +
          ((facts.flatMap (endedRound receipt)).toFinset \ ended).card ∧
        outcome'.candidatesCreated = outcome.candidatesCreated +
          ((facts.filterMap (countedRound receipt)).toFinset \ made).card := by
  induction facts generalizing outcome ended made host
  case nil => exact .pure ⟨by simpa using h, by simp, by simp⟩
  case cons fact facts ih =>
    rw [List.foldlM_cons]
    apply (ingestFact_succeeds hworks h receiptId outcome fact).bind
    rintro outcome' host' ⟨hknows, hcaptures, hcandidates⟩
    obtain ⟨outcome'', host'', hrun, hknows', hcaptures', hcandidates'⟩ := ih outcome' hknows
    refine ⟨outcome'', host'', hrun, ?_, ?_, ?_⟩
    · rw [List.flatMap_cons, List.toFinset_append, filterMap_toFinset, ← Finset.union_assoc,
        ← Finset.union_assoc]
      exact hknows'
    · rw [List.flatMap_cons, List.toFinset_append, card_union_sdiff, hcaptures', hcaptures,
        Nat.add_assoc]
    · rw [filterMap_toFinset, card_union_sdiff, hcandidates', hcandidates, Nat.add_assoc]

theorem counted_toFinset :
    (receipt.facts.filterMap (countedRound receipt)).toFinset = (counted receipt).toFinset := by
  ext id
  simp [counted, countedRound]
  tauto

theorem ingest_again (hworks : ports.Works) (h : Knows ended made ids host.coordinator)
    (hagain : receiptId receipt ∈ ids) :
    Succeeds (Coordinator.ingest ports receipt) host fun outcome c =>
      outcome = {} ∧ Knows ended made ids c := by
  unfold Coordinator.ingest
  refine Succeeds.bind (.port (hworks.persistReceipt _) (P := fun _ => Knows ended made ids) h) ?_
  intro _ host' h'
  apply Succeeds.self_bind
  rw [if_pos (List.contains_iff_mem.mpr ((h'.receipts _).mpr hagain))]
  exact .pure ⟨rfl, h'⟩

-- The part of an ingestion that follows the cancellations.
theorem ingestFacts_processed (receipt : EvidenceReceipt) (hworks : ports.Works)
    (outcome : IngestOutcome)
    (hcaptures : outcome.capturesScheduled = 0) (hcandidates : outcome.candidatesCreated = 0)
    (h : Knows ended made ids host.coordinator) :
    Succeeds (do
        let outcome' ← receipt.facts.foldlM
          (Coordinator.ingestFact ports receipt (receiptId receipt)) outcome
        update fun c => { c with processedReceipts := receiptId receipt :: c.processedReceipts }
        return outcome') host fun outcome' c =>
      Knows (ended ∪ (endedRounds receipt).toFinset) (made ∪ (counted receipt).toFinset)
        (ids ++ [receiptId receipt]) c ∧
      outcome'.capturesScheduled = ((endedRounds receipt).toFinset \ ended).card ∧
      outcome'.candidatesCreated = ((counted receipt).toFinset \ made).card := by
  apply (ingestFacts_succeeds hworks (receiptId receipt) receipt.facts outcome h).bind
  rintro outcome' host' ⟨hknows, hscheduled, hcreated⟩
  rw [counted_toFinset] at hknows hcreated
  refine Succeeds.bind (.update (P := fun _ => Knows (ended ∪ (endedRounds receipt).toFinset)
    (made ∪ (counted receipt).toFinset) (ids ++ [receiptId receipt])) (hknows.process _)) ?_
  intro _ host'' h''
  rw [hcaptures, Nat.zero_add] at hscheduled
  rw [hcandidates, Nat.zero_add] at hcreated
  exact .pure ⟨h'', hscheduled, hcreated⟩

theorem ingest_new (hworks : ports.Works) (h : Knows ended made ids host.coordinator)
    (hnew : receiptId receipt ∉ ids) :
    Succeeds (Coordinator.ingest ports receipt) host fun outcome c =>
      Knows (ended ∪ (endedRounds receipt).toFinset) (made ∪ (counted receipt).toFinset)
        (ids ++ [receiptId receipt]) c ∧
      outcome.capturesScheduled = ((endedRounds receipt).toFinset \ ended).card ∧
      outcome.candidatesCreated = ((counted receipt).toFinset \ made).card := by
  unfold Coordinator.ingest
  refine Succeeds.bind (.port (hworks.persistReceipt _) (P := fun _ => Knows ended made ids) h) ?_
  intro _ host' h'
  apply Succeeds.self_bind
  rw [if_neg (fun hin => hnew ((h'.receipts _).mp (List.contains_iff_mem.mp hin)))]
  have hrest (capturesCancelled : Nat) (host'' : Host W)
      (h'' : Knows ended made ids host''.coordinator) :=
    ingestFacts_processed receipt hworks { capturesCancelled } rfl rfl h''
  split
  case h_1 => exact (cancelUnsaved_succeeds hworks _ h').bind hrest
  case h_2 => exact (cancelUnsaved_succeeds hworks _ h').bind hrest
  case h_3 => exact hrest 0 host' h'

end Ingest

section News

variable {earlier : List EvidenceReceipt}

theorem news_append : news (earlier ++ [receipt]) =
    if receiptId receipt ∈ (news earlier).map receiptId then news earlier
    else news earlier ++ [receipt] := by
  simp [news, List.foldl_append]

theorem mem_news_ids {id : String} :
    id ∈ (news earlier).map receiptId ↔ id ∈ earlier.map receiptId := by
  induction earlier using List.reverseRecOn
  case nil => rfl
  case append_singleton earlier receipt ih =>
    rw [news_append, List.map_append, List.mem_append, ← ih]
    split
    case isTrue hagain =>
      refine ⟨.inl, fun hid => hid.elim (fun h => h) fun hlast => ?_⟩
      rw [List.map_singleton, List.mem_singleton] at hlast
      exact hlast ▸ hagain
    case isFalse => simp

theorem news_again (h : Ingested earlier receipt) : news (earlier ++ [receipt]) = news earlier := by
  rw [news_append, if_pos (mem_news_ids.mpr h)]

theorem news_new (h : ¬Ingested earlier receipt) :
    news (earlier ++ [receipt]) = news earlier ++ [receipt] := by
  rw [news_append, if_neg (mt mem_news_ids.mp h)]

theorem endedBefore_new (h : ¬Ingested earlier receipt) :
    endedBefore (earlier ++ [receipt]) = endedBefore earlier ∪ (endedRounds receipt).toFinset := by
  simp [endedBefore, news_new h]

theorem countedBefore_new (h : ¬Ingested earlier receipt) :
    countedBefore (earlier ++ [receipt]) = countedBefore earlier ∪ (counted receipt).toFinset := by
  unfold countedBefore
  rw [news_new h, List.filterMap_append, List.toFinset_append]
  cases hcounted : counted receipt
  case none => simp [hcounted]
  case some id => simp [hcounted]

end News

section Run

variable {steps : List (Ingestion W)}

abbrev earlier (steps : List (Ingestion W)) : List EvidenceReceipt :=
  steps.map Machine.Step.call

theorem earlier_step (ports : Ports W) (host : Host W) (receipt : EvidenceReceipt) :
    earlier (steps ++ [Machine.step (ingesting ports) host receipt]) =
      earlier steps ++ [receipt] := by
  simp [Machine.step]

-- A coordinator has used what the receipts of its run have asked for.
def Used (steps : List (Ingestion W)) (host : Host W) : Prop :=
  Knows (endedBefore (earlier steps)) (countedBefore (earlier steps))
    ((earlier steps).map receiptId) host.coordinator

theorem used_new (captureSessionId : String) (recorder : RecorderFacade) (w : W) :
    Used [] ⟨⟨.new captureSessionId, recorder⟩, w⟩ where
  captures   := by simp [Coordinator.new, HashMap.containsKey, HashMap.get?, endedBefore, news]
  candidates := by simp [Coordinator.new, HashMap.containsKey, HashMap.get?, countedBefore, news]
  receipts   := by simp [Coordinator.new]

theorem ingesting_ok {outcome : IngestOutcome} {host' : Host W}
    (h : Coordinator.ingest ports receipt host = .ok outcome host') :
    ingesting ports receipt host = (.ok outcome, host') := by
  rw [ingesting, h]

-- One receipt is deduplicated, and what it asks for is used from then on.
theorem Used.step (hworks : ports.Works) (h : Used steps host) (receipt : EvidenceReceipt) :
    IngestDeduplicates ports steps host receipt ∧
      Used (steps ++ [Machine.step (ingesting ports) host receipt])
        (Machine.step (ingesting ports) host receipt).after := by
  unfold Used
  rw [earlier_step]
  by_cases hagain : Ingested (earlier steps) receipt
  case pos =>
    obtain ⟨outcome, host', hrun, houtcome, hknows⟩ := ingest_again hworks h hagain
    have hstep := ingesting_ok hrun
    constructor
    · exact ⟨outcome, by rw [hstep], fun _ => houtcome, absurd hagain, absurd hagain⟩
    · rw [Machine.step, hstep, endedBefore, countedBefore, news_again hagain]
      refine { hknows with receipts := fun id => ?_ }
      rw [hknows.receipts, List.map_append, List.mem_append, List.map_singleton,
        List.mem_singleton, or_iff_left_of_imp]
      exact fun heq => heq ▸ hagain
  case neg =>
    obtain ⟨outcome, host', hrun, hknows, hcaptures, hcandidates⟩ := ingest_new hworks h hagain
    have hstep := ingesting_ok hrun
    constructor
    · exact ⟨outcome, by rw [hstep], fun h => absurd h hagain, fun _ => hcaptures,
        fun _ => hcandidates⟩
    · rw [Machine.step, hstep, endedBefore_new hagain, countedBefore_new hagain, List.map_append]
      exact hknows

theorem fakePorts_works : fakePorts.Works where
  persistReceipt _ _  := rfl
  upsertCandidate _ _ := rfl
  upsertCapture _ _   := rfl
  schedule _ _ _      := rfl
  cancel _ _          := rfl

-- Two matches on one map, whose first rounds end.
def rematch : List EvidenceReceipt :=
  [fakeReceipt 1 .healthy [.roundEnd 1 2], fakeReceipt 2 .sessionReset [],
    fakeReceipt 3 .healthy [.roundEnd 1 2]]

-- Along every run a receipt adds the rounds that have not been used before, and nothing else.
theorem ingest_deduplicates (hworks : ports.Works) (captureSessionId : String)
    (recorder : RecorderFacade) (w : W) (receipts : List EvidenceReceipt) :
    Each (ingesting ports) (IngestDeduplicates ports) [] ⟨⟨.new captureSessionId, recorder⟩, w⟩
      receipts := by
  apply (each_iff_each (I := Used) ?hstep ?hiff (used_new captureSessionId recorder w)).mpr
    Each.trivial
  case hstep => exact fun _ _ receipt h => (h.step hworks receipt).2
  case hiff => exact fun _ _ receipt h => iff_of_true (h.step hworks receipt).1 True.intro

theorem ingest_deduplicates_rematch :
    Each (ingesting fakePorts) (IngestDeduplicates fakePorts) []
      ⟨⟨.new "session", fakeSession.runtime.recorder⟩, { recorder := { clock := 0 } }⟩ rematch :=
  ingest_deduplicates fakePorts_works _ _ _ _

theorem observedRoundId_of_milestone {id : String} (h : milestone receipt = some id) :
    observedRoundId receipt = some id := by
  unfold milestone at h
  split at h
  case isTrue => exact h
  case isFalse => cases h

theorem counted_eq {id : String} (h : counted receipt = some id) :
    observedRoundId receipt = some id := by
  unfold counted at h
  split at h
  case isTrue => exact h
  case isFalse => cases h

-- A new receipt gets what it asks for exactly when nothing of it is used.
theorem captures_iff {before : List EvidenceReceipt} {outcome : IngestOutcome}
    (h : Deduplicated before receipt outcome) (hnew : ¬Ingested before receipt) :
    outcome.capturesScheduled = (endedRounds receipt).length ↔
      (endedRounds receipt).Nodup ∧ ∀ id ∈ endedRounds receipt, id ∉ endedBefore before := by
  rw [h.captures hnew, card_eq_length_iff]

theorem candidate_iff {before : List EvidenceReceipt} {outcome : IngestOutcome} {id : String}
    (h : Deduplicated before receipt outcome) (hnew : ¬Ingested before receipt)
    (hid : milestone receipt = some id) :
    outcome.candidatesCreated = 1 ↔ counted receipt = some id ∧ id ∉ countedBefore before := by
  rw [h.candidates hnew, card_eq_one_iff]
  constructor
  · rintro ⟨id', hcounted, hnotin⟩
    have heq := (counted_eq hcounted).symm.trans (observedRoundId_of_milestone hid)
    cases heq
    exact ⟨hcounted, hnotin⟩
  · rintro ⟨hcounted, hnotin⟩
    exact ⟨id, hcounted, hnotin⟩

theorem captured_iff {before : List EvidenceReceipt} {outcome : IngestOutcome}
    (h : Deduplicated before receipt outcome) (hnew : ¬Ingested before receipt) :
    Captured before receipt outcome ↔ Fresh before receipt := by
  constructor
  · intro hcaptured
    obtain ⟨honce, hunused⟩ := (captures_iff h hnew).mp hcaptured.captures
    exact ⟨honce, hunused, fun id hid =>
      (candidate_iff h hnew hid.1).mp (hcaptured.candidates id hid)⟩
  · intro hfresh
    exact ⟨(captures_iff h hnew).mpr ⟨hfresh.once, hfresh.captures⟩,
      fun id hid => (candidate_iff h hnew hid.1).mpr (hfresh.candidates id hid)⟩

-- Over any number of matches, every round gets its own capture and candidate exactly when no two
-- matches have a map and a number in common.
theorem ingestServes_iff (hworks : ports.Works) (captureSessionId : String)
    (recorder : RecorderFacade) (w : W) (receipts : List EvidenceReceipt) :
    Each (ingesting ports) (IngestServes ports) [] ⟨⟨.new captureSessionId, recorder⟩, w⟩
        receipts ↔
      Each (ingesting ports) IngestFresh [] ⟨⟨.new captureSessionId, recorder⟩, w⟩ receipts := by
  apply each_iff_each (I := Used) ?hstep ?hiff (used_new captureSessionId recorder w)
  case hstep => exact fun _ _ receipt h => (h.step hworks receipt).2
  case hiff =>
    intro steps host receipt h
    obtain ⟨outcome, hreply, hdedup⟩ := (h.step hworks receipt).1
    constructor
    · rintro ⟨outcome', hreply', hserved⟩ hnew
      cases hreply.symm.trans hreply'
      exact (captured_iff hdedup hnew).mp (hserved hnew)
    · exact fun hfresh =>
        ⟨outcome, hreply, fun hnew => (captured_iff hdedup hnew).mpr (hfresh hnew)⟩

theorem ingestServes_iff_rematch :
    ¬Each (ingesting fakePorts) (IngestServes fakePorts) []
      ⟨⟨.new "session", fakeSession.runtime.recorder⟩, { recorder := { clock := 0 } }⟩ rematch := by
  rw [ingestServes_iff fakePorts_works]
  rintro ⟨_, _, hlast, _⟩
  have hfresh := hlast (by decide +kernel)
  exact absurd (hfresh.captures "map:1" (by decide +kernel)) (by decide +kernel)

end Run

end Live
