import OpenFrag.Import.Normalize
import OpenFrag.Import.Theorems.Frames
import OpenFrag.Library.Traverse

open Except

namespace Import

section Loop

variable {toVec : Nat × String × DemoTick × RawFields → Except String (List UInt8)}
variable {sha256 : List UInt8 → String} {build : Option String}
variable {event : GameEvent} {ordinal : Nat} {e : ParsedEvent} {receipt : EventReceipt}

-- What the loop makes of one event.
def made (toVec : Nat × String × DemoTick × RawFields → Except String (List UInt8))
    (sha256 : List UInt8 → String) (build : Option String) (event : GameEvent)
    (ordinal : Nat) : Except ParseDiagnostic (ParsedEvent × EventReceipt) := do
  let normalized ← okOr (schemaDriftError build event) (normalizeEvent event.name event.rawFields)
  let bytes ← (toVec (ordinal, event.name, event.tick, event.rawFields)).mapError
    (receiptError build event)
  return (⟨event.tick, ordinal, normalized⟩, ⟨ordinal, event.name, event.tick, sha256 bytes⟩)

def Normalized.extendRound (acc : Normalized) (e : ParsedEvent) : Normalized :=
  match e.roundEnd? with
  | some roundEnd => { acc with
      roundNo := acc.roundNo + 1
      rounds  := acc.rounds ++ [⟨acc.roundNo + 1, e.tick, roundEnd.winner⟩] }
  | none          => acc

def Normalized.extend (acc : Normalized) (made : ParsedEvent × EventReceipt) : Normalized :=
  { acc.extendRound made.1 with
    events   := acc.events ++ [made.1]
    receipts := acc.receipts ++ [made.2] }

theorem normalizeEvent_name {name : String} {fields : RawFields} {normalized : NormalizedEvent}
    (h : normalizeEvent name fields = some normalized) : normalized.kind.name = name := by
  unfold normalizeEvent at h
  split at h
  case h_6 => cases h
  all_goals
    cases h
    rfl

-- The rounds end with the events that are named so, and with no others.
theorem pushRound_eq {acc : Normalized} {fields : RawFields} {normalized : NormalizedEvent}
    (ordinal : Nat) (h : normalizeEvent event.name fields = some normalized) :
    pushRound build acc event normalized = .ok (acc.extendRound ⟨event.tick, ordinal, normalized⟩) := by
  have hname := normalizeEvent_name h
  unfold pushRound
  rw [← hname]
  cases normalized
  case roundEnd => rfl
  all_goals exact if_neg (by simp [NormalizedEvent.kind, NormalizedEventKind.name])

theorem extendRound_events {acc : Normalized} : (acc.extendRound e).events = acc.events := by
  unfold Normalized.extendRound
  split <;> rfl

theorem extendRound_receipts {acc : Normalized} : (acc.extendRound e).receipts = acc.receipts := by
  unfold Normalized.extendRound
  split <;> rfl

theorem pushEvent_eq {acc : Normalized} : pushEvent toVec sha256 build acc event ordinal =
    (made toVec sha256 build event ordinal).map acc.extend := by
  unfold pushEvent made
  cases hnormalized : normalizeEvent event.name event.rawFields
  case none => rfl
  case some normalized =>
    simp only [okOr, pushRound_eq ordinal hnormalized, bind, Except.bind]
    cases toVec (ordinal, event.name, event.tick, event.rawFields)
    case error => rfl
    case ok bytes =>
      simp only [Except.mapError, pure, Except.pure, Except.map, Normalized.extend,
        extendRound_events, extendRound_receipts]

theorem normalizeEvents_eq {events : List GameEvent} : normalizeEvents toVec sha256 build events =
    (events.zipIdx.mapM fun event => made toVec sha256 build event.1 event.2).map
      (List.foldl Normalized.extend ⟨[], [], [], 0⟩) := by
  unfold normalizeEvents
  simp only [pushEvent_eq]
  exact foldlM_map_eq

-- The rounds that end with the events, numbered from the given number on.
def roundsFrom (roundNo : RoundNumber) : List ParsedEvent → List ParsedRound
  | []      => []
  | e :: es =>
    match e.roundEnd? with
    | some roundEnd => ⟨roundNo + 1, e.tick, roundEnd.winner⟩ :: roundsFrom (roundNo + 1) es
    | none          => roundsFrom roundNo es

theorem foldl_extend {pairs : List (ParsedEvent × EventReceipt)} {acc : Normalized} :
    let normalized := pairs.foldl Normalized.extend acc
    normalized.events = acc.events ++ pairs.map Prod.fst ∧
      normalized.receipts = acc.receipts ++ pairs.map Prod.snd ∧
      normalized.rounds = acc.rounds ++ roundsFrom acc.roundNo (pairs.map Prod.fst) := by
  induction pairs generalizing acc
  case nil => simp [roundsFrom]
  case cons pair pairs ih =>
    have ih' := @ih (acc.extend pair)
    obtain ⟨hevents, hreceipts, hrounds⟩ := ih'
    rw [List.foldl_cons]
    refine ⟨?_, ?_, ?_⟩
    · rw [hevents]
      simp [Normalized.extend]
    · rw [hreceipts]
      simp [Normalized.extend]
    · rw [hrounds, List.map_cons, roundsFrom]
      unfold Normalized.extend Normalized.extendRound
      cases pair.1.roundEnd?
      all_goals simp

theorem normalizeEvents_ok {events : List GameEvent} {normalized : Normalized}
    (h : normalizeEvents toVec sha256 build events = .ok normalized) :
    ∃ pairs : List (ParsedEvent × EventReceipt),
      List.Forall₂ (fun event pair => made toVec sha256 build event.1 event.2 = .ok pair)
        events.zipIdx pairs ∧
      normalized.events = pairs.map Prod.fst ∧ normalized.receipts = pairs.map Prod.snd ∧
      normalized.rounds = roundsFrom 0 (pairs.map Prod.fst) := by
  rw [normalizeEvents_eq] at h
  cases hpairs : events.zipIdx.mapM fun event => made toVec sha256 build event.1 event.2
  case error =>
    rw [hpairs] at h
    cases h
  case ok pairs =>
    rw [hpairs] at h
    cases h
    exact ⟨pairs, mapM_eq_ok_iff.mp hpairs, foldl_extend⟩

theorem made_ok {pair : ParsedEvent × EventReceipt}
    (h : made toVec sha256 build event ordinal = .ok pair) :
    pair.1.tick = event.tick ∧ pair.1.ingestionOrdinal = ordinal ∧
      normalizeEvent event.name event.rawFields = some pair.1.event ∧
      pair.2.ingestionOrdinal = ordinal ∧ pair.2.tick = event.tick ∧
      pair.2.eventName = pair.1.kind.name := by
  simp only [made, bind_eq_ok_iff, okOr_eq_ok_iff, pure_eq_ok_iff] at h
  obtain ⟨normalized, hnormalized, bytes, -, rfl⟩ := h
  exact ⟨rfl, rfl, hnormalized, rfl, rfl, (normalizeEvent_name hnormalized).symm⟩

theorem made_error_iff {diagnostic : ParseDiagnostic} :
    made toVec sha256 build event ordinal = .error diagnostic ↔
      normalizeEvent event.name event.rawFields = none ∧ diagnostic = schemaDriftError build event ∨
      (normalizeEvent event.name event.rawFields).isSome ∧
        ∃ source, toVec (ordinal, event.name, event.tick, event.rawFields) = .error source ∧
          diagnostic = receiptError build event source := by
  unfold made
  cases normalizeEvent event.name event.rawFields
  case none => simp [okOr, bind, Except.bind, eq_comm]
  case some normalized =>
    cases toVec (ordinal, event.name, event.tick, event.rawFields)
    case error => simp [okOr, bind, Except.bind, Except.mapError, eq_comm]
    case ok => simp [okOr, bind, Except.bind, Except.mapError, pure, Except.pure]

theorem normalizeEvents_error_iff {events : List GameEvent} {diagnostic : ParseDiagnostic} :
    normalizeEvents toVec sha256 build events = .error diagnostic ↔
      ∃ before event ordinal after, events.zipIdx = before ++ (event, ordinal) :: after ∧
        (∀ e ∈ before, ∃ pair, made toVec sha256 build e.1 e.2 = .ok pair) ∧
        made toVec sha256 build event ordinal = .error diagnostic := by
  rw [normalizeEvents_eq]
  simp only [← exists_mapM_iff (f := fun e : GameEvent × Nat => made toVec sha256 build e.1 e.2)]
  have herror : events.zipIdx.mapM (fun e => made toVec sha256 build e.1 e.2) = .error diagnostic ↔ _ :=
    mapM_eq_error_iff
  simp only [Prod.exists] at herror
  rw [← herror]
  cases events.zipIdx.mapM fun e => made toVec sha256 build e.1 e.2
  all_goals simp [Except.map]

theorem roundsFrom_numbers {n : RoundNumber} {es : List ParsedEvent} :
    (roundsFrom n es).map (·.number) = List.range' (n + 1) (roundsFrom n es).length := by
  induction es generalizing n
  case nil => rfl
  case cons e es ih =>
    unfold roundsFrom
    cases e.roundEnd?
    case none => exact ih
    case some => simp [ih, List.range'_succ]

-- A round for each event that ends one.
theorem roundsFrom_ends {n : RoundNumber} {es : List ParsedEvent} :
    (roundsFrom n es).map (fun round => (round.endTick, round.winner)) =
      es.filterMap fun e => e.roundEnd?.map fun roundEnd => (e.tick, roundEnd.winner) := by
  induction es generalizing n
  case nil => rfl
  case cons e es ih =>
    rw [List.filterMap_cons, roundsFrom]
    cases e.roundEnd?
    case none => exact ih
    case some => simp [ih]

end Loop

section Output

variable {toVec : Nat × String × DemoTick × RawFields → Except String (List UInt8)}
variable {sha256 : List UInt8 → String} {bytes : List UInt8} {out : DemoOutput}
variable {parsed : ParsedOutput} {normalized : Normalized}

def DemoOutput.build (out : DemoOutput) : Option String :=
  (out.header.getD []).lookup "patch_version"

-- What must be there, in the order in which it is asked for.
def evidenceItems (out : DemoOutput) (normalized : Normalized) : List (String × Bool) := [
  ("participants", !(participants out.roster).isEmpty),
  ("round_end", !normalized.rounds.isEmpty),
  ("player_death", hasKind normalized.events .playerDeath),
  ("round_freeze_end", hasKind normalized.events .roundFreezeEnd),
  ("player_hurt", hasKind normalized.events .playerHurt),
  ("player_snapshots", !(playerSnapshots out.rows).isEmpty)]

def accepted (sha256 : List UInt8 → String) (bytes : List UInt8) (out : DemoOutput)
    (normalized : Normalized) : ParsedOutput where
  metadata        := metadata (out.header.getD []) out.convars
  participants    := participants out.roster
  rounds          := normalized.rounds
  events          := normalized.events
  receipts        := normalized.receipts
  playerSnapshots := playerSnapshots out.rows
  suspiciousEmpty := false
  identity        := {
    sourceSha256            := sha256 bytes
    parserCommit            := DEMOPARSER_COMMIT
    parserBuild             := DEMOPARSER_BUILD
    generatedProtoBuild     := GENERATED_PROTO_BUILD
    requestedSchemaHash     := queryPlanHash sha256
    metricDefinitionVersion := "openfrag-rating-1"
    formulaVersion          := "ofr-1.0.0"
    evidenceSemanticsEpoch  := EVIDENCE_SEMANTICS_EPOCH }

def missing (out : DemoOutput) (normalized : Normalized) (item : String) : ParseDiagnostic :=
  missingEvidenceError item out.build
    (observedCounts (participants out.roster) normalized (playerSnapshots out.rows))

theorem finishOutput_error {e : ParseDiagnostic}
    (h : normalizeEvents toVec sha256 out.build out.gameEvents = .error e) :
    finishOutput toVec sha256 bytes out = .error e := by
  unfold finishOutput
  simp only [DemoOutput.build] at h
  simp only [h]
  rfl

-- The output is accepted when nothing is missing, and else the first missing item is reported.
theorem finishOutput_eq
    (h : normalizeEvents toVec sha256 out.build out.gameEvents = .ok normalized) :
    finishOutput toVec sha256 bytes out =
      ((evidenceItems out normalized).find? fun item => !item.2).elim
        (.ok (accepted sha256 bytes out normalized)) fun item => .error (missing out normalized item.1) := by
  unfold finishOutput
  simp only [DemoOutput.build] at h
  have hbind {α : Type} {f : Normalized → Except ParseDiagnostic α} :
      Except.ok normalized >>= f = f normalized := rfl
  have hforM {f : NormalizedEventKind → Except ParseDiagnostic Unit} :
      [.roundFreezeEnd, .playerHurt].forM f =
        (f .roundFreezeEnd >>= fun _ => f .playerHurt >>= fun _ => pure ()) := rfl
  simp only [h, hbind, hforM, missing, DemoOutput.build, evidenceItems, List.find?]
  cases hparticipants : (participants out.roster).isEmpty
  case true => rfl
  cases hrounds : normalized.rounds.isEmpty
  case true => rfl
  cases hdeath : hasKind normalized.events .playerDeath
  case false => rfl
  cases hfreeze : hasKind normalized.events .roundFreezeEnd
  case false => rfl
  cases hhurt : hasKind normalized.events .playerHurt
  case false => rfl
  cases hsnapshots : (playerSnapshots out.rows).isEmpty
  case true => rfl
  rfl

-- What every accepted output is like.
structure Canonical (out : DemoOutput) (parsed : ParsedOutput) : Prop where
  events       : List.Forall₂ (fun event e => e.tick = event.1.tick ∧ e.ingestionOrdinal = event.2 ∧
    normalizeEvent event.1.name event.1.rawFields = some e.event) out.gameEvents.zipIdx parsed.events
  receipts     : List.Forall₂ (fun e receipt => receipt.ingestionOrdinal = e.ingestionOrdinal ∧
    receipt.tick = e.tick ∧ receipt.eventName = e.kind.name) parsed.events parsed.receipts
  numbers      : parsed.rounds.map (·.number) = List.range' 1 parsed.rounds.length
  rounds       : parsed.rounds.map (fun round => (round.endTick, round.winner)) =
    parsed.events.filterMap fun e => e.roundEnd?.map fun roundEnd => (e.tick, roundEnd.winner)
  snapshots    : (parsed.playerSnapshots.map (·.ingestionOrdinal)).Pairwise (· < ·)
  participants : parsed.participants ≠ []
  states       : parsed.playerSnapshots ≠ []
  kinds        : ∀ kind ≠ NormalizedEventKind.playerDisconnect, ∃ e ∈ parsed.events, e.kind = kind
  unsuspicious : parsed.suspiciousEmpty = false

theorem playerSnapshot_ordinal {ordinal : Nat} {row : RawFields} {snapshot : PlayerSnapshot}
    (h : playerSnapshot ordinal row = some snapshot) : snapshot.ingestionOrdinal = ordinal := by
  simp only [playerSnapshot, Option.bind_eq_bind, Option.bind_eq_some_iff] at h
  obtain ⟨steamId, -, tick, -, h⟩ := h
  cases h
  rfl

-- Rows without a player leave gaps in the ordinals, but no disorder.
theorem playerSnapshots_pairwise {rows : List RawFields} :
    ((playerSnapshots rows).map (·.ingestionOrdinal)).Pairwise (· < ·) := by
  have hsublist : ((playerSnapshots rows).map (·.ingestionOrdinal)).Sublist
      (rows.zipIdx.map Prod.snd) := by
    unfold playerSnapshots
    induction rows.zipIdx
    case nil => exact .slnil
    case cons row rows ih =>
      rw [List.filterMap_cons, List.map_cons]
      cases h : playerSnapshot row.2 row.1
      case none => exact ih.cons _
      case some snapshot =>
        rw [List.map_cons, playerSnapshot_ordinal h]
        exact ih.cons_cons _
  rw [List.zipIdx_map_snd] at hsublist
  exact List.Pairwise.sublist hsublist (List.pairwise_lt_range' 1)

theorem items_of_none {items : List (String × Bool)}
    (h : items.find? (fun item => !item.2) = none) : ∀ item ∈ items, item.2 := by
  simpa using h

theorem exists_of_hasKind {events : List ParsedEvent} {kind : NormalizedEventKind}
    (h : hasKind events kind) : ∃ e ∈ events, e.kind = kind := by
  simpa [hasKind] using h

theorem roundEnd_kind {e : ParsedEvent} (h : e.roundEnd?.isSome) : e.kind = .roundEnd := by
  unfold ParsedEvent.roundEnd? at h
  unfold ParsedEvent.kind NormalizedEvent.kind
  cases hevent : e.event
  all_goals simp_all

theorem exists_of_roundsFrom {n : RoundNumber} {es : List ParsedEvent} (h : roundsFrom n es ≠ []) :
    ∃ e ∈ es, e.kind = .roundEnd := by
  have hends : (roundsFrom n es).map (fun round => (round.endTick, round.winner)) = _ :=
    roundsFrom_ends
  obtain ⟨round, hround⟩ := List.exists_mem_of_ne_nil _ h
  have hmem := List.mem_map_of_mem (f := fun round : ParsedRound => (round.endTick, round.winner)) hround
  rw [hends] at hmem
  obtain ⟨e, he, hsome⟩ := List.mem_filterMap.mp hmem
  exact ⟨e, he, roundEnd_kind (by cases hend : e.roundEnd? <;> simp_all)⟩

theorem canonical_of_ok (h : finishOutput toVec sha256 bytes out = .ok parsed) :
    Canonical out parsed := by
  cases hnormalized : normalizeEvents toVec sha256 out.build out.gameEvents
  case error =>
    rw [finishOutput_error hnormalized] at h
    cases h
  case ok normalized =>
    rw [finishOutput_eq hnormalized] at h
    cases hitems : (evidenceItems out normalized).find? fun item => !item.2
    case some =>
      rw [hitems] at h
      cases h
    case none =>
      rw [hitems] at h
      cases h
      obtain ⟨pairs, hpairs, hevents, hreceipts, hrounds⟩ := normalizeEvents_ok hnormalized
      have hall := items_of_none hitems
      simp only [evidenceItems, List.forall_mem_cons] at hall
      obtain ⟨hparticipants, hrounds', hdeath, hfreeze, hhurt, hsnapshots, -⟩ := hall
      constructor
      case events =>
        simp only [accepted, hevents, List.forall₂_map_right_iff]
        exact hpairs.imp fun event pair hmade => ⟨(made_ok hmade).1, (made_ok hmade).2.1,
          (made_ok hmade).2.2.1⟩
      case receipts =>
        simp only [accepted, hevents, hreceipts, List.forall₂_map_left_iff,
          List.forall₂_map_right_iff]
        apply List.forall₂_same.mpr
        refine forall_mem_of_forall₂ hpairs fun event pair hmade => ?_
        obtain ⟨htick, hordinal, -, hordinal', htick', hname⟩ := made_ok hmade
        exact ⟨by rw [hordinal', hordinal], by rw [htick', htick], hname⟩
      case numbers => simp only [accepted, hrounds, roundsFrom_numbers, Nat.zero_add]
      case rounds => simp only [accepted, hrounds, hevents, roundsFrom_ends]
      case snapshots => exact playerSnapshots_pairwise
      case participants => simpa [accepted] using hparticipants
      case states => simpa [accepted] using hsnapshots
      case kinds =>
        intro kind hkind
        cases kind
        case roundFreezeEnd => exact exists_of_hasKind hfreeze
        case playerHurt => exact exists_of_hasKind hhurt
        case playerDeath => exact exists_of_hasKind hdeath
        case playerDisconnect => exact absurd rfl hkind
        case roundEnd =>
          rw [hrounds] at hrounds'
          rw [accepted, hevents]
          exact exists_of_roundsFrom (by simpa using hrounds')
      case unsuspicious => rfl

-- An event that is not recognized, or has no receipt, ends the loop; the errors name the first
-- such event, and else the first item of evidence that is missing.
theorem finishOutput_error_iff {diagnostic : ParseDiagnostic} :
    finishOutput toVec sha256 bytes out = .error diagnostic ↔
      (∃ before event ordinal after, out.gameEvents.zipIdx = before ++ (event, ordinal) :: after ∧
        (∀ e ∈ before, ∃ pair, made toVec sha256 out.build e.1 e.2 = .ok pair) ∧
        (normalizeEvent event.name event.rawFields = none ∧
            diagnostic = schemaDriftError out.build event ∨
          (normalizeEvent event.name event.rawFields).isSome ∧
            ∃ source, toVec (ordinal, event.name, event.tick, event.rawFields) = .error source ∧
              diagnostic = receiptError out.build event source)) ∨
      ∃ normalized item, normalizeEvents toVec sha256 out.build out.gameEvents = .ok normalized ∧
        (evidenceItems out normalized).find? (fun item => !item.2) = some item ∧
        diagnostic = missing out normalized item.1 := by
  have hevents :
      normalizeEvents toVec sha256 out.build out.gameEvents = .error diagnostic ↔ _ :=
    normalizeEvents_error_iff
  simp only [made_error_iff] at hevents
  rw [← hevents]
  cases hnormalized : normalizeEvents toVec sha256 out.build out.gameEvents
  case error e => simp [finishOutput_error hnormalized]
  case ok normalized =>
    rw [finishOutput_eq hnormalized]
    constructor
    case mp =>
      intro h
      right
      cases hitem : (evidenceItems out normalized).find? fun item => !item.2
      case none =>
        rw [hitem] at h
        cases h
      case some item =>
        rw [hitem] at h
        cases h
        exact ⟨normalized, item, rfl, hitem, rfl⟩
    case mpr =>
      intro h
      cases h
      case inl h => cases h
      case inr h =>
        obtain ⟨normalized', item, hok, hitem, rfl⟩ := h
        cases hok
        rw [hitem]
        rfl

end Output

section Location

variable {frames : List Frame} {locations : List FrameLocation} {offset start index : Nat}

theorem frameAt_cons {location : FrameLocation} :
    frameAt (location :: locations) offset =
      (frameAt locations offset).or (if location.byteOffset ≤ offset then some location else none) := by
  unfold frameAt
  rw [List.reverse_cons, List.find?_append, List.find?_singleton]
  simp

theorem frameAt_eq_none (h : offset < start) : frameAt (locate index start frames) offset = none := by
  unfold frameAt
  rw [List.find?_eq_none]
  intro location hlocation
  have hle := locate_le (List.mem_reverse.mp hlocation)
  simp
  omega

-- The frame that is found for an offset is the one that has the byte there.
theorem frameAt_locate (start index : Nat) (hstart : start ≤ offset)
    (hend : offset < start + (frames.flatMap Frame.bytes).length) :
    ∃ before frame after, frames = before ++ frame :: after ∧
      let first := start + (before.flatMap Frame.bytes).length
      first ≤ offset ∧ offset < first + frame.bytes.length ∧
        frameAt (locate index start frames) offset = some (frame.location (index + before.length) first) := by
  induction frames generalizing start index
  case nil =>
    simp at hend
    omega
  case cons frame frames ih =>
    rw [locate, frameAt_cons]
    rw [List.flatMap_cons, List.length_append] at hend
    by_cases hfirst : offset < start + frame.bytes.length
    case pos =>
      refine ⟨[], frame, frames, rfl, by simpa using hstart, by simpa using hfirst, ?_⟩
      rw [frameAt_eq_none hfirst]
      simp [Frame.location, hstart]
    case neg =>
      obtain ⟨before, frame', after, rfl, hle, hlt, hfound⟩ :=
        ih (start + frame.bytes.length) (index + 1) (by omega) (by omega)
      refine ⟨frame :: before, frame', after, rfl, ?_, ?_, ?_⟩
      · simp at hle ⊢
        omega
      · simp at hlt ⊢
        omega
      · rw [hfound, List.length_cons, List.flatMap_cons, List.length_append]
        simp [Nat.add_assoc, Nat.add_comm 1]

variable {slice : Slice} {rounds : Nat} {context : DemoParserErrorContext}

-- An error that the upstream parser locates in a file is told with the frame that has the byte, when
-- the frames of the file could be scanned.
theorem mapUpstreamError_located (debug : Upstream → String) (source : Upstream)
    (hrounds : slice.bytes.length ≤ rounds)
    (hscan : scanFrameLocations slice rounds = some (.ok locations))
    (hoffset : context.byteOffset = some offset) (hstart : 16 ≤ offset)
    (hend : offset < slice.bytes.length) :
    let diagnostic := mapUpstreamError debug (.context context source) locations
    ∃ (before : List Frame) (frame : Frame) (after : List Frame),
      slice.bytes.drop 16 = before.flatMap Frame.bytes ++ frame.bytes ++ after.flatMap Frame.bytes ∧
      16 + (before.flatMap Frame.bytes).length ≤ offset ∧
      offset < 16 + (before.flatMap Frame.bytes ++ frame.bytes).length ∧
      diagnostic.byteOffset = some offset ∧ diagnostic.frameIndex = some before.length ∧
      diagnostic.tick = some (context.tick.getD (asI32 (.ofNat frame.tick))) ∧
      ((∀ command, source ≠ .unknownDemoCmd command) →
        diagnostic.command = some (commandNumber (.ofNat frame.command))) := by
  obtain ⟨-, hlength, frames, hframes, rfl⟩ := (scanFrameLocations_eq_ok_iff hrounds).mp hscan
  have hend' : offset < 16 + (frames.flatMap Frame.bytes).length := by
    rw [← hframes, List.length_drop]
    omega
  obtain ⟨before, frame, after, rfl, hle, hlt, hfound⟩ :=
    frameAt_locate 16 0 hstart hend'
  refine ⟨before, frame, after, by simp [hframes], hle, by simpa [Nat.add_assoc] using hlt, ?_⟩
  have hmapped (mapped : ParseDiagnostic) : addContext (locate 0 16 (before ++ frame :: after)) context mapped =
      { mapped with
        gameBuild  := context.gameBuild
        byteOffset := some offset
        frameIndex := some before.length
        command    := some (commandNumber (.ofNat frame.command))
        tick       := some (context.tick.getD (asI32 (.ofNat frame.tick))) } := by
    unfold addContext
    simp [hoffset, hfound, Frame.location]
  unfold mapUpstreamError
  simp only [Upstream.split, Option.map_some, Option.getD_some, hmapped]
  cases source
  case unknownDemoCmd command => exact ⟨rfl, rfl, rfl, fun h => absurd rfl (h command)⟩
  all_goals exact ⟨rfl, rfl, rfl, fun _ => rfl⟩

-- A file with one frame after the preamble.
def oneFrame : Slice where
  bytes := DEMO_MAGIC ++ [0, 0, 0, 0, 0, 0, 0, 0] ++ [3, 5, 2, 0, 0]
  fits  := by decide

theorem oneFrame_scanned : scanFrameLocations oneFrame 21 = some (.ok [⟨0, 16, 5, 3⟩]) := by
  rfl

theorem mapUpstreamError_located_oneFrame :
    (mapUpstreamError (fun _ => "") (.context ⟨.secondPass, some 20, none, none⟩ .malformedMessage)
      [⟨0, 16, 5, 3⟩]).byteOffset = some 20 := by
  obtain ⟨_, _, _, -, -, -, h, -⟩ := mapUpstreamError_located (fun _ => "") .malformedMessage
    (by decide) oneFrame_scanned
    (rfl : (⟨.secondPass, some 20, none, none⟩ : DemoParserErrorContext).byteOffset = some 20)
    (by decide) (by decide)
  exact h

end Location

end Import
