import OpenFrag.Import.Compatibility

open Json

namespace Import

section

variable {fields fields' : List (String × Json)}

-- Equal objects have equal fields.
theorem field_eq (key : String) (h : obj fields = obj fields') :
    fields.reverse.lookup key = fields'.reverse.lookup key := by
  rw [← field_obj, h, field_obj]

end

theorem ofOption_string_injective : Function.Injective (ofOption Json.string) :=
  ofOption_injective (fun _ _ => Json.string.inj) (fun _ h => nomatch h)

theorem ofOption_num_injective : Function.Injective (ofOption Json.num) :=
  ofOption_injective (fun _ _ => Json.num.inj) (fun _ h => nomatch h)

theorem ofOption_bool_injective : Function.Injective (ofOption Json.bool) :=
  ofOption_injective (fun _ _ => Json.bool.inj) (fun _ h => nomatch h)

theorem ofOption_steamId_injective : Function.Injective (ofOption SteamId.json) :=
  ofOption_injective num_cast_injective (fun _ h => nomatch h)

theorem Participant.json_injective : Function.Injective Participant.json := by
  intro p p' h
  have hsteamId := field_eq "steam_id" h
  have hname := field_eq "name" h
  have hteam := field_eq "team" h
  simp [List.lookup_cons] at hsteamId hname hteam
  cases p
  cases p'
  simp only [Participant.mk.injEq]
  exact ⟨by exact_mod_cast hsteamId, ofOption_string_injective hname, ofOption_num_injective hteam⟩

theorem ParsedRound.json_injective : Function.Injective ParsedRound.json := by
  intro r r' h
  have hnumber := field_eq "number" h
  have hendTick := field_eq "end_tick" h
  have hwinner := field_eq "winner" h
  simp [List.lookup_cons] at hnumber hendTick hwinner
  cases r
  cases r'
  simp only [ParsedRound.mk.injEq]
  exact ⟨by exact_mod_cast hnumber, hendTick, ofOption_num_injective hwinner⟩

theorem SnapshotPhase.name_injective : Function.Injective SnapshotPhase.name := by
  intro phase phase' h
  cases phase <;> cases phase' <;> first | rfl | simp [SnapshotPhase.name] at h

theorem PlayerSnapshot.json_injective : Function.Injective PlayerSnapshot.json := by
  intro s s' h
  have htick := field_eq "tick" h
  have hordinal := field_eq "ingestion_ordinal" h
  have hphase := field_eq "phase" h
  have hsteamId := field_eq "steam_id" h
  have hentityId := field_eq "entity_id" h
  have hteam := field_eq "team" h
  have hhealth := field_eq "health" h
  have halive := field_eq "alive" h
  have hlifeState := field_eq "life_state" h
  have hroundCounter := field_eq "round_counter" h
  simp [List.lookup_cons] at htick hordinal hphase hsteamId hentityId
  simp [List.lookup_cons] at hteam hhealth halive hlifeState hroundCounter
  cases s
  cases s'
  simp only [PlayerSnapshot.mk.injEq]
  exact ⟨htick, by exact_mod_cast hordinal, SnapshotPhase.name_injective hphase,
    by exact_mod_cast hsteamId, ofOption_num_injective hentityId, ofOption_num_injective hteam,
    ofOption_num_injective hhealth, ofOption_bool_injective halive,
    ofOption_num_injective hlifeState, ofOption_num_injective hroundCounter⟩

theorem DemoMetadata.json_injective : Function.Injective DemoMetadata.json := by
  intro m m' h
  have hmap := field_eq "map" h
  have hpatchBuild := field_eq "patch_build" h
  have hdemoStamp := field_eq "demo_stamp" h
  have hserver := field_eq "server" h
  have hgameDirectory := field_eq "game_directory" h
  have htickRate := field_eq "tick_rate" h
  have hreason := field_eq "tick_rate_unavailable_reason" h
  simp [List.lookup_cons] at hmap hpatchBuild hdemoStamp hserver hgameDirectory htickRate hreason
  cases m
  cases m'
  simp only [DemoMetadata.mk.injEq]
  exact ⟨ofOption_string_injective hmap, ofOption_string_injective hpatchBuild,
    ofOption_string_injective hdemoStamp, ofOption_string_injective hserver,
    ofOption_string_injective hgameDirectory, ofOption_string_injective htickRate,
    ofOption_string_injective hreason⟩

theorem EventReceipt.json_injective : Function.Injective EventReceipt.json := by
  intro r r' h
  have hordinal := field_eq "ingestion_ordinal" h
  have heventName := field_eq "event_name" h
  have htick := field_eq "tick" h
  have hevidence := field_eq "evidence_sha256" h
  simp [List.lookup_cons] at hordinal heventName htick hevidence
  cases r
  cases r'
  simp only [EventReceipt.mk.injEq]
  exact ⟨by exact_mod_cast hordinal, heventName, htick, hevidence⟩

theorem NormalizedEventKind.name_injective : Function.Injective NormalizedEventKind.name := by
  intro kind kind' h
  cases kind <;> cases kind' <;> first | rfl | simp [NormalizedEventKind.name] at h

-- The data of two events of one kind.
theorem NormalizedEvent.data_injective {event event' : NormalizedEvent}
    (hkind : event.kind = event'.kind) (h : event.data = event'.data) : event = event' := by
  cases event <;> cases event' <;> try cases hkind
  case roundFreezeEnd value value' =>
    have hwarmup := field_eq "warmup" h
    simp at hwarmup
    cases value
    cases value'
    exact congrArg (roundFreezeEnd ⟨·⟩) hwarmup
  case roundEnd value value' =>
    have hwinner := field_eq "winner" h
    simp at hwinner
    cases value
    cases value'
    exact congrArg (roundEnd ⟨·⟩) (ofOption_num_injective hwinner)
  case playerHurt value value' =>
    have hattacker := field_eq "attacker" h
    have hvictim := field_eq "victim" h
    have hdamageHealth := field_eq "damage_health" h
    have hweapon := field_eq "weapon" h
    simp [List.lookup_cons] at hattacker hvictim hdamageHealth hweapon
    cases value
    cases value'
    simp only [playerHurt.injEq, PlayerHurtEvent.mk.injEq]
    exact ⟨ofOption_steamId_injective hattacker, ofOption_steamId_injective hvictim,
      ofOption_num_injective hdamageHealth, ofOption_string_injective hweapon⟩
  case playerDeath value value' =>
    have hattacker := field_eq "attacker" h
    have hvictim := field_eq "victim" h
    have hassister := field_eq "assister" h
    have hassistedFlash := field_eq "assisted_flash" h
    have hweapon := field_eq "weapon" h
    simp [List.lookup_cons] at hattacker hvictim hassister hassistedFlash hweapon
    cases value
    cases value'
    simp only [playerDeath.injEq, PlayerDeathEvent.mk.injEq]
    exact ⟨ofOption_steamId_injective hattacker, ofOption_steamId_injective hvictim,
      ofOption_steamId_injective hassister, hassistedFlash, ofOption_string_injective hweapon⟩
  case playerDisconnect value value' =>
    have hplayer := field_eq "player" h
    simp at hplayer
    cases value
    cases value'
    exact congrArg (playerDisconnect ⟨·⟩) (ofOption_steamId_injective hplayer)

theorem normalizedEventJson_injective : Function.Injective normalizedEventJson := by
  intro e e' h
  have htype := field_eq "type" h
  have htick := field_eq "tick" h
  have hordinal := field_eq "ingestion_ordinal" h
  have hdata := field_eq "data" h
  simp [List.lookup_cons] at htype htick hordinal hdata
  have hevent := NormalizedEvent.data_injective (NormalizedEventKind.name_injective htype) hdata
  cases e
  cases e'
  simp only [ParsedEvent.mk.injEq]
  exact ⟨htick, by exact_mod_cast hordinal, hevent⟩

-- What the document of a parsed Demo is about.
structure SameEvidence (parsed parsed' : ParsedOutput) : Prop where
  epoch           : parsed.identity.evidenceSemanticsEpoch = parsed'.identity.evidenceSemanticsEpoch
  queryHash       : parsed.identity.requestedSchemaHash = parsed'.identity.requestedSchemaHash
  metadata        : parsed.metadata = parsed'.metadata
  participants    : parsed.participants = parsed'.participants
  rounds          : parsed.rounds = parsed'.rounds
  events          : parsed.events = parsed'.events
  playerSnapshots : parsed.playerSnapshots = parsed'.playerSnapshots
  suspiciousEmpty : parsed.suspiciousEmpty = parsed'.suspiciousEmpty

variable {parsed parsed' : ParsedOutput}

theorem normalizedEvidence_injective (h : normalizedEvidence parsed = normalizedEvidence parsed') :
    SameEvidence parsed parsed' := by
  have hepoch := field_eq "evidence_semantics_epoch" h
  have hqueryHash := field_eq "query_plan_hash" h
  have hmetadata := field_eq "metadata" h
  have hparticipants := field_eq "participants" h
  have hrounds := field_eq "rounds" h
  have hevents := field_eq "events" h
  have hsnapshots := field_eq "player_snapshots" h
  have hsuspicious := field_eq "suspicious_empty" h
  simp [List.lookup_cons] at hepoch hqueryHash hmetadata hparticipants hrounds hevents
  simp [List.lookup_cons] at hsnapshots hsuspicious
  exact {
    epoch           := hepoch
    queryHash       := hqueryHash
    metadata        := DemoMetadata.json_injective hmetadata
    participants    := List.map_injective_iff.mpr Participant.json_injective hparticipants
    rounds          := List.map_injective_iff.mpr ParsedRound.json_injective hrounds
    events          := List.map_injective_iff.mpr normalizedEventJson_injective hevents
    playerSnapshots := List.map_injective_iff.mpr PlayerSnapshot.json_injective hsnapshots
    suspiciousEmpty := hsuspicious }

theorem receiptHashes_injective (h : receiptHashes parsed = receiptHashes parsed') :
    parsed.receipts = parsed'.receipts :=
  array_map_injective EventReceipt.json_injective h

-- `serde_json` writes every value, and reads the text back as the same one.
structure WritesJson (toVec : Json → Option (List UInt8)) : Prop where
  total     : ∀ value, (toVec value).isSome
  injective : ∀ value value', toVec value = toVec value' → value = value'

-- Equal documents are about the same evidence, and so are equal hashes without a collision.
structure Determines (parsed parsed' : ParsedOutput) : Prop where
  evidence : normalizedEvidence parsed = normalizedEvidence parsed' → SameEvidence parsed parsed'
  receipts : receiptHashes parsed = receiptHashes parsed' → parsed.receipts = parsed'.receipts
  hashes   : ∀ toVec sha256, WritesJson toVec → Function.Injective sha256 →
    compatibilityHashes toVec sha256 parsed = compatibilityHashes toVec sha256 parsed' →
      SameEvidence parsed parsed' ∧ parsed.receipts = parsed'.receipts

theorem jsonSha256_injective {toVec : Json → Option (List UInt8)} {sha256 : List UInt8 → String}
    (htoVec : WritesJson toVec) (hsha256 : Function.Injective sha256) :
    Function.Injective (jsonSha256 toVec sha256) := by
  intro value value' h
  have hbytes := hsha256 h
  have ⟨bytes, hvalue⟩ := Option.isSome_iff_exists.mp (htoVec.total value)
  have ⟨bytes', hvalue'⟩ := Option.isSome_iff_exists.mp (htoVec.total value')
  rw [hvalue, hvalue'] at hbytes
  exact htoVec.injective value value' (by rw [hvalue, hvalue']; exact congrArg some hbytes)

theorem compatibilityHashes_determines (parsed parsed' : ParsedOutput) :
    Determines parsed parsed' := by
  constructor
  case evidence => exact normalizedEvidence_injective
  case receipts => exact receiptHashes_injective
  case hashes =>
    intro toVec sha256 htoVec hsha256 h
    have hjson := jsonSha256_injective htoVec hsha256
    have ⟨hevidence, hreceipts⟩ := CompatibilityHashes.mk.inj h
    exact ⟨normalizedEvidence_injective (hjson hevidence), receiptHashes_injective (hjson hreceipts)⟩

end Import
