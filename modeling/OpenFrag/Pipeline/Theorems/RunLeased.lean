import OpenFrag.Pipeline.Theorems.Lease
import OpenFrag.Analysis.Theorems.Trades

open Import Storage Program Table

namespace Pipeline

variable {π : Type} {env : Environment} {hook : Option (Hook π)} {job : ImportJobId}
variable {worker : String} {sha256 : Digest} {request : ImportRequest} {parser : ParserRun}
variable {parsed : ParsedOutput} {matchId : MatchId} {identity : AnalysisIdentity}
variable {localId : SteamId} {start : Database} {R : Step → Moment → Database → Prop}

theorem parserProgressBasisPoints_range (progress : ParserProgress) :
    0 ≤ parserProgressBasisPoints progress ∧ parserProgressBasisPoints progress ≤ 10000 := by
  have hfraction : min progress.bytesConsumed progress.totalBytes * 1000 / progress.totalBytes ≤
      1000 := by
    apply Nat.div_le_of_le_mul
    exact Nat.mul_le_mul_right 1000 (Nat.min_le_right _ _)
  unfold parserProgressBasisPoints
  generalize min progress.bytesConsumed progress.totalBytes * 1000 / progress.totalBytes = fraction
    at hfraction
  cases progress.phase <;> simp only <;> omega

-- The tables of matches are as they were at the start.
structure Untouched (start db : Database) : Prop where
  matchTable   : db.matchTable = start.matchTable
  matchPlayers : db.matchPlayers = start.matchPlayers
  players      : db.players = start.players
  analysisRuns : db.analysisRuns = start.analysisRuns

-- The database of an import that has written nothing but its job.
structure Admitted (start : Database) (job : ImportJobId) (worker : String) (db : Database) :
    Prop extends Untouched start db where
  artifacts : db.artifacts = start.artifacts
  leased    : Leased job worker db
  valid     : db.Valid

theorem persistProgress_ends {last : Option (ParserProgressPhase × Int)} {i : Nat}
    {events : List ParserProgress}
    (hR : ∀ j moment db, Admitted start job worker db → R (.parserProgress j) moment db) :
    Ends (π := π) env True (Admitted start job worker)
      (persistProgress env job worker last i events)
      (fun _ => Admitted start job worker) R := by
  induction events generalizing last i
  case nil => exact .pure fun _ h => h
  case cons event events ih =>
    simp only [persistProgress]
    split
    case isFalse => exact ih
    case isTrue =>
      refine Settles.seq (Ends.storeOk (fun db h => ?_) (hR i .before) fun _ => hR i .after)
        fun _ => ih
      obtain ⟨hlow, hhigh⟩ := parserProgressBasisPoints_range event
      refine ⟨_, _, updateParserProgress_eq_ok_iff.mpr ⟨?_, ?_, h.leased, rfl⟩, { h with
        leased := leased_update (fun _ => rfl) h.leased
        valid := { h.valid with } }⟩
      · cases event.phase <;> simp [ParserProgressPhase.code]
      · refine ⟨?_, ?_, ?_, ?_, hlow, hhigh⟩ <;> simp only [saturated] <;> omega

-- The artifact of the Demo has a path.
def Committed (sha256 : Digest) (db : Database) : Prop :=
  ∃ row, db.artifacts.find? (·.sha256 = sha256) = some row ∧ row.relativePath.isSome

theorem Committed.hasArtifact (h : Committed sha256 start) : hasArtifact start sha256 := by
  obtain ⟨row, hrow, _⟩ := h
  exact List.any_eq_true.mpr ⟨row, List.mem_of_find?_eq_some hrow, by
    simpa using List.find?_some hrow⟩

theorem parseArtifact_ends (hcommitted : Committed sha256 start)
    (hparser : parser.result = .ok parsed) (hroster : parsed.participants ≠ [])
    (hR : ∀ (step : Step) moment db, step.phase parsed.participants.length moment = .unmatched →
      Admitted start job request.worker db → R step moment db) :
    Ends (π := π) env True (Admitted start job request.worker)
      (parseArtifact env job sha256 request parser)
      (fun parsed' db => parsed' = parsed ∧ Admitted start job request.worker db) R := by
  obtain ⟨row, hrow, hpath⟩ := hcommitted
  have hartifact : Ends (π := π) env True (Admitted start job request.worker)
      (store env .artifact (Storage.artifact sha256))
      (fun info db => info = row.info ∧ Admitted start job request.worker db) R := by
    refine Ends.storeOk (fun db h => ⟨_, _, ?_, rfl, h⟩) (fun db h => hR _ _ db rfl h)
      fun _ db h => hR _ _ db rfl h.2
    exact artifact_eq_ok_iff.mpr ⟨row, h.artifacts ▸ hrow, rfl⟩
  refine hartifact.seq fun info => Settles.assume ?_
  rintro rfl
  have hinfo : row.info.relativePath.isNone = false := Option.isNone_eq_false_iff.mpr hpath
  simp only [hinfo, Bool.false_eq_true, if_false, hparser, List.isEmpty_iff, hroster]
  exact (persistProgress_ends fun j moment db => hR _ _ db rfl).map fun _ _ h => ⟨rfl, h⟩

theorem parsedProgress_ends
    (hR : ∀ moment db, Admitted start job request.worker db → R .parsedProgress moment db) :
    Ends (π := π) env True (Admitted start job request.worker)
      (store env .parsedProgress (updateImportProgress job request.worker none none 7000
        (env.clock .parsedProgress 0) (env.clock .parsedProgress 1)))
      (fun _ => Admitted start job request.worker) R := by
  refine Ends.storeOk (fun db h => ?_) (hR .before) fun _ => hR .after
  exact ⟨_, _, updateImportProgress_eq_ok_iff.mpr ⟨by decide, h.leased, rfl⟩, { h with
    leased := leased_update (fun _ => rfl) h.leased
    valid := { h.valid with } }⟩

theorem matchForDemo_ends
    (hR : ∀ moment db, Admitted start job request.worker db → R .matchForDemo moment db) :
    Ends (π := π) env True (Admitted start job request.worker)
      (store env .matchForDemo (matchForDemo sha256))
      (fun found db => found = (start.matchTable.find? (·.demoSha256 = sha256)).map (·.id) ∧
        Admitted start job request.worker db) R :=
  Ends.storeOk (fun _ h => ⟨_, _, rfl, by rw [h.matchTable], h⟩) (hR .before)
    fun _ db h => hR .after db h.2

-- The clock does not go back while a participant is stored, nor is it behind the time at which the
-- participant was first seen.
def Serves (env : Environment) (players : List PlayerRow) (i : Nat) (p : Participant) : Prop :=
  env.clock (.upsertPlayer i) 0 ≤ env.clock (.upsertPlayer i) 1 ∧
  ∀ row ∈ players, row.steamId = p.steamId → row.firstSeenAtMs ≤ env.clock (.upsertPlayer i) 1

def ClockServes (env : Environment) (players : List PlayerRow) (participants : List Participant) :
    Prop :=
  ∀ i p, participants[i]? = some p → Serves env players i p

-- A match whose participants are being stored: those that are players, and those of the match.
structure Enrolled (start : Database) (job : ImportJobId) (worker : String) (sha256 : Digest)
    (localId : SteamId) (identity : AnalysisIdentity) (matchId : MatchId)
    (seen done : List SteamId) (db : Database) : Prop where
  registered : Registered sha256 localId identity matchId db.matchPlayers db
  leased     : Leased job worker db
  roster     : ∀ s, (∃ row ∈ db.matchPlayers, row.matchId = matchId ∧ row.steamId = s) ↔ s ∈ done
  players    : ∀ row, row.steamId ∉ seen → (row ∈ db.players ↔ row ∈ start.players)
  known      : ∀ s, hasPlayer db s ↔ s ∈ seen ∨ hasPlayer start s

namespace Enrolled

variable {seen done : List SteamId} {db : Database} {p : Participant} {i : Nat}

-- What is written of players and participants does not touch the match.
theorem matchRow (h : Enrolled start job worker sha256 localId identity matchId seen done db) :
    hasMatch db matchId := by
  obtain ⟨row, hrow, hid, _⟩ := h.registered.row
  exact List.any_eq_true.mpr ⟨row, hrow, by simpa using hid⟩

theorem upsertPlayer_ends (hp : p.steamId ∉ done)
    (hR : ∀ moment db seen, Enrolled start job worker sha256 localId identity matchId seen done db →
      R (.upsertPlayer i) moment db) :
    Ends (π := π) env (Serves env start.players i p)
      (Enrolled start job worker sha256 localId identity matchId done done)
      (store env (.upsertPlayer i) (upsertPlayer p.steamId p.name
        (env.clock (.upsertPlayer i) 0) (env.clock (.upsertPlayer i) 1)))
      (fun _ => Enrolled start job worker sha256 localId identity matchId (p.steamId :: done)
        done) R := by
  -- The rows of the participant are those that it had at the start.
  have hserves : ∀ db, Enrolled start job worker sha256 localId identity matchId done done db →
      ((∀ row ∈ db.players, row.steamId = p.steamId →
          row.firstSeenAtMs ≤ env.clock (.upsertPlayer i) 1) ↔
        ∀ row ∈ start.players, row.steamId = p.steamId →
          row.firstSeenAtMs ≤ env.clock (.upsertPlayer i) 1) := by
    intro db h
    refine forall_congr' fun row => ?_
    exact ⟨fun hall hrow hid => hall ((h.players row (hid ▸ hp)).mpr hrow) hid,
      fun hall hrow hid => hall ((h.players row (hid ▸ hp)).mp hrow) hid⟩
  refine Ends.store (fun db h hgood => ?_) (fun db r h hr => ?_)
    (fun db h => hR .before db done h) (fun _ db h => hR .after db _ h)
  · refine ⟨_, _, upsertPlayer_eq_ok_iff.mpr ⟨hgood.1, (hserves db h).mpr hgood.2, rfl⟩, { h with
      registered := { h.registered with }
      players := fun row hrow => ?_
      known := fun s => any_upserted.trans ?_ }⟩
    · simp only [List.mem_cons, not_or] at hrow
      exact (mem_upserted hrow.1).trans (h.players row hrow.2)
    · rw [List.mem_cons, or_assoc]
      exact or_congr_right (h.known s)
  · have ⟨hclock, hseen, _⟩ := upsertPlayer_eq_ok_iff.mp hr
    exact ⟨hclock, (hserves db h).mp hseen⟩

theorem addMatchParticipant_ends (hp : p.steamId ∉ done)
    (hbefore : ∀ db seen, Enrolled start job worker sha256 localId identity matchId seen done db →
      R (.addMatchParticipant i) .before db)
    (hafter : ∀ db, Enrolled start job worker sha256 localId identity matchId (p.steamId :: done)
      (p.steamId :: done) db → R (.addMatchParticipant i) .after db) :
    Ends (π := π) env True
      (Enrolled start job worker sha256 localId identity matchId (p.steamId :: done) done)
      (store env (.addMatchParticipant i) (addMatchParticipant matchId p.steamId "unknown"))
      (fun _ => Enrolled start job worker sha256 localId identity matchId (p.steamId :: done)
        (p.steamId :: done)) R := by
  refine Ends.storeOk (fun db h => ?_) (fun db h => hbefore db _ h) (fun _ db h => hafter db h)
  refine ⟨_, _, addMatchParticipant_eq_ok_iff.mpr ⟨by decide, ?_, h.matchRow,
    (h.known _).mpr (.inl List.mem_cons_self), rfl⟩, { h with
      registered := { h.registered with players := rfl }
      roster := fun s => ?_ }⟩
  · simpa [hp] using h.roster p.steamId
  · simp [← h.roster s, eq_comm]

end Enrolled

-- All participants are stored with the match.
def Roster (participants : List Participant) (matchId : MatchId) (players : List MatchPlayerRow) :
    Prop :=
  ∀ p ∈ participants, ∃ row ∈ players, row.matchId = matchId ∧ row.steamId = p.steamId

-- The local player is one that the schema knows once the participants are stored.
def Known (start : Database) (participants : List Participant) (localId : SteamId) : Prop :=
  localId ∈ participants.map (·.steamId) ∨ hasPlayer start localId

-- A match that is not analyzed yet, whose participants are all stored.
structure Resumable (start : Database) (sha256 : Digest) (localId : SteamId)
    (identity : AnalysisIdentity) (participants : List Participant) (matchId : MatchId)
    (db : Database) : Prop where
  registered : Registered sha256 localId identity matchId db.matchPlayers db
  roster     : Roster participants matchId db.matchPlayers
  known      : ∀ s, hasPlayer db s ↔ Known start participants s

-- What an import from `start` has written in each of its phases.
def Reached (start : Database) (sha256 : Digest) (localId : SteamId) (identity : AnalysisIdentity)
    (participants : List Participant) : Phase → Database → Prop
  | .unmatched, db   => Untouched start db ∧ ∀ row ∈ db.matchTable, row.demoSha256 ≠ sha256
  | .registering, db => ∃ matchId,
    Registered sha256 localId identity matchId db.matchPlayers db ∧
    ¬Roster participants matchId db.matchPlayers
  | .registered, db  => ∃ matchId,
    Resumable start sha256 localId identity participants matchId db
  | .running, db     => ∃ matchId,
    Running sha256 localId identity matchId db.matchPlayers db ∧
    Roster participants matchId db.matchPlayers
  | .analyzed, db    => ∃ matchId,
    Analyzed sha256 localId identity matchId db.matchPlayers db ∧
    Roster participants matchId db.matchPlayers

namespace Enrolled

variable {seen done : List SteamId} {db : Database} {participants : List Participant}

theorem registering {p : Participant}
    (h : Enrolled start job worker sha256 localId identity matchId seen done db)
    (hmem : p ∈ participants) (hp : p.steamId ∉ done) :
    Reached start sha256 localId identity participants .registering db :=
  ⟨matchId, h.registered, fun hroster => hp ((h.roster p.steamId).mp (hroster p hmem))⟩

theorem resumable
    (h : Enrolled start job worker sha256 localId identity matchId
      (participants.map (·.steamId)).reverse (participants.map (·.steamId)).reverse db) :
    Resumable start sha256 localId identity participants matchId db where
  registered := h.registered
  roster p hp := (h.roster p.steamId).mpr (by simpa using ⟨p, hp, rfl⟩)
  known s := by simpa [Known] using h.known s

end Enrolled

theorem importMatch_ends {participants : List Participant} {map : Option String} {now : Int}
    (hv : start.Valid) (hdemo : ∀ row ∈ start.matchTable, row.demoSha256 ≠ sha256)
    (hcommitted : Committed sha256 start) (hroster : participants ≠ []) :
    Ends (π := π) env True (Admitted start job worker)
      (store env .importMatch (importMatch sha256 localId map now))
      (fun matchId => Enrolled start job worker sha256 localId identity matchId [] [])
      (fun step moment => Reached start sha256 localId identity participants
        (step.phase participants.length moment)) := by
  refine Ends.storeOk (fun db h => ?_) (fun db h => ⟨h.toUntouched, h.matchTable ▸ hdemo⟩)
    fun matchId db h => ?_
  · refine ⟨_, _, importMatch_eq_ok_iff.mpr ⟨?_, ?_, rfl⟩, ⟨⟨⟨⟨_, List.mem_cons_self, rfl, rfl, rfl⟩,
      rfl⟩, fun run hrun hm => ?_⟩, h.leased, fun s => ?_, fun row _ => ?_, fun s => ?_⟩⟩
    · simpa [h.matchTable] using hdemo
    · simpa only [hasArtifact, h.artifacts] using hcommitted.hasArtifact
    · rw [h.matchTable] at hm
      exact absurd hm (hv.runMatches.ne_fresh (h.analysisRuns ▸ hrun))
    · simp only [List.not_mem_nil, iff_false, not_exists, not_and, h.matchTable, h.matchPlayers]
      exact fun row hrow hm => absurd hm (hv.playerMatches.ne_fresh hrow)
    · rw [h.players]
    · simp [hasPlayer, h.players]
  · obtain ⟨p, hp⟩ := List.exists_mem_of_ne_nil _ hroster
    exact h.registering hp List.not_mem_nil

-- The participants are stored one after the other.
theorem storeMatch_ends (hv : start.Valid)
    (hdemo : ∀ row ∈ start.matchTable, row.demoSha256 ≠ sha256) (hcommitted : Committed sha256 start)
    (hroster : parsed.participants ≠ [])
    (hnodup : (parsed.participants.map (·.steamId)).Nodup) :
    Ends (π := π) env (ClockServes env start.players parsed.participants)
      (Admitted start job worker) (storeMatch env sha256 request parsed)
      (fun matchId => Enrolled start job worker sha256 request.localSteamId identity matchId
        (parsed.participants.map (·.steamId)).reverse
        (parsed.participants.map (·.steamId)).reverse)
      (fun step moment => Reached start sha256 request.localSteamId identity parsed.participants
        (step.phase parsed.participants.length moment)) := by
  refine Settles.seq (importMatch_ends hv hdemo hcommitted hroster) fun matchId => ?_
  refine Settles.map (((Settles.forEach
    (fun (done : List Participant) _ =>
      Enrolled start job worker sha256 request.localSteamId identity matchId
        (done.map (·.steamId)).reverse (done.map (·.steamId)).reverse)
    (fun done p => Serves env start.players done.length p)
    fun done p rest heq => ?_)).congr ?_) fun _ _ h => h
  · have hp : p.steamId ∉ (done.map (·.steamId)).reverse := by
      simpa using List.nodup_map_iff_split.mp hnodup done p rest heq
    have hmem : p ∈ parsed.participants := heq ▸ List.mem_append_right _ List.mem_cons_self
    refine Settles.mono (Settles.bind_last (Enrolled.upsertPlayer_ends hp ?_) fun _ =>
      Enrolled.addMatchParticipant_ends hp ?_ ?_) Iff.rfl (fun _ h => h) fun _ _ h => ?_
    · intro moment db seen h
      cases moment <;> exact h.registering hmem hp
    · exact fun db seen h => h.registering hmem hp
    · intro db h
      have h' : Enrolled start job worker sha256 request.localSteamId identity matchId
          ((done ++ [p]).map (·.steamId)).reverse ((done ++ [p]).map (·.steamId)).reverse db := by
        simpa using h
      cases rest
      case nil =>
        have hlast : done.length + 1 = parsed.participants.length := by simp [← heq]
        simp only [Step.phase, hlast, if_true]
        exact ⟨matchId, (heq ▸ h').resumable⟩
      case cons q rest =>
        have hmore : done.length + 1 ≠ parsed.participants.length := by simp [← heq]
        have heq' : (done ++ [p]) ++ q :: rest = parsed.participants := by simpa using heq
        have hq := List.nodup_map_iff_split.mp hnodup (done ++ [p]) q rest heq'
        simp only [Step.phase, hmore, if_false]
        have hmem : q ∈ parsed.participants := by simp [← heq]
        exact h'.registering hmem (by rwa [List.mem_reverse])
    · simpa using h
  · exact List.forall_getElem?_iff_split.symm

theorem Running.reached {players : List MatchPlayerRow} {participants : List Participant}
    {db : Database} (hroster : Roster participants matchId players)
    (h : Running sha256 localId identity matchId players db) :
    Reached start sha256 localId identity participants .running db :=
  ⟨matchId, { h with players := rfl }, h.players ▸ hroster⟩

theorem Analyzed.reached {players : List MatchPlayerRow} {participants : List Participant}
    {db : Database} (hroster : Roster participants matchId players)
    (h : Analyzed sha256 localId identity matchId players db) :
    Reached start sha256 localId identity participants .analyzed db :=
  ⟨matchId, { h with players := rfl }, h.players ▸ hroster⟩

-- The analysis of a match whose participants are all stored.
theorem analyzeRegistered_ends {db : Database} {owner : SteamId}
    (hhook : Accepts hook) (hv : db.Valid)
    (h : Resumable start sha256 owner (analysisIdentity parsed.identity) parsed.participants
      matchId db)
    (hlease : Leased job request.worker db)
    (hR : ∀ (step : Step) moment db,
      Phase.registered.rank ≤ (step.phase parsed.participants.length moment).rank →
      Reached start sha256 owner (analysisIdentity parsed.identity) parsed.participants
        (step.phase parsed.participants.length moment) db → R step moment db) :
    Ends env (Recordable parsed request.localSteamId
        (Known start parsed.participants request.localSteamId) ∧ owner = request.localSteamId)
      (· = db) (analyzeMatch env hook job sha256 request parsed matchId)
      (fun outcome db =>
        Reached start sha256 owner (analysisIdentity parsed.identity)
          parsed.participants .analyzed db ∧
        Reports parsed request.localSteamId job sha256 outcome.result) R := by
  refine (analyzeMatch_ends (n := parsed.participants.length) hhook hv h.registered hlease
    (h.known _) (hR _ _ db (Nat.le_refl _) ⟨matchId, h⟩) ?_ ?_).mono Iff.rfl (fun _ h => h)
    fun _ _ ⟨h', hreports⟩ => ⟨h'.reached h.roster, hreports⟩
  · intro step moment db hphase h'
    apply hR <;> rw [hphase]
    · decide
    · exact h'.reached h.roster
  · intro step moment db hphase h'
    apply hR <;> rw [hphase]
    · decide
    · exact h'.reached h.roster

-- An import of a new Demo ends well when the clock serves its participants and the schema accepts
-- its analysis; stopped on the way, it leaves what its phase says.
theorem runLeased_ends (hhook : Accepts hook) (hv : start.Valid)
    (hdemo : ∀ row ∈ start.matchTable, row.demoSha256 ≠ sha256) (hcommitted : Committed sha256 start)
    (hlease : Leased job request.worker start) (hparser : parser.result = .ok parsed)
    (hroster : parsed.participants ≠ [])
    (hnodup : (parsed.participants.map (·.steamId)).Nodup) :
    Ends env (ClockServes env start.players parsed.participants ∧
        Recordable parsed request.localSteamId
          (Known start parsed.participants request.localSteamId))
      (· = start) (runLeased env hook job sha256 request parser)
      (fun outcome db =>
        Reached start sha256 request.localSteamId (analysisIdentity parsed.identity)
          parsed.participants .analyzed db ∧
        Reports parsed request.localSteamId job sha256 outcome.result)
      (fun step moment => Reached start sha256 request.localSteamId
        (analysisIdentity parsed.identity) parsed.participants
        (step.phase parsed.participants.length moment)) := by
  refine Settles.pre ((parseArtifact_ends hcommitted hparser hroster
    fun step moment db hphase h => ?_).seq fun parsed' => Settles.assume ?_) ?_
  · rw [hphase]
    exact ⟨h.toUntouched, h.matchTable ▸ hdemo⟩
  · rintro rfl
    have hR : ∀ (step : Step) moment db, step.phase parsed'.participants.length moment =
        .unmatched → Admitted start job request.worker db →
        Reached start sha256 request.localSteamId (analysisIdentity parsed'.identity)
          parsed'.participants (step.phase parsed'.participants.length moment) db := by
      intro step moment db hphase h
      rw [hphase]
      exact ⟨h.toUntouched, h.matchTable ▸ hdemo⟩
    refine (parsedProgress_ends fun moment db h => hR _ _ db rfl h).seq fun _ =>
      (matchForDemo_ends fun moment db h => hR _ _ db rfl h).seq fun found => Settles.assume ?_
    have hnone : start.matchTable.find? (·.demoSha256 = sha256) = none := by
      simpa using hdemo
    rw [hnone]
    rintro rfl
    refine Settles.bind (Settles.pre ((storeMatch_ends hv hdemo hcommitted hroster
      hnodup).keep storeMatch_valid |>.stops fun _ _ _ h => h.1) fun _ h => ⟨h, h.valid⟩)
      fun matchId => Settles.of_eq fun db ⟨h, hvalid⟩ => ?_
    exact (analyzeRegistered_ends hhook hvalid h.resumable h.leased
      fun _ _ _ _ h => h).congr (and_iff_left rfl)
  · rintro _ rfl
    exact ⟨⟨rfl, rfl, rfl, rfl⟩, rfl, hlease, hv⟩

def Rates (parsed : ParsedOutput) (localId : SteamId) : Prop :=
  ∃ analysis, Analysis.analyze parsed localId = .ok analysis ∧
    analysis.ratingReceipt.ratingBp.isSome

-- An import ends with a rating when the analysis has one, and else says that it is unavailable.
def Completes (parsed : ParsedOutput) (localId : SteamId) :
    EStateM.Result (Stop Step Failure) (World π) ReconciledImportOutcome → Prop
  | .error _ _    => False
  | .ok outcome _ =>
    match outcome.result with
    | .ready _ _ _             => Rates parsed localId
    | .ratingUnavailable _ _ _ => ¬Rates parsed localId
    | .deduplicated _ _        => False

theorem Reports.completes {outcome : ReconciledImportOutcome} {w : World π}
    (h : Reports parsed localId job sha256 outcome.result) :
    Completes parsed localId (.ok outcome w) := by
  unfold Completes
  cases hresult : outcome.result <;> simp only [hresult, Reports] at h ⊢
  case ready =>
    obtain ⟨_, _, analysis, bp, ha, hbp, _⟩ := h
    exact ⟨analysis, ha, by simp [hbp]⟩
  case ratingUnavailable =>
    rintro ⟨analysis, ha, _⟩
    cases h.2.2.symm.trans ha

theorem runLeased_completes_iff (hplan : env.plan = none) (hhook : Accepts hook)
    (hv : start.Valid) (hdemo : ∀ row ∈ start.matchTable, row.demoSha256 ≠ sha256)
    (hcommitted : Committed sha256 start) (hlease : Leased job request.worker start)
    (hparser : parser.result = .ok parsed) (hroster : parsed.participants ≠ [])
    (hnodup : (parsed.participants.map (·.steamId)).Nodup) (persistence : π) :
    Completes parsed request.localSteamId
      (runLeased env hook job sha256 request parser ⟨start, persistence⟩) ↔
    ClockServes env start.players parsed.participants ∧
      Recordable parsed request.localSteamId
        (Known start parsed.participants request.localSteamId) := by
  have hends : Ends env _ (· = start) (runLeased env hook job sha256 request parser) _ _ :=
    runLeased_ends hhook hv hdemo hcommitted hlease hparser hroster hnodup
  have h := hends ⟨start, persistence⟩ rfl
  rcases hrun : runLeased env hook job sha256 request parser ⟨start, persistence⟩ with
    ⟨outcome, w⟩ | ⟨stop, w⟩ <;> simp only [hrun] at h
  case ok => exact iff_of_true h.2.2.completes h.1
  case error =>
    cases stop
    case failed => exact iff_of_false id h
    case interrupted => cases hplan.symm.trans h.1

theorem Completes.returns
    {result : EStateM.Result (Stop Step Failure) (World π) ReconciledImportOutcome}
    (h : Completes parsed localId result) : stop? result = none := by
  cases result
  case ok => rfl
  case error => cases h

-- An environment whose clock stands still.
def steady : Environment := ⟨fun _ _ => 0, none⟩

def soloSource : Source := ⟨7, 100, by decide⟩

def soloRequest : ImportRequest := ⟨1, "worker", 0⟩

-- The store in which the only job is the leased import of the source.
@[irreducible]
def leasedStore : Database :=
  (final (leaseSource steady soloSource soloRequest ⟨.empty, ()⟩)).db

theorem leasedStore_valid : leasedStore.Valid := by
  have hvalid : KeepsValid (π := Unit) (leaseSource steady soloSource soloRequest) := leaseSource_valid
  have h := hvalid ⟨.empty, ()⟩ .empty
  unfold leasedStore
  split at h <;> rename_i heq <;> simp only [heq, final] <;> exact h

theorem leasedStore_committed : Committed 7 leasedStore := by
  have h : (leasedStore.artifacts.find? (·.sha256 = 7)).any (·.relativePath.isSome) := by
    decide +kernel
  exact Option.any_eq_true _ _ |>.mp h

-- The match has one round, too few for a rating.
theorem runLeased_fails_short_match :
    ¬∀ (request : ImportRequest) (parser : ParserRun) (parsed : ParsedOutput),
      Leased 0 request.worker leasedStore → parser.result = .ok parsed →
      parsed.participants ≠ [] → (parsed.participants.map (·.steamId)).Nodup →
      Completes parsed request.localSteamId
        (runLeased steady (none : Option (Hook Unit)) 0 7 request parser ⟨leasedStore, ()⟩) := by
  intro h
  have hreturns := (h soloRequest ⟨[], .ok Analysis.suicideDemo⟩ Analysis.suicideDemo
    (by decide +kernel) rfl (by decide) (by decide)).returns
  exact absurd hreturns (by decide +kernel)

-- Without a tick rate, the same match has an unavailable rating.
def ratelessDemo : ParsedOutput :=
  { Analysis.suicideDemo with
    metadata := { Analysis.suicideDemo.metadata with tickRate := none } }

theorem runLeased_completes_iff_rateless :
    Completes ratelessDemo 1 (runLeased steady (none : Option (Hook Unit)) 0 7 soloRequest
      ⟨[], .ok ratelessDemo⟩ ⟨leasedStore, ()⟩) ↔
    ClockServes steady leasedStore.players ratelessDemo.participants ∧
      Recordable ratelessDemo 1 (Known leasedStore ratelessDemo.participants 1) :=
  runLeased_completes_iff rfl nofun leasedStore_valid (by decide +kernel) leasedStore_committed
    (by decide +kernel) rfl (by decide) (by decide) ()

end Pipeline
