import OpenFrag.Pipeline.Theorems.RunLeased

open Import Storage Program Table

namespace Pipeline

variable {π α : Type} {env : Environment} {hook : Option (Hook π)} {job : ImportJobId}
variable {worker : String} {sha256 : Digest} {request : ImportRequest} {parser : ParserRun}
variable {parsed : ParsedOutput} {matchId : MatchId} {identity : AnalysisIdentity}
variable {owner : SteamId} {start db db' : Database} {R : Step → Moment → Database → Prop}
variable {source : Source} {participants : List Participant} {s : Phase}

namespace Untouched

theorem trans (h : Untouched start db) (h' : Untouched db db') : Untouched start db' where
  matchTable   := h'.matchTable.trans h.matchTable
  matchPlayers := h'.matchPlayers.trans h.matchPlayers
  players      := h'.players.trans h.players
  analysisRuns := h'.analysisRuns.trans h.analysisRuns

theorem known (h : Untouched start db) (localId : SteamId) :
    Known db participants localId = Known start participants localId := by
  simp only [Known, hasPlayer, h.players]

end Untouched

theorem Match.of_untouched {players : List MatchPlayerRow} (hu : Untouched db db')
    (h : Match sha256 owner matchId players db) : Match sha256 owner matchId players db' :=
  ⟨hu.matchTable ▸ h.row, hu.matchPlayers.trans h.players⟩

theorem Running.of_untouched {players : List MatchPlayerRow} (hu : Untouched db db')
    (h : Running sha256 owner identity matchId players db) :
    Running sha256 owner identity matchId players db' :=
  ⟨h.toMatch.of_untouched hu, hu.analysisRuns ▸ h.run, hu.analysisRuns ▸ h.unfinished⟩

theorem Resumable.of_untouched (hu : Untouched db db')
    (h : Resumable start sha256 owner identity participants matchId db) :
    Resumable start sha256 owner identity participants matchId db' where
  registered := ⟨⟨(h.registered.toMatch.of_untouched hu).row, rfl⟩,
    hu.analysisRuns ▸ h.registered.fresh⟩
  roster := hu.matchPlayers ▸ h.roster
  known s := by simpa only [hasPlayer, hu.players] using h.known s

namespace Reached

theorem of_untouched (h : Reached start sha256 owner identity participants s db)
    (hu : Untouched db db') :
    Reached start sha256 owner identity participants s db' := by
  cases s
  case unmatched => exact ⟨h.1.trans hu, hu.matchTable ▸ h.2⟩
  case registering =>
    obtain ⟨matchId, h, hroster⟩ := h
    rw [← hu.matchPlayers] at hroster
    exact ⟨matchId, ⟨⟨(h.toMatch.of_untouched hu).row, rfl⟩, hu.analysisRuns ▸ h.fresh⟩, hroster⟩
  case registered =>
    obtain ⟨matchId, h⟩ := h
    exact ⟨matchId, h.of_untouched hu⟩
  case running =>
    obtain ⟨matchId, h, hroster⟩ := h
    rw [← hu.matchPlayers] at hroster
    exact ⟨matchId, { h.of_untouched hu with players := rfl }, hroster⟩
  case analyzed =>
    obtain ⟨matchId, h, hroster⟩ := h
    rw [← hu.matchPlayers] at hroster
    refine ⟨matchId, ⟨rfl, ?_⟩, hroster⟩
    rw [hu.matchTable, hu.analysisRuns]
    exact h.canonical

theorem finished {jobs : List ImportJobRow} {attempts : List ImportAttemptRow}
    (h : Reached start sha256 owner identity participants s db) :
    Reached start sha256 owner identity participants s
      { db with importJobs := jobs, importAttempts := attempts } :=
  h.of_untouched ⟨rfl, rfl, rfl, rfl⟩

-- What is reached from a database is reached from each with the same tables of matches.
theorem rebase (hu : Untouched start db) (h : Reached db sha256 owner identity participants s db') :
    Reached start sha256 owner identity participants s db' := by
  cases s
  case unmatched => exact ⟨hu.trans h.1, h.2⟩
  case registered =>
    obtain ⟨matchId, h⟩ := h
    exact ⟨matchId, { h with known := fun s => hu.known s ▸ h.known s }⟩
  case registering => exact h
  case running => exact h
  case analyzed => exact h

end Reached

-- The job of the source, leased by the worker.
structure Opened (start : Database) (source : Source) (worker : String) (job : ImportJobId)
    (db : Database) : Prop extends Untouched start db where
  committed : Committed source.sha256 db
  leased    : Leased job worker db

theorem committed_withArtifact {path : ArtifactPath} {byteLength : Nat}
    {mediaType : Option String} {now : Int} {artifacts : List ArtifactRow} :
    ∃ row, (withArtifact sha256 path byteLength mediaType now artifacts).find? (·.sha256 = sha256) =
      some row ∧ row.relativePath.isSome := by
  unfold withArtifact
  split
  case isTrue hany =>
    obtain ⟨old, hold, hid⟩ := List.any_eq_true.mp hany
    have hfound : (update (·.sha256 = sha256) (fun row : ArtifactRow => { row with
        relativePath := some path, availability := .present }) artifacts).find?
        (·.sha256 = sha256) |>.isSome := by
      refine List.find?_isSome.mpr ⟨_, mem_update.mpr ⟨old, hold, rfl⟩, ?_⟩
      simp [of_decide_eq_true hid]
    obtain ⟨row, hrow⟩ := Option.isSome_iff_exists.mp hfound
    refine ⟨row, hrow, ?_⟩
    obtain ⟨old, -, rfl⟩ := mem_update.mp (List.mem_of_find?_eq_some hrow)
    have hid := List.find?_some hrow
    split at hid
    case isTrue hold => rw [if_pos hold]; rfl
    case isFalse hold => exact absurd hid hold
  case isFalse => exact ⟨_, List.find?_cons_of_pos (decide_eq_true rfl), rfl⟩

theorem leaseSource_ends {n : Nat} (hv : start.Valid)
    (hR : ∀ (step : Step) moment db, step.phase n moment = .unmatched →
      Untouched start db → R step moment db) :
    Ends (π := π) env True (· = start) (leaseSource env source request)
      (Opened start source request.worker) R := by
  have hcommit : Ends (π := π) env True (· = start) (store env .commitArtifact
      (commitArtifact source.sha256 source.byteLength "dem"
        (some "application/x-counter-strike-2-demo") (env.clock .commitArtifact 0)))
      (fun sha256 db => sha256 = source.sha256 ∧ Untouched start db ∧
        Committed source.sha256 db) R := by
    refine Ends.storeOk (fun db hdb => ?_) (fun db hdb => hR _ _ db rfl ?_)
      fun _ db h => hR _ _ db rfl h.2.1
    · subst hdb
      refine ⟨_, _, commitArtifact_eq_ok_iff.mpr ⟨by decide, ?_, ?_, rfl⟩, rfl,
        ⟨rfl, rfl, rfl, rfl⟩, committed_withArtifact⟩
      · have := source.validated
        simp only [MAX_DEMO_BYTES, MachineInt.Signed] at *
        omega
      · simp only [List.any_eq_true, Bool.and_eq_true, decide_eq_true_eq, not_exists, not_and]
        exact fun row hrow hne hpath => hne (hv.paths row hrow _ _ hpath)
    · exact hdb ▸ ⟨rfl, rfl, rfl, rfl⟩
  have henqueue : Ends (π := π) env True
      (fun db => Untouched start db ∧ Committed source.sha256 db)
      (store env .enqueueImport (enqueueImport source.sha256 (env.clock .enqueueImport 0)
        (env.clock .enqueueImport 1)))
      (fun job db => (Untouched start db ∧ Committed source.sha256 db) ∧
        ∃ row ∈ db.importJobs, row.id = job ∧ row.status = .queued) R := by
    refine Ends.storeOk (fun db h => ?_) (fun db h => hR _ _ db rfl h.1)
      fun _ db h => hR _ _ db rfl h.1.1
    exact ⟨_, _, enqueueImport_eq_ok_iff.mpr ⟨h.2.hasArtifact, rfl⟩, ⟨{ h.1 with }, h.2⟩, _,
      List.mem_cons_self, rfl, rfl⟩
  have hlease : ∀ job, Ends (π := π) env True
      (fun db => (Untouched start db ∧ Committed source.sha256 db) ∧
        ∃ row ∈ db.importJobs, row.id = job ∧ row.status = .queued)
      (store env .leaseImport (leaseImport job request.worker request.leaseExpiresAtMs
        (env.clock .leaseImport 0) (env.clock .leaseImport 1)))
      (fun _ => Opened start source request.worker job) R := by
    refine fun job => Ends.storeOk (fun db hopened => ?_)
      (fun db h => hR _ _ db rfl h.1.1) fun _ db h => hR _ _ db rfl h.toUntouched
    obtain ⟨h, row, hrow, hid, hqueued⟩ := hopened
    have hleasable : isLeasable job (env.clock .leaseImport 1) row := by
      simp [isLeasable, hid, hqueued]
    refine ⟨_, _, leaseImport_eq_ok_iff.mpr
      ⟨List.any_eq_true.mpr ⟨row, hrow, hleasable⟩, rfl⟩, { h.1 with }, h.2, ?_⟩
    refine List.any_eq_true.mpr ⟨_, mem_update.mpr ⟨row, hrow, rfl⟩, ?_⟩
    simp [hleasable, leased, isLeasedBy, hid]
  have hprogress : ∀ job, Ends (π := π) env True (Opened start source request.worker job)
      (store env .copiedProgress (updateImportProgress job request.worker
        (some (saturated source.byteLength)) (some (saturated source.byteLength)) 3000
        (env.clock .copiedProgress 0) (env.clock .copiedProgress 1)))
      (fun _ => Opened start source request.worker job) R := by
    refine fun job => Ends.storeOk (fun db h => ?_) (fun db h => hR _ _ db rfl h.toUntouched)
      fun _ db h => hR _ _ db rfl h.toUntouched
    exact ⟨_, _, updateImportProgress_eq_ok_iff.mpr ⟨by decide, h.leased, rfl⟩, { h with
      leased := leased_update (fun _ => rfl) h.leased }⟩
  refine hcommit.seq fun sha256 => Settles.assume ?_
  rintro rfl
  exact henqueue.seq fun job => (hlease job).seq fun _ => (hprogress job).map fun _ _ h => h

theorem failImport_eq (stop : Stop Step Failure) (error : PipelineError) (w : World π) :
    ∃ w', (failImport env job request stop error : Program Step (World π) Failure α) w = .error stop w' ∧
      Untouched w.db w'.db := by
  unfold failImport onDatabase
  rcases hop : finishImportWithDiagnostic job request.worker .failed (some error.code)
    (some error.remediationCode) none error.diagnosticJson (env.clock .failImport 0) w.db with
    e | ⟨u, db⟩
  case error => exact ⟨w, rfl, rfl, rfl, rfl, rfl⟩
  case ok =>
    obtain ⟨_, _, heq⟩ := finishImport_eq_ok_iff.mp hop
    cases heq
    exact ⟨_, rfl, rfl, rfl, rfl, rfl⟩

-- What is reported of a failed job does not touch the matches.
theorem reportFailure_ends {good : Prop} {P : Database → Prop} {Q : α → Database → Prop}
    {x : Program Step (World π) Failure α} (hx : Ends env good P x Q R)
    (hR : ∀ step moment db db', Untouched db db' → R step moment db → R step moment db') :
    Ends env good P (reportFailure env job request x) Q R := by
  intro w hw
  have h := hx w hw
  unfold reportFailure
  rcases hxw : x w with ⟨a, w'⟩ | ⟨(⟨error | _⟩ | fault), w'⟩ <;> simp only [hxw] at h ⊢
  case ok => exact h
  case error.failed.error =>
    obtain ⟨w'', heq, _⟩ := @failImport_eq π α env job request (.failed (.error error)) error w'
    rw [heq]
    exact h
  case error.failed.panic => exact h
  case error.interrupted =>
    obtain ⟨w'', heq, hu⟩ := @failImport_eq π α env job request (.interrupted fault)
      (interruption fault.step) w'
    cases hcrash : fault.crash <;> simp only [Bool.false_eq_true, if_false, if_true, heq]
    case true => exact h
    case false => exact ⟨h.1, hR _ _ _ _ hu h.2⟩

-- The part of an import that finds the match of its Demo.
theorem runLeased_existing_ends {good : Prop} {Q : ReconciledImportOutcome → Database → Prop}
    {row : MatchRow} (hv : start.Valid) (hcommitted : Committed sha256 start)
    (hlease : Leased job request.worker start) (hparser : parser.result = .ok parsed)
    (hroster : parsed.participants ≠ []) (hrow : row ∈ start.matchTable)
    (hsha : row.demoSha256 = sha256)
    (hR : ∀ (step : Step) moment db, step.phase parsed.participants.length moment = .unmatched →
      Untouched start db → R step moment db)
    (hnext : ∀ db, Admitted start job request.worker db → Ends env good (· = db)
      (if start.analysisRuns.any fun run => run.matchId = row.id &&
          run.identity = analysisIdentity parsed.identity && run.status = .succeeded then
        deduplicate env hook job sha256 request parsed
      else
        analyzeMatch env hook job sha256 request parsed row.id) Q R) :
    Ends env good (· = start) (runLeased env hook job sha256 request parser) Q R := by
  refine Settles.pre ((parseArtifact_ends hcommitted hparser hroster
    fun step moment db hphase h => hR _ _ _ hphase h.toUntouched).seq fun parsed' =>
    Settles.assume ?_) ?_
  · rintro rfl
    refine (parsedProgress_ends fun moment db h => hR _ _ db rfl h.toUntouched).seq fun _ =>
      (matchForDemo_ends fun moment db h => hR _ _ db rfl h.toUntouched).seq fun found =>
      Settles.assume ?_
    have hfind : start.matchTable.find? (·.demoSha256 = sha256) = some row :=
      hsha ▸ find?_key hv.demos hrow
    rw [hfind]
    rintro rfl
    have hcompleted : Ends (π := π) env True (Admitted start job request.worker)
        (store env .completedAnalysis
          (completedAnalysisForIdentity row.id (analysisIdentity parsed'.identity)))
        (fun completed db => completed = (start.analysisRuns.any fun run =>
          run.matchId = row.id && run.identity = analysisIdentity parsed'.identity &&
          run.status = .succeeded) ∧ Admitted start job request.worker db) R :=
      Ends.storeOk (fun db h => ⟨_, _, rfl, by rw [h.analysisRuns], h⟩)
        (fun db h => hR _ _ db rfl h.toUntouched) fun _ db h => hR _ _ db rfl h.2.toUntouched
    refine hcompleted.seq fun completed => Settles.assume ?_
    rintro rfl
    exact Settles.of_eq hnext
  · rintro _ rfl
    exact ⟨⟨rfl, rfl, rfl, rfl⟩, rfl, hlease, hv⟩

theorem deduplicate_ends {P : Database → Prop} (hhook : Accepts hook)
    (hP : ∀ db jobs attempts, P db →
      P { db with importJobs := jobs, importAttempts := attempts })
    (hR : ∀ step moment db, P db → R step moment db) :
    Ends env True (fun db => P db ∧ Leased job request.worker db)
      (deduplicate env hook job sha256 request parsed) (fun _ => P) R := by
  refine (runHook_ends hhook fun _ db h => hR _ _ db h.1).seq fun decisions => ?_
  exact (succeedImport_ends hP fun _ => hR _ _).map fun _ _ h => h

-- The phase of a store whose phase was `s`, once an import is in the phase `t`.
def Phase.later (s t : Phase) : Phase := if s.rank ≤ t.rank then t else s

-- The phases in which an import that nothing stopped leaves the store.
def Phase.rests : Phase → Bool
  | .unmatched | .registered | .analyzed => true
  | .registering | .running              => false

-- The condition for an import to end well, by the phase that the store is in.
def Retryable (env : Environment) (start : Database) (parsed : ParsedOutput)
    (owner localId : SteamId) : Phase → Prop
  | .unmatched   => ClockServes env start.players parsed.participants ∧
    Recordable parsed localId (Known start parsed.participants localId)
  | .registered  => Recordable parsed localId (Known start parsed.participants localId) ∧
    owner = localId
  | .analyzed    => True
  | .registering => False
  | .running     => False

theorem runLeased_resumes (hs : s.rests) (hhook : Accepts hook) (hv : db.Valid)
    (h : Reached start sha256 owner (analysisIdentity parsed.identity) parsed.participants s db)
    (howner : s = .unmatched → owner = request.localSteamId) (hcommitted : Committed sha256 db)
    (hlease : Leased job request.worker db) (hparser : parser.result = .ok parsed)
    (hroster : parsed.participants ≠ [])
    (hnodup : (parsed.participants.map (·.steamId)).Nodup) :
    Ends env (Retryable env start parsed owner request.localSteamId s) (· = db)
      (runLeased env hook job sha256 request parser)
      (fun _ => Reached start sha256 owner (analysisIdentity parsed.identity) parsed.participants
        .analyzed)
      (fun step moment => Reached start sha256 owner (analysisIdentity parsed.identity)
        parsed.participants (s.later (step.phase parsed.participants.length moment))) := by
  cases s
  case unmatched =>
    obtain ⟨hu, hdemo⟩ := h
    cases howner rfl
    refine ((runLeased_ends hhook hv hdemo hcommitted hlease hparser hroster hnodup).stops
      fun step moment db' h => ?_).mono ?_ (fun _ h => h) fun _ _ h => h.1.rebase hu
    · simpa [Phase.later, Phase.rank] using h.rebase hu
    · simp only [Retryable, hu.players, hu.known]
  case registered =>
    obtain ⟨matchId, h⟩ := h
    obtain ⟨row, hrow, rfl, hsha, _⟩ := h.registered.row
    refine runLeased_existing_ends hv hcommitted hlease hparser hroster hrow hsha
      (fun step moment db' hphase hu => ?_) fun db' ha => ?_
    · rw [hphase]
      exact ⟨row.id, h.of_untouched hu⟩
    · have hfresh : (db.analysisRuns.any fun run => run.matchId = row.id &&
          run.identity = analysisIdentity parsed.identity && run.status = .succeeded) = false := by
        simpa using fun run hrun hm hi => absurd hi (h.registered.fresh run hrun hm)
      simp only [hfresh, Bool.false_eq_true, if_false]
      refine (analyzeRegistered_ends hhook ha.valid (h.of_untouched ha.toUntouched) ha.leased
        fun step moment db'' hrank h => ?_).mono Iff.rfl (fun _ h => h) fun _ _ h => h.1
      simpa [Phase.later, hrank] using h
  case analyzed =>
    obtain ⟨matchId, hana, hrost⟩ := h
    obtain ⟨row, hrow, rfl, hsha, _, run, hrun, _, hm, hi, hsucceeded⟩ := hana.canonical
    have hlater : ∀ t, Phase.later .analyzed t = .analyzed := by
      intro t
      cases t <;> rfl
    simp only [hlater]
    refine runLeased_existing_ends hv hcommitted hlease hparser hroster hrow hsha
      (fun step moment db' hphase hu => Reached.of_untouched ⟨row.id, hana, hrost⟩ hu)
      fun db' ha => ?_
    have hdone : (db.analysisRuns.any fun run => run.matchId = row.id &&
        run.identity = analysisIdentity parsed.identity && run.status = .succeeded) = true :=
      List.any_eq_true.mpr ⟨run, hrun, by simp [hm, hi, hsucceeded]⟩
    simp only [hdone, if_true]
    refine (deduplicate_ends hhook (fun _ _ _ h => h.finished) fun _ _ _ h => h).pre ?_
    rintro _ rfl
    exact ⟨Reached.of_untouched ⟨row.id, hana, hrost⟩ ha.toUntouched, ha.leased⟩
  case registering => cases hs
  case running => cases hs

theorem importInner_ends {good : Prop} {Q : ReconciledImportOutcome → Database → Prop} {n : Nat}
    (hv : db.Valid)
    (hR : ∀ (step : Step) moment db', step.phase n moment = .unmatched →
      Untouched db db' → R step moment db')
    (hstable : ∀ step moment db db', Untouched db db' → R step moment db → R step moment db')
    (hrun : ∀ job db', Opened db source request.worker job db' → db'.Valid →
      Ends env good (· = db') (runLeased env hook job source.sha256 request parser) Q R) :
    Ends env good (· = db) (importInner env hook source request parser) Q R := by
  have hlease : Ends (π := π) env True (· = db) (leaseSource env source request)
      (Opened db source request.worker) R := leaseSource_ends hv hR
  have hlease := (hlease.keep leaseSource_valid).stops fun _ _ _ h => h.1
  refine (hlease.pre (by rintro _ rfl; exact ⟨rfl, hv⟩)).seq fun job => Settles.of_eq ?_
  exact fun db' ⟨h, hv'⟩ => reportFailure_ends (hrun job db' h hv') hstable

-- An import of a store that nothing stopped before.
theorem importInner_resumes (hs : s.rests) (hhook : Accepts hook) (hv : db.Valid)
    (h : Reached start source.sha256 owner (analysisIdentity parsed.identity) parsed.participants s
      db)
    (howner : s = .unmatched → owner = request.localSteamId)
    (hparser : parser.result = .ok parsed) (hroster : parsed.participants ≠ [])
    (hnodup : (parsed.participants.map (·.steamId)).Nodup) :
    Ends env (Retryable env start parsed owner request.localSteamId s) (· = db)
      (importInner env hook source request parser)
      (fun _ => Reached start source.sha256 owner (analysisIdentity parsed.identity)
        parsed.participants .analyzed)
      (fun step moment => Reached start source.sha256 owner (analysisIdentity parsed.identity)
        parsed.participants (s.later (step.phase parsed.participants.length moment))) := by
  refine importInner_ends (n := parsed.participants.length) hv
    (fun step moment db' hphase hu => ?_) (fun step moment _ _ hu h => h.of_untouched hu)
    fun job db' ho hv' => runLeased_resumes hs hhook hv' (h.of_untouched ho.toUntouched) howner
      ho.committed ho.leased hparser hroster hnodup
  have hlater : s.later .unmatched = s := by
    cases s <;> rfl
  rw [hphase, hlater]
  exact h.of_untouched hu

-- A run that did not succeed stays in the way of the next one.
theorem analyzeMatch_running_ends {players : List MatchPlayerRow}
    (h : Running sha256 owner (analysisIdentity parsed.identity) matchId players db) :
    Ends env False (· = db) (analyzeMatch env hook job sha256 request parsed matchId)
      (fun _ _ => False) (fun _ _ _ => True) := by
  have hbegin : Ends (π := π) env False (· = db) (store env .beginAnalysis
      (beginAnalysis matchId (analysisIdentity parsed.identity) (env.clock .beginAnalysis 0)))
      (fun _ _ => False) (fun _ _ _ => True) := by
    refine Ends.store (fun _ _ => False.elim) (fun db' r hdb hr => ?_) (fun _ _ => trivial)
      fun _ _ _ => trivial
    subst hdb
    obtain ⟨run, hrun, hm, hi⟩ := h.run
    refine (beginAnalysis_eq_ok_iff.mp hr).1 (List.any_eq_true.mpr ⟨run, hrun, ?_⟩)
    simp [hm, hi]
  have hrest : ∀ run, Ends env True (fun _ => False) (do
      let outcome ← persistAnalysis env job run sha256 request.localSteamId parsed
      store env .completeAnalysis (completeAnalysis run)
      let reconciliation ← runHook env hook parsed request.localSteamId
      store env .analyzedProgress (updateImportProgress job request.worker none none 10000
        (env.clock .analyzedProgress 0) (env.clock .analyzedProgress 1))
      succeedImport env job request
      pure ({ result := outcome, reconciliation } : ReconciledImportOutcome))
      (fun _ _ => False) (fun _ _ _ => True) := fun _ _ hw => hw.elim
  exact hbegin.bind_last hrest

-- The import ended well, with one match of the Demo, all participants of it and a canonical run of
-- the identity that has succeeded.
def Recovered (sha256 : Digest) (identity : AnalysisIdentity) (participants : List Participant) :
    EStateM.Result (Stop Step Failure) (World π) ReconciledImportOutcome → Prop
  | .error _ _ => False
  | .ok _ w    => ∃ row, w.db.matchTable.filter (·.demoSha256 = sha256) = [row] ∧
    Roster participants row.id w.db.matchPlayers ∧
    ∃ run ∈ w.db.analysisRuns, row.canonicalRunId = some run.id ∧ run.matchId = row.id ∧
      run.identity = identity ∧ run.status = .succeeded

theorem Reached.recovered {outcome : ReconciledImportOutcome} {w : World π} (hv : w.db.Valid)
    (h : Reached start sha256 owner identity participants .analyzed w.db) :
    Recovered sha256 identity participants (.ok outcome w) := by
  obtain ⟨matchId, ⟨_, row, hrow, rfl, rfl, _, run, hrun, hcanonical, hm, hi, hs⟩, hroster⟩ := h
  exact ⟨row, filter_key hv.demos hrow, hroster, run, hrun, hcanonical, hm, hi, hs⟩

theorem Recovered.returns
    {result : EStateM.Result (Stop Step Failure) (World π) ReconciledImportOutcome}
    (h : Recovered sha256 identity participants result) : stop? result = none := by
  cases result
  case ok => rfl
  case error => cases h

theorem Recovered.roster {outcome : ReconciledImportOutcome} {w : World π}
    {players : List MatchPlayerRow} (hv : w.db.Valid)
    (h : Analyzed sha256 owner identity matchId players w.db)
    (hrecovered : Recovered sha256 identity participants (.ok outcome w)) :
    Roster participants matchId players := by
  obtain ⟨row', hfilter, hroster, _⟩ := hrecovered
  obtain ⟨row, hrow, rfl, rfl, _⟩ := h.canonical
  cases List.cons_eq_cons.mp ((filter_key hv.demos hrow).symm.trans hfilter) |>.1
  exact h.players ▸ hroster

-- The part of an import that finds a match without a run of the identity that has succeeded.
theorem importInner_analyzes {good : Prop} {Q : ReconciledImportOutcome → Database → Prop}
    {row : MatchRow} (hv : db.Valid) (hrow : row ∈ db.matchTable)
    (hsha : row.demoSha256 = source.sha256)
    (hopen : ∀ run ∈ db.analysisRuns, run.matchId = row.id →
      run.identity = analysisIdentity parsed.identity → run.status ≠ .succeeded)
    (hparser : parser.result = .ok parsed) (hroster : parsed.participants ≠ [])
    (hnext : ∀ job db', Untouched db db' → Leased job request.worker db' → db'.Valid →
      Ends env good (· = db')
        (analyzeMatch env hook job source.sha256 request parsed row.id) Q (fun _ _ _ => True)) :
    Ends env good (· = db) (importInner env hook source request parser) Q (fun _ _ _ => True) := by
  refine importInner_ends (n := 0) hv (fun _ _ _ _ _ => trivial) (fun _ _ _ _ _ _ => trivial)
    fun job db' ho hv' => ?_
  refine runLeased_existing_ends hv' ho.committed ho.leased hparser hroster
    (ho.matchTable ▸ hrow) hsha (fun _ _ _ _ _ => trivial) fun db'' ha => ?_
  have hnone : (db'.analysisRuns.any fun run => run.matchId = row.id &&
      run.identity = analysisIdentity parsed.identity && run.status = .succeeded) = false := by
    simpa [ho.analysisRuns] using hopen
  simp only [hnone, Bool.false_eq_true, if_false]
  exact hnext job db'' (ho.toUntouched.trans ha.toUntouched) ha.leased ha.valid

theorem importInner_stuck (hs : ¬s.rests) (hhook : Accepts hook) (hv : db.Valid)
    (h : Reached start source.sha256 owner (analysisIdentity parsed.identity) parsed.participants s
      db)
    (hparser : parser.result = .ok parsed) (hroster : parsed.participants ≠ []) :
    ∃ good Q, Ends env good (· = db) (importInner env hook source request parser) Q
      (fun _ _ _ => True) ∧
    ∀ outcome (w : World π), w.db.Valid → Q outcome w.db →
      ¬Recovered source.sha256 (analysisIdentity parsed.identity) parsed.participants
        (.ok outcome w) := by
  cases s
  case registering =>
    obtain ⟨matchId, hreg, hmissing⟩ := h
    obtain ⟨row, hrow, rfl, hsha, _⟩ := hreg.row
    refine ⟨Recordable parsed request.localSteamId (hasPlayer db request.localSteamId) ∧
      owner = request.localSteamId, fun _ => Analyzed source.sha256 owner
      (analysisIdentity parsed.identity) row.id db.matchPlayers, importInner_analyzes hv hrow hsha
      (fun run hrun hm hi => absurd hi (hreg.fresh run hrun hm)) hparser hroster
      fun job db' hu hlease hv' => ?_, fun outcome w hw hana hrec => hmissing (hrec.roster hw hana)⟩
    have hreg' : Registered source.sha256 owner (analysisIdentity parsed.identity) row.id
        db.matchPlayers db' :=
      ⟨hreg.toMatch.of_untouched hu, hu.analysisRuns ▸ hreg.fresh⟩
    exact (analyzeMatch_ends (n := 0) hhook hv' hreg' hlease
      (by rw [hasPlayer, hu.players, ← hasPlayer]) trivial (fun _ _ _ _ _ => trivial)
      fun _ _ _ _ _ => trivial).mono Iff.rfl (fun _ h => h) fun _ _ h => h.1
  case running =>
    obtain ⟨matchId, hrun, _⟩ := h
    obtain ⟨row, hrow, rfl, hsha, _⟩ := hrun.row
    exact ⟨False, fun _ _ => False, importInner_analyzes hv hrow hsha hrun.unfinished hparser
      hroster fun job db' hu _ _ => analyzeMatch_running_ends (hrun.of_untouched hu),
      fun _ _ _ h => h.elim⟩
  case unmatched => exact absurd rfl hs
  case registered => exact absurd rfl hs
  case analyzed => exact absurd rfl hs

-- Whether an import recovers depends on the phase that the store is in.
theorem importInner_recovers_iff (hplan : env.plan = none) (hhook : Accepts hook)
    (hv : db.Valid)
    (h : Reached start source.sha256 owner (analysisIdentity parsed.identity) parsed.participants s
      db)
    (hparser : parser.result = .ok parsed) (hroster : parsed.participants ≠ [])
    (hnodup : (parsed.participants.map (·.steamId)).Nodup) (persistence : π) :
    Recovered source.sha256 (analysisIdentity parsed.identity) parsed.participants
      (importInner env hook source request parser ⟨db, persistence⟩) ↔
    Retryable env start parsed owner request.localSteamId s := by
  have hvalid : KeepsValid (importInner env hook source request parser) := importInner_valid
  have hvalid := hvalid ⟨db, persistence⟩ hv
  by_cases hs : s.rests
  case pos =>
    -- A new match is the local player's.
    obtain ⟨owner', h', hretryable, howner⟩ : ∃ owner',
        Reached start source.sha256 owner' (analysisIdentity parsed.identity) parsed.participants s
          db ∧
        (Retryable env start parsed owner' request.localSteamId s ↔
          Retryable env start parsed owner request.localSteamId s) ∧
        (s = .unmatched → owner' = request.localSteamId) := by
      cases s
      case unmatched => exact ⟨request.localSteamId, h, Iff.rfl, fun _ => rfl⟩
      all_goals exact ⟨owner, h, Iff.rfl, nofun⟩
    have hends : Ends env _ (· = db) (importInner env hook source request parser) _ _ :=
      importInner_resumes hs hhook hv h' howner hparser hroster hnodup
    have hends := hends ⟨db, persistence⟩ rfl
    rw [hretryable] at hends
    rcases himport : importInner env hook source request parser ⟨db, persistence⟩ with
      ⟨outcome, w⟩ | ⟨(error | fault), w⟩ <;> simp only [himport] at hends hvalid
    case ok => exact iff_of_true (hends.2.recovered hvalid) hends.1
    case error.failed => exact iff_of_false id hends
    case error.interrupted => cases hplan.symm.trans hends.1
  case neg =>
    have hnot : ¬Retryable env start parsed owner request.localSteamId s := by
      cases s <;> first | exact id | exact absurd rfl hs
    obtain ⟨good, Q, hends, hQ⟩ : ∃ good Q, Ends env good (· = db)
        (importInner env hook source request parser) Q (fun _ _ _ => True) ∧ _ :=
      importInner_stuck hs hhook hv h hparser hroster
    have hends := hends ⟨db, persistence⟩ rfl
    rcases himport : importInner env hook source request parser ⟨db, persistence⟩ with
      ⟨outcome, w⟩ | ⟨stop, w⟩ <;> simp only [himport] at hends hvalid
    case ok => exact iff_of_false (hQ outcome w hvalid hends.2) hnot
    case error => exact iff_of_false id hnot

section

variable {π₁ π₂ : Type} {env₁ env₂ : Environment} {hook₁ : Option (Hook π₁)}
variable {hook₂ : Option (Hook π₂)} {request₁ request₂ : ImportRequest}
variable {parser₁ parser₂ : ParserRun} {fault : Fault Step} {w : World π₁}

-- A Demo that no import was stopped on before, and a first import that is.
theorem importInner_retry_iff (hv : start.Valid) (hs : s.rests)
    (h : Reached start source.sha256 owner (analysisIdentity parsed.identity) parsed.participants s
      start)
    (howner : s = .unmatched → owner = request₁.localSteamId)
    (hroster : parsed.participants ≠ []) (hnodup : (parsed.participants.map (·.steamId)).Nodup)
    (hhook₁ : Accepts hook₁) (hparser₁ : parser₁.result = .ok parsed) (persistence₁ : π₁)
    (hstopped : importInner env₁ hook₁ source request₁ parser₁ ⟨start, persistence₁⟩ =
      .error (.interrupted fault) w)
    (hplan : env₂.plan = none) (hhook₂ : Accepts hook₂) (hparser₂ : parser₂.result = .ok parsed)
    (persistence₂ : π₂) :
    Recovered source.sha256 (analysisIdentity parsed.identity) parsed.participants
      (importInner env₂ hook₂ source request₂ parser₂ ⟨w.db, persistence₂⟩) ↔
    Retryable env₂ start parsed owner request₂.localSteamId
      (s.later (fault.step.phase parsed.participants.length fault.moment)) := by
  have hends : Ends env₁ _ (· = start) (importInner env₁ hook₁ source request₁ parser₁) _ _ :=
    importInner_resumes hs hhook₁ hv h howner hparser₁ hroster hnodup
  have hends := hends ⟨start, persistence₁⟩ rfl
  have hvalid : KeepsValid (importInner env₁ hook₁ source request₁ parser₁) := importInner_valid
  have hvalid := hvalid ⟨start, persistence₁⟩ hv
  simp only [hstopped] at hends hvalid
  exact importInner_recovers_iff hplan hhook₂ hvalid hends.2 hparser₂ hroster hnodup persistence₂

end

-- The process ends before the run is completed.
def crashing : Environment := { steady with plan := some ⟨.completeAnalysis, .before, true⟩ }

@[irreducible]
def crashedWorld : World Unit :=
  final (importInner crashing none soloSource soloRequest ⟨[], .ok ratelessDemo⟩ ⟨.empty, ()⟩)

theorem crashedWorld_eq :
    importInner crashing none soloSource soloRequest ⟨[], .ok ratelessDemo⟩ ⟨.empty, ()⟩ =
      .error (.interrupted ⟨.completeAnalysis, .before, true⟩) crashedWorld := by
  unfold crashedWorld
  exact eq_error_of_stop? (by decide +kernel)

theorem importInner_retry_fails_running :
    ¬∀ (fault : Fault Step) (w : World Unit),
      importInner { steady with plan := some fault } none soloSource soloRequest
          ⟨[], .ok ratelessDemo⟩ ⟨.empty, ()⟩ = .error (.interrupted fault) w →
        Recovered soloSource.sha256 (analysisIdentity ratelessDemo.identity)
          ratelessDemo.participants
          (importInner steady (none : Option (Hook Unit)) soloSource soloRequest
            ⟨[], .ok ratelessDemo⟩ w) := by
  intro h
  exact absurd (h _ _ crashedWorld_eq).returns (by decide +kernel)

theorem reached_empty :
    Reached .empty soloSource.sha256 1 (analysisIdentity ratelessDemo.identity)
      ratelessDemo.participants .unmatched .empty :=
  ⟨⟨rfl, rfl, rfl, rfl⟩, nofun⟩

theorem importInner_retry_iff_running :
    Recovered soloSource.sha256 (analysisIdentity ratelessDemo.identity) ratelessDemo.participants
      (importInner steady (none : Option (Hook Unit)) soloSource soloRequest
        ⟨[], .ok ratelessDemo⟩ ⟨crashedWorld.db, ()⟩) ↔
    Retryable steady .empty ratelessDemo 1 1 (Phase.later .unmatched
      (Step.phase ratelessDemo.participants.length .completeAnalysis .before)) :=
  importInner_retry_iff .empty rfl reached_empty (fun _ => rfl) (by decide)
    (by decide) nofun rfl () crashedWorld_eq rfl nofun rfl ()

end Pipeline
