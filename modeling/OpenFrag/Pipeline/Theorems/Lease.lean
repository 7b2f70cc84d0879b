import OpenFrag.Pipeline.Theorems.Persist

open Import Storage Program Table

namespace Pipeline

variable {π : Type} {env : Environment} {hook : Option (Hook π)} {job : ImportJobId}
variable {worker : String} {sha256 : Digest} {request : ImportRequest} {parsed : ParsedOutput}
variable {matchId : MatchId} {identity : AnalysisIdentity} {localId : SteamId}

def Leased (job : ImportJobId) (worker : String) (db : Database) : Prop :=
  db.importJobs.any (isLeasedBy job worker)

instance (db : Database) : Decidable (Leased job worker db) :=
  inferInstanceAs (Decidable (_ = true))

-- The hook's persistence takes every decision.
def Accepts (hook : Option (Hook π)) : Prop :=
  ∀ h ∈ hook, ∀ decision p, ∃ p', h.persistReconciliation decision p = .ok () p'

theorem reconcileDemoCandidates_accepts (parsed : ParsedOutput) (localId : SteamId)
    (candidates : List Reconcile.ReconciliationCandidate)
    {persist : Reconcile.ReconciliationDecision → EStateM String π Unit}
    (h : ∀ decision p, ∃ p', persist decision p = .ok () p') (p : π) :
    ∃ decisions p',
      Reconcile.reconcileDemoCandidates parsed localId candidates persist p = .ok decisions p' := by
  unfold Reconcile.reconcileDemoCandidates
  induction candidates.mergeSort Reconcile.precedes generalizing p
  case nil => exact ⟨[], p, rfl⟩
  case cons c candidates ih =>
    obtain ⟨p₁, h₁⟩ := h ⟨c.candidateId, c.clipId, Reconcile.evaluate parsed localId c⟩ p
    obtain ⟨decisions, p₂, h₂⟩ := ih p₁
    simp only [List.mapM_cons, bind, EStateM.bind, pure, EStateM.pure, h₁] at h₂ ⊢
    simp only [h₂]
    exact ⟨_, _, rfl⟩

theorem runHook_ends {P : Database → Prop} {R : Step → Moment → Database → Prop}
    (hhook : Accepts hook) (hR : ∀ moment db, P db → R .hook moment db) :
    Ends env True P (runHook env hook parsed localId) (fun _ => P) R := by
  unfold runHook
  split
  case h_1 => exact .pure fun _ h => h
  case h_2 hook =>
    refine .guarded ?_ (hR .before) fun _ => hR .after
    intro w hw
    obtain ⟨decisions, p, h⟩ := reconcileDemoCandidates_accepts parsed localId hook.candidates
      (hhook hook rfl) w.persistence
    simp only [reconcileWith, h]
    exact ⟨trivial, hw⟩

-- The match of a Demo, with its participants.
structure Match (sha256 : Digest) (localId : SteamId) (matchId : MatchId)
    (players : List MatchPlayerRow) (db : Database) : Prop where
  row     : ∃ row ∈ db.matchTable, row.id = matchId ∧ row.demoSha256 = sha256 ∧
    row.localSteamId = localId
  players : db.matchPlayers = players

-- A match that has no run of the identity yet.
structure Registered (sha256 : Digest) (localId : SteamId) (identity : AnalysisIdentity)
    (matchId : MatchId) (players : List MatchPlayerRow) (db : Database) : Prop
    extends Match sha256 localId matchId players db where
  fresh : ∀ run ∈ db.analysisRuns, run.matchId = matchId → run.identity ≠ identity

-- A match with a run of the identity, which has not succeeded.
structure Running (sha256 : Digest) (localId : SteamId) (identity : AnalysisIdentity)
    (matchId : MatchId) (players : List MatchPlayerRow) (db : Database) : Prop
    extends Match sha256 localId matchId players db where
  run : ∃ run ∈ db.analysisRuns, run.matchId = matchId ∧ run.identity = identity
  unfinished : ∀ run ∈ db.analysisRuns, run.matchId = matchId → run.identity = identity →
    run.status ≠ .succeeded

-- A match with a canonical run of the identity, which has succeeded.
structure Analyzed (sha256 : Digest) (localId : SteamId) (identity : AnalysisIdentity)
    (matchId : MatchId) (players : List MatchPlayerRow) (db : Database) : Prop where
  players   : db.matchPlayers = players
  canonical : ∃ row ∈ db.matchTable, row.id = matchId ∧ row.demoSha256 = sha256 ∧
    row.localSteamId = localId ∧
    ∃ run ∈ db.analysisRuns, row.canonicalRunId = some run.id ∧ run.matchId = matchId ∧
      run.identity = identity ∧ run.status = .succeeded

theorem Running.of_frame {players : List MatchPlayerRow} {db₁ db : Database}
    (h : Running sha256 localId identity matchId players db₁) (hf : Frame db₁ db) :
    Running sha256 localId identity matchId players db where
  row := hf.matchTable ▸ h.row
  players := hf.matchPlayers ▸ h.players
  run := hf.analysisRuns ▸ h.run
  unfinished := hf.analysisRuns ▸ h.unfinished

-- The database with a run that has just begun.
def withRun (start : Database) (run : AnalysisRunId) (matchId : MatchId)
    (identity : AnalysisIdentity) (now : Int) : Database :=
  { start with analysisRuns := ⟨run, matchId, identity, .running, now⟩ :: start.analysisRuns }

theorem beginAnalysis_ends {start : Database} {players : List MatchPlayerRow} {now : Int}
    {R : Step → Moment → Database → Prop} (hv : start.Valid)
    (h : Registered sha256 localId identity matchId players start)
    (hbefore : R .beginAnalysis .before start)
    (hafter : ∀ db, Running sha256 localId identity matchId players db →
      R .beginAnalysis .after db) :
    Ends (π := π) env True (· = start)
      (store env .beginAnalysis (beginAnalysis matchId identity now))
      (fun run db => db = withRun start run matchId identity now ∧
        run ∉ start.analysisRuns.map (·.id) ∧
        Running sha256 localId identity matchId players db) R := by
  refine Ends.storeOk ?_ (fun db hdb => hdb ▸ hbefore) (fun run db h => hafter db h.2.2)
  rintro db rfl
  have hmatch : hasMatch db matchId := by
    obtain ⟨row, hrow, hid, _⟩ := h.row
    exact List.any_eq_true.mpr ⟨row, hrow, by simpa using hid⟩
  refine ⟨_, _, beginAnalysis_eq_ok_iff.mpr ⟨?_, hmatch, rfl⟩, rfl, fresh_notMem _, ?_⟩
  · simpa using h.fresh
  · refine { h with run := ⟨_, List.mem_cons_self, rfl, rfl⟩, unfinished := ?_ }
    intro run hrun hm hi
    rcases List.mem_cons.mp hrun with rfl | hrun
    · simp
    · exact absurd hi (h.fresh run hrun hm)

theorem nodup_unique {α : Type} {f : α → Nat} {l : List α} (h : (l.map f).Nodup) {a b : α}
    (ha : a ∈ l) (hb : b ∈ l) (heq : f a = f b) : a = b :=
  List.inj_on_of_nodup_map h ha hb heq

-- A canonical run has a rating of the player that the match was imported for.
theorem completeAnalysis_ends {start : Database} {players : List MatchPlayerRow} {now : Int}
    {run : AnalysisRunId} {owner : SteamId} {R : Step → Moment → Database → Prop} (hv : start.Valid)
    (h : Match sha256 owner matchId players start) (hlease : Leased job worker start)
    (hbefore : ∀ db, Frame (withRun start run matchId identity now) db →
      R .completeAnalysis .before db)
    (hafter : ∀ db, Analyzed sha256 owner identity matchId players db →
      R .completeAnalysis .after db) :
    Ends (π := π) env (owner = localId)
      (Rated (withRun start run matchId identity now) run localId)
      (store env .completeAnalysis (completeAnalysis run))
      (fun _ db => Analyzed sha256 owner identity matchId players db ∧
        Leased job worker db) R := by
  obtain ⟨row, hrow, hid, hdemo, howner⟩ := h.row
  have hfound : ∀ db, Rated (withRun start run matchId identity now) run localId db →
      db.analysisRuns.find? (·.id = run) = some ⟨run, matchId, identity, .running, now⟩ := by
    intro db hr
    simp [hr.frame.analysisRuns, withRun]
  -- The match is the only one with its identifier.
  have honly : ∀ db, Rated (withRun start run matchId identity now) run localId db →
      ∀ r, r ∈ db.matchTable.filter (·.id = matchId) ↔ r = row := by
    intro db hr r
    have htable : db.matchTable = start.matchTable := hr.frame.matchTable
    simp only [List.mem_filter, decide_eq_true_eq, htable]
    constructor
    · exact fun ⟨hr, hr'⟩ => nodup_unique hv.matchKeys hr hrow (hr'.trans hid.symm)
    · rintro rfl
      exact ⟨hrow, hid⟩
  refine Ends.store (fun db hr hlocal => ?_) (fun db r hr hop => ?_)
    (fun db hr => hbefore db hr.frame) (fun _ db hr => hafter db hr.1)
  · have hmem : (⟨run, matchId, identity, .succeeded, now⟩ : AnalysisRunRow) ∈
        update (·.id = run) AnalysisRunRow.succeed db.analysisRuns := by
      refine mem_update.mpr ⟨_, List.mem_of_find?_eq_some (hfound db hr), ?_⟩
      simp [AnalysisRunRow.succeed]
    refine ⟨_, _, completeAnalysis_eq_ok_iff.mpr ⟨_, hfound db hr, ?_, ?_, rfl⟩, ⟨?_, ?_⟩, ?_⟩
    · refine List.all_eq_true.mpr fun r hr' => List.any_eq_true.mpr ⟨_, hmem, ?_⟩
      simp [(honly db hr r).mp hr', hid]
    · refine List.all_eq_true.mpr fun r hr' => hr.hasLocalRating_iff.mpr ?_
      rw [(honly db hr r).mp hr', howner, hlocal]
    · exact hr.frame.matchPlayers.trans h.players
    · refine ⟨row.parse run, mem_update.mpr ⟨row, hr.frame.matchTable ▸ hrow, by simp [hid]⟩, hid,
        hdemo, howner, _, hmem, rfl, rfl, rfl, rfl⟩
    · simpa only [Leased, hr.frame.importJobs, withRun] using hlease
  · obtain ⟨found, hfind, _, hrating, _⟩ := completeAnalysis_eq_ok_iff.mp hop
    cases (hfound db hr).symm.trans hfind
    have hrow' := List.all_eq_true.mp hrating row ((honly db hr row).mpr rfl)
    exact howner.symm.trans (hr.hasLocalRating_iff.mp hrow')

-- The lease lasts until the job is finished.
theorem leased_update {db : Database} {f : ImportJobRow → ImportJobRow}
    (hf : ∀ row, isLeasedBy job worker (f row) = isLeasedBy job worker row)
    (h : Leased job worker db) :
    Leased job worker { db with
      importJobs := update (isLeasedBy job worker) f db.importJobs } := by
  obtain ⟨row, hrow, hlease⟩ := List.any_eq_true.mp h
  refine List.any_eq_true.mpr ⟨_, mem_update.mpr ⟨row, hrow, rfl⟩, ?_⟩
  rw [if_pos hlease, hf, hlease]

theorem updateImportProgress_ends {P : Database → Prop} {R : Step → Moment → Database → Prop}
    {step : Step} {done total : Option Int} {progress heartbeat now : Int}
    (hrange : 0 ≤ progress ∧ progress ≤ 10000)
    (hP : ∀ db jobs, P db → P { db with importJobs := jobs })
    (hR : ∀ moment db, P db → R step moment db) :
    Ends (π := π) env True (fun db => P db ∧ Leased job worker db)
      (store env step (updateImportProgress job worker done total progress heartbeat now))
      (fun _ db => P db ∧ Leased job worker db) R :=
  Ends.storeOk (fun db ⟨h, hlease⟩ => ⟨_, _,
    updateImportProgress_eq_ok_iff.mpr ⟨hrange, hlease, rfl⟩, hP db _ h,
    leased_update (fun _ => rfl) hlease⟩) (fun db h => hR _ db h.1) (fun _ db h => hR _ db h.1)

theorem succeedImport_ends {P : Database → Prop} {R : Step → Moment → Database → Prop}
    (hP : ∀ db jobs attempts, P db →
      P { db with importJobs := jobs, importAttempts := attempts })
    (hR : ∀ moment db, P db → R .finishImport moment db) :
    Ends (π := π) env True (fun db => P db ∧ Leased job request.worker db)
      (succeedImport env job request) (fun _ => P) R :=
  Ends.storeOk (fun db ⟨h, hlease⟩ => ⟨_, _,
    finishImport_eq_ok_iff.mpr ⟨by decide, hlease, rfl⟩, hP db _ _ h⟩)
    (fun db h => hR _ db h.1) (fun _ db h => hR _ db h)

-- How far an import of a new Demo is.
inductive Phase
  | unmatched
  | registering
  | registered
  | running
  | analyzed
  deriving DecidableEq, Repr

def Phase.rank : Phase → Nat
  | .unmatched   => 0
  | .registering => 1
  | .registered  => 2
  | .running     => 3
  | .analyzed    => 4

-- The phase in which an import of so many participants is before and after a step.
def Step.phase (participants : Nat) : Step → Moment → Phase
  | .importMatch, .after            => .registering
  | .upsertPlayer _, _              => .registering
  | .addMatchParticipant _, .before => .registering
  | .addMatchParticipant i, .after  => if i + 1 = participants then .registered else .registering
  | .beginAnalysis, .before         => .registered
  | .beginAnalysis, .after          => .running
  | .addRound _, _                  => .running
  | .addRoundReceipt _, _           => .running
  | .writeRoundMetric _, _          => .running
  | .addRatingReceipt, _            => .running
  | .persistRating, _               => .running
  | .addComponentReceipt _, _       => .running
  | .persistComponent _, _          => .running
  | .completeAnalysis, .before      => .running
  | .completeAnalysis, .after       => .analyzed
  | .hook, _                        => .analyzed
  | .analyzedProgress, _            => .analyzed
  | .finishImport, _                => .analyzed
  | _, _                            => .unmatched

theorem Step.phase_analyzes {n : Nat} {step : Step} {moment : Moment} (h : step.analyzes) :
    step.phase n moment = .running := by
  cases step <;> first | rfl | cases h

theorem Analyzed.progressed {players : List MatchPlayerRow} {db : Database}
    {jobs : List ImportJobRow} (h : Analyzed sha256 localId identity matchId players db) :
    Analyzed sha256 localId identity matchId players { db with importJobs := jobs } :=
  { h with }

theorem Analyzed.finished {players : List MatchPlayerRow} {db : Database}
    {jobs : List ImportJobRow} {attempts : List ImportAttemptRow}
    (h : Analyzed sha256 localId identity matchId players db) :
    Analyzed sha256 localId identity matchId players
      { db with importJobs := jobs, importAttempts := attempts } :=
  { h with }

-- Nothing refers to a run that has just begun.
theorem unrated_withRun {start : Database} {run : AnalysisRunId} {now : Int} (hv : start.Valid)
    (hnew : run ∉ start.analysisRuns.map (·.id)) :
    Unrated (withRun start run matchId identity now) run []
      (withRun start run matchId identity now) where
  frame := .refl
  numbers number := by
    simp only [roundNumbers, withRun, List.mem_map, List.mem_filter, decide_eq_true_eq, List.not_mem_nil,
      iff_false, not_exists, not_and, and_imp]
    exact fun round hround heq => absurd (heq ▸ hv.roundRuns round hround) hnew
  vectors vector hvector heq := hnew (heq ▸ hv.vectorRuns vector hvector)
  unavailable rating hrating heq := hnew (heq ▸ hv.unavailableRuns rating hrating)
  metrics := hv.metricRounds
  components := hv.componentVectors

-- From a registered match, the analysis ends with a canonical run when the schema accepts it and
-- the match is the local player's.
theorem analyzeMatch_ends {start : Database} {players : List MatchPlayerRow} {known : Prop} {n : Nat}
    {owner : SteamId} {R : Step → Moment → Database → Prop} (hhook : Accepts hook)
    (hv : start.Valid)
    (h : Registered sha256 owner (analysisIdentity parsed.identity) matchId players start)
    (hlease : Leased job request.worker start)
    (hknown : hasPlayer start request.localSteamId ↔ known) (hbegin : R .beginAnalysis .before start)
    (hrunning : ∀ (step : Step) moment db, step.phase n moment = .running →
      Running sha256 owner (analysisIdentity parsed.identity) matchId players db →
      R step moment db)
    (hanalyzed : ∀ (step : Step) moment db, step.phase n moment = .analyzed →
      Analyzed sha256 owner (analysisIdentity parsed.identity) matchId players db →
      R step moment db) :
    Ends env (Recordable parsed request.localSteamId known ∧ owner = request.localSteamId)
      (· = start) (analyzeMatch env hook job sha256 request parsed matchId)
      (fun outcome db =>
        Analyzed sha256 owner (analysisIdentity parsed.identity) matchId players db ∧
        Reports parsed request.localSteamId job sha256 outcome.result) R := by
  refine Settles.seq (beginAnalysis_ends hv h hbegin fun db => hrunning _ _ db rfl) fun run =>
    Settles.of_eq ?_
  rintro db₁ ⟨hdb₁, hnew, hstarted⟩
  have hframe : ∀ (step : Step) moment db, step.phase n moment = .running → Frame db₁ db →
      R step moment db :=
    fun step moment db hphase hf => hrunning step moment db hphase (hstarted.of_frame hf)
  have hrun : hasRun db₁ run := by simp [hdb₁, hasRun, withRun]
  have hknown₁ : hasPlayer db₁ request.localSteamId ↔ known := by
    rwa [hdb₁]
  have hunrated : Unrated db₁ run [] db₁ := hdb₁ ▸ unrated_withRun hv hnew
  have hpersist : Ends (π := π) env (Recordable parsed request.localSteamId known) (· = db₁)
      (persistAnalysis env job run sha256 request.localSteamId parsed) _ R :=
    (persistAnalysis_ends hrun hknown₁ fun step hstep _ _ =>
      hframe step _ _ (Step.phase_analyzes hstep)).pre (by rintro _ rfl; exact hunrated)
  refine hpersist.bind fun outcome => Settles.assume fun hreports => ?_
  subst hdb₁
  refine (completeAnalysis_ends hv h.toMatch hlease (fun db => hframe _ _ db rfl)
    fun db => hanalyzed _ _ db rfl).bind_last fun _ => ?_
  refine (runHook_ends hhook fun _ db h => hanalyzed _ _ db rfl h.1).seq fun decisions => ?_
  refine (updateImportProgress_ends (by decide) (fun _ _ h => h.progressed)
    fun _ db => hanalyzed _ _ db rfl).seq fun _ => ?_
  exact (succeedImport_ends (fun _ _ _ h => h.finished) fun _ db => hanalyzed _ _ db rfl).map
    fun _ _ h => ⟨h, hreports⟩

end Pipeline
