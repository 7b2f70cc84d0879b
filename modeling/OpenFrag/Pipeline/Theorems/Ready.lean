import OpenFrag.Pipeline.Theorems.Lease

open Import Storage Program Table

namespace Pipeline

variable {π α : Type} {env : Environment} {hook : Option (Hook π)} {job : ImportJobId}
variable {sha256 : Digest} {request : ImportRequest} {parsed : ParsedOutput}
variable {matchId : MatchId} {localId : SteamId} {run : AnalysisRunId} {parser : ParserRun}

-- The rating that a run stores for a player.
def RunRates (run : AnalysisRunId) (localId : SteamId) (ratingBp : Int) (db : Database) : Prop :=
  ∃ row, db.ratingVectors.find? (fun row => row.analysisRunId = run && row.steamId = localId) =
    some row ∧ row.ratingBp = ratingBp

-- The match of a Demo whose analysis ended with a rating.
structure Ready (sha256 : Digest) (localId : SteamId) (ratingBp : Int) (db : Database) : Prop where
  valid : db.Valid
  row   : ∃ row ∈ db.matchTable, row.demoSha256 = sha256 ∧ row.status = .parsed ∧
    ∃ run, row.canonicalRunId = some run ∧ row.localSteamId = localId ∧ RunRates run localId ratingBp db

def HasMatch (sha256 : Digest) (matchId : MatchId) (db : Database) : Prop :=
  ∃ row ∈ db.matchTable, row.id = matchId ∧ row.demoSha256 = sha256

theorem store_returns {step : Step} {op : Statement α} {P : Database → Prop}
    {Q : α → Database → Prop} (h : ∀ db a db', P db → op db = .ok (a, db') → Q a db') :
    Returns (fun w : World π => P w.db) (store env step op) (fun a w => Q a w.db) := by
  refine Returns.call fun w a w' hw hop => ?_
  unfold onDatabase at hop
  cases hrun : op w.db <;> simp only [hrun] at hop <;> cases hop
  exact h w.db _ _ hw hrun

theorem storeComponent_rates {vector : RatingVectorId} {i : Nat} {ratingBp : Int}
    {component : Domain.ComponentReceipt} :
    Preserves (fun w : World π => RunRates run localId ratingBp w.db)
      (storeComponent env run localId vector i component) := by
  refine (store_preserves fun _ _ h hdb => ?_).bind fun _ => store_preserves fun _ _ h hdb => ?_
  · have ⟨_, _, _, hr⟩ := addReceipt_eq_ok_iff.mp h
    exact hr ▸ hdb
  · have ⟨_, _, _, _, _, _, hr⟩ := persistRatingComponent_eq_ok_iff.mp h
    exact hr ▸ hdb

theorem persistAvailable_returns {analysis : Analysis.AnalysisReceipt} :
    Returns (fun _ : World π => True)
      (persistAvailable env job run sha256 localId analysis) (fun outcome w =>
        ∀ job' sha256' ratingBp, outcome = .ready job' sha256' ratingBp →
          RunRates run localId ratingBp w.db) := by
  have hrounds : Returns (fun _ : World π => True)
      (forEach (storeRound env run localId) 0 analysis.rounds) (fun _ _ => True) :=
    fun _ _ _ _ _ => trivial
  refine hrounds.bind fun _ => ?_
  split
  case h_1 => exact Returns.fail
  case h_2 bp _ =>
    have hreceipt : ∀ op : Statement ReceiptId, Returns (fun _ : World π => True)
        (store env .addRatingReceipt op) (fun _ _ => True) := fun _ _ _ _ _ _ => trivial
    refine (hreceipt _).bind fun receipt => ?_
    have hvector : Returns (fun _ : World π => True) (store env .persistRating
        (persistAvailableRating run localId ofr bp.get receipt))
        (fun _ w => RunRates run localId bp.get w.db) := by
      refine store_returns (P := fun _ => True) fun db _ db' _ h => ?_
      have ⟨_, _, _, _, _, hr⟩ := persistAvailableRating_eq_ok_iff.mp h
      cases hr
      exact ⟨_, List.find?_cons_of_pos (by simp), rfl⟩
    refine hvector.bind fun vector => ?_
    refine (Preserves.forEach (fun _ _ => storeComponent_rates) 0 _).returns.bind fun _ => ?_
    refine Returns.pure fun w h _ _ _ heq => ?_
    cases heq
    exact h

theorem persistAnalysis_returns :
    Returns (fun _ : World π => True)
      (persistAnalysis env job run sha256 localId parsed) (fun outcome w =>
        ∀ job' sha256' ratingBp, outcome = .ready job' sha256' ratingBp →
          RunRates run localId ratingBp w.db) := by
  unfold persistAnalysis
  split
  case h_1 => exact persistAvailable_returns
  case h_2 reason _ =>
    have hunavailable : Returns (fun _ : World π => True)
        (persistUnavailable env run parsed localId reason) (fun _ _ => True) :=
      fun _ _ _ _ _ => trivial
    exact hunavailable.bind fun _ => Returns.pure fun _ _ _ _ _ heq => nomatch heq
  case h_3 => exact Returns.fail

-- A match whose analysis has begun.
structure Begun (sha256 : Digest) (matchId : MatchId) (run : AnalysisRunId) (db : Database) :
    Prop where
  valid   : db.Valid
  row     : HasMatch sha256 matchId db
  found   : ∃ row, db.analysisRuns.find? (·.id = run) = some row ∧ row.matchId = matchId
  unrated : Unrated db run [] db

theorem Begun.hasRun {db : Database} (h : Begun sha256 matchId run db) : hasRun db run := by
  have ⟨row, hfind, _⟩ := h.found
  have hid := List.find?_some hfind
  exact List.any_eq_true.mpr ⟨row, List.mem_of_find?_eq_some hfind, hid⟩

theorem beginAnalysis_returns {identity : AnalysisIdentity} {now : Int} :
    Returns (fun w : World π => w.db.Valid ∧ HasMatch sha256 matchId w.db)
      (store env .beginAnalysis (beginAnalysis matchId identity now))
      (fun run w => Begun sha256 matchId run w.db) := by
  refine store_returns (P := fun db => db.Valid ∧ HasMatch sha256 matchId db)
    (Q := Begun sha256 matchId) fun db run db' ⟨hv, hrow⟩ h => ?_
  have hvalid : db'.Valid := Keeps.beginAnalysis h hv
  have ⟨_, _, hr⟩ := beginAnalysis_eq_ok_iff.mp h
  cases hr
  exact ⟨hvalid, hrow, ⟨_, List.find?_cons_of_pos (by simp), rfl⟩,
    unrated_withRun hv (fresh_notMem _)⟩

theorem completeAnalysis_ready {db₁ db : Database} {ratingBp : Int} {r : Unit × Database}
    (h₁ : Begun sha256 matchId run db₁) (hv : db.Valid) (hrated : Rated db₁ run localId db)
    (hrates : RunRates run localId ratingBp db) (h : completeAnalysis run db = .ok r) :
    Ready sha256 localId ratingBp r.2 := by
  have hvalid : r.2.Valid := Keeps.completeAnalysis h hv
  have ⟨row, hrow, hid, hsha⟩ := h₁.row
  have ⟨begun, hbegun, hmatch⟩ := h₁.found
  have ⟨found, hfound, _, hlocal, hr⟩ := completeAnalysis_eq_ok_iff.mp h
  rw [hrated.frame.analysisRuns, hbegun] at hfound
  cases hfound
  rw [← hrated.frame.matchTable] at hrow
  have howner : row.localSteamId = localId := by
    have hmem : row ∈ db.matchTable.filter (·.id = begun.matchId) :=
      List.mem_filter.mpr ⟨hrow, by simp [hid, hmatch]⟩
    exact hrated.hasLocalRating_iff.mp (List.all_eq_true.mp hlocal row hmem)
  cases hr
  refine ⟨hvalid, row.parse run, mem_update.mpr ⟨row, hrow, ?_⟩, hsha, rfl, run, rfl, howner, hrates⟩
  simp [hid, hmatch]

-- The steps that follow an analysis write to the jobs alone.
theorem Ready.of_frame {ratingBp : Int} {db db' : Database} (h : Ready sha256 localId ratingBp db)
    (hv : db'.Valid) (hmatch : db'.matchTable = db.matchTable)
    (hvectors : db'.ratingVectors = db.ratingVectors) : Ready sha256 localId ratingBp db' := by
  have ⟨row, hrow, hsha, hstatus, run, hrun, hlocal, vector, hfind, hbp⟩ := h.row
  exact ⟨hv, row, hmatch ▸ hrow, hsha, hstatus, run, hrun, hlocal, vector, hvectors ▸ hfind, hbp⟩

theorem updateImportProgress_ready {worker : String} {done total : Option Int}
    {progress heartbeat now ratingBp : Int} :
    (updateImportProgress job worker done total progress heartbeat now).Keeps
      (Ready sha256 localId ratingBp) := by
  intro db r h hready
  have hv := Keeps.updateImportProgress h hready.valid
  have ⟨_, _, hr⟩ := updateImportProgress_eq_ok_iff.mp h
  cases hr
  exact hready.of_frame hv rfl rfl

theorem succeedImport_ready {ratingBp : Int} :
    Preserves (fun w : World π => Ready sha256 localId ratingBp w.db)
      (succeedImport env job request) := by
  refine store_preserves fun db r h hready => ?_
  have hv := Keeps.finishImportWithDiagnostic h hready.valid
  have ⟨_, _, hr⟩ := finishImport_eq_ok_iff.mp h
  cases hr
  exact hready.of_frame hv rfl rfl

-- What an import that ends with a rating leaves behind, and where the rating comes from.
def Publishes (parsed : ParsedOutput) (sha256 : Digest) (localId : SteamId)
    (outcome : ImportOutcome) (db : Database) : Prop :=
  ∀ job' sha256' ratingBp, outcome = .ready job' sha256' ratingBp →
    Ready sha256 localId ratingBp db ∧ ∃ analysis bp, Analysis.analyze parsed localId = .ok analysis ∧
      analysis.ratingReceipt.ratingBp = some bp ∧ bp.get = ratingBp

theorem Publishes.preserves {outcome : ImportOutcome} {x : Program Step (World π) Failure α}
    (h : ∀ ratingBp, Preserves (fun w : World π => Ready sha256 localId ratingBp w.db) x) :
    Returns (fun w : World π => Publishes parsed sha256 localId outcome w.db) x
      (fun _ w => Publishes parsed sha256 localId outcome w.db) := by
  intro w a w' hw hret job' sha256' ratingBp heq
  have ⟨hready, hanalysis⟩ := hw job' sha256' ratingBp heq
  exact ⟨(h ratingBp).returns w a w' hready hret, hanalysis⟩

-- The results of a run that is still to be completed.
structure Persisted (parsed : ParsedOutput) (localId : SteamId) (job : ImportJobId)
    (sha256 : Digest) (run : AnalysisRunId) (db₁ : Database) (outcome : ImportOutcome)
    (db : Database) : Prop where
  valid   : db.Valid
  rated   : Rated db₁ run localId db
  reports : Reports parsed localId job sha256 outcome
  rates   : ∀ job' sha256' ratingBp, outcome = .ready job' sha256' ratingBp →
    RunRates run localId ratingBp db

theorem persistAnalysis_persisted {w₁ : World π} (h₁ : Begun sha256 matchId run w₁.db) :
    Returns (· = w₁) (persistAnalysis env job run sha256 localId parsed)
      (fun outcome w => Persisted parsed localId job sha256 run w₁.db outcome w.db) := by
  have hends : Ends (π := π) env _ _
      (persistAnalysis env job run sha256 localId parsed) _ (fun _ _ _ => True) :=
    persistAnalysis_ends h₁.hasRun Iff.rfl fun _ _ _ _ _ => trivial
  intro w outcome w' hw hret
  have ⟨hreports, hrated⟩ := hends.returns w outcome w' (hw ▸ h₁.unrated) hret
  have hvalid := persistAnalysis_valid.returns w outcome w' (hw ▸ h₁.valid) hret
  exact ⟨hvalid, hrated, hreports, persistAnalysis_returns w outcome w' trivial hret⟩

theorem completeAnalysis_returns {db₁ : Database} {outcome : ImportOutcome}
    (h₁ : Begun sha256 matchId run db₁) :
    Returns (fun w : World π => Persisted parsed localId job sha256 run db₁ outcome w.db)
      (store env .completeAnalysis (completeAnalysis run))
      (fun _ w => Publishes parsed sha256 localId outcome w.db) := by
  refine store_returns (P := Persisted parsed localId job sha256 run db₁ outcome)
    (Q := fun _ => Publishes parsed sha256 localId outcome) fun db _ db' h hop => ?_
  intro job' sha256' ratingBp heq
  have hready := completeAnalysis_ready h₁ h.valid h.rated (h.rates job' sha256' ratingBp heq) hop
  have hreports := h.reports
  subst heq
  exact ⟨hready, hreports.2.2⟩

theorem analyzeMatch_returns :
    Returns (fun w : World π => w.db.Valid ∧ HasMatch sha256 matchId w.db)
      (analyzeMatch env hook job sha256 request parsed matchId)
      (fun outcome w => Publishes parsed sha256 request.localSteamId outcome.result w.db) := by
  refine beginAnalysis_returns.bind fun run => Returns.of_eq fun w₁ h₁ => ?_
  refine (persistAnalysis_persisted h₁).bind fun outcome => ?_
  refine (completeAnalysis_returns h₁).bind fun _ => ?_
  refine (Publishes.preserves fun _ => runHook_preserves).bind fun _ => ?_
  refine (Publishes.preserves fun _ => store_preserves updateImportProgress_ready).bind fun _ => ?_
  exact (Publishes.preserves fun _ => succeedImport_ready).bind fun _ => Returns.pure fun _ h => h

-- The participants are stored beside the match.
theorem storeParticipant_hasMatch {matchId' : MatchId} {i : Nat} {p : Participant} :
    Preserves (fun w : World π => HasMatch sha256 matchId w.db)
      (storeParticipant env matchId' i p) := by
  refine Preserves.bind ?_ fun _ => ?_
  · refine store_preserves (I := HasMatch sha256 matchId) fun _ _ h hrow => ?_
    have ⟨_, _, hr⟩ := upsertPlayer_eq_ok_iff.mp h
    exact hr ▸ hrow
  · refine store_preserves (I := HasMatch sha256 matchId) fun _ _ h hrow => ?_
    have ⟨_, _, _, _, hr⟩ := addMatchParticipant_eq_ok_iff.mp h
    exact hr ▸ hrow

theorem storeMatch_returns :
    Returns (fun w : World π => w.db.Valid) (storeMatch env sha256 request parsed)
      (fun matchId w => w.db.Valid ∧ HasMatch sha256 matchId w.db) := by
  refine Returns.and storeMatch_valid.returns ?_
  have himport : Returns (fun w : World π => w.db.Valid) (store env .importMatch
      (importMatch sha256 request.localSteamId parsed.metadata.map (env.clock .importMatch 0)))
      (fun matchId w => HasMatch sha256 matchId w.db) := by
    refine store_returns (P := Database.Valid) (Q := HasMatch sha256) fun db matchId db' _ h => ?_
    have ⟨_, _, hr⟩ := importMatch_eq_ok_iff.mp h
    cases hr
    exact ⟨_, List.mem_cons_self, rfl, rfl⟩
  refine himport.bind fun matchId => ?_
  exact (Preserves.forEach (fun _ _ => storeParticipant_hasMatch) 0 _).returns.bind fun _ =>
    Returns.pure fun _ h => h

theorem parseArtifact_returns :
    Returns (fun w : World π => w.db.Valid) (parseArtifact env job sha256 request parser)
      (fun parsed w => w.db.Valid ∧ parser.result = .ok parsed) := by
  refine Returns.and parseArtifact_valid.returns ?_
  refine Returns.trivially.bind fun artifact => ?_
  split
  case isTrue => exact Returns.fail
  case isFalse =>
    refine Returns.trivially.bind fun _ => ?_
    split
    case h_1 => exact Returns.trivially.bind fun _ => Returns.fail
    case h_2 parsed hparsed =>
      split
      case isTrue => exact Returns.trivially.bind fun _ => Returns.fail
      case isFalse => exact Returns.pure fun _ _ => hparsed

theorem matchForDemo_returns :
    Returns (fun w : World π => w.db.Valid) (store env .matchForDemo (matchForDemo sha256))
      (fun found w => w.db.Valid ∧ ∀ matchId ∈ found, HasMatch sha256 matchId w.db) := by
  refine store_returns (P := Database.Valid)
    (Q := fun found db => db.Valid ∧ ∀ matchId ∈ found, HasMatch sha256 matchId db)
    fun db found db' hv h => ?_
  cases h
  refine ⟨hv, fun matchId hmem => ?_⟩
  have ⟨row, hfind, hid⟩ := Option.map_eq_some_iff.mp hmem
  exact ⟨row, List.mem_of_find?_eq_some hfind, hid, by simpa using List.find?_some hfind⟩

theorem failImport_ne_ok {stop : Stop Step Failure} {error : PipelineError} {w w' : World π} {a : α} :
    (failImport env job request stop error : Program Step (World π) Failure α) w ≠ .ok a w' := by
  unfold failImport
  split
  case h_1 => exact fun h => nomatch h
  case h_2 => exact fun h => nomatch h

theorem runLeased_returns :
    Returns (fun w : World π => w.db.Valid) (runLeased env hook job sha256 request parser)
      (fun outcome w => ∃ parsed, parser.result = .ok parsed ∧
        Publishes parsed sha256 request.localSteamId outcome.result w.db) := by
  refine parseArtifact_returns.bind fun parsed => Returns.of_eq fun w₀ ⟨hv₀, hparsed⟩ => ?_
  have hprogress : Returns (· = w₀) (store env .parsedProgress (updateImportProgress job
      request.worker none none 7000 (env.clock .parsedProgress 0) (env.clock .parsedProgress 1)))
      (fun _ w => w.db.Valid) :=
    (store_preserves Keeps.updateImportProgress).returns.pre fun _ h => h ▸ hv₀
  have hanalyze : ∀ matchId, Returns
      (fun w : World π => w.db.Valid ∧ HasMatch sha256 matchId w.db)
      (analyzeMatch env hook job sha256 request parsed matchId) (fun outcome w =>
        ∃ parsed, parser.result = .ok parsed ∧
          Publishes parsed sha256 request.localSteamId outcome.result w.db) :=
    fun matchId w outcome w' hw h => ⟨parsed, hparsed, analyzeMatch_returns w outcome w' hw h⟩
  refine hprogress.bind fun _ => matchForDemo_returns.bind fun found => ?_
  cases found
  case none => exact (storeMatch_returns.pre fun _ h => h.1).bind fun matchId => hanalyze matchId
  case some matchId =>
    have hcompleted : Returns (fun w : World π => w.db.Valid ∧
        ∀ id ∈ some matchId, HasMatch sha256 id w.db) (store env .completedAnalysis
        (completedAnalysisForIdentity matchId (analysisIdentity parsed.identity)))
        (fun _ w => w.db.Valid ∧ HasMatch sha256 matchId w.db) := by
      refine store_returns (P := fun db => db.Valid ∧ ∀ id ∈ some matchId, HasMatch sha256 id db)
        (Q := fun _ db => db.Valid ∧ HasMatch sha256 matchId db) fun db _ db' hdb h => ?_
      cases h
      exact ⟨hdb.1, hdb.2 matchId rfl⟩
    refine hcompleted.bind fun completed => ?_
    split
    case isTrue =>
      refine Returns.trivially.bind fun _ => Returns.trivially.bind fun _ => Returns.pure ?_
      exact fun w _ => ⟨parsed, hparsed, fun _ _ _ heq => nomatch heq⟩
    case isFalse => exact hanalyze matchId

theorem importInner_returns {source : Source} :
    Returns (fun w : World π => w.db.Valid) (importInner env hook source request parser)
      (fun outcome w => ∃ parsed, parser.result = .ok parsed ∧
        Publishes parsed source.sha256 request.localSteamId outcome.result w.db) := by
  refine leaseSource_valid.returns.bind fun job w outcome w' hw h => ?_
  have hrun : runLeased env hook job source.sha256 request parser w = .ok outcome w' := by
    unfold reportFailure at h
    split at h
    case h_1 => exact absurd h failImport_ne_ok
    case h_2 =>
      split at h
      case isTrue => cases h
      case isFalse => exact absurd h failImport_ne_ok
    case h_3 => exact h
  exact runLeased_returns w outcome w' hw hrun

end Pipeline
