import OpenFrag.Pipeline.Import
import OpenFrag.Storage.Theorems.Import

open Import Storage Program

namespace Pipeline

section Valid

variable {π α : Type} {env : Environment} {step : Step} {op : Statement α}

theorem store_preserves {I : Database → Prop} (h : op.Keeps I) :
    Preserves (fun w : World π => I w.db) (store env step op) := by
  refine Preserves.call fun w r hr hw => ?_
  unfold onDatabase at hr
  rcases hop : op w.db with e | ⟨a, db⟩ <;> simp only [hop] at hr <;> cases hr
  exact h hop hw

-- However an import ends, it leaves a valid database.
abbrev KeepsValid (x : Program Step (World π) Failure α) : Prop :=
  Preserves (fun w => w.db.Valid) x

variable {hook : Option (Hook π)} {job : ImportJobId} {sha256 : Digest} {request : ImportRequest}
variable {parser : ParserRun} {parsed : ParsedOutput} {matchId : MatchId} {run : AnalysisRunId}
variable {localId : SteamId}

theorem persistProgress_valid {worker : String} {last : Option (ParserProgressPhase × Int)}
    {i : Nat} {events : List ParserProgress} :
    KeepsValid (π := π) (persistProgress env job worker last i events) := by
  induction events generalizing last i
  case nil => exact .pure
  case cons event events ih =>
    simp only [persistProgress]
    split
    · exact (store_preserves Keeps.updateParserProgress).bind fun _ => ih
    · exact ih

theorem quarantine_valid {reason : String} {diagnostic : ParseDiagnostic} :
    KeepsValid (quarantine env sha256 reason diagnostic : Program Step (World π) Failure α) := by
  refine .bind ?_ fun _ => .fail
  exact store_preserves fun _ _ h => Keeps.quarantineArtifact h

theorem parseArtifact_valid :
    KeepsValid (π := π) (parseArtifact env job sha256 request parser) := by
  refine (store_preserves Keeps.artifact).bind fun artifact => ?_
  split
  · exact .fail
  · refine persistProgress_valid.bind fun _ => ?_
    split
    · exact quarantine_valid
    · split
      · exact quarantine_valid
      · exact .pure

theorem trySize_valid {n : Nat} : KeepsValid (π := π) (trySize n) := by
  unfold trySize
  split
  · exact .pure
  · exact .fail

theorem persistUnavailable_valid {reason : Analysis.AnalysisUnavailable} :
    KeepsValid (π := π) (persistUnavailable env run parsed localId reason) := by
  refine (Preserves.forEach (fun i round => ?_) 0 _).bind fun _ =>
    (store_preserves Keeps.addReceipt).bind fun _ =>
    store_preserves Keeps.persistUnavailableRating
  exact trySize_valid.bind fun _ => (store_preserves Keeps.addRound).bind fun _ => .pure

theorem storeRound_valid {i : Nat} {round : Analysis.RoundLedger} :
    KeepsValid (π := π) (storeRound env run localId i round) :=
  trySize_valid.bind fun _ => (store_preserves Keeps.addRound).bind fun _ =>
    (store_preserves Keeps.addReceipt).bind fun _ => store_preserves Keeps.writeRoundMetric

theorem storeComponent_valid {vector : RatingVectorId} {i : Nat}
    {component : Domain.ComponentReceipt} :
    KeepsValid (π := π) (storeComponent env run localId vector i component) :=
  (store_preserves Keeps.addReceipt).bind fun _ => store_preserves Keeps.persistRatingComponent

theorem persistAvailable_valid {analysis : Analysis.AnalysisReceipt} :
    KeepsValid (π := π) (persistAvailable env job run sha256 localId analysis) := by
  refine (Preserves.forEach (fun _ _ => storeRound_valid) 0 _).bind fun _ => ?_
  split
  · exact .fail
  · exact (store_preserves Keeps.addReceipt).bind fun _ =>
      (store_preserves Keeps.persistAvailableRating).bind fun _ =>
      (Preserves.forEach (fun _ _ => storeComponent_valid) 0 _).bind fun _ => .pure

theorem persistAnalysis_valid :
    KeepsValid (π := π) (persistAnalysis env job run sha256 localId parsed) := by
  unfold persistAnalysis
  split
  · exact persistAvailable_valid
  · exact persistUnavailable_valid.bind fun _ => .pure
  · exact .fail

theorem runHook_preserves {I : Database → Prop} :
    Preserves (fun w : World π => I w.db) (runHook env hook parsed localId) := by
  unfold runHook
  split
  · exact .pure
  · refine .guarded fun w hw => ?_
    simp only [reconcileWith]
    rcases Reconcile.reconcileDemoCandidates parsed localId _ _ w.persistence <;> exact hw

theorem succeedImport_valid : KeepsValid (π := π) (succeedImport env job request) :=
  store_preserves Keeps.finishImportWithDiagnostic

theorem analyzeMatch_valid :
    KeepsValid (analyzeMatch env hook job sha256 request parsed matchId) :=
  (store_preserves Keeps.beginAnalysis).bind fun _ => persistAnalysis_valid.bind fun _ =>
    (store_preserves Keeps.completeAnalysis).bind fun _ => runHook_preserves.bind fun _ =>
    (store_preserves Keeps.updateImportProgress).bind fun _ => succeedImport_valid.bind fun _ =>
    .pure

theorem deduplicate_valid : KeepsValid (deduplicate env hook job sha256 request parsed) :=
  runHook_preserves.bind fun _ => succeedImport_valid.bind fun _ => .pure

theorem storeMatch_valid : KeepsValid (π := π) (storeMatch env sha256 request parsed) :=
  (store_preserves Keeps.importMatch).bind fun _ =>
    (Preserves.forEach (fun _ _ => (store_preserves Keeps.upsertPlayer).bind fun _ =>
      store_preserves Keeps.addMatchParticipant) 0 _).bind fun _ => .pure

theorem runLeased_valid : KeepsValid (runLeased env hook job sha256 request parser) := by
  refine parseArtifact_valid.bind fun parsed =>
    (store_preserves Keeps.updateImportProgress).bind fun _ =>
    (store_preserves Keeps.matchForDemo).bind fun existing => ?_
  split
  · refine (store_preserves Keeps.completedAnalysisForIdentity).bind fun completed => ?_
    split
    · exact deduplicate_valid
    · exact analyzeMatch_valid
  · exact storeMatch_valid.bind fun _ => analyzeMatch_valid

theorem failImport_valid {stop : Stop Step Failure} {error : PipelineError} :
    KeepsValid (failImport env job request stop error : Program Step (World π) Failure α) := by
  intro w hw
  unfold failImport onDatabase
  rcases hop : finishImportWithDiagnostic job request.worker .failed (some error.code)
    (some error.remediationCode) none error.diagnosticJson (env.clock .failImport 0) w.db with
    e | r
  case error => exact hw
  case ok => exact Keeps.finishImportWithDiagnostic hop hw

theorem reportFailure_valid {x : Program Step (World π) Failure α} (hx : KeepsValid x) :
    KeepsValid (reportFailure env job request x) := by
  intro w hw
  have h := hx w hw
  unfold reportFailure
  rcases hxw : x w with ⟨a, w'⟩ | ⟨(⟨error | _⟩ | fault), w'⟩ <;> simp only [hxw] at h ⊢
  case ok => exact h
  case error.failed.error => exact failImport_valid w' h
  case error.failed.panic => exact h
  case error.interrupted =>
    cases fault.crash
    case true => exact h
    case false => exact failImport_valid w' h

theorem leaseSource_valid {source : Source} :
    KeepsValid (π := π) (leaseSource env source request) :=
  (store_preserves Keeps.commitArtifact).bind fun _ =>
    (store_preserves Keeps.enqueueImport).bind fun _ =>
    (store_preserves Keeps.leaseImport).bind fun _ =>
    (store_preserves Keeps.updateImportProgress).bind fun _ => .pure

theorem importInner_valid {source : Source} :
    KeepsValid (importInner env hook source request parser) :=
  leaseSource_valid.bind fun _ => reportFailure_valid runLeased_valid

end Valid

end Pipeline
