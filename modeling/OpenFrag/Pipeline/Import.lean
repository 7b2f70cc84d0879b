import OpenFrag.Pipeline.Reconcile
import OpenFrag.Storage.Import
import OpenFrag.Library.Program

open Import Storage Program

namespace Pipeline

-- The text of a storage error.
inductive StorageText
  | debug (error : Storage.Error)
  | artifactPathAbsent
  | injected
  deriving DecidableEq, Repr

inductive PipelineError
  | size
  | parser (diagnostic : ParseDiagnostic)
  | storage (text : StorageText)
  | reconciliation (text : String)
  deriving DecidableEq, Repr

-- An import ends with a typed error or with the panic of the analysis.
inductive Failure
  | error (error : PipelineError)
  | panic
  deriving DecidableEq, Repr

namespace PipelineError

def code : PipelineError → String
  | .size              => "size"
  | .parser diagnostic => diagnostic.category.code
  | .storage _         => "storage"
  | .reconciliation _  => "reconciliation"

def remediationCode : PipelineError → String
  | .parser diagnostic =>
    match diagnostic.category with
    | .sourceIo           => "retry_source_read"
    | .truncated          => "replace_truncated_demo"
    | .unsupportedCommand => "unsupported_demo_version"
    | .schemaDrift        => "update_parser_or_quarantine"
    | .corrupt            => "replace_corrupt_demo"
    | .missingEvidence    => "inspect_missing_demo_evidence"
    | .internalInvariant  => "report_parser_invariant"
  | .size              => "choose_valid_demo"
  | .storage _         => "repair_local_storage"
  | .reconciliation _  => "retry_reconciliation"

def diagnosticJson : PipelineError → Option ParseDiagnostic
  | .parser diagnostic => some diagnostic
  | _                  => none

end PipelineError

def internalParseDiagnostic (category : ParseDiagnosticCategory) (stage : ParseStage)
    (source : String) : ParseDiagnostic where
  category
  stage
  gameBuild      := none
  byteOffset     := none
  frameIndex     := none
  tick           := none
  command        := none
  requiredItem   := none
  observedCounts := []
  upstreamSource := source

-- A Demo that is imported, whose length was validated.
structure Source where
  sha256     : Digest
  byteLength : Nat
  validated  : byteLength ≤ MAX_DEMO_BYTES

instance : DecidableEq Source := fun source source' =>
  decidable_of_iff (source.sha256 = source'.sha256 ∧ source.byteLength = source'.byteLength) <| by
    cases source
    cases source'
    simp

structure ImportRequest where
  localSteamId     : SteamId
  worker           : String
  leaseExpiresAtMs : Int
  deriving DecidableEq, Repr

-- What the parser reports of a Demo while it runs, and what it returns.
structure ParserRun where
  progress : List ParserProgress
  result   : Except ParseDiagnostic ParsedOutput

inductive ImportOutcome
  | deduplicated (job : ImportJobId) (demoSha256 : Digest)
  | ready (job : ImportJobId) (demoSha256 : Digest) (ratingBp : Nat)
  | ratingUnavailable (job : ImportJobId) (demoSha256 : Digest)
    (reason : Analysis.AnalysisUnavailable)
  deriving DecidableEq, Repr

structure ReconciledImportOutcome where
  result         : ImportOutcome
  reconciliation : List Reconcile.ReconciliationDecision
  deriving DecidableEq, Repr

-- The calls that an import makes to its environment, by the line that makes them.
inductive Step
  | commitArtifact
  | enqueueImport
  | leaseImport
  | copiedProgress
  | artifact
  | parserProgress (event : Nat)
  | quarantine
  | parsedProgress
  | matchForDemo
  | completedAnalysis
  | importMatch
  | upsertPlayer (participant : Nat)
  | addMatchParticipant (participant : Nat)
  | beginAnalysis
  | addRound (round : Nat)
  | addRoundReceipt (round : Nat)
  | writeRoundMetric (round : Nat)
  | addRatingReceipt
  | persistRating
  | addComponentReceipt (component : Nat)
  | persistComponent (component : Nat)
  | completeAnalysis
  | hook
  | analyzedProgress
  | finishImport
  | failImport
  deriving DecidableEq, Repr

-- The readings of the wall clock at each step, and the step that is stopped, if any.
structure Environment where
  clock : Step → Nat → Int
  plan  : Option (Fault Step)

-- The state that an import changes: the database, and that of the injected persistence.
structure World (π : Type) where
  db          : Database
  persistence : π

-- The hook of `import_and_reconcile`, which runs after the analysis.
structure Hook (π : Type) where
  candidates            : List Reconcile.ReconciliationCandidate
  persistReconciliation : Reconcile.ReconciliationDecision → EStateM String π Unit

section

variable {π α : Type}

-- A statement on the database of the world.
def onDatabase (op : Statement α) (w : World π) : Except Failure (α × World π) :=
  match op w.db with
  | .ok (a, db) => .ok (a, { w with db })
  | .error e    => .error (.error (.storage (.debug e)))

variable (env : Environment)

def store (step : Step) (op : Statement α) : Program Step (World π) Failure α :=
  call env.plan step (onDatabase op)

-- The conversion of a counter to `i64`, which saturates.
def saturated (n : Nat) : Int := min n (2 ^ 63 - 1)

def saturatingMul (a b : Int) : Int := max (-2 ^ 63) (min (a * b) (2 ^ 63 - 1))

def parserProgressBasisPoints (progress : ParserProgress) : Int :=
  let fraction : Int :=
    (min progress.bytesConsumed progress.totalBytes * 1000 / progress.totalBytes : Nat)
  match progress.phase with
  | .firstPass  => 3000 + fraction * 1000 / 1000
  | .secondPass => 4000 + fraction * 2500 / 1000
  | .finalize   => 6500 + fraction * 500 / 1000

-- Whether an event of the parser is persisted after the last one that was.
def advances (last : Option (ParserProgressPhase × Int)) (progress : ParserProgress) : Bool :=
  last.all (fun (phase, _) => phase ≠ progress.phase) ||
  last.all (fun (_, previous) => previous + 10 ≤ parserProgressBasisPoints progress) ||
  progress.phase = .finalize

-- The calls that the parser makes to the progress closure. After a failed update the closure does
-- nothing more, and the import ends with its error once the parser returns.
def persistProgress (job : ImportJobId) (worker : String) :
    Option (ParserProgressPhase × Int) → Nat → List ParserProgress →
      Program Step (World π) Failure Unit
  | _, _, [] => pure ()
  | last, i, progress :: rest =>
    if advances last progress then do
      store env (.parserProgress i) (updateParserProgress job worker {
        phase         := progress.phase.code
        bytesDone     := saturated progress.bytesConsumed
        bytesTotal    := saturated progress.totalBytes
        framesDone    := saturated progress.frames
        eventsEmitted := saturated progress.eventsEmitted
        progressBp    := parserProgressBasisPoints progress
        heartbeatAtMs := env.clock (.parserProgress i) 0
      } (env.clock (.parserProgress i) 1))
      persistProgress job worker (some (progress.phase, parserProgressBasisPoints progress))
        (i + 1) rest
    else
      persistProgress job worker last (i + 1) rest

-- The name of the file in quarantine is generated.
def quarantine (sha256 : Digest) (reason : String) (diagnostic : ParseDiagnostic) :
    Program Step (World π) Failure α := do
  let _ ← store env .quarantine (fun db =>
    quarantineArtifact sha256 reason (Table.fresh (db.artifacts.map (·.sha256.toNat))) db)
  fail (.error (.parser diagnostic))

-- The part of `run_leased` up to the parsed Demo.
def parseArtifact (job : ImportJobId) (sha256 : Digest) (request : ImportRequest)
    (parser : ParserRun) : Program Step (World π) Failure ParsedOutput := do
  let artifact ← store env .artifact (Storage.artifact sha256)
  if artifact.relativePath.isNone then
    fail (.error (.storage .artifactPathAbsent))
  else do
    persistProgress env job request.worker none 0 parser.progress
    match parser.result with
    | .error diagnostic => quarantine env sha256 diagnostic.category.code diagnostic
    | .ok parsed =>
      if parsed.participants.isEmpty then
        quarantine env sha256 "suspicious_empty_roster"
          (internalParseDiagnostic .missingEvidence .finalize
            "empty participant roster quarantined")
      else
        pure parsed

def analysisIdentity (identity : CalculationIdentity) : AnalysisIdentity where
  parserCommit            := identity.parserCommit
  parserBuild             := identity.parserBuild
  generatedProtoBuild     := identity.generatedProtoBuild
  requestedSchemaHash     := identity.requestedSchemaHash
  metricDefinitionVersion := identity.metricDefinitionVersion
  formulaId               := identity.formulaVersion
  evidenceSemanticsEpoch  := identity.evidenceSemanticsEpoch

def normalizeWinner : Option Int → Option Winner
  | some 2 => some .T
  | some 3 => some .CT
  | _      => none

def winnerLabel (winner : Int) : Option Winner := normalizeWinner (some winner)

-- The conversion of a number to `i64`, with the error of the import.
def trySize (n : Nat) : Program Step (World π) Failure Int :=
  if n < 2 ^ 63 then pure n else fail (.error .size)

def storeParticipant (matchId : MatchId) (i : Nat) (p : Participant) :
    Program Step (World π) Failure Unit := do
  store env (.upsertPlayer i) (upsertPlayer p.steamId p.name
    (env.clock (.upsertPlayer i) 0) (env.clock (.upsertPlayer i) 1))
  store env (.addMatchParticipant i) (addMatchParticipant matchId p.steamId "unknown")

def storeParsedRound (run : AnalysisRunId) (i : Nat) (round : ParsedRound) :
    Program Step (World π) Failure Unit := do
  let number ← trySize round.number
  let _ ← store env (.addRound i)
    (addRound run number round.endTick (normalizeWinner round.winner))

def ofr : String := "ofr-1.0.0"

def persistUnavailable (run : AnalysisRunId) (parsed : ParsedOutput) (localId : SteamId)
    (reason : Analysis.AnalysisUnavailable) : Program Step (World π) Failure Unit := do
  forEach (storeParsedRound env run) 0 parsed.rounds
  let receipt ← store env .addRatingReceipt (addReceipt run none "rating_unavailable" none none []
    (.unavailable reason parsed.identity.sourceSha256) (.formula ofr))
  store env .persistRating (persistUnavailableRating run localId ofr reason receipt)

def storeRound (run : AnalysisRunId) (localId : SteamId) (i : Nat)
    (round : Analysis.RoundLedger) : Program Step (World π) Failure Unit := do
  let number ← trySize round.number
  let id ← store env (.addRound i) (addRound run number round.endTick (winnerLabel round.winner))
  let receipt ← store env (.addRoundReceipt i) (addReceipt run (some id) "round_ledger"
    (some round.endTick) (some (saturated round.number)) []
    (.roundLedger round.eligible round.exclusion round.orderedEvidenceHashes) (.formula ofr))
  store env (.writeRoundMetric i) (writeRoundMetric run id localId "eligible"
    (if round.eligible then 1 else 0) 1 (some receipt))

def componentName : Domain.ComponentKind → String
  | .directDamage     => "DirectDamage"
  | .fragBalance      => "FragBalance"
  | .openingDuels     => "OpeningDuels"
  | .tradeKills       => "TradeKills"
  | .utility          => "Utility"
  | .clutchConversion => "ClutchConversion"

def storeComponent (run : AnalysisRunId) (localId : SteamId) (vector : RatingVectorId) (i : Nat)
    (component : Domain.ComponentReceipt) : Program Step (World π) Failure Unit := do
  let receipt ← store env (.addComponentReceipt i) (addReceipt run none
    ("component:" ++ componentName component.kind) none none [localId]
    (.component component.exactNumerator component.exactDenominator)
    (.weight component.weight.numerator component.weight.denominator))
  store env (.persistComponent i) (persistRatingComponent vector component.kind
    component.exactNumerator component.exactDenominator
    ((saturatingMul component.exactNumerator 10000).tdiv component.exactDenominator)
    ((saturatingMul component.weight.numerator 10000).tdiv component.weight.denominator) receipt)

def persistAvailable (job : ImportJobId) (run : AnalysisRunId) (sha256 : Digest)
    (localId : SteamId) (analysis : Analysis.AnalysisReceipt) :
    Program Step (World π) Failure ImportOutcome := do
  forEach (storeRound env run localId) 0 analysis.rounds
  match analysis.ratingReceipt.ratingBp with
  | none =>
    fail (.error (.parser
      (internalParseDiagnostic .internalInvariant .finalize "domain returned no rating")))
  | some ratingBp => do
    let receipt ← store env .addRatingReceipt (addReceipt run none ofr none none [localId]
      (.rating ratingBp.get analysis.ratingInput.metrics sha256) (.scale "basis_points"))
    let vector ← store env .persistRating
      (persistAvailableRating run localId ofr ratingBp.get receipt)
    forEach (storeComponent env run localId vector) 0
      (analysis.ratingReceipt.componentReceipts.getD [])
    pure (.ready job sha256 ratingBp.get)

def persistAnalysis (job : ImportJobId) (run : AnalysisRunId) (sha256 : Digest)
    (localId : SteamId) (parsed : ParsedOutput) : Program Step (World π) Failure ImportOutcome :=
  match Analysis.analyze parsed localId with
  | .ok analysis => persistAvailable env job run sha256 localId analysis
  | .error (.unavailable reason) => do
    persistUnavailable env run parsed localId reason
    pure (.ratingUnavailable job sha256 reason)
  | .error .panic => fail .panic

def reconcileWith (hook : Hook π) (parsed : ParsedOutput) (localId : SteamId) :
    Program Step (World π) Failure (List Reconcile.ReconciliationDecision) := fun w =>
  match Reconcile.reconcileDemoCandidates parsed localId hook.candidates
      hook.persistReconciliation w.persistence with
  | .ok decisions persistence => .ok decisions { w with persistence }
  | .error e persistence => .error (.failed (.error (.reconciliation e))) { w with persistence }

def runHook (hook : Option (Hook π)) (parsed : ParsedOutput) (localId : SteamId) :
    Program Step (World π) Failure (List Reconcile.ReconciliationDecision) :=
  match hook with
  | none => pure []
  | some hook => guarded env.plan .hook (reconcileWith hook parsed localId)

def succeedImport (job : ImportJobId) (request : ImportRequest) :
    Program Step (World π) Failure Unit :=
  store env .finishImport (finishImport job request.worker .succeeded none none none
    (env.clock .finishImport 0))

-- The part of `run_leased` after the match and its participants are stored.
def analyzeMatch (hook : Option (Hook π)) (job : ImportJobId) (sha256 : Digest)
    (request : ImportRequest) (parsed : ParsedOutput) (matchId : MatchId) :
    Program Step (World π) Failure ReconciledImportOutcome := do
  let run ← store env .beginAnalysis (beginAnalysis matchId (analysisIdentity parsed.identity)
    (env.clock .beginAnalysis 0))
  let outcome ← persistAnalysis env job run sha256 request.localSteamId parsed
  store env .completeAnalysis (completeAnalysis run)
  let reconciliation ← runHook env hook parsed request.localSteamId
  store env .analyzedProgress (updateImportProgress job request.worker none none 10000
    (env.clock .analyzedProgress 0) (env.clock .analyzedProgress 1))
  succeedImport env job request
  pure { result := outcome, reconciliation }

def deduplicate (hook : Option (Hook π)) (job : ImportJobId) (sha256 : Digest)
    (request : ImportRequest) (parsed : ParsedOutput) :
    Program Step (World π) Failure ReconciledImportOutcome := do
  let reconciliation ← runHook env hook parsed request.localSteamId
  succeedImport env job request
  pure { result := .deduplicated job sha256, reconciliation }

-- A match that is new, with its participants.
def storeMatch (sha256 : Digest) (request : ImportRequest) (parsed : ParsedOutput) :
    Program Step (World π) Failure MatchId := do
  let matchId ← store env .importMatch (importMatch sha256 request.localSteamId
    parsed.metadata.map (env.clock .importMatch 0))
  forEach (storeParticipant env matchId) 0 parsed.participants
  pure matchId

def runLeased (hook : Option (Hook π)) (job : ImportJobId) (sha256 : Digest)
    (request : ImportRequest) (parser : ParserRun) :
    Program Step (World π) Failure ReconciledImportOutcome := do
  let parsed ← parseArtifact env job sha256 request parser
  store env .parsedProgress (updateImportProgress job request.worker none none 7000
    (env.clock .parsedProgress 0) (env.clock .parsedProgress 1))
  match ← store env .matchForDemo (matchForDemo sha256) with
  | some matchId =>
    if ← store env .completedAnalysis
        (completedAnalysisForIdentity matchId (analysisIdentity parsed.identity)) then
      deduplicate env hook job sha256 request parsed
    else
      analyzeMatch env hook job sha256 request parsed matchId
  | none => do
    let matchId ← storeMatch env sha256 request parsed
    analyzeMatch env hook job sha256 request parsed matchId

-- The part of `import_inner` up to the leased job, after the Demo is staged.
def leaseSource (source : Source) (request : ImportRequest) :
    Program Step (World π) Failure ImportJobId := do
  let sha256 ← store env .commitArtifact (commitArtifact source.sha256 source.byteLength "dem"
    (some "application/x-counter-strike-2-demo") (env.clock .commitArtifact 0))
  let job ← store env .enqueueImport (enqueueImport sha256 (env.clock .enqueueImport 0)
    (env.clock .enqueueImport 1))
  store env .leaseImport (leaseImport job request.worker request.leaseExpiresAtMs
    (env.clock .leaseImport 0) (env.clock .leaseImport 1))
  store env .copiedProgress (updateImportProgress job request.worker
    (some (saturated source.byteLength)) (some (saturated source.byteLength)) 3000
    (env.clock .copiedProgress 0) (env.clock .copiedProgress 1))
  pure job

-- The error that the import reports for a step that was made to fail.
def interruption (step : Step) : PipelineError :=
  match step with
  | .hook => .reconciliation "injected"
  | _     => .storage .injected

-- A job that ends with an error is marked as failed; the error of doing so is dropped.
def failImport (job : ImportJobId) (request : ImportRequest) (stop : Stop Step Failure)
    (error : PipelineError) : Program Step (World π) Failure α := fun w =>
  match onDatabase (finishImportWithDiagnostic job request.worker .failed (some error.code)
    (some error.remediationCode) none error.diagnosticJson (env.clock .failImport 0)) w with
  | .ok (_, w') => .error stop w'
  | .error _    => .error stop w

-- A process that ends does not mark its job.
def reportFailure (job : ImportJobId) (request : ImportRequest)
    (x : Program Step (World π) Failure α) : Program Step (World π) Failure α := fun w =>
  match x w with
  | .error (.failed (.error error)) w' =>
    failImport env job request (.failed (.error error)) error w'
  | .error (.interrupted fault) w' =>
    if fault.crash then
      .error (.interrupted fault) w'
    else
      failImport env job request (.interrupted fault) (interruption fault.step) w'
  | result => result

def importInner (hook : Option (Hook π)) (source : Source) (request : ImportRequest)
    (parser : ParserRun) : Program Step (World π) Failure ReconciledImportOutcome := do
  let job ← leaseSource env source request
  reportFailure env job request (runLeased env hook job source.sha256 request parser)

end

end Pipeline
