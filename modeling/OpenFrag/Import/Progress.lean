import OpenFrag.Import.Evidence

namespace Import

inductive ParserProgressPhase
  | firstPass
  | secondPass
  | finalize
  deriving DecidableEq, Repr

def ParserProgressPhase.code : ParserProgressPhase → String
  | .firstPass  => "first_pass"
  | .secondPass => "second_pass"
  | .finalize   => "finalize"

def MAX_DEMO_BYTES : Nat := 2147483648

-- The counters are `u64`. The total is that of the validated Demo.
structure ParserProgress where
  phase         : ParserProgressPhase
  bytesConsumed : Nat
  totalBytes    : Nat
  frames        : Nat
  eventsEmitted : Nat
  validated     : totalBytes ≤ MAX_DEMO_BYTES
  deriving DecidableEq

inductive ParseDiagnosticCategory
  | sourceIo
  | truncated
  | unsupportedCommand
  | schemaDrift
  | corrupt
  | missingEvidence
  | internalInvariant
  deriving DecidableEq, Repr

def ParseDiagnosticCategory.code : ParseDiagnosticCategory → String
  | .sourceIo           => "source_io"
  | .truncated          => "truncated"
  | .unsupportedCommand => "unsupported_command"
  | .schemaDrift        => "schema_drift"
  | .corrupt            => "corrupt"
  | .missingEvidence    => "missing_evidence"
  | .internalInvariant  => "internal_invariant"

inductive ParseStage
  | sourceRead
  | frameScan
  | firstPass
  | secondPass
  | normalize
  | finalize
  deriving DecidableEq, Repr

structure ParseDiagnostic where
  category       : ParseDiagnosticCategory
  stage          : ParseStage
  gameBuild      : Option String
  byteOffset     : Option Nat
  frameIndex     : Option Nat
  tick           : Option DemoTick
  command        : Option Int
  requiredItem   : Option String
  observedCounts : List (String × Nat)
  upstreamSource : String
  deriving DecidableEq, Repr

end Import
