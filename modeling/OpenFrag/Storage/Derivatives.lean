import OpenFrag.Storage.Files

open Table MachineInt

-- The commit of the derivative of a clip: its file is moved from the staging directory to the tree
-- of the artifacts, and then one transaction adds its rows.
namespace Storage

-- The operations on the store, which keep what they have done when a later one fails.
abbrev Action (α : Type) := EStateM Error Store α

-- The steps that may fail on their own. The reading of the source stands for all of its queries.
inductive DerivativeStep
  | readSource
  | readArtifact
  | createDirectory
  | lookAtTarget
  | rename
  | permissions
  | syncTarget
  | begin
  | insertArtifact
  | insertClip
  | insertTags
  | insertReceipts
  | insertDerivation
  | commit
  | removeTarget
  deriving DecidableEq, Repr

structure StagedArtifact where
  sha256     : Digest
  byteLength : Nat
  name       : Nat
  deriving DecidableEq, Repr

structure DerivativeClipCommit where
  sourceClipId : ClipId
  staged       : StagedArtifact
  extension    : String
  mediaType    : Option String
  durationMs   : Nat
  trimStartMs  : Nat
  trimEndMs    : Nat
  title        : String
  note         : String
  tags         : List String
  favorite     : Bool
  deriving DecidableEq, Repr

def DerivativeClipCommit.target (request : DerivativeClipCommit) : ArtifactPath :=
  .committed request.staged.sha256 (request.extension.toList.dropWhile (· = '.'))

namespace Store

-- A rename replaces the file that it finds.
def promote (s : Store) (staged : StagedFile) (path : ArtifactPath) : Store :=
  { s with
    files   := ⟨path, staged.content⟩ :: s.files.filter (·.path ≠ path)
    staging := s.staging.filter (·.name ≠ staged.name) }

def removeFile (s : Store) (path : ArtifactPath) : Store :=
  { s with files := s.files.filter (·.path ≠ path) }

end Store

def DurableClipOriginRecord.kind : DurableClipOriginRecord → OriginKind
  | .auto ..   => .auto
  | .manual .. => .manual

def DurableClipOriginRecord.flagTimeMs : DurableClipOriginRecord → Option Nat
  | .auto ..               => none
  | .manual _ flagTimeMs _ => some flagTimeMs

-- The readings of the wall clock, in their order.
structure DerivativeClock where
  artifactCreated   : Int
  clipCreated       : Int
  reviewed          : Int
  derivationCreated : Int
  deriving DecidableEq, Repr

variable (fails : DerivativeStep → Bool) (request : DerivativeClipCommit) (clock : DerivativeClock)

def reach (step : DerivativeStep) : Except Error Unit :=
  ensure (¬fails step) (.io "step of a commit")

-- What is checked before the file is moved: the source of the derivative, and the staged file. A
-- lookup that fails finds no row and no file.
def checkDerivative (s : Store) : Except Error (DurableClipModelRecord × StagedFile) := do
  validateReviewMetadata (some request.title) (some request.note) request.tags
  ensure (request.trimStartMs < request.trimEndMs) (.invalid "clip derivative trim")
  reach fails .readSource
  let source ← durableClipModel s request.sourceClipId
  ensure (request.trimEndMs ≤ source.durationMs) (.invalid "clip derivative trim")
  ensure (fails .readArtifact ∨ ¬hasArtifact s.db request.staged.sha256)
    (.conflict "derivative artifact already exists")
  ensure ('/' ∉ request.extension.toList ∧ '\\' ∉ request.extension.toList)
    (.invalid "unsafe extension")
  ensure (request.durationMs ≠ 0 ∧ Signed 64 request.durationMs) (.invalid "clip duration")
  ensure (Signed 64 request.trimStartMs) (.invalid "clip derivative trim")
  ensure (Signed 64 request.trimEndMs) (.invalid "clip derivative trim")
  ensure (Signed 64 request.staged.byteLength) (.invalid "artifact too large")
  reach fails .createDirectory
  ensure (fails .lookAtTarget ∨ (fileAt s.files request.target).isNone)
    (.conflict "derivative artifact target")
  reach fails .rename
  match s.staging.find? (·.name = request.staged.name) with
  | none        => throw (.io "staged artifact")
  | some staged => return (source, staged)

def derivativeArtifact : ArtifactRow where
  sha256          := request.staged.sha256
  relativePath    := some request.target
  byteLength      := request.staged.byteLength
  mediaType       := request.mediaType
  availability    := .present
  createdAtMs     := clock.artifactCreated
  missingReason   := none
  mediaDurationMs := some request.durationMs

def derivativeClip (source : DurableClipModelRecord) (id : ClipId) : ClipRow where
  id
  artifactSha256   := request.staged.sha256
  captureSessionId := source.captureSessionId
  disposition      := "kept"
  provenance       := "trim_derivative"
  createdAtMs      := clock.clipCreated
  originKind       := some source.origin.kind
  manualFlagTimeMs := source.origin.flagTimeMs.map Int.ofNat
  reviewRevision   := some 1
  title            := some request.title
  favorite         := request.favorite
  note             := some request.note
  reviewDecision   := .keep
  reviewedAtMs     := some clock.reviewed
  recordedAtMs     := source.detail.summary.recordedAtMs
  preRollTruncated := source.detail.preRollTruncated
  retentionClass   := source.detail.retentionClass

-- The transaction.
def insertDerivative (source : DurableClipModelRecord) : Statement ClipId := fun db => do
  reach fails .begin
  reach fails .insertArtifact
  ensure (¬hasArtifact db request.staged.sha256) (.database (.unique "artifacts.sha256"))
  ensure (¬db.artifacts.any (·.relativePath = some request.target))
    (.database (.unique "artifacts.relative_path"))
  let derived := fresh (db.clips.map (·.id))
  ensure (∀ flagTimeMs ∈ source.origin.flagTimeMs, Signed 64 flagTimeMs) (.invalid "flag time")
  reach fails .insertClip
  ensure (0 ≤ clock.reviewed) (.database (.check "reviewed_at_ms >= 0"))
  reach fails .insertTags
  let (_, db) ← replaceClipTags derived request.tags db
  reach fails .insertReceipts
  reach fails .insertDerivation
  reach fails .commit
  return (derived, { db with
    artifacts          := derivativeArtifact request clock :: db.artifacts
    clips              := derivativeClip request clock source derived :: db.clips
    clipOriginReceipts := (db.clipOriginReceipts.filter (·.clipId = request.sourceClipId)).map
        (fun row => { row with clipId := derived }) ++ db.clipOriginReceipts
    clipDerivations    := {
      derivedClipId := derived
      sourceClipId  := request.sourceClipId
      operation     := "trim"
      trimStartMs   := some request.trimStartMs
      trimEndMs     := some request.trimEndMs
      createdAtMs   := clock.derivationCreated } :: db.clipDerivations })

-- The target is removed again only when the transaction fails; what that removal reports is lost.
def commitClipDerivative : Action ClipId := fun s =>
  match checkDerivative fails request s with
  | .error e             => .error e s
  | .ok (source, staged) =>
    let moved := s.promote staged request.target
    match do reach fails .permissions; reach fails .syncTarget with
    | .error e => .error e moved
    | .ok ()   =>
      match insertDerivative fails request clock source s.db with
      | .error e       =>
        .error e (if fails .removeTarget then moved else moved.removeFile request.target)
      | .ok (derived, db) => .ok derived { moved with db := db }

end Storage
