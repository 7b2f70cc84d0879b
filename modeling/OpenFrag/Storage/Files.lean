import Mathlib.Data.List.Sort
import OpenFrag.Storage.Review

open Table MachineInt

-- A store: the database, and the files beside it.
namespace Storage

abbrev Content := List UInt8

structure File where
  path    : ArtifactPath
  content : Content
  deriving DecidableEq, Repr

structure StagedFile where
  name    : Nat
  content : Content
  deriving DecidableEq, Repr

structure Store where
  root    : String
  db      : Database
  files   : List File
  staging : List StagedFile
  deriving DecidableEq

def fileAt (files : List File) (path : ArtifactPath) : Option File :=
  files.find? (·.path = path)

-- The text of a digest, in hexadecimal digits.
def hexText (sha256 : Digest) : String :=
  String.ofList ((List.range 64).reverse.map fun i => Nat.digitChar (sha256.toNat / 16 ^ i % 16))

-- The text of a generated identifier.
def identifierText (id : Nat) : String :=
  Nat.repr id

structure ClipSummaryRecord where
  id           : ClipId
  title        : Option String
  disposition  : String
  recordedAtMs : Int
  createdAtMs  : Int
  deriving DecidableEq, Repr

structure ClipDetailRecord where
  summary              : ClipSummaryRecord
  artifactSha256       : Digest
  artifactAvailability : ArtifactAvailability
  provenance           : String
  favorite             : Bool
  reviewDecision       : ClipReviewDecision
  preRollTruncated     : Bool
  retentionClass       : String
  note                 : Option String
  tags                 : List String
  deriving DecidableEq, Repr

def artifactOf (db : Database) (clip : ClipRow) : Option ArtifactRow :=
  db.artifacts.find? (·.sha256 = clip.artifactSha256)

-- The clip and its artifact, as they are joined for a clip that is not deleted.
def liveClip (db : Database) (clip : ClipId) : Option (ClipRow × ArtifactRow) := do
  let row ← db.clips.find? (isLive clip)
  let artifact ← artifactOf db row
  return (row, artifact)

def clipTagsOf (db : Database) (clip : ClipId) : List String :=
  ((db.clipTags.filter (·.clipId = clip)).insertionSort (·.position ≤ ·.position)).map (·.tag)

def ClipRow.detail (row : ClipRow) (artifact : ArtifactRow) (tags : List String) :
    ClipDetailRecord where
  summary              := ⟨row.id, row.title, row.disposition, row.recordedAtMs, row.createdAtMs⟩
  artifactSha256       := row.artifactSha256
  artifactAvailability := artifact.info.availability
  provenance           := row.provenance
  favorite             := row.favorite
  reviewDecision       := row.reviewDecision
  preRollTruncated     := row.preRollTruncated
  retentionClass       := row.retentionClass
  note                 := row.note
  tags                 := tags

def clipDetail (db : Database) (clip : ClipId) : Except Error ClipDetailRecord :=
  match liveClip db clip with
  | none                 => throw (.notFound "clip")
  | some (row, artifact) => return row.detail artifact (clipTagsOf db clip)

-- The path of an artifact is that of a committed one, and its file has the length of its row.
def safeArtifactPath (files : List File) (sha256 : Digest) (relativePath : ArtifactPath)
    (byteLength : Int) : Except Error ArtifactPath :=
  match relativePath with
  | .committed sha _ => do
    ensure (sha = sha256) (.invalid "artifact catalog path mismatch")
    match fileAt files relativePath with
    | none      => throw (.io "artifact path")
    | some file => do
      ensure (Signed 64 file.content.length) (.invalid "artifact too large")
      ensure (file.content.length = byteLength) (.invalid "artifact file metadata mismatch")
      return relativePath
  | _ => throw (.invalid "artifact catalog path mismatch")

structure ClipArtifactRecord where
  clipId     : ClipId
  sha256     : Digest
  path       : ArtifactPath
  byteLength : Int
  mediaType  : Option String
  deriving DecidableEq, Repr

def clipArtifactFile (s : Store) (clip : ClipId) : Except Error ClipArtifactRecord :=
  match (liveClip s.db clip).filter (·.2.availability = .present) with
  | none               => throw (.notFound "present clip artifact")
  | some (_, artifact) =>
    match artifact.relativePath with
    | none              => throw (.database (.check "relative_path TEXT"))
    | some relativePath => do
      let path ← safeArtifactPath s.files artifact.sha256 relativePath artifact.byteLength
      return ⟨clip, artifact.sha256, path, artifact.byteLength, artifact.mediaType⟩

inductive DurableClipOriginRecord
  | auto (triggerReceipts evidenceReceipts : List String)
  | manual (flagReceiptId : String) (flagTimeMs : Nat) (overlappingAutoReceipts : List String)
  deriving DecidableEq, Repr

structure DurableClipModelRecord where
  detail           : ClipDetailRecord
  artifact         : ClipArtifactRecord
  captureSessionId : CaptureSessionId
  durationMs       : Nat
  revision         : Nat
  reviewedAtMs     : Option Nat
  origin           : DurableClipOriginRecord
  deriving DecidableEq, Repr

def originReceipts (db : Database) (clip : ClipId) (kind : OriginReceiptKind) : List String :=
  ((db.clipOriginReceipts.filter fun row => row.clipId = clip && row.kind = kind).insertionSort
    (·.position ≤ ·.position)).map (·.receiptId)

def durableOrigin (db : Database) (row : ClipRow) : OriginKind →
    Except Error DurableClipOriginRecord
  | .auto => do
    let triggerReceipts := originReceipts db row.id .trigger
    let evidenceReceipts := originReceipts db row.id .evidence
    ensure (triggerReceipts ≠ [] ∧ evidenceReceipts ≠ []) (.unavailable "clip origin evidence")
    return .auto triggerReceipts evidenceReceipts
  | .manual =>
    match originReceipts db row.id .manualFlag, row.manualFlagTimeMs with
    | [flagReceiptId], some flagTimeMs => do
      ensure (0 ≤ flagTimeMs) (.invalid "clip flag time")
      return .manual flagReceiptId flagTimeMs.toNat (originReceipts db row.id .overlappingAuto)
    | [_], none => throw (.unavailable "clip flag time")
    | _, _      => throw (.unavailable "clip origin evidence")

def orUnavailable {α : Type} (what : String) : Option α → Except Error α
  | some a => return a
  | none   => throw (.unavailable what)

def durableClipModel (s : Store) (clip : ClipId) : Except Error DurableClipModelRecord := do
  let detail ← clipDetail s.db clip
  let artifact ← clipArtifactFile s clip
  match liveClip s.db clip with
  | none                    => throw (.notFound "live clip")
  | some (row, artifactRow) => do
    let revision ← orUnavailable "clip review revision" row.reviewRevision
    let revision ← readInteger revision
    let duration ← orUnavailable "verified media duration" artifactRow.mediaDurationMs
    let kind ← orUnavailable "clip origin evidence" row.originKind
    ensure (detail.reviewDecision = .pending ∨ row.reviewedAtMs.isSome)
      (.unavailable "clip review time")
    let origin ← durableOrigin s.db row kind
    ensure (0 ≤ duration) (.invalid "verified media duration")
    ensure (0 ≤ revision) (.invalid "clip review revision")
    ensure (∀ time ∈ row.reviewedAtMs, 0 ≤ time) (.invalid "clip review time")
    return {
      detail, artifact, origin
      captureSessionId := row.captureSessionId
      durationMs       := duration.toNat
      revision         := revision.toNat
      reviewedAtMs     := row.reviewedAtMs.map Int.toNat }

end Storage
