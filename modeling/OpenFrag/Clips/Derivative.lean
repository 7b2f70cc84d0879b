import OpenFrag.Clips.Export
import OpenFrag.Clips.Probe

-- A derivative of a clip: it is made under a hidden name, checked, linked to its own name, and
-- recorded with the review of the clip.
namespace Clips

open EStateM (adaptExcept)
open MachineInt (saturatingAdd)

inductive TranscodeError
  | cancelled
  | timedOut
  | spawn (error : String)
  | failed (status : Option Int) (stderr : String) (stderrTruncated : Bool)
  | targetTooSmall
  deriving DecidableEq, Repr

structure FrameRate where
  numerator   : Nat
  denominator : Nat
  deriving DecidableEq, Repr

structure VideoStreamInfo where
  codecName   : Option String
  pixelFormat : Option String
  width       : Option Nat
  height      : Option Nat
  frameRate   : Option FrameRate
  deriving DecidableEq, Repr

structure AudioStreamInfo where
  codecName : Option String
  deriving DecidableEq, Repr

structure MediaInfo where
  durationMs   : Nat
  video        : VideoStreamInfo
  audioStreams : List AudioStreamInfo
  deriving DecidableEq, Repr

structure DiscordEncodeProfile where
  maxBytes           : Nat := 10 * 1024 * 1024
  maxWidth           : Nat := 1920
  maxHeight          : Nat := 1080
  maxFramesPerSecond : Nat := 60
  audioBitrateBps    : Nat := 128000
  minVideoBitrateBps : Nat := 400000
  maxVideoBitrateBps : Nat := 8000000
  deriving DecidableEq, Repr

inductive DerivativeProfile
  | review
  | discord (profile : DiscordEncodeProfile)
  deriving DecidableEq, Repr

structure TranscodeRequest where
  source      : FilePath
  destination : FilePath
  trim        : TrimRange
  profile     : DerivativeProfile

inductive DiscordCompatibilityError
  | videoCodec (actual : Option String)
  | pixelFormat (actual : Option String)
  | dimensions (width height : Option Nat)
  | frameRate (actual : Option FrameRate)
  | audioCodec (actual : Option String)
  deriving DecidableEq, Repr

structure ReviewMetadata where
  title    : String
  note     : String
  tags     : Finset String
  favorite : Bool
  deriving DecidableEq

structure DerivativeReviewRequest where
  artifactId           : String
  destinationDirectory : FilePath
  trim                 : Option TrimRange
  profile              : DerivativeProfile
  metadata             : ReviewMetadata
  reviewedAtMs         : Nat

inductive DerivativeReviewError
  | cancelled
  | trimOutsideSource
  | transcode (error : TranscodeError)
  | probe (error : MediaProbeError)
  | file (text : String)
  | model (error : ModelError)
  | review (error : ReviewError)
  | repositoryCleanup (repository : RepositoryError) (cleanup : String)
  | nameSpaceExhausted
  | outputTooLarge (actualBytes maxBytes : Nat)
  | discordIncompatible (error : DiscordCompatibilityError)
  deriving DecidableEq, Repr

-- The token of a cancellation, the programs that transcode and probe, and the hash of a file. The
-- transcoder leaves something at its destination or nothing, whether it fails or not; it does not
-- overwrite a file.
structure MediaPorts (W : Type) extends DiskPorts W where
  isCancelled : W → Bool × W
  transcode   : TranscodeRequest → W → (Except TranscodeError Unit × Option (List UInt8)) × W
  refuse      : W → TranscodeError
  probe       : FilePath → W → Except MediaProbeError MediaInfo × W
  sha256      : List UInt8 → String

abbrev Preparation (W α : Type) := EStateM DerivativeReviewError (Disk W) α

def FilePath.text (path : FilePath) : String :=
  match path with
  | "/" :: names => "/" ++ "/".intercalate names
  | names        => "/".intercalate names

section

variable {W : Type} (ports : MediaPorts W)

def fileError (error : IoError) : DerivativeReviewError :=
  .file error.text

def ofExcept {ε σ α : Type} : Except ε α → EStateM ε σ α
  | .ok a    => return a
  | .error e => throw e

def checkCancelled : Preparation W Unit := fun disk =>
  match ports.isCancelled disk.world with
  | (true, world)  => .error .cancelled { disk with world }
  | (false, world) => .ok () { disk with world }

def transcode (request : TranscodeRequest) : EStateM TranscodeError (Disk W) Unit := fun disk =>
  match disk.files request.destination with
  | some _ => .error (ports.refuse disk.world) disk
  | none   =>
    let ((result, output), world) := ports.transcode request disk.world
    let files := Function.update disk.files request.destination (output.map .file)
    match result with
    | .ok ()   => .ok () ⟨files, world⟩
    | .error e => .error e ⟨files, world⟩

def probe (path : FilePath) : EStateM MediaProbeError (Disk W) MediaInfo := fun disk =>
  match ports.probe path disk.world with
  | (.ok media, world) => .ok media { disk with world }
  | (.error e, world)  => .error e { disk with world }

def stagingPath (directory : FilePath) (filename : String) : Preparation W FilePath := fun disk =>
  let (id, world) := ports.nextId disk.world
  .ok (directory.join ("." ++ filename ++ ".stage-" ++ toString ports.processId ++ "-" ++
    toString id)) { disk with world }

def copyToNewFile (source destination : FilePath) : DiskOp W Unit := do
  let content ← Disk.contentOf ports.toDiskPorts .open source
  Disk.createNew ports.toDiskPorts destination
  Disk.write ports.toDiskPorts destination content
  Disk.attempt ports.toDiskPorts .sync

def createStagingDerivative (source staging : FilePath) (trim : TrimRange) (trimRequested : Bool)
    (profile : DerivativeProfile) : Preparation W Unit :=
  if ¬trimRequested ∧ profile = .review then
    adaptExcept fileError (copyToNewFile ports source staging)
  else
    adaptExcept .transcode
      (transcode ports { source, destination := staging, trim, profile })

def dimensionValid (dimension : Option Nat) (limit : Nat) : Bool :=
  dimension.any fun dimension => dimension > 0 && dimension ≤ limit

def frameRateValid (frameRate : Option FrameRate) (limit : Nat) : Bool :=
  frameRate.any fun frameRate =>
    frameRate.denominator > 0 && frameRate.numerator > 0 &&
      frameRate.numerator ≤ saturatingMul 64 frameRate.denominator limit

def verifyDiscordMedia (media : MediaInfo) (profile : DiscordEncodeProfile) :
    Except DiscordCompatibilityError Unit :=
  if media.video.codecName ≠ some "h264" then
    .error (.videoCodec media.video.codecName)
  else if media.video.pixelFormat ≠ some "yuv420p" then
    .error (.pixelFormat media.video.pixelFormat)
  else if ¬(dimensionValid media.video.width profile.maxWidth &&
      dimensionValid media.video.height profile.maxHeight) then
    .error (.dimensions media.video.width media.video.height)
  else if ¬frameRateValid media.video.frameRate profile.maxFramesPerSecond then
    .error (.frameRate media.video.frameRate)
  else
    match media.audioStreams.find? (·.codecName ≠ some "aac") with
    | some audio => .error (.audioCodec audio.codecName)
    | none       => .ok ()

-- Each exit removes the staging file.
def verifyStagingDerivative (staging : FilePath) (profile : DerivativeProfile) :
    Preparation W MediaInfo := do
  Disk.orDiscard ports.toDiskPorts staging (checkCancelled ports)
  let media ← Disk.orDiscard ports.toDiskPorts staging
    (adaptExcept .probe (probe ports staging))
  match profile with
  | .review          => return media
  | .discord discord =>
    Disk.orDiscard ports.toDiskPorts staging
      (adaptExcept .discordIncompatible (ofExcept (verifyDiscordMedia media discord)))
    let content ← Disk.orDiscard ports.toDiskPorts staging
      (adaptExcept fileError (Disk.contentOf ports.toDiskPorts .metadata staging))
    if content.length > discord.maxBytes then
      Disk.orDiscard ports.toDiskPorts staging
        (throw (.outputTooLarge content.length discord.maxBytes))
    else
      return media

-- The staging file is linked to the name, and then removed. A name that is taken is no error.
def linkTo (staging directory : FilePath) (name : String) : Preparation W (Option FilePath) :=
  fun disk =>
    let destination := directory.join name
    match Disk.hardLink ports.toDiskPorts staging destination disk with
    | .ok () disk    =>
      match Disk.removeFile ports.toDiskPorts staging disk with
      | .ok () disk    => .ok (some destination) disk
      | .error e disk  => .error (fileError e) (Disk.discard ports.toDiskPorts destination disk)
    | .error e disk  =>
      if e.kind = .alreadyExists then .ok none disk else .error (fileError e) disk

def promoteWithoutOverwrite (staging directory : FilePath) (filename : String) :
    Preparation W FilePath := do
  match ← tryCandidates (linkTo ports staging directory) filename maxCollisionIndex 1 with
  | some destination => return destination
  | none             => throw .nameSpaceExhausted

def requestedTrim (clip : Clip) (trim : Option TrimRange) : Except ModelError TrimRange :=
  match trim with
  | some trim => .ok trim
  | none      => TrimRange.new 0 clip.snapshot.sourceCapture.durationMs

-- What is done before the review: the file of the derivative, and its provenance. A file has fewer
-- than 2 ^ 64 bytes, so that the saturating sum of the parts that are read is its length.
def prepareDerivative (clip : Clip) (request : DerivativeReviewRequest) :
    Preparation W (FilePath × DerivativeProvenance) := do
  checkCancelled ports
  if clip.snapshot.reviewState.isRejected then
    throw (.review .invalidTransition)
  else
    let trim ← adaptExcept .model (ofExcept (requestedTrim clip request.trim))
    if trim.endMs > clip.snapshot.sourceCapture.durationMs then
      throw .trimOutsideSource
    else
      adaptExcept fileError (Disk.attempt ports.toDiskPorts .createDirectory)
      let filename := sanitizeExportFilename request.metadata.title clip.snapshot.id
      let staging ← stagingPath ports request.destinationDirectory filename
      Disk.orDiscard ports.toDiskPorts staging
        (createStagingDerivative ports (.components clip.snapshot.sourceCapture.path) staging trim
          request.trim.isSome request.profile)
      let media ← verifyStagingDerivative ports staging request.profile
      let destination ← Disk.orDiscard ports.toDiskPorts staging
        (promoteWithoutOverwrite ports staging request.destinationDirectory filename)
      let content ← Disk.orDiscard ports.toDiskPorts destination
        (adaptExcept fileError (Disk.contentOf ports.toDiskPorts .read destination))
      let artifact ← Disk.orDiscard ports.toDiskPorts destination
        (adaptExcept .model (ofExcept (ArtifactProvenance.new request.artifactId destination.text
          (ports.sha256 content) media.durationMs content.length)))
      return (destination, {
        artifact, trim, sourceArtifactId := clip.snapshot.sourceCapture.artifactId })

-- The file is removed when the review fails.
def refused (destination : FilePath) (error : ReviewError) (disk : Disk W) :
    DerivativeReviewError × Disk W :=
  match error with
  | .repository repository =>
    match Disk.removeFile ports.toDiskPorts destination disk with
    | .ok () disk         => (.review (.repository repository), disk)
    | .error cleanup disk => (.repositoryCleanup repository cleanup.text, disk)
  | error                  => (.review error, Disk.discard ports.toDiskPorts destination disk)

def ReviewMetadata.edit (metadata : ReviewMetadata) (derivative : DerivativeProvenance) :
    ReviewEdit where
  title      := metadata.title
  note       := metadata.note
  tags       := metadata.tags
  favorite   := metadata.favorite
  derivative := some derivative

variable {σ : Type}

def prepareDerivativeAndReview (repository : ClipRepository σ) (clip : Clip)
    (request : DerivativeReviewRequest) :
    EStateM DerivativeReviewError (Disk W × σ) Clip := fun (disk, s) =>
  match prepareDerivative ports clip request disk with
  | .error e disk                      => .error e (disk, s)
  | .ok (destination, derivative) disk =>
    match reviewClip repository clip (request.metadata.edit derivative) request.reviewedAtMs s with
    | .ok reviewed s => .ok reviewed (disk, s)
    | .error e s     =>
      let (error, disk) := refused ports destination e disk
      .error error (disk, s)

end

end Clips
