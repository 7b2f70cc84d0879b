import OpenFrag.Storage.Files

open Table MachineInt

-- The recovery of a store: from its rows to the files, and then from its files to the rows. There
-- are no symbolic links, and the operations on files succeed. What is not a file of the artifact
-- tree, such as a directory, has a path outside of it.
namespace Storage

namespace ArtifactPath

def inTree : ArtifactPath → Bool
  | .committed .. | .misplaced .. | .misnamed .. => true
  | .quarantined .. | .outside _                 => false

-- The digest that the name of a file in the tree begins with.
def digest? : ArtifactPath → Option Digest
  | .committed sha256 _ | .misplaced _ sha256 _ => some sha256
  | _                                           => none

def outsideNumber : ArtifactPath → Nat
  | .outside file => file
  | _             => 0

end ArtifactPath

structure RecoveryResult where
  removedStagingFiles : Nat
  markedMissing       : Nat
  deriving DecidableEq, Repr

abbrev Recovery := EStateM Error Store

namespace Store

def withArtifacts (s : Store) (rows : List ArtifactRow) : Store :=
  { s with db := { s.db with artifacts := rows } }

-- A row of a present artifact whose file is not there.
def lacksFile (s : Store) (row : ArtifactRow) : Bool :=
  row.availability = .present && row.relativePath.any fun path => (fileAt s.files path).isNone

def markMissing (s : Store) : Store :=
  s.withArtifacts (update s.lacksFile
    (fun row => { row with availability := .missing, missingReason := some "file_missing" })
    s.db.artifacts)

def outsideNumbers (s : Store) : List Nat :=
  s.files.map (·.path.outsideNumber) ++
    s.db.artifacts.filterMap fun row => row.relativePath.map ArtifactPath.outsideNumber

-- A generated name in the directory of the quarantine.
def quarantinePath (s : Store) : ArtifactPath :=
  .outside (fresh s.outsideNumbers)

def quarantineOrphan (s : Store) (file : File) : Store :=
  { s with files := ⟨s.quarantinePath, file.content⟩ :: s.files.filter (·.path ≠ file.path) }

end Store

def recoverStaging : Recovery Unit :=
  modify fun s => { s with staging := [] }

def isRevivable (sha256 : Digest) (row : ArtifactRow) : Bool :=
  row.sha256 = sha256 && (row.availability = .expected || row.availability = .missing)

def catalogueFile (s : Store) (file : File) (sha256 : Digest) (now : Int) : Except Error Store := do
  let taken := s.db.artifacts.any fun row =>
    row.sha256 ≠ sha256 && row.relativePath = some file.path
  if s.db.artifacts.any (·.sha256 = sha256) then
    ensure (¬(s.db.artifacts.any (isRevivable sha256) ∧ taken))
      (.database (.unique "artifacts.relative_path"))
    return s.withArtifacts (update (isRevivable sha256)
      (fun row => { row with
        availability := .present, relativePath := some file.path, missingReason := none })
      s.db.artifacts)
  else
    ensure (Signed 64 file.content.length) (.invalid "orphan too large")
    ensure (¬taken) (.database (.unique "artifacts.relative_path"))
    return s.withArtifacts ({
      sha256
      relativePath  := some file.path
      byteLength    := file.content.length
      mediaType     := none
      availability  := .present
      createdAtMs   := now
      missingReason := none } :: s.db.artifacts)

-- The digest of a content is `hash`.
variable (hash : Content → Digest) (now : Int)

def recoverFile (file : File) (s : Store) : Except Error Store :=
  if ¬file.path.inTree then return s
  else
    match file.path.digest? with
    | none        => return s.quarantineOrphan file
    | some sha256 =>
      if sha256 ≠ hash file.content then return s.quarantineOrphan file
      else catalogueFile s file sha256 now

def recoverFiles : List File → Recovery Unit
  | []            => pure ()
  | file :: files => do
    let s ← get
    match recoverFile hash now file s with
    | .ok s        => set s
    | .error error => throw error
    recoverFiles files

def recoverArtifacts : Recovery RecoveryResult := do
  let s ← get
  modify Store.markMissing
  recoverStaging
  recoverFiles hash now s.files
  return ⟨s.staging.length, s.db.artifacts.countP s.lacksFile⟩

-- A row whose artifact recovery leaves present or finds missing: its path, if there is a file, is
-- that of a file in the tree that is named by the key of the row and has its content.
def ArtifactRow.Recoverable (files : List File) (row : ArtifactRow) : Prop :=
  ∃ path, row.relativePath = some path ∧ ∀ file, fileAt files path = some file →
    path.digest? = some row.sha256 ∧ hash file.content = row.sha256

structure Restored (s : Store) : Prop where
  -- a present artifact has a file in the tree, with the content of its key
  present : ∀ row ∈ s.db.artifacts, row.availability = .present →
    ∃ path file, row.relativePath = some path ∧ fileAt s.files path = some file ∧ path.inTree ∧
      hash file.content = row.sha256
  -- an artifact whose content is not in the tree is not present
  absent  : ∀ row ∈ s.db.artifacts,
    (∀ file ∈ s.files, file.path.inTree → hash file.content ≠ row.sha256) →
      row.availability ≠ .present
  -- recovery has nothing left to do
  settled : ∀ now', ∃ result, recoverArtifacts hash now' s = .ok result s

end Storage
