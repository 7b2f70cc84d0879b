import Mathlib.Data.List.Infix
import Mathlib.Logic.Function.Basic
import OpenFrag.Library.Base64
import OpenFrag.Library.Decimal
import OpenFrag.Library.Quoted
import OpenFrag.Library.Trim
import OpenFrag.Library.Within

open Trim

-- The installation of the configuration by which the game posts to the daemon, and what the daemon
-- reads of it when it starts.
namespace Installation

-- A path is the list of its components below the root, none of which is `.` or `..`.
abbrev FilePath := List String

-- A file with a text in UTF-8, another file, or something else.
inductive Entry
  | text (content : String)
  | binary
  | directory
  | symlink
  deriving DecidableEq, Repr

abbrev Files := FilePath → Option Entry

structure Disk (W : Type) where
  files : Files
  world : W

inductive IoError
  | notFound
  | other (text : String)
  deriving DecidableEq, Repr

inductive InstallError
  | invalidToken
  | invalidSteamId
  | invalidDirectory (name : String)
  | unsafeTarget (name : String)
  | io (error : IoError)
  deriving DecidableEq, Repr

inductive FileStep
  | metadata
  | createDirectories
  | permissions
  | read
  | random
  | create
  | write
  | sync
  | rename
  | remove
  deriving DecidableEq, Repr

abbrev Random := { bytes : List UInt8 // bytes.length = 32 }

-- Any step may fail in the world, for a reason that it tells. A write that fails may have written a
-- part. The name of a temporary file has the process and a count.
structure Ports (W : Type) where
  fault     : FileStep → W → Option String × W
  written   : W → Nat
  random    : W → Random × W
  processId : Nat
  sequence  : W → Nat × W

abbrev Op (W α : Type) := EStateM InstallError (Disk W) α

def GSI_FILE            := "gamestate_integration_openfrag.cfg"
def TOKEN_FILE          := "gsi-token"
def LOCAL_STEAM_ID_FILE := "local-steam-id"
def MARKER_FILE         := "gsi-marker"
def GSI_URI             := "http://127.0.0.1:7130/gsi/router"

def BASE64_URL_ALPHABET : List Char :=
  "ABCDEFGHIJKLMNOPQRSTUVWXYZabcdefghijklmnopqrstuvwxyz0123456789-_".toList

-- The stem of a name ends before its last point, unless that is its first character.
def fileStem (name : List Char) : List Char :=
  let before := (name.reverse.dropWhile (· ≠ '.')).reverse.dropLast
  if before = [] then name else before

def withExtension (path : FilePath) (extension : String) : FilePath :=
  match path.getLast? with
  | none      => path
  | some name => path.dropLast ++ [.ofList (fileStem name.toList) ++ "." ++ extension]

section

variable {W α : Type} (ports : Ports W)

def reading (f : W → α × W) : Op W α := fun disk =>
  .ok (f disk.world).1 { disk with world := (f disk.world).2 }

def attempt (step : FileStep) : Op W Unit := fun disk =>
  match ports.fault step disk.world with
  | (none, world)      => .ok () { disk with world }
  | (some text, world) => .error (.io (.other text)) { disk with world }

def setFile (path : FilePath) (entry : Option Entry) : Op W Unit :=
  modify fun disk => { disk with files := Function.update disk.files path entry }

def refuse (condition : Prop) [Decidable condition] (error : InstallError) : Op W Unit :=
  if condition then throw error else pure ()

def lookup (path : FilePath) : Op W (Option Entry) := do
  return (← get).files path

def symlinkMetadata (path : FilePath) : Op W Entry := do
  attempt ports .metadata
  match ← lookup path with
  | none       => throw (.io .notFound)
  | some entry => return entry

def requireRealDirectory (path : FilePath) (name : String) : Op W Unit := do
  let entry ← symlinkMetadata ports path
  refuse (entry ≠ .directory) (.invalidDirectory name)

def Entry.isFile : Entry → Bool
  | .text _ | .binary => true
  | _                 => false

def requireSafeTarget (path : FilePath) (name : String) : Op W Unit := do
  attempt ports .metadata
  match ← lookup path with
  | none       => return ()
  | some entry => refuse (!entry.isFile) (.unsafeTarget name)

def createNew (path : FilePath) : Op W Unit := do
  attempt ports .create
  match ← lookup path with
  | none   => setFile path (some (.text ""))
  | some _ => throw (.io (.other "File exists (os error 17)"))

def writeAll (path : FilePath) (content : String) : Op W Unit := fun disk =>
  match ports.fault .write disk.world with
  | (none, world)      =>
    .ok () ⟨Function.update disk.files path (some (.text content)), world⟩
  | (some text, world) =>
    let part := String.ofList (content.toList.take (ports.written world))
    .error (.io (.other text)) ⟨Function.update disk.files path (some (.text part)), world⟩

-- A rename replaces the file that it finds.
def renamed (files : Files) (path path' : FilePath) : Except IoError Files :=
  match files path, files path' with
  | none, _                 => .error .notFound
  | some _, some .directory => .error (.other "Is a directory (os error 21)")
  | some entry, _           => .ok (Function.update (Function.update files path none) path' entry)

def rename (path path' : FilePath) : Op W Unit := do
  attempt ports .rename
  match renamed (← get).files path path' with
  | .ok files    => modify fun disk => { disk with files }
  | .error error => throw (.io error)

def readToString (path : FilePath) : Op W String := do
  attempt ports .read
  match ← lookup path with
  | some (.text content) => return content
  | some .binary         => throw (.io (.other "stream did not contain valid UTF-8"))
  | some .directory      => throw (.io (.other "Is a directory (os error 21)"))
  | _                    => throw (.io .notFound)

-- A directory that is there, or a link that may lead to one, is left as it is.
def makeDirectory (path : FilePath) : Op W Unit := do
  attempt ports .createDirectories
  match ← lookup path with
  | none                              => setFile path (some .directory)
  | some .directory | some .symlink   => return ()
  | some (.text _) | some .binary     => throw (.io (.other "File exists (os error 17)"))

def createDirAll (path : FilePath) : Op W Unit :=
  path.inits.forM (makeDirectory ports)

-- Of the path itself and of what it is in, up to the root.
def hasSymlinkComponent (path : FilePath) : Op W Bool :=
  path.inits.reverse.anyM fun component => do
    return (← symlinkMetadata ports component) = .symlink

def removeFile (path : FilePath) : Op W Unit := do
  attempt ports .remove
  match ← lookup path with
  | none   => throw (.io .notFound)
  | some _ => setFile path none

-- The file is removed when the computation fails. What the removal reports is lost.
def orRemove (path : FilePath) (x : Op W α) : Op W α := fun disk =>
  match x disk with
  | .ok a disk    => .ok a disk
  | .error e disk => .error e (removeFile ports path disk).state

-- The outcome of a computation as a value.
def observing (x : Op W α) : Op W (Except InstallError α) := fun disk =>
  .ok (x disk).toExcept (x disk).state

def temporaryPath (path : FilePath) (sequence : Nat) : FilePath :=
  withExtension path
    ("openfrag-" ++ toString ports.processId ++ "-" ++ toString sequence ++ ".tmp")

def replaceWith (temporary path : FilePath) (content : String) : Op W Unit := do
  createNew ports temporary
  writeAll ports temporary content
  attempt ports .sync
  rename ports temporary path
  attempt ports .permissions

def atomicWritePrivate (path : FilePath) (content : String) : Op W Unit := do
  let sequence ← reading ports.sequence
  let temporary := temporaryPath ports path sequence
  orRemove ports temporary (replaceWith ports temporary path content)

end

def isTokenChar (c : Char) : Bool :=
  c.isAlphanum || c = '_' || c = '-' || c = '.'

def validToken (token : String) : Bool :=
  8 ≤ token.utf8ByteSize && token.utf8ByteSize ≤ 256 && token.toList.all isTokenChar

def validSteamId (localSteamId : String) : Bool :=
  localSteamId.utf8ByteSize = 17 && localSteamId.toList.all Char.isDigit &&
    (Decimal.parseUnsigned 64 localSteamId).isSome

def isMarkerChar (c : Char) : Bool :=
  c.isAlphanum || c = '_' || c = '-'

def validMarker (marker : String) : Bool :=
  marker.utf8ByteSize = 43 && marker.toList.all isMarkerChar

def gsiConfig (token : String) : String :=
  "\"openfrag v1\"\n\x7b\n  \"uri\" \"" ++ GSI_URI ++
    "\"\n  \"timeout\" \"5.0\"\n  \"buffer\" \"0.1\"\n  \"throttle\" \"0.1\"\n" ++
    "  \"heartbeat\" \"10.0\"\n  \"auth\" \x7b \"token\" \"" ++ token ++
    "\" \x7d\n  \"data\"\n  \x7b\n    \"provider\" \"1\"\n    \"map\" \"1\"\n    \"round\" \"1\"\n" ++
    "    \"player_id\" \"1\"\n    \"player_state\" \"1\"\n    \"player_match_stats\" \"1\"\n  \x7d\n\x7d\n"

def unescape : List Char → List Char
  | '\\' :: '\\' :: text => '\\' :: unescape text
  | c :: text            => c :: unescape text
  | []                   => []

def eqIgnoreAsciiCase (text wanted : List Char) : Bool :=
  text.map Char.toLower = wanted.map Char.toLower

def vdfValues (input wanted : String) : List String :=
  let quoted := Quoted.quoted input.toList
  let pairs := (quoted.zip quoted.tail).filter fun pair => eqIgnoreAsciiCase pair.1 wanted.toList
  pairs.map fun pair => .ofList (unescape pair.2)

def randomMarker (bytes : Random) : String :=
  .ofList ((Base64.encode bytes.1).map fun i => BASE64_URL_ALPHABET[i]?.getD 'A')

structure GsiInstallation where
  configPath       : FilePath
  tokenPath        : FilePath
  localSteamIdPath : FilePath
  deriving DecidableEq

structure ActionableGsiInstallation where
  configPath : FilePath
  markerPath : FilePath
  deriving DecidableEq

section

variable {W : Type} (ports : Ports W)

def installGsi (cs2CfgDirectory dataDirectory : FilePath) (token localSteamId : String) :
    Op W GsiInstallation := do
  refuse (!validToken token) .invalidToken
  refuse (!validSteamId localSteamId) .invalidSteamId
  requireRealDirectory ports cs2CfgDirectory "CS2 cfg directory"
  requireRealDirectory ports dataDirectory "data directory"
  let configPath := cs2CfgDirectory ++ [GSI_FILE]
  let tokenPath := dataDirectory ++ [TOKEN_FILE]
  let localSteamIdPath := dataDirectory ++ [LOCAL_STEAM_ID_FILE]
  requireSafeTarget ports configPath "GSI config"
  requireSafeTarget ports tokenPath "GSI token"
  requireSafeTarget ports localSteamIdPath "local Steam ID"
  atomicWritePrivate ports tokenPath (token ++ "\n")
  atomicWritePrivate ports localSteamIdPath (localSteamId ++ "\n")
  atomicWritePrivate ports configPath (gsiConfig token)
  return { configPath, tokenPath, localSteamIdPath }

def validateCs2CfgDirectory (path : FilePath) : Op W Unit := do
  requireRealDirectory ports path "CS2 cfg directory"
  refuse (¬["game", "csgo", "cfg"] <:+ path) (.invalidDirectory "CS2 cfg directory")
  let metadata ← symlinkMetadata ports (path.dropLast ++ ["gameinfo.gi"])
  refuse (!metadata.isFile) (.unsafeTarget "CS2 cfg directory")
  refuse (← hasSymlinkComponent ports path) (.unsafeTarget "CS2 cfg directory")

-- The marker that is there, or a new one when there is none.
def currentMarker (markerPath : FilePath) : Op W String := do
  match ← observing (readToString ports markerPath) with
  | .ok value           =>
    let marker := String.ofList (trim value.toList)
    if validMarker marker then return marker else throw .invalidToken
  | .error (.io .notFound) => do
    attempt ports .random
    return randomMarker (← reading ports.random)
  | .error error        => throw error

def installActionableGsi (cs2CfgDirectory configDirectory : FilePath) :
    Op W ActionableGsiInstallation := do
  validateCs2CfgDirectory ports cs2CfgDirectory
  createDirAll ports configDirectory
  requireRealDirectory ports configDirectory "config directory"
  refuse (← hasSymlinkComponent ports configDirectory) (.unsafeTarget "config directory")
  attempt ports .permissions
  let configPath := cs2CfgDirectory ++ [GSI_FILE]
  let markerPath := configDirectory ++ [MARKER_FILE]
  requireSafeTarget ports configPath "GSI config"
  requireSafeTarget ports markerPath "GSI marker"
  let marker ← currentMarker ports markerPath
  atomicWritePrivate ports markerPath (marker ++ "\n")
  atomicWritePrivate ports configPath (gsiConfig marker)
  return { configPath, markerPath }

end

-- What the daemon reads when it starts.
section

variable (files : Files)

def display (path : FilePath) : String :=
  "/" ++ "/".intercalate path

def readPrivateLine (path : FilePath) : Except String String :=
  match files path with
  | some (.text content) =>
    let value := trim content.toList
    if value = [] ∨ '\n' ∈ value ∨ '\r' ∈ value then
      .error (display path ++ " contains an invalid value")
    else
      .ok (.ofList value)
  | some .binary         => .error (display path ++ ": stream did not contain valid UTF-8")
  | some .directory      => .error (display path ++ ": Is a directory (os error 21)")
  | _                    => .error (display path ++ ": No such file or directory (os error 2)")

def readGsiCredentials (dataDirectory : FilePath) : Except String (Option (String × String)) :=
  let tokenPath := dataDirectory ++ [TOKEN_FILE]
  let steamIdPath := dataDirectory ++ [LOCAL_STEAM_ID_FILE]
  match (files tokenPath).isSome, (files steamIdPath).isSome with
  | false, false => .ok none
  | true, true   => do
    let token ← readPrivateLine files tokenPath
    let steamId ← readPrivateLine files steamIdPath
    return some (token, steamId)
  | _, _         => .error "GSI token and local Steam ID must be configured together"

def gsiInstalled (cfg : FilePath) : Bool :=
  match files (cfg ++ [GSI_FILE]) with
  | some (.text contents) =>
    GSI_URI.toList <:+: contents.toList ∧ ¬"0.0.0.0".toList <:+: contents.toList
  | _                     => false

def identityVerified (dataDirectory : FilePath) : Bool :=
  match files (dataDirectory ++ [LOCAL_STEAM_ID_FILE]) with
  | some (.text value) =>
    let value := String.ofList (trim value.toList)
    value.utf8ByteSize = 17 && value.toList.all Char.isDigit
  | _                  => false

end

end Installation
