import OpenFrag.Storage.Catalogue

open Machine MachineInt

-- Two handles of one store. The calls of both of them come in any order, and in the middle of a
-- commit of one handle, between its file and its row, come calls of the other one.
namespace Storage

section

variable (staged : StagedArtifact) (extension : String) (mediaType : Option String) (now : Int)

namespace Store

-- The first part of a commit puts the file in its place, and the second part writes the row.
def placeStaged (fails : ArtifactStep → Bool) : Action Unit := do
  demand ('/' ∉ extension.toList ∧ '\\' ∉ extension.toList) (.invalid "unsafe extension")
  placeArtifact fails staged.name (staged.targetPath extension)

def recordStaged (fails : ArtifactStep → Bool) : Action Digest := do
  demand (Signed 64 staged.byteLength) (.invalid "artifact too large")
  attemptStep fails .updateRow
  fun s =>
    match Storage.commitArtifact staged.sha256 staged.byteLength extension mediaType now s.db with
    | .ok (sha256, db) => .ok sha256 { s with db }
    | .error e         => .error e s

end Store

namespace Depot

-- No step of the commit fails on its own.
def place (d : Depot) : Except Error Unit × Depot :=
  d.perform ((Store.placeStaged staged extension fun _ => false).on d.store)

def record (d : Depot) : Except Error Unit × Depot :=
  d.perform ((Store.recordStaged staged extension mediaType now fun _ => false).on d.store)

end Depot

variable (hash : Content → Digest) (calls others : List DepotCall) (d : Depot)

-- The first part of the commit comes after the calls of both handles, and the second part after
-- the others, which are calls of the other handle.
def placing : Except Error Unit × Depot :=
  (final (DepotCall.serve hash) d calls).place staged extension

end

-- The opening of a handle, once the migrations are made.
def opening (now : Int) : List DepotCall :=
  [.recoverStaging, .recoverArtifacts now]

end Storage
