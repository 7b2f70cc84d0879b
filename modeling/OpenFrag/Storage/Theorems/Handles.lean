import OpenFrag.Storage.Handles
import OpenFrag.Storage.Theorems.Staging

open EStateM Except Machine Table MachineInt

namespace Storage

variable {hash : Content → Digest} {s s' : Store} {d d' : Depot} {call : DepotCall}
variable {staged : StagedArtifact} {extension : String} {mediaType : Option String} {now : Int}
variable {calls others : List DepotCall}

namespace DepotCall

end DepotCall

section Demo

end Demo

end Storage
