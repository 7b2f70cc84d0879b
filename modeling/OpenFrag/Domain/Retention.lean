import Mathlib.Data.List.Sort
import Mathlib.Data.Prod.Lex
import Mathlib.Data.String.Basic
import OpenFrag.Library.MachineInt

open MachineInt

namespace Domain

def provisionalRetentionMs : Nat := 30 * 24 * 60 * 60 * 1000
def captureSessionBudgetBytes : Nat := 2 * 1024 * 1024 * 1024

structure ProvisionalMedia where
  mediaId     : String
  createdAtMs : UInt64
  bytes       : UInt64
  confirmed   : Bool
  deriving DecidableEq, Repr

inductive RetentionReason
  | retain
  | expiredAfterThirtyDays
  | evictedBySessionBudget
  deriving DecidableEq, Repr

abbrev RetentionDecision := String × RetentionReason

namespace ProvisionalMedia

def expired (item : ProvisionalMedia) (nowMs : UInt64) : Bool :=
  !item.confirmed && provisionalRetentionMs ≤ nowMs.toNat - item.createdAtMs.toNat

def evictionKey (item : ProvisionalMedia) : ℕ ×ₗ String :=
  toLex (item.createdAtMs.toNat, item.mediaId)

def byAge (entry entry' : ProvisionalMedia × Nat) : Prop :=
  entry.1.evictionKey ≤ entry'.1.evictionKey

instance : DecidableRel byAge := fun entry entry' =>
  inferInstanceAs (Decidable (entry.1.evictionKey ≤ entry'.1.evictionKey))

end ProvisionalMedia

open ProvisionalMedia

def initialDecisions (items : List ProvisionalMedia) (nowMs : UInt64) : List RetentionDecision :=
  items.map fun item =>
    (item.mediaId, if item.expired nowMs then .expiredAfterThirtyDays else .retain)

-- The unconfirmed items that the decisions keep.
def retainedUnconfirmed (items : List ProvisionalMedia) (decisions : List RetentionDecision) :
    List ProvisionalMedia :=
  ((items.zip decisions).filter fun (item, _, reason) =>
    !item.confirmed && reason = .retain).map (·.1)

-- The loop over the candidates, the oldest first, with their positions.
def evict (retainedBytes : Nat) :
    List (ProvisionalMedia × Nat) → List RetentionDecision → List RetentionDecision
  | [], decisions => decisions
  | (item, index) :: candidates, decisions =>
    if retainedBytes ≤ captureSessionBudgetBytes then
      decisions
    else
      evict (retainedBytes - item.bytes.toNat) candidates
        (decisions.modify index fun (id, _) => (id, .evictedBySessionBudget))

def retentionDecisions (items : List ProvisionalMedia) (nowMs : UInt64) : List RetentionDecision :=
  let decisions := initialDecisions items nowMs
  let retainedBytes := ((retainedUnconfirmed items decisions).map (·.bytes.toNat)).foldl
    (saturatingAdd 64) 0
  let candidates := items.zipIdx.filter fun (item, index) =>
    !item.confirmed && decisions[index]?.any (·.2 = .retain)
  evict retainedBytes (candidates.insertionSort byAge) decisions

end Domain
