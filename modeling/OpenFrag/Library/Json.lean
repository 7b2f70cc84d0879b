import Mathlib.Data.List.Basic
import Mathlib.Data.String.Basic
import Mathlib.Logic.Function.Basic

-- JSON values. The fields of an object are in the order of their keys, each key at most once.
inductive Json
  | null
  | bool (b : Bool)
  | num (n : Int)
  | string (s : String)
  | array (items : List Json)
  | object (fields : List (String × Json))

namespace Json

-- A later field with the same key takes the place of an earlier one.
def insert (key : String) (value : Json) : List (String × Json) → List (String × Json)
  | [] => [(key, value)]
  | (k, v) :: fields =>
    if key < k then (key, value) :: (k, v) :: fields
    else if key = k then (key, value) :: fields
    else (k, v) :: insert key value fields

def obj (fields : List (String × Json)) : Json :=
  .object (fields.foldl (fun sorted (k, v) => insert k v sorted) [])

def ofOption {α : Type} (write : α → Json) : Option α → Json
  | some a => write a
  | none   => .null

def field (key : String) : Json → Option Json
  | .object fields => fields.lookup key
  | _              => none

section

variable {key k : String} {value : Json} {fields : List (String × Json)} {α : Type}

theorem lookup_cons : ((key, value) :: fields).lookup k =
    if k = key then some value else fields.lookup k := by
  rw [List.lookup_cons]
  by_cases h : k = key
  case pos => simp [h]
  case neg => rw [beq_false_of_ne h, if_neg h]

theorem lookup_insert :
    (insert key value fields).lookup k = if k = key then some value else fields.lookup k := by
  induction fields
  case nil => exact lookup_cons
  case cons first fields ih =>
    have ⟨k', v'⟩ := first
    unfold insert
    split
    case isTrue => rw [lookup_cons]
    case isFalse =>
      split
      case isTrue hkey =>
        rw [lookup_cons, lookup_cons, hkey]
        split <;> rfl
      case isFalse hkey =>
        rw [lookup_cons, lookup_cons, ih]
        by_cases h : k = k'
        case pos => rw [if_pos h, if_pos h, if_neg (h ▸ Ne.symm hkey)]
        case neg => rw [if_neg h, if_neg h]

@[simp]
theorem field_obj : (obj fields).field key = fields.reverse.lookup key := by
  have hfold : ∀ sorted : List (String × Json),
      (fields.foldl (fun sorted (k, v) => insert k v sorted) sorted).lookup key =
        (fields.reverse.lookup key).or (sorted.lookup key) := by
    induction fields
    case nil => simp
    case cons first fields ih =>
      intro sorted
      have ⟨k, v⟩ := first
      rw [List.foldl_cons, ih, lookup_insert, List.reverse_cons, List.lookup_append, lookup_cons]
      cases fields.reverse.lookup key
      case none => split <;> simp
      case some => simp
  exact (hfold []).trans (by simp)

theorem num_cast_injective : Function.Injective fun n : Nat => num n := by
  intro n n' h
  exact Int.ofNat_inj.mp (num.inj h)

theorem ofOption_injective {write : α → Json} (hwrite : Function.Injective write)
    (hnull : ∀ a, write a ≠ .null) : Function.Injective (ofOption write) := by
  intro o o' h
  cases o <;> cases o'
  case none.none => rfl
  case none.some a => exact absurd h.symm (hnull a)
  case some.none a => exact absurd h (hnull a)
  case some.some => exact congrArg some (hwrite h)

theorem array_map_injective {write : α → Json} (hwrite : Function.Injective write) :
    Function.Injective fun as : List α => array (as.map write) := by
  intro as as' h
  exact List.map_injective_iff.mpr hwrite (array.inj h)

end

end Json
