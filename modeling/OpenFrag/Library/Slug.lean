import OpenFrag.Library.Decimal

-- Words of small letters and digits, with single dashes between them.
namespace Slugs

def IsWordChar (c : Char) : Prop :=
  c.isLower ∨ c.isDigit

instance (c : Char) : Decidable (IsWordChar c) :=
  inferInstanceAs (Decidable (_ ∨ _))

structure Word (cs : List Char) : Prop where
  chars     : ∀ c ∈ cs, IsWordChar c
  not_empty : cs ≠ []

inductive Slug : List Char → Prop
  | word {cs} (h : Word cs) : Slug cs
  | dash {cs cs'} (h : Slug cs) (h' : Word cs') : Slug (cs ++ '-' :: cs')

variable {c : Char} {cs cs' : List Char}

theorem Word.singleton (h : IsWordChar c) : Word [c] where
  chars     := by simp [h]
  not_empty := by simp

theorem Word.concat (h : Word cs) (hc : IsWordChar c) : Word (cs ++ [c]) where
  chars := by
    intro d hd
    rcases List.mem_append.mp hd with hd | hd
    case inl => exact h.chars d hd
    case inr => simpa [List.mem_singleton.mp hd] using hc
  not_empty := by simp

theorem word_repr (n : Nat) : Word (Nat.repr n).toList where
  chars     := fun _ hc => .inr (Decimal.isDigit_of_mem_repr hc)
  not_empty := by simp [Nat.toList_repr]

namespace Slug

theorem concat (h : Slug cs) (hc : IsWordChar c) : Slug (cs ++ [c]) := by
  cases h with
  | word h => exact .word (h.concat hc)
  | dash h h' =>
    rw [List.append_assoc, List.cons_append]
    exact .dash h (h'.concat hc)

theorem append (h : Slug cs) (h' : Slug cs') : Slug (cs ++ '-' :: cs') := by
  induction h' with
  | word h' => exact .dash h h'
  | dash _ hw ih =>
    rw [← List.cons_append, ← List.append_assoc]
    exact .dash ih hw

theorem chars (h : Slug cs) : ∀ c ∈ cs, IsWordChar c ∨ c = '-' := by
  induction h with
  | word h => exact fun c hc => .inl (h.chars c hc)
  | dash _ h' ih =>
    intro c hc
    rcases List.mem_append.mp hc with hc | hc
    case inl => exact ih c hc
    case inr =>
      rcases List.mem_cons.mp hc with hc | hc
      case inl => exact .inr hc
      case inr => exact .inl (h'.chars c hc)

theorem not_mem (h : Slug cs) (hc : c.isLower = false) (hc' : c.isDigit = false)
    (hdash : c ≠ '-') : c ∉ cs := by
  intro hmem
  rcases h.chars c hmem with (hlow | hdigit) | heq
  · simp [hc] at hlow
  · simp [hc'] at hdigit
  · exact hdash heq

theorem ne_nil (h : Slug cs) : cs ≠ [] := by
  cases h with
  | word h => exact h.not_empty
  | dash => simp

end Slug

end Slugs
