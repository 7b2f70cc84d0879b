import Mathlib.Data.List.Basic

-- The lines of a text, without their ends, which are a newline or a carriage return before one.
namespace Lines

-- A character at the start of the first line.
def consLine (c : Char) : List (List Char) → List (List Char)
  | []         => [[c]]
  | l :: lines => (c :: l) :: lines

def lines : List Char → List (List Char)
  | []                   => []
  | '\n' :: text         => [] :: lines text
  | '\r' :: '\n' :: text => [] :: lines text
  | c :: text            => consLine c (lines text)

-- The prefix is taken off a text that has it.
def stripPrefix (before text : List Char) : Option (List Char) :=
  if before <+: text then some (text.drop before.length) else none

variable {l text rest : List Char} {ls : List (List Char)}

theorem lines_append (hn : '\n' ∉ l) (hr : '\r' ∉ l) : lines (l ++ '\n' :: text) = l :: lines text := by
  induction l
  case nil => simp [lines]
  case cons c l ih =>
    have ⟨hcn, hln⟩ : '\n' ≠ c ∧ '\n' ∉ l := by simpa using hn
    have ⟨hcr, hlr⟩ : '\r' ≠ c ∧ '\r' ∉ l := by simpa using hr
    have hlines : lines (c :: (l ++ '\n' :: text)) = consLine c (lines (l ++ '\n' :: text)) := by
      rw [lines]
      · exact fun h => hcn h.symm
      · exact fun _ h => absurd h.symm hcr
    rw [List.cons_append, hlines, ih hln hlr, consLine]

-- The lines that a text was put together from, when none of them has an end inside.
theorem lines_flatMap (h : ∀ l ∈ ls, '\n' ∉ l ∧ '\r' ∉ l) :
    lines (ls.flatMap (· ++ ['\n'])) = ls := by
  induction ls
  case nil => rfl
  case cons l ls ih =>
    have ⟨hn, hr⟩ := h l List.mem_cons_self
    rw [List.flatMap_cons, List.append_assoc, List.singleton_append, lines_append hn hr,
      ih fun l hl => h l (List.mem_cons_of_mem _ hl)]

@[simp]
theorem stripPrefix_append : stripPrefix l (l ++ rest) = some rest := by
  simp [stripPrefix]

theorem stripPrefix_eq_some_iff : stripPrefix l text = some rest ↔ text = l ++ rest := by
  constructor
  case mp =>
    intro h
    unfold stripPrefix at h
    split at h
    case isFalse => cases h
    case isTrue hbegins =>
      cases h
      have ⟨rest, hrest⟩ := hbegins
      simp [← hrest]
  case mpr =>
    intro h
    rw [h, stripPrefix_append]

end Lines
