import Mathlib.Data.List.TakeWhile

-- Texts without the characters of a kind around them.
namespace Trim

def trimEndMatches (p : Char → Bool) (text : List Char) : List Char :=
  (text.reverse.dropWhile p).reverse

def trimMatches (p : Char → Bool) (text : List Char) : List Char :=
  trimEndMatches p (text.dropWhile p)

-- The characters with the property of white space in Unicode.
def isWhiteSpace (c : Char) : Bool :=
  9 ≤ c.toNat && c.toNat ≤ 13 || 0x2000 ≤ c.toNat && c.toNat ≤ 0x200a ||
    c.toNat ∈ [0x20, 0x85, 0xa0, 0x1680, 0x2028, 0x2029, 0x202f, 0x205f, 0x3000]

def trim (text : List Char) : List Char :=
  trimMatches isWhiteSpace text

variable {p : Char → Bool} {text : List Char} {c : Char}

theorem dropWhile_of_forall (h : ∀ c ∈ text, p c = false) : text.dropWhile p = text := by
  cases text
  case nil => rfl
  case cons c text => rw [List.dropWhile_cons, if_neg (by simp [h c])]

theorem trimMatches_of_forall (h : ∀ c ∈ text, p c = false) : trimMatches p text = text := by
  have hreverse : ∀ c ∈ text.reverse, p c = false := fun c hc => h c (List.mem_reverse.mp hc)
  rw [trimMatches, trimEndMatches, dropWhile_of_forall h, dropWhile_of_forall hreverse,
    List.reverse_reverse]

-- A character of the kind behind a text is one around it.
theorem trimMatches_append (h : p c) : trimMatches p (text ++ [c]) = trimMatches p text := by
  have hend (l : List Char) : trimEndMatches p (l ++ [c]) = trimEndMatches p l := by
    simp [trimEndMatches, h]
  unfold trimMatches
  rw [List.dropWhile_append]
  split
  case isTrue hempty =>
    rw [List.isEmpty_iff.mp hempty, List.dropWhile_cons, if_pos h]
    rfl
  case isFalse => exact hend _

theorem trim_line : trim (text ++ ['\n']) = trim text :=
  trimMatches_append (by decide)

end Trim
