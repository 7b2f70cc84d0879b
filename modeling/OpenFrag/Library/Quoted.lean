import Mathlib.Data.List.Basic

-- Texts with parts between quotes.
namespace Quoted

-- What stands at the odd places of a list.
def odds {α : Type} : List α → List α
  | _ :: a :: as => a :: odds as
  | _            => []

def quoted (text : List Char) : List (List Char) :=
  odds (text.splitOn '"')

-- A text that is put together from its quoted parts, each with what stands before it.
def rendered (last : List Char) : List (List Char × List Char) → List Char
  | []                   => last
  | (gap, part) :: parts => gap ++ '"' :: (part ++ '"' :: rendered last parts)

variable {gap part text last pattern : List Char} {parts : List (List Char × List Char)}

theorem quoted_of_not_mem (h : '"' ∉ gap) : quoted gap = [] := by
  simp [quoted, List.splitOn_eq_singleton h, odds]

theorem quoted_append (hgap : '"' ∉ gap) (hpart : '"' ∉ part) :
    quoted (gap ++ '"' :: (part ++ '"' :: text)) = part :: quoted text := by
  unfold quoted
  rw [List.splitOn_append_cons_self, List.splitOn_append_cons_self, List.splitOn_eq_singleton hgap,
    List.splitOn_eq_singleton hpart]
  rfl

-- The parts that a text was put together from, when none of its pieces has a quote inside.
theorem quoted_rendered (hlast : '"' ∉ last) (hparts : ∀ p ∈ parts, '"' ∉ p.1 ∧ '"' ∉ p.2) :
    quoted (rendered last parts) = parts.map Prod.snd := by
  induction parts
  case nil => exact quoted_of_not_mem hlast
  case cons p parts ih =>
    have ⟨hgap, hpart⟩ := hparts p List.mem_cons_self
    rw [rendered, quoted_append hgap hpart, ih fun q hq => hparts q (List.mem_cons_of_mem _ hq)]
    rfl

theorem infix_of_mem {p : List Char × List Char} (h : p ∈ parts) : p.2 <:+: rendered last parts := by
  induction parts
  case nil => cases h
  case cons q parts ih =>
    cases List.mem_cons.mp h
    case inl heq =>
      subst heq
      exact ⟨p.1 ++ ['"'], '"' :: rendered last parts, by simp [rendered]⟩
    case inr h =>
      apply (ih h).trans
      exact ⟨q.1 ++ '"' :: (q.2 ++ ['"']), [], by simp [rendered]⟩

theorem rendered_append {parts' : List (List Char × List Char)} :
    rendered last (parts ++ parts') = rendered (rendered last parts') parts := by
  induction parts
  case nil => rfl
  case cons p parts ih => rw [List.cons_append, rendered, rendered, ih]

theorem rendered_last : rendered last parts = rendered [] parts ++ last := by
  induction parts
  case nil => rfl
  case cons p parts ih => simp only [rendered, ih, List.append_assoc, List.cons_append]

-- A pattern without the character at which a text is cut lies on one side of the cut.
theorem infix_append_cons {α : Type} {c : α} {as bs pattern : List α} (hc : c ∉ pattern)
    (h : pattern <:+: as ++ c :: bs) : pattern <:+: as ∨ pattern <:+: bs := by
  obtain ⟨front, back, h⟩ := h
  cases List.append_eq_append_iff.mp h
  case inl h =>
    obtain ⟨rest, has, -⟩ := h
    left
    exact ⟨front, rest, has.symm⟩
  case inr h =>
    obtain ⟨rest, hfront, hrest⟩ := h
    cases rest
    case nil =>
      left
      exact ⟨front, [], by simpa using hfront⟩
    case cons d rest =>
      obtain ⟨rfl, rfl⟩ := List.cons.inj hrest
      cases List.append_eq_append_iff.mp hfront
      case inl h =>
        obtain ⟨_, -, hpattern⟩ := h
        exact absurd (by simp [hpattern]) hc
      case inr h =>
        obtain ⟨gap, -, hgap⟩ := h
        cases gap
        case nil =>
          rw [List.nil_append] at hgap
          exact absurd (by simp [← hgap]) hc
        case cons e gap =>
          obtain ⟨-, rfl⟩ := List.cons.inj hgap
          right
          exact ⟨gap, back, rfl⟩

theorem infix_rendered (hpattern : '"' ∉ pattern) (h : pattern <:+: rendered last parts) :
    pattern <:+: last ∨ ∃ p ∈ parts, pattern <:+: p.1 ∨ pattern <:+: p.2 := by
  induction parts
  case nil => exact .inl h
  case cons p parts ih =>
    cases infix_append_cons hpattern h
    case inl hgap => exact .inr ⟨p, List.mem_cons_self, .inl hgap⟩
    case inr h =>
      cases infix_append_cons hpattern h
      case inl hpart => exact .inr ⟨p, List.mem_cons_self, .inr hpart⟩
      case inr h =>
        cases ih h
        case inl hlast => exact .inl hlast
        case inr h =>
          obtain ⟨q, hq, h⟩ := h
          exact .inr ⟨q, List.mem_cons_of_mem _ hq, h⟩

-- The one pair of neighbours whose first fits, when no other part fits.
theorem filter_neighbours {α : Type} {p : α → Bool} {front back : List α} {key value : α}
    (hkey : p key) (hfront : ∀ a ∈ front, p a = false)
    (hback : ∀ a ∈ value :: back, p a = false) :
    ((front ++ key :: value :: back).zip (front ++ key :: value :: back).tail).filter
      (fun pair => p pair.1) = [(key, value)] := by
  induction front
  case nil =>
    have hrest : ((value :: back).zip back).filter (fun pair => p pair.1) = [] := by
      apply List.filter_eq_nil_iff.mpr
      intro pair hpair
      simp [hback pair.1 (List.of_mem_zip hpair).1]
    simp [hkey, hrest]
  case cons a front ih =>
    have hrest := ih fun b hb => hfront b (List.mem_cons_of_mem a hb)
    have ha := hfront a List.mem_cons_self
    cases front
    all_goals simpa [ha] using hrest

end Quoted
