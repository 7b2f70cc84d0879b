import Mathlib.Data.List.Pairwise
import Mathlib.Data.List.Perm.Basic
import Mathlib.Data.Set.Lattice

-- Records that stand for blocks of items, and are merged for as long as two of them can be. Which two
-- are merged first does not matter: what is left over are the blocks of the finest partition whose
-- records cannot be merged.
structure Merging (α ρ : Type _) where
  carries  : Set α → ρ → Prop
  canMerge : ρ → ρ → Prop
  merged   : ρ → ρ → ρ

namespace Merging

variable {α ρ : Type _}

structure Lawful (m : Merging α ρ) : Prop where
  symm {r r'}           : m.canMerge r r' → m.canMerge r' r
  nonempty {B r}        : m.carries B r → B.Nonempty
  unique {B r r'}       : m.carries B r → m.carries B r' → r = r'
  union {B B' r r'}     : m.carries B r → m.carries B' r' → m.canMerge r r' →
    m.carries (B ∪ B') (m.merged r r')
  mono {B B' C C' r r' s s'} : m.carries B r → m.carries B' r' → m.carries C s → m.carries C' s' →
    B ⊆ C → B' ⊆ C' → m.canMerge r r' → m.canMerge s s'
  shared {B B' r r'}    : m.carries B r → m.carries B' r' → (B ∩ B').Nonempty → m.canMerge r r'

structure Partition (S : Set α) (P : Set (Set α)) : Prop where
  nonempty : ∀ B ∈ P, B.Nonempty
  cover    : ⋃₀ P = S
  disjoint : ∀ B ∈ P, ∀ B' ∈ P, (B ∩ B').Nonempty → B = B'

-- Each block has a record, and no two of these can be merged.
structure Closed (m : Merging α ρ) (S : Set α) (P : Set (Set α)) : Prop extends Partition S P where
  carried : ∀ B ∈ P, ∃ r, m.carries B r
  apart   : ∀ B ∈ P, ∀ B' ∈ P, ∀ r r', m.carries B r → m.carries B' r' → m.canMerge r r' → B = B'

structure Finest (m : Merging α ρ) (S : Set α) (P : Set (Set α)) : Prop extends Closed m S P where
  least : ∀ Q, m.Closed S Q → ∀ B ∈ P, ∃ C ∈ Q, B ⊆ C

theorem Finest.subset {m : Merging α ρ} {S : Set α} {P Q : Set (Set α)} (h : m.Finest S P)
    (h' : m.Finest S Q) : P ⊆ Q := by
  intro B hB
  obtain ⟨C, hC, hBC⟩ := h.least Q h'.toClosed B hB
  obtain ⟨B', hB', hCB'⟩ := h'.least P h.toClosed C hC
  obtain ⟨a, ha⟩ := h.nonempty B hB
  obtain rfl := h.disjoint B hB B' hB' ⟨a, ha, hCB' (hBC ha)⟩
  exact hBC.antisymm hCB' ▸ hC

-- There is one finest partition.
theorem Finest.unique {m : Merging α ρ} {S : Set α} {P Q : Set (Set α)} (h : m.Finest S P)
    (h' : m.Finest S Q) : P = Q :=
  (h.subset h').antisymm (h'.subset h)

-- The block of a record lies within the blocks of every closed partition.
def Stands (m : Merging α ρ) (S : Set α) (r : ρ) (B : Set α) : Prop :=
  m.carries B r ∧ ∀ Q, m.Closed S Q → ∃ C ∈ Q, B ⊆ C

-- The records that are left stand for all of the items.
def Progress (m : Merging α ρ) (S : Set α) (rs : List ρ) : Prop :=
  ∃ blocks, List.Forall₂ (m.Stands S) rs blocks ∧ ∀ a, a ∈ S ↔ ∃ B ∈ blocks, a ∈ B

variable {m : Merging α ρ} {S : Set α} {r r' : ρ} {rs rs' : List ρ}

namespace Progress

theorem start {items : List α} {f : α → ρ} (hitems : ∀ a, a ∈ S ↔ a ∈ items)
    (h : ∀ a ∈ items, m.carries {a} (f a)) : m.Progress S (items.map f) := by
  refine ⟨items.map ({·}), ?_, by simp [hitems]⟩
  rw [List.forall₂_map_left_iff, List.forall₂_map_right_iff, List.forall₂_same]
  intro a ha
  refine ⟨h a ha, fun Q hQ => ?_⟩
  obtain ⟨C, hC, hmem⟩ := Set.mem_sUnion.mp (hQ.cover ▸ (hitems a).mpr ha)
  exact ⟨C, hC, Set.singleton_subset_iff.mpr hmem⟩

theorem perm (h : m.Progress S rs) (hperm : rs'.Perm rs) : m.Progress S rs' := by
  obtain ⟨blocks, hstands, hcover⟩ := h
  obtain ⟨blocks', hstands', hblocks⟩ := List.perm_comp_forall₂ hperm hstands
  exact ⟨blocks', hstands', fun a => (hcover a).trans (by simp [hblocks.mem_iff])⟩

-- Merging two blocks does not leave the closed partitions.
theorem merge (hm : m.Lawful) (h : m.Progress S (r :: r' :: rs)) (hmerge : m.canMerge r r') :
    m.Progress S (m.merged r r' :: rs) := by
  obtain ⟨blocks, hstands, hcover⟩ := h
  obtain ⟨B, _, ⟨hB, hBQ⟩, hfirst, rfl⟩ := List.forall₂_cons_left_iff.mp hstands
  obtain ⟨B', blocks, ⟨hB', hBQ'⟩, hrest, rfl⟩ := List.forall₂_cons_left_iff.mp hfirst
  refine ⟨(B ∪ B') :: blocks, .cons ⟨hm.union hB hB' hmerge, fun Q hQ => ?_⟩ hrest, ?_⟩
  · obtain ⟨C, hC, hBC⟩ := hBQ Q hQ
    obtain ⟨C', hC', hBC'⟩ := hBQ' Q hQ
    obtain ⟨s, hs⟩ := hQ.carried C hC
    obtain ⟨s', hs'⟩ := hQ.carried C' hC'
    have hsame := hQ.apart C hC C' hC' s s' hs hs' (hm.mono hB hB' hs hs' hBC hBC' hmerge)
    exact ⟨C, hC, Set.union_subset hBC (hsame ▸ hBC')⟩
  · intro a
    simp [hcover a, or_assoc]

end Progress

section

variable {β : Type _} {R : α → β → Prop} {l : List α} {l' : List β}

theorem exists_left (h : List.Forall₂ R l l') {b : β} (hb : b ∈ l') : ∃ a ∈ l, R a b := by
  induction h
  case nil => cases hb
  case cons a b' _ _ hab _ ih =>
    rcases List.mem_cons.mp hb with rfl | hb
    · exact ⟨a, List.mem_cons_self, hab⟩
    · have ⟨a', ha', hab'⟩ := ih hb
      exact ⟨a', List.mem_cons_of_mem a ha', hab'⟩

theorem exists_right (h : List.Forall₂ R l l') {a : α} (ha : a ∈ l) : ∃ b ∈ l', R a b := by
  induction h
  case nil => cases ha
  case cons a' b _ _ hab _ ih =>
    rcases List.mem_cons.mp ha with rfl | ha
    · exact ⟨b, List.mem_cons_self, hab⟩
    · have ⟨b', hb', hab'⟩ := ih ha
      exact ⟨b', List.mem_cons_of_mem b hb', hab'⟩

end

-- Records that cannot be merged stand for blocks that cannot be merged either.
theorem apart_of_stands (hm : m.Lawful) {blocks : List (Set α)}
    (hstands : List.Forall₂ (m.Stands S) rs blocks)
    (hrs : rs.Pairwise fun r r' => ¬m.canMerge r r') :
    blocks.Pairwise fun B B' => ∀ r r', m.carries B r → m.carries B' r' → ¬m.canMerge r r' := by
  induction hstands
  case nil => exact .nil
  case cons r B rs blocks hB hstands ih =>
    have ⟨hr, hrs⟩ := List.pairwise_cons.mp hrs
    refine List.pairwise_cons.mpr ⟨fun B' hB' s s' hs hs' => ?_, ih hrs⟩
    obtain ⟨r', hr', hstands'⟩ := exists_left hstands hB'
    rw [hm.unique hs hB.1, hm.unique hs' hstands'.1]
    exact hr r' hr'

-- The blocks of a list of records, each once.
structure Blocks (m : Merging α ρ) (P : Set (Set α)) (rs : List ρ) (blocks : List (Set α)) :
    Prop where
  nodup   : blocks.Nodup
  mem_iff : ∀ B, B ∈ blocks ↔ B ∈ P
  carries : List.Forall₂ (fun r B => m.carries B r) rs blocks

-- The records that are left, when none of them can be merged, are those of the finest partition.
theorem Progress.finest (hm : m.Lawful) (h : m.Progress S rs)
    (hrs : rs.Pairwise fun r r' => ¬m.canMerge r r') :
    ∃ P blocks, m.Finest S P ∧ m.Blocks P rs blocks := by
  obtain ⟨blocks, hstands, hcover⟩ := h
  have hcarried : ∀ B ∈ blocks, ∃ r, m.Stands S r B := fun B hB =>
    have ⟨r, _, hr⟩ := exists_left hstands hB
    ⟨r, hr⟩
  have hapart := apart_of_stands hm hstands hrs
  have hmerge : ∀ B ∈ blocks, ∀ B' ∈ blocks, ∀ r r', m.carries B r → m.carries B' r' →
      m.canMerge r r' → B = B' := by
    intro B hB B' hB' r r' hr hr' hmerge
    by_contra hne
    have : Std.Symm fun B B' => ∀ r r', m.carries B r → m.carries B' r' → ¬m.canMerge r r' :=
      ⟨fun _ _ h r r' hr hr' hmerge => h r' r hr' hr (hm.symm hmerge)⟩
    exact hapart.forall hB hB' hne r r' hr hr' hmerge
  have hnodup : blocks.Nodup := by
    refine hapart.imp_of_mem fun {B B'} hB _ hB' heq => ?_
    subst heq
    obtain ⟨r, hr⟩ := hcarried B hB
    exact hB' r r hr.1 hr.1 (hm.shared hr.1 hr.1 (by simpa using hm.nonempty hr.1))
  refine ⟨{B | B ∈ blocks}, blocks, ?_, hnodup, fun B => Iff.rfl, hstands.imp fun _ _ h => h.1⟩
  exact {
    nonempty := fun B hB =>
      have ⟨r, hr⟩ := hcarried B hB
      hm.nonempty hr.1
    cover    := by
      ext a
      simp [hcover a]
    disjoint := fun B hB B' hB' hshared =>
      have ⟨r, hr⟩ := hcarried B hB
      have ⟨r', hr'⟩ := hcarried B' hB'
      hmerge B hB B' hB' r r' hr.1 hr'.1 (hm.shared hr.1 hr'.1 hshared)
    carried  := fun B hB =>
      have ⟨r, hr⟩ := hcarried B hB
      ⟨r, hr.1⟩
    apart    := hmerge
    least    := fun Q hQ B hB =>
      have ⟨_, hr⟩ := hcarried B hB
      hr.2 Q hQ }

-- The records of a partition are those of its blocks.
theorem Blocks.mem_records {P : Set (Set α)} {blocks : List (Set α)} (hm : m.Lawful)
    (h : m.Blocks P rs blocks) : r ∈ rs ↔ ∃ B ∈ P, m.carries B r := by
  constructor
  · intro hr
    obtain ⟨B, hB, hcarries⟩ := exists_right h.carries hr
    exact ⟨B, (h.mem_iff B).mp hB, hcarries⟩
  · intro ⟨B, hB, hcarries⟩
    obtain ⟨r', hr', hcarries'⟩ := exists_left h.carries ((h.mem_iff B).mpr hB)
    exact hm.unique hcarries hcarries' ▸ hr'

-- Whatever has been merged first, the same records are left.
theorem Progress.confluent (hm : m.Lawful) (h : m.Progress S rs) (h' : m.Progress S rs')
    (hrs : rs.Pairwise fun r r' => ¬m.canMerge r r')
    (hrs' : rs'.Pairwise fun r r' => ¬m.canMerge r r') : ∀ r, r ∈ rs ↔ r ∈ rs' := by
  obtain ⟨P, blocks, hfinest, hblocks⟩ := h.finest hm hrs
  obtain ⟨P', blocks', hfinest', hblocks'⟩ := h'.finest hm hrs'
  intro r
  rw [hblocks.mem_records hm, hblocks'.mem_records hm, hfinest.unique hfinest']

end Merging
