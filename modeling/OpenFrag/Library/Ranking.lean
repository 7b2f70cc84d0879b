import Mathlib.Data.List.Sort
import Mathlib.Data.List.Dedup
import Mathlib.Data.List.Perm.Basic
import Mathlib.Data.List.TakeWhile

-- Stable sorting by a key, the first element of each label, and what both together select.
namespace List

variable {α κ ι : Type _}

section Ranked

variable [LinearOrder κ] (key : α → κ)

def ranked (as : List α) : List α :=
  as.insertionSort fun a b => key a ≤ key b

local instance total_key : Std.Total fun a b : α => key a ≤ key b := ⟨fun a b => le_total (key a) (key b)⟩
local instance trans_key : IsTrans α fun a b => key a ≤ key b := ⟨fun _ _ _ => le_trans⟩

theorem ranked_perm (as : List α) : (as.ranked key).Perm as :=
  perm_insertionSort _ _

theorem ranked_pairwise (as : List α) : (as.ranked key).Pairwise fun a b => key a ≤ key b :=
  pairwise_insertionSort _ _

theorem mem_ranked {as : List α} {a : α} : a ∈ as.ranked key ↔ a ∈ as :=
  (ranked_perm key as).mem_iff

theorem ranked_cons (a : α) (as : List α) :
    (a :: as).ranked key = (as.ranked key).orderedInsert (fun a b => key a ≤ key b) a := rfl

-- The keys of a sorted list depend on the set of them only.
theorem ranked_map_key_eq {as bs : List α} (h : as.Perm bs) :
    (as.ranked key).map key = (bs.ranked key).map key := by
  have hperm : ((as.ranked key).map key).Perm ((bs.ranked key).map key) :=
    (((ranked_perm key as).trans h).trans (ranked_perm key bs).symm).map key
  refine Perm.eq_of_pairwise (fun a b _ _ => le_antisymm) ?_ ?_ hperm
  · exact pairwise_map.mpr (ranked_pairwise key as)
  · exact pairwise_map.mpr (ranked_pairwise key bs)

variable {key}

-- Without two elements of one key there is one sorted order.
theorem ranked_eq_of_perm {as bs : List α} (h : as.Perm bs) (hkeys : (as.map key).Nodup) :
    as.ranked key = bs.ranked key := by
  have hperm : (as.ranked key).Perm (bs.ranked key) :=
    ((ranked_perm key as).trans h).trans (ranked_perm key bs).symm
  refine Perm.eq_of_pairwise (fun a b ha hb hab hba => ?_) (ranked_pairwise key as)
    (ranked_pairwise key bs) hperm
  have hb' : b ∈ as := h.mem_iff.mpr ((mem_ranked key).mp hb)
  exact inj_on_of_nodup_map hkeys ((mem_ranked key).mp ha) hb' (le_antisymm hab hba)

theorem orderedInsert_append {a : α} {s : List α} (t : List α) (h : ∀ b ∈ s, ¬key a ≤ key b) :
    (s ++ t).orderedInsert (fun a b => key a ≤ key b) a =
      s ++ t.orderedInsert (fun a b => key a ≤ key b) a := by
  induction s
  case nil => rfl
  case cons b s ih =>
    have hb := h b mem_cons_self
    simp [hb, ih fun c hc => h c (mem_cons_of_mem b hc)]

theorem orderedInsert_append_left {a b : α} {s : List α} (t : List α) (hb : b ∈ s)
    (h : key a ≤ key b) :
    (s ++ t).orderedInsert (fun a b => key a ≤ key b) a =
      s.orderedInsert (fun a b => key a ≤ key b) a ++ t := by
  induction s
  case nil => cases hb
  case cons c s ih =>
    by_cases hc : key a ≤ key c
    · simp [hc]
    · cases hb
      case head => exact absurd h hc
      case tail hb => simp [hc, ih hb]

-- One more element takes a place of its own, after those of the same key that come before it.
theorem ranked_insert (key : α → κ) (pre : List α) (a : α) (post : List α) :
    ∃ s t, (pre ++ post).ranked key = s ++ t ∧ (pre ++ a :: post).ranked key = s ++ a :: t ∧
      ∀ b ∈ pre, key b ≤ key a → b ∈ s := by
  induction pre
  case nil =>
    refine ⟨_, _, (takeWhile_append_dropWhile (p := fun b => ¬key a ≤ key b)).symm, ?_, by simp⟩
    rw [nil_append, ranked_cons, orderedInsert_eq_take_drop]
    rfl
  case cons c pre ih =>
    have ⟨s, t, hwithout, hwith, hpre⟩ := ih
    have hsorted := ranked_pairwise key (pre ++ a :: post)
    rw [hwith, pairwise_append, pairwise_cons] at hsorted
    simp only [cons_append, ranked_cons, hwithout, hwith]
    by_cases hs : ∃ b ∈ s, key c ≤ key b
    case pos =>
      have ⟨b, hb, hle⟩ := hs
      refine ⟨s.orderedInsert _ c, t, orderedInsert_append_left t hb hle,
        orderedInsert_append_left _ hb hle, ?_⟩
      intro d hd hda
      rw [mem_orderedInsert]
      cases hd
      case head => exact .inl rfl
      case tail hd => exact .inr (hpre d hd hda)
    case neg =>
      have hs' : ∀ b ∈ s, ¬key c ≤ key b := fun b hb hle => hs ⟨b, hb, hle⟩
      rw [orderedInsert_append _ hs', orderedInsert_append _ hs']
      by_cases hca : key c ≤ key a
      case pos =>
        -- What comes after the new element has no smaller key than it.
        have ht : t.orderedInsert (fun a b => key a ≤ key b) c = c :: t := by
          cases t
          case nil => rfl
          case cons d t => simp [hca.trans (hsorted.2.1.1 d mem_cons_self)]
        refine ⟨s ++ [c], t, by simp [ht], by simp [hca], ?_⟩
        intro d hd hda
        cases hd
        case head => simp
        case tail hd => exact mem_append_left _ (hpre d hd hda)
      case neg =>
        refine ⟨s, t.orderedInsert _ c, rfl, by simp [hca], ?_⟩
        intro d hd hda
        cases hd
        case head => exact absurd hda hca
        case tail hd => exact hpre d hd hda

-- The first element of a key is the same before and after the sort.
theorem find?_ranked [DecidableEq κ] (as : List α) (k : κ) :
    (as.ranked key).find? (key · = k) = as.find? (key · = k) := by
  induction as
  case nil => rfl
  case cons a as ih =>
    rw [ranked_cons, orderedInsert_eq_take_drop, find?_append, find?_cons, find?_cons]
    by_cases ha : key a = k
    case pos =>
      have hnone : ((as.ranked key).takeWhile fun b => ¬key a ≤ key b).find? (key · = k) = none := by
        apply find?_eq_none.mpr
        intro b hb
        have hlt : ¬key a ≤ key b := by simpa using mem_takeWhile_imp hb
        simpa [← ha] using fun hk : key b = key a => hlt hk.ge
      rw [hnone]
      simp [ha]
    case neg =>
      rw [← ih]
      conv_rhs => rw [← takeWhile_append_dropWhile (l := as.ranked key)
        (p := fun b => ¬key a ≤ key b), find?_append]
      simp [ha]

end Ranked

section KeepFirst

variable [DecidableEq ι] (label : α → ι)

-- The elements whose label was not seen before, and the others.
def keepFirst : List ι → List α → List α × List α
  | _, [] => ([], [])
  | seen, a :: as =>
    if label a ∈ seen then
      ((keepFirst seen as).1, a :: (keepFirst seen as).2)
    else
      (a :: (keepFirst (label a :: seen) as).1, (keepFirst (label a :: seen) as).2)

theorem keepFirst_perm (seen : List ι) (as : List α) :
    ((keepFirst label seen as).1 ++ (keepFirst label seen as).2).Perm as := by
  induction as generalizing seen
  case nil => rfl
  case cons a as ih =>
    unfold keepFirst
    split
    · exact perm_middle.trans ((ih seen).cons a)
    · exact (ih _).cons a

theorem keepFirst_sublist (seen : List ι) (as : List α) :
    (keepFirst label seen as).1.Sublist as := by
  induction as generalizing seen
  case nil => exact .slnil
  case cons a as ih =>
    unfold keepFirst
    split
    · exact (ih seen).cons a
    · exact (ih _).cons_cons a

theorem keepFirst_fresh {seen : List ι} {as : List α} {a : α}
    (h : a ∈ (keepFirst label seen as).1) : label a ∉ seen := by
  induction as generalizing seen
  case nil => cases h
  case cons b as ih =>
    unfold keepFirst at h
    split at h
    case isTrue => exact ih h
    case isFalse hb =>
      cases h
      case head => exact hb
      case tail h => exact fun ha => ih h (mem_cons_of_mem _ ha)

theorem keepFirst_nodup (seen : List ι) (as : List α) :
    ((keepFirst label seen as).1.map label).Nodup := by
  induction as generalizing seen
  case nil => exact nodup_nil
  case cons a as ih =>
    unfold keepFirst
    split
    case isTrue => exact ih seen
    case isFalse =>
      rw [map_cons, nodup_cons]
      refine ⟨?_, ih _⟩
      intro ha
      have ⟨b, hb, heq⟩ := mem_map.mp ha
      exact keepFirst_fresh label hb (heq ▸ mem_cons_self)

-- The labels seen so far matter as a set.
theorem keepFirst_congr {seen seen' : List ι} (h : ∀ i, i ∈ seen ↔ i ∈ seen') (as : List α) :
    keepFirst label seen as = keepFirst label seen' as := by
  induction as generalizing seen seen'
  case nil => rfl
  case cons a as ih =>
    have hcons : ∀ i, i ∈ label a :: seen ↔ i ∈ label a :: seen' := by simp [h]
    simp only [keepFirst, h, ih h, ih hcons]

theorem keepFirst_append (seen : List ι) (as bs : List α) :
    (keepFirst label seen (as ++ bs)).1 =
      (keepFirst label seen as).1 ++ (keepFirst label (as.map label ++ seen) bs).1 := by
  induction as generalizing seen
  case nil => rfl
  case cons a as ih =>
    simp only [cons_append, map_cons, keepFirst]
    split
    case isTrue ha =>
      rw [ih]
      congr 2
      apply keepFirst_congr
      simp only [mem_append, mem_cons]
      grind
    case isFalse =>
      simp only [ih, cons_append, cons.injEq, true_and]
      congr 2
      apply keepFirst_congr
      simp only [mem_append, mem_cons]
      grind

-- What is dropped comes after an element with its label.
theorem keepFirst_covers {R : α → α → Prop} {seen : List ι} {as : List α} (hR : as.Pairwise R)
    {a : α} (ha : a ∈ as) (hseen : label a ∉ seen) :
    ∃ b ∈ (keepFirst label seen as).1, label b = label a ∧ (b = a ∨ R b a) := by
  induction as generalizing seen
  case nil => cases ha
  case cons c as ih =>
    have ⟨hc, has⟩ := pairwise_cons.mp hR
    unfold keepFirst
    split
    case isTrue hmem =>
      cases ha
      case head => exact absurd hmem hseen
      case tail ha => exact ih has ha hseen
    case isFalse =>
      by_cases hca : label c = label a
      case pos =>
        refine ⟨c, mem_cons_self, hca, ?_⟩
        cases ha
        case head => exact .inl rfl
        case tail ha => exact .inr (hc a ha)
      case neg =>
        cases ha
        case head => exact absurd rfl hca
        case tail ha =>
          have hfresh : label a ∉ label c :: seen := by simp [hseen, Ne.symm hca]
          have ⟨b, hb, h⟩ := ih has ha hfresh
          exact ⟨b, mem_cons_of_mem c hb, h⟩

-- An element that is kept is the first one with its label.
theorem keepFirst_find? {seen : List ι} {as : List α} {a : α}
    (h : a ∈ (keepFirst label seen as).1) : as.find? (label · = label a) = some a := by
  induction as generalizing seen
  case nil => cases h
  case cons b as ih =>
    have hfresh := keepFirst_fresh label h
    unfold keepFirst at h
    split at h
    case isTrue hb =>
      have hne : label b ≠ label a := fun heq => hfresh (heq ▸ hb)
      simp [hne, ih h]
    case isFalse =>
      cases h
      case head => simp
      case tail h =>
        have hne : label b ≠ label a := fun heq => keepFirst_fresh label h (heq ▸ mem_cons_self)
        simp [hne, ih h]

-- Which labels are kept is decided by the labels.
theorem keepFirst_map {β : Type _} {label' : β → ι} {f : α → β} (h : ∀ a, label' (f a) = label a)
    (seen : List ι) (as : List α) :
    (keepFirst label seen as).1.map f = (keepFirst label' seen (as.map f)).1 := by
  induction as generalizing seen
  case nil => rfl
  case cons a as ih =>
    simp only [keepFirst, map_cons, h]
    split
    · exact ih seen
    · rw [map_cons, ih]

end KeepFirst

section Select

variable [LinearOrder κ] [DecidableEq ι] (key : α → κ) (label : α → ι)

-- For each label the element with the least key, in the order of the keys.
def leaders (as : List α) : List α :=
  (keepFirst label [] (as.ranked key)).1

def select (n : Nat) (as : List α) : List α :=
  (as.leaders key label).take n

-- At most `n` elements with different labels, the ones with the least keys.
structure Selection (n : Nat) (as selected : List α) : Prop where
  within : ∃ rest, (selected ++ rest).Perm as
  labels : (selected.map label).Nodup
  sorted : selected.Pairwise fun a b => key a ≤ key b
  bound  : selected.length ≤ n
  least  : ∀ a ∈ as, (∃ b ∈ selected, label b = label a ∧ key b ≤ key a) ∨
    selected.length = n ∧ ∀ b ∈ selected, key b < key a

theorem leaders_nodup (as : List α) : ((as.leaders key label).map label).Nodup :=
  keepFirst_nodup label [] _

theorem leaders_pairwise (as : List α) :
    (as.leaders key label).Pairwise fun a b => key a ≤ key b :=
  (ranked_pairwise key as).sublist (keepFirst_sublist label [] _)

variable {key label} in
theorem leaders_subset {as : List α} {a : α} (h : a ∈ as.leaders key label) : a ∈ as :=
  (mem_ranked key).mp ((keepFirst_sublist label [] _).subset h)

theorem leaders_covers {as : List α} {a : α} (ha : a ∈ as) :
    ∃ b ∈ as.leaders key label, label b = label a ∧ key b ≤ key a := by
  have ⟨b, hb, hl, hle⟩ := keepFirst_covers label (ranked_pairwise key as)
    ((mem_ranked key).mpr ha) not_mem_nil
  refine ⟨b, hb, hl, ?_⟩
  cases hle
  case inl heq => rw [heq]
  case inr hle => exact hle

theorem leaders_label_perm (as : List α) :
    (as.map label).dedup.Perm ((as.leaders key label).map label) := by
  apply (perm_ext_iff_of_nodup (nodup_dedup _) (leaders_nodup key label as)).mpr
  intro i
  simp only [mem_dedup, mem_map]
  constructor
  case mp =>
    intro ⟨a, ha, hi⟩
    have ⟨b, hb, hl, _⟩ := leaders_covers key label ha
    exact ⟨b, hb, hl.trans hi⟩
  case mpr => exact fun ⟨a, ha, hi⟩ => ⟨a, leaders_subset ha, hi⟩

variable {key label}

theorem select_selection (hkey : ∀ a b, key a = key b → label a = label b) (n : Nat)
    (as : List α) : Selection key label n as (as.select key label n) := by
  have hsub : (as.select key label n).Sublist (as.leaders key label) := take_sublist _ _
  constructor
  case within =>
    refine ⟨(as.leaders key label).drop n ++ (keepFirst label [] (as.ranked key)).2, ?_⟩
    rw [← append_assoc, select, take_append_drop]
    exact (keepFirst_perm label [] _).trans (ranked_perm key as)
  case labels => exact (leaders_nodup key label as).sublist (hsub.map label)
  case sorted => exact (leaders_pairwise key label as).sublist hsub
  case bound => exact length_take_le _ _
  case least =>
    intro a ha
    have ⟨b, hb, hl, hle⟩ := leaders_covers key label ha
    by_cases hsel : b ∈ as.select key label n
    case pos => exact .inl ⟨b, hsel, hl, hle⟩
    case neg =>
      have hsplit := take_append_drop n (as.leaders key label)
      have hdrop : b ∈ (as.leaders key label).drop n := by
        rw [← hsplit, mem_append] at hb
        exact hb.resolve_left hsel
      have hlength := length_pos_of_mem hdrop
      rw [length_drop] at hlength
      refine .inr ⟨by rw [select, length_take]; omega, fun c hc => ?_⟩
      have hsorted := leaders_pairwise key label as
      have hnodup := leaders_nodup key label as
      rw [← hsplit, pairwise_append] at hsorted
      rw [← hsplit, map_append] at hnodup
      -- Two elements with one key would share their label.
      have hne : key c ≠ key a := by
        intro heq
        have hlabel : label b = label c := hl.trans (hkey c a heq).symm
        exact disjoint_of_nodup_append hnodup (mem_map_of_mem hc) (hlabel ▸ mem_map_of_mem hdrop)
      exact lt_of_le_of_ne ((hsorted.2.2 c hc b hdrop).trans hle) hne

-- One more element is left out, or it takes a place among the others.
theorem leaders_insert (key : α → κ) (label : α → ι) (pre : List α) (a : α) (post : List α) :
    (pre ++ a :: post).leaders key label = (pre ++ post).leaders key label ∨
    a ∉ pre ∧ ∃ s t t', (pre ++ a :: post).leaders key label = s ++ a :: t ∧
      (pre ++ post).leaders key label = s ++ t' ∧ ∀ b ∈ t', key a ≤ key b := by
  have ⟨s, t, hwithout, hwith, hpre⟩ := ranked_insert key pre a post
  have hsorted := ranked_pairwise key (pre ++ a :: post)
  rw [hwith, pairwise_append, pairwise_cons] at hsorted
  simp only [leaders, hwithout, hwith, keepFirst_append, append_nil]
  by_cases ha : label a ∈ s.map label
  case pos => exact .inl (by simp [keepFirst, ha])
  case neg =>
    refine .inr ⟨fun hmem => ha (mem_map_of_mem (hpre a hmem le_rfl)), (keepFirst label [] s).1,
      (keepFirst label (label a :: s.map label) t).1, (keepFirst label (s.map label) t).1,
      by rw [keepFirst, if_neg ha], rfl, ?_⟩
    intro b hb
    exact hsorted.2.1.1 b ((keepFirst_sublist label _ t).subset hb)

-- What is not selected can be taken away.
theorem select_insert_of_excluded {n : Nat} {pre post : List α} {a : α}
    (h : a ∉ (pre ++ a :: post).select key label n ∨ a ∈ pre) :
    (pre ++ a :: post).select key label n = (pre ++ post).select key label n := by
  rw [select, select]
  cases leaders_insert key label pre a post
  case inl heq => rw [heq]
  case inr hplace =>
    have ⟨hpre, s, t, t', hwith, hwithout, _⟩ := hplace
    have hout := h.resolve_right hpre
    rw [select, hwith, take_append] at hout
    have hn : n ≤ s.length := by
      by_contra hlt
      have hpos : n - s.length ≠ 0 := by omega
      apply hout
      obtain ⟨m, hm⟩ := Nat.exists_eq_succ_of_ne_zero hpos
      simp [hm]
    rw [hwith, hwithout, take_append_of_le_length hn, take_append_of_le_length hn]

-- A full selection does not change by an element with a greater key than its own.
theorem select_insert_of_later {n : Nat} {pre post : List α} {a : α}
    (hfull : ((pre ++ post).select key label n).length = n)
    (h : ∀ b ∈ (pre ++ post).select key label n, key b < key a) :
    (pre ++ a :: post).select key label n = (pre ++ post).select key label n := by
  rw [select] at hfull h
  rw [select, select]
  cases leaders_insert key label pre a post
  case inl heq => rw [heq]
  case inr hplace =>
    have ⟨_, s, t, t', hwith, hwithout, hle⟩ := hplace
    have hn : n ≤ s.length := by
      by_contra hlt
      rw [hwithout, length_take, length_append] at hfull
      cases t'
      case nil =>
        rw [length_nil] at hfull
        omega
      case cons b t' =>
        obtain ⟨m, hm⟩ := Nat.exists_eq_succ_of_ne_zero (by omega : n - s.length ≠ 0)
        have hb : b ∈ ((pre ++ post).leaders key label).take n := by
          simp [hwithout, take_append, hm]
        exact absurd (hle b mem_cons_self) (h b hb).not_ge
    rw [hwith, hwithout, take_append_of_le_length hn, take_append_of_le_length hn]

-- A list with more elements, all of them with a property, put in at any places.
inductive Inserted (P : α → Prop) (as : List α) : List α → Prop
  | refl : Inserted P as as
  | insert {pre a post} : Inserted P as (pre ++ post) → P a → Inserted P as (pre ++ a :: post)

end Select

section Reordering

variable [LinearOrder κ] [DecidableEq ι] {key : α → κ} {label : α → ι} {f : κ → ι}

-- The keys of the leaders do not depend on the order.
theorem leaders_map_key_eq (hlabel : ∀ a, f (key a) = label a) {as bs : List α}
    (h : as.Perm bs) : (as.leaders key label).map key = (bs.leaders key label).map key := by
  rw [leaders, leaders, keepFirst_map label hlabel, keepFirst_map label hlabel,
    ranked_map_key_eq key h]

-- A leader is the first element with its key.
theorem leaders_find? (hlabel : ∀ a, f (key a) = label a) {as : List α} {a : α}
    (h : a ∈ as.leaders key label) : as.find? (key · = key a) = some a := by
  rw [← find?_ranked]
  have hfind := keepFirst_find? label h
  obtain ⟨_, s, t, hsplit, hs⟩ := find?_eq_some_iff_append.mp hfind
  rw [find?_eq_some_iff_append]
  refine ⟨by simp, s, t, hsplit, fun b hb => ?_⟩
  have hne : label b ≠ label a := by simpa using hs b hb
  simpa using fun heq : key b = key a => hne (by rw [← hlabel, ← hlabel, heq])

theorem leaders_eq_filterMap (hlabel : ∀ a, f (key a) = label a) (as : List α) :
    as.leaders key label =
      ((as.leaders key label).map key).filterMap fun k => as.find? (key · = k) := by
  rw [filterMap_map]
  conv_lhs => rw [← filterMap_some (l := as.leaders key label)]
  exact filterMap_congr fun a ha => (leaders_find? hlabel ha).symm

end Reordering

end List
