import OpenFrag.Live.Coordinator

namespace Live

variable {α : Type}

namespace HashMap

variable {map : HashMap α} {key : String} {value : α}

theorem mem_of_get? (h : map.get? key = some value) : (key, value) ∈ map := by
  have ⟨_, _, heq, _⟩ := List.lookup_eq_some_iff.mp h
  simp [heq]

theorem get?_insert_self : (map.insert key value).get? key = some value :=
  List.lookup_cons_self

theorem get?_remove_self : (map.remove key).get? key = none := by
  have hne {k : String} {v : α} (h : (k, v) ∈ map.remove key) : k ≠ key := by
    simpa using List.of_mem_filter h
  simpa [get?, List.lookup_eq_none_iff] using fun k v h heq => hne h heq.symm

theorem get?_remove_of_ne {key' : String} (h : key' ≠ key) :
    (map.remove key).get? key' = map.get? key' := by
  have hne : (key' == key) = false := beq_false_of_ne h
  simp only [get?, remove]
  induction map
  case nil => rfl
  case cons entry map ih =>
    obtain ⟨k, v⟩ := entry
    simp only [ne_eq, decide_not] at ih
    by_cases hk : k = key
    case pos => simp [hk, List.lookup_cons, hne, ih]
    case neg => simp [hk, List.lookup_cons, ih]

theorem get?_insert_of_ne {key' : String} (h : key' ≠ key) :
    (map.insert key value).get? key' = map.get? key' := by
  have hne : (key' == key) = false := beq_false_of_ne h
  have hremove := map.get?_remove_of_ne h
  simpa only [get?, insert, remove, List.lookup_cons, hne] using hremove

theorem get?_insert_cases {key' : String} {value' : α}
    (h : (map.insert key value).get? key' = some value') :
    key' = key ∧ value' = value ∨ key' ≠ key ∧ map.get? key' = some value' := by
  by_cases hkey : key' = key
  case pos =>
    subst hkey
    rw [get?_insert_self] at h
    exact .inl ⟨rfl, (Option.some.inj h).symm⟩
  case neg => exact .inr ⟨hkey, get?_insert_of_ne hkey ▸ h⟩

-- A map that has each key once.
def Keyed (map : HashMap α) : Prop :=
  (map.map Prod.fst).Nodup

theorem Keyed.insert (h : map.Keyed) : (map.insert key value).Keyed := by
  refine List.nodup_cons.mpr ⟨?_, h.sublist (List.filter_sublist.map Prod.fst)⟩
  simp

theorem Keyed.remove (h : map.Keyed) : (map.remove key).Keyed :=
  h.sublist (List.filter_sublist.map Prod.fst)

theorem Keyed.get?_of_mem (h : map.Keyed) (hmem : (key, value) ∈ map) :
    map.get? key = some value := by
  induction map
  case nil => cases hmem
  case cons entry map ih =>
    obtain ⟨k, v⟩ := entry
    have ⟨hnew, hmap⟩ := List.nodup_cons.mp h
    rcases List.mem_cons.mp hmem with heq | hmem
    · cases heq
      exact List.lookup_cons_self
    · have hne : key ≠ k := fun heq => hnew (List.mem_map.mpr ⟨(key, value), hmem, heq⟩)
      have hne' : (key == k) = false := beq_false_of_ne hne
      simpa [get?, List.lookup_cons, hne'] using ih hmap hmem

theorem mem_values_of_get? (h : map.get? key = some value) : value ∈ map.values :=
  List.mem_map_of_mem (f := Prod.snd) (mem_of_get? h)

theorem mem_insert {entry : String × α} (h : entry ∈ map.insert key value) :
    entry = (key, value) ∨ entry ∈ map := by
  cases h
  case head => exact .inl rfl
  case tail h => exact .inr (List.mem_of_mem_filter h)

theorem mem_values_insert {value' : α} (h : value' ∈ (map.insert key value).values) :
    value' = value ∨ value' ∈ map.values := by
  have ⟨entry, hmem, heq⟩ := List.mem_map.mp h
  rcases mem_insert hmem with rfl | hmem
  case inl => exact .inl heq.symm
  case inr => exact .inr (heq ▸ List.mem_map_of_mem hmem)

end HashMap

end Live
