import Mathlib.Data.List.Basic

-- Tables of a relational store as lists of rows, the latest row first.
namespace Table

variable {ρ σ : Type}

-- A generated key that is not in use.
def fresh (keys : List Nat) : Nat :=
  keys.foldr (fun key next => max (key + 1) next) 0

theorem lt_fresh {keys : List Nat} {key : Nat} (h : key ∈ keys) : key < fresh keys := by
  induction keys
  case nil => cases h
  case cons k keys ih =>
    simp only [fresh, List.foldr_cons]
    rcases List.mem_cons.mp h with rfl | h
    · omega
    · have := ih h
      simp only [fresh] at this
      omega

@[simp]
theorem fresh_notMem (keys : List Nat) : fresh keys ∉ keys :=
  fun h => Nat.lt_irrefl _ (lt_fresh h)

-- An `UPDATE` of the rows that a condition selects, and the number of these.
def update (p : ρ → Bool) (f : ρ → ρ) (rows : List ρ) : List ρ :=
  rows.map fun row => if p row then f row else row

@[simp]
theorem mem_update {p : ρ → Bool} {f : ρ → ρ} {rows : List ρ} {row : ρ} :
    row ∈ update p f rows ↔ ∃ old ∈ rows, row = if p old then f old else old := by
  simp only [update, List.mem_map]
  exact exists_congr fun _ => and_congr_right fun _ => eq_comm

theorem update_eq_self {p : ρ → Bool} {f : ρ → ρ} {rows : List ρ} (h : ∀ row ∈ rows, ¬p row) :
    update p f rows = rows := by
  induction rows
  case nil => rfl
  case cons row rows ih =>
    have ⟨hrow, hrows⟩ := List.forall_mem_cons.mp h
    simp only [update, List.map_cons, if_neg hrow] at ih ⊢
    rw [ih hrows]

-- An update that keeps a column keeps its values.
theorem map_update {α : Type} {p : ρ → Bool} {f : ρ → ρ} {col : ρ → α} (rows : List ρ)
    (h : ∀ row, col (f row) = col row) : (update p f rows).map col = rows.map col := by
  induction rows
  case nil => rfl
  case cons row rows ih =>
    simp only [update, List.map_cons] at ih ⊢
    rw [ih]
    split <;> simp [h]

theorem nodup_update {α : Type} {p : ρ → Bool} {f : ρ → ρ} {col : ρ → α} {rows : List ρ}
    (h : (rows.map col).Nodup) (hf : ∀ row, col (f row) = col row) :
    ((update p f rows).map col).Nodup :=
  map_update rows hf ▸ h

-- A key selects one row.
theorem filter_key {κ : Type} [DecidableEq κ] {col : ρ → κ} {rows : List ρ} {row : ρ}
    (h : (rows.map col).Nodup) (hrow : row ∈ rows) :
    rows.filter (col · = col row) = [row] := by
  induction rows
  case nil => cases hrow
  case cons r rows ih =>
    simp only [List.map_cons, List.nodup_cons, List.mem_map, not_exists, not_and] at h
    rcases List.mem_cons.mp hrow with rfl | hrow
    · have hrest : rows.filter (col · = col row) = [] := by
        simpa using h.1
      simp [hrest]
    · have hne : col r ≠ col row := fun heq => h.1 row hrow heq.symm
      simp [hne, ih h.2 hrow]

theorem find?_key {κ : Type} [DecidableEq κ] {col : ρ → κ} {rows : List ρ} {row : ρ}
    (h : (rows.map col).Nodup) (hrow : row ∈ rows) :
    rows.find? (col · = col row) = some row := by
  rw [← List.head?_filter, filter_key h hrow, List.head?_cons]

-- A foreign key: each row refers to a key of the other table.
def References (col : ρ → Nat) (rows : List ρ) (keys : List Nat) : Prop :=
  ∀ row ∈ rows, col row ∈ keys

namespace References

variable {col : ρ → Nat} {rows : List ρ} {keys : List Nat}

theorem insert {row : ρ} (h : References col rows keys) (hrow : col row ∈ keys) :
    References col (row :: rows) keys :=
  List.forall_mem_cons.mpr ⟨hrow, h⟩

theorem grow (h : References col rows keys) (key : Nat) : References col rows (key :: keys) :=
  fun row hrow => List.mem_cons_of_mem key (h row hrow)

theorem updated {p : ρ → Bool} {f : ρ → ρ} (h : References col rows keys)
    (hf : ∀ row, col (f row) = col row) : References col (update p f rows) keys := by
  intro row hrow
  obtain ⟨old, hold, rfl⟩ := mem_update.mp hrow
  split
  · exact hf old ▸ h old hold
  · exact h old hold

-- Nothing refers to a new key.
theorem ne_fresh (h : References col rows keys) {row : ρ} (hrow : row ∈ rows) :
    col row ≠ fresh keys :=
  fun heq => fresh_notMem keys (heq ▸ h row hrow)

end References

end Table
