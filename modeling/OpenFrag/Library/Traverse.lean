import Mathlib.Data.List.Forall2
import OpenFrag.Library.Outcome

-- Loops that make a value of each element of a list, and stop at the first failure.
namespace Except

variable {ε α β σ : Type} {f : α → Except ε β} {as : List α} {bs : List β}

theorem mapM_eq_ok_iff : as.mapM f = .ok bs ↔ List.Forall₂ (fun a b => f a = .ok b) as bs := by
  induction as generalizing bs
  case nil => cases bs <;> simp [pure, Except.pure]
  case cons a as ih =>
    rw [List.mapM_cons]
    simp only [bind_eq_ok_iff, pure_eq_ok_iff, ih, List.forall₂_cons_left_iff]
    constructor
    · rintro ⟨b, hb, bs', hbs', rfl⟩
      exact ⟨b, bs', hb, hbs', rfl⟩
    · rintro ⟨b, bs', hb, hbs', rfl⟩
      exact ⟨b, hb, bs', hbs', rfl⟩

theorem exists_mapM_iff : (∃ bs, as.mapM f = .ok bs) ↔ ∀ a ∈ as, ∃ b, f a = .ok b := by
  simp only [mapM_eq_ok_iff]
  induction as
  case nil => exact iff_of_true ⟨[], .nil⟩ (by simp)
  case cons a as ih =>
    rw [List.forall_mem_cons, ← ih]
    constructor
    · rintro ⟨bs, h⟩
      obtain ⟨b, bs', hb, hbs', -⟩ := List.forall₂_cons_left_iff.mp h
      exact ⟨⟨b, hb⟩, bs', hbs'⟩
    · rintro ⟨⟨b, hb⟩, bs, hbs⟩
      exact ⟨b :: bs, .cons hb hbs⟩

theorem forall_mem_of_forall₂ {R : α → β → Prop} {p : β → Prop} (h : List.Forall₂ R as bs)
    (hp : ∀ a b, R a b → p b) : ∀ b ∈ bs, p b := by
  induction h
  case nil => simp
  case cons hab _ ih => exact List.forall_mem_cons.mpr ⟨hp _ _ hab, ih⟩

theorem map_eq_of_forall₂ {γ : Type} {R : α → β → Prop} {g : α → γ} {g' : β → γ}
    (h : List.Forall₂ R as bs) (hR : ∀ a b, R a b → g' b = g a) : bs.map g' = as.map g := by
  induction h
  case nil => rfl
  case cons hab _ ih => rw [List.map_cons, List.map_cons, ih, hR _ _ hab]

-- The error is that of the first element that fails.
theorem mapM_eq_error_iff {error : ε} : as.mapM f = .error error ↔
    ∃ before a after, as = before ++ a :: after ∧ (∃ bs, before.mapM f = .ok bs) ∧
      f a = .error error := by
  induction as
  case nil => simp [pure, Except.pure]
  case cons a as ih =>
    cases ha : f a
    case error e =>
      have hfirst : (a :: as).mapM f = .error e := by
        rw [List.mapM_cons, ha]
        rfl
      rw [hfirst]
      constructor
      · intro h
        cases h
        exact ⟨[], a, as, rfl, ⟨[], rfl⟩, ha⟩
      · rintro ⟨before, a', after, heq, ⟨bs, hbefore⟩, hfails⟩
        cases before
        case nil =>
          obtain ⟨rfl, rfl⟩ := List.cons.inj heq
          rw [ha] at hfails
          cases hfails
          rfl
        case cons a'' before =>
          obtain ⟨rfl, rfl⟩ := List.cons.inj heq
          rw [List.mapM_cons, ha] at hbefore
          cases hbefore
    case ok b =>
      have hrest {as' : List α} : (a :: as').mapM f = (as'.mapM f).map (b :: ·) := by
        rw [List.mapM_cons, ha]
        rfl
      constructor
      · intro h
        rw [hrest] at h
        cases has : as.mapM f
        case ok bs =>
          rw [has] at h
          cases h
        case error e =>
          rw [has] at h
          cases h
          obtain ⟨before, a', after, heq, ⟨bs, hbefore⟩, hfails⟩ := ih.mp has
          refine ⟨a :: before, a', after, by rw [heq, List.cons_append], ⟨b :: bs, ?_⟩, hfails⟩
          rw [hrest, hbefore]
          rfl
      · rintro ⟨before, a', after, heq, ⟨bs, hbefore⟩, hfails⟩
        cases before
        case nil =>
          obtain ⟨rfl, rfl⟩ := List.cons.inj heq
          rw [ha] at hfails
          cases hfails
        case cons a'' before =>
          obtain ⟨rfl, has⟩ := List.cons.inj heq
          rw [hrest] at hbefore ⊢
          cases hmade : before.mapM f
          case error =>
            rw [hmade] at hbefore
            cases hbefore
          case ok bs =>
            rw [ih.mpr ⟨before, a', after, has, ⟨bs, hmade⟩, hfails⟩]
            rfl

-- Folding what is made of the elements may wait until all are made.
theorem foldlM_map_eq {step : σ → β → σ} {acc : σ} :
    as.foldlM (fun acc a => (f a).map (step acc)) acc = (as.mapM f).map (List.foldl step acc) := by
  induction as generalizing acc
  case nil => rfl
  case cons a as ih =>
    rw [List.foldlM_cons, List.mapM_cons]
    cases f a
    case error => rfl
    case ok b =>
      simp only [Except.map, bind, Except.bind] at ih ⊢
      rw [ih]
      cases as.mapM f
      all_goals rfl

end Except
