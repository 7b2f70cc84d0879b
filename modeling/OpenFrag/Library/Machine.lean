import Mathlib.Data.List.Infix

-- Machines that answer calls, and the runs of a machine from a state. What holds in a run may
-- depend on the steps taken so far, the oldest first.
namespace Machine

variable {ι ρ σ : Type _}

structure Step (ι ρ σ : Type _) where
  before : σ
  call   : ι
  reply  : ρ
  after  : σ

variable (answer : ι → σ → ρ × σ)

def step (s : σ) (call : ι) : Step ι ρ σ where
  before := s
  call   := call
  reply  := (answer call s).1
  after  := (answer call s).2

def trace : σ → List ι → List (Step ι ρ σ)
  | _, []            => []
  | s, call :: calls => step answer s call :: trace (step answer s call).after calls

def final : σ → List ι → σ
  | s, []            => s
  | s, call :: calls => final (step answer s call).after calls

-- Every call is made in a state where it is fine, after the given steps.
def Each (fine : List (Step ι ρ σ) → σ → ι → Prop) : List (Step ι ρ σ) → σ → List ι → Prop
  | _, _, []                => True
  | steps, s, call :: calls =>
    fine steps s call ∧
      Each fine (steps ++ [step answer s call]) (step answer s call).after calls

-- The property holds in every state of the run, the first and the last included.
def Always (P : List (Step ι ρ σ) → σ → Prop) : List (Step ι ρ σ) → σ → List ι → Prop
  | steps, s, []            => P steps s
  | steps, s, call :: calls =>
    P steps s ∧ Always P (steps ++ [step answer s call]) (step answer s call).after calls

variable {answer} {fine fair : List (Step ι ρ σ) → σ → ι → Prop}
variable {P I : List (Step ι ρ σ) → σ → Prop}
variable {steps : List (Step ι ρ σ)} {s : σ} {calls : List ι}

theorem final_append {s : σ} {calls calls' : List ι} :
    final answer s (calls ++ calls') = final answer (final answer s calls) calls' := by
  induction calls generalizing s
  case nil => rfl
  case cons call calls ih => simp [final, ih]

theorem Each.trivial : Each answer (fun _ _ _ => True) steps s calls := by
  induction calls generalizing steps s
  case nil => exact True.intro
  case cons call calls ih => exact ⟨True.intro, ih⟩

theorem Each.of_forall {p : ι → Prop} (h : ∀ call ∈ calls, p call) :
    Each answer (fun _ _ call => p call) steps s calls := by
  induction calls generalizing steps s
  case nil => exact True.intro
  case cons call calls ih => exact ⟨h call (by simp), ih fun c hc => h c (by simp [hc])⟩

-- An invariant that every fine step preserves holds at the end of a run of fine steps.
theorem Each.invariant (hstep : ∀ steps s call, I steps s → fine steps s call →
      I (steps ++ [step answer s call]) (step answer s call).after)
    (hs : I steps s) (h : Each answer fine steps s calls) :
    I (steps ++ trace answer s calls) (final answer s calls) := by
  induction calls generalizing steps s
  case nil => simpa [trace, final] using hs
  case cons call calls ih =>
    have h' := ih (hstep steps s call hs h.1) h.2
    simpa [trace, final] using h'

-- Under an invariant of all steps, two readings of what is fine are the same along every run.
theorem each_iff_each {fine' : List (Step ι ρ σ) → σ → ι → Prop}
    (hstep : ∀ steps s call, I steps s → I (steps ++ [step answer s call]) (step answer s call).after)
    (hiff : ∀ steps s call, I steps s → (fine steps s call ↔ fine' steps s call)) (hs : I steps s) :
    Each answer fine steps s calls ↔ Each answer fine' steps s calls := by
  induction calls generalizing steps s
  case nil => exact Iff.rfl
  case cons call calls ih => exact and_congr (hiff steps s call hs) (ih (hstep steps s call hs))

theorem Always.first (h : Always answer P steps s calls) : P steps s := by
  cases calls
  case nil => exact h
  case cons => exact h.1

-- What is closed under looking at fewer steps holds all along a run when it holds at its end.
theorem always_iff_of_closed {Q : List (Step ι ρ σ) → Prop}
    (hclosed : ∀ steps steps', Q (steps ++ steps') → Q steps) :
    Always answer (fun steps _ => Q steps) steps s calls ↔ Q (steps ++ trace answer s calls) := by
  induction calls generalizing steps s
  case nil => simp [Always, trace]
  case cons call calls ih =>
    simp only [Always, ih, trace, List.append_assoc, List.singleton_append]
    exact ⟨fun h => h.2, fun h => ⟨hclosed _ _ h, h⟩⟩

-- A property that follows from an invariant of the fine steps holds all along their runs.
theorem Each.always (hI : ∀ steps s, I steps s → P steps s)
    (hstep : ∀ steps s call, I steps s → fine steps s call →
      I (steps ++ [step answer s call]) (step answer s call).after)
    (hs : I steps s) (h : Each answer fine steps s calls) : Always answer P steps s calls := by
  induction calls generalizing steps s
  case nil => exact hI steps s hs
  case cons call calls ih => exact ⟨hI steps s hs, ih (hstep steps s call hs h.1) h.2⟩

-- A property holds all along the runs of fine steps, and along no other fair runs, when it follows
-- from an invariant of the fine steps and fails after a step that is not fine.
theorem always_iff_each (hI : ∀ steps s, I steps s → P steps s)
    (hstep : ∀ steps s call, I steps s → fair steps s call → fine steps s call →
      I (steps ++ [step answer s call]) (step answer s call).after)
    (hfine : ∀ steps s call, I steps s → fair steps s call →
      P (steps ++ [step answer s call]) (step answer s call).after → fine steps s call)
    (hs : I steps s) (hfair : Each answer fair steps s calls) :
    Always answer P steps s calls ↔ Each answer fine steps s calls := by
  induction calls generalizing steps s
  case nil => exact iff_of_true (hI steps s hs) True.intro
  case cons call calls ih =>
    obtain ⟨hcall, hfair⟩ := hfair
    constructor
    · intro ⟨_, h⟩
      have hok := hfine steps s call hs hcall h.first
      exact ⟨hok, (ih (hstep steps s call hs hcall hok) hfair).mp h⟩
    · intro ⟨hok, h⟩
      exact ⟨hI steps s hs, (ih (hstep steps s call hs hcall hok) hfair).mpr h⟩

end Machine
