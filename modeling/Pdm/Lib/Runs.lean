/-
Runs of a total step function.

A run starts in some state and takes an input at each step.  `StepsAll P` says that
`P`, a relation between a state and the input taken in it, holds at every step of a
run.  The rules below are the two ways such a statement is used: as the condition
under which an invariant is kept, and as the conclusion an invariant leads to.
-/
import Mathlib.Data.List.Basic

namespace Runs

universe u v

variable {σ : Type u} {ι : Type v} (step : σ → ι → σ)

/-- The state a run ends in. -/
def run (s : σ) (is : List ι) : σ := is.foldl step s

/-- `P` holds of every input and the state it is taken in. -/
def StepsAll (P : σ → ι → Prop) : σ → List ι → Prop
  | _, [] => True
  | s, i :: is => P s i ∧ StepsAll P (step s i) is

/-- A condition that can be evaluated at a step can be evaluated along a run. -/
instance StepsAll.decidable (P : σ → ι → Prop) [∀ s i, Decidable (P s i)] :
    (s : σ) → (is : List ι) → Decidable (StepsAll step P s is)
  | _, [] => inferInstanceAs (Decidable True)
  | s, i :: is =>
    have := StepsAll.decidable P (step s i) is
    inferInstanceAs (Decidable (P s i ∧ StepsAll step P (step s i) is))

variable {step} {P Q : σ → ι → Prop} {I : σ → Prop}

@[simp] theorem run_nil (s : σ) : run step s [] = s := rfl

@[simp] theorem run_cons (s : σ) (i : ι) (is : List ι) :
    run step s (i :: is) = run step (step s i) is := rfl

/-- Two conditions on the steps of a run are one. -/
theorem stepsAll_and : ∀ {is : List ι} {s : σ},
    StepsAll step (fun s i => P s i ∧ Q s i) s is ↔ StepsAll step P s is ∧ StepsAll step Q s is := by
  intro is
  induction is with
  | nil => intro s; exact iff_of_true trivial ⟨trivial, trivial⟩
  | cons i is ih =>
      intro s
      refine (and_congr_right fun _ => ih).trans ?_
      exact and_and_and_comm

/-- The invariant rule: what every step that meets the condition keeps, a run of such
steps keeps. -/
theorem run_keeps (hstep : ∀ s i, I s → P s i → I (step s i)) :
    ∀ {is : List ι} {s : σ}, I s → StepsAll step P s is → I (run step s is) := by
  intro is
  induction is with
  | nil => intro s hs _; exact hs
  | cons i is ih => intro s hs hall; exact ih (hstep s i hs hall.1) hall.2

/-- What every step keeps, every run keeps. -/
theorem run_invariant (hstep : ∀ s i, I s → I (step s i)) :
    ∀ {is : List ι} {s : σ}, I s → I (run step s is) := by
  intro is
  induction is with
  | nil => intro s hs; exact hs
  | cons i is ih => intro s hs; exact ih (hstep s i hs)

/-- What the invariant and the condition give at one step, they give at every step. -/
theorem stepsAll_of_keeps (hstep : ∀ s i, I s → P s i → I (step s i))
    (hgoal : ∀ s i, I s → P s i → Q s i) :
    ∀ {is : List ι} {s : σ}, I s → StepsAll step P s is → StepsAll step Q s is := by
  intro is
  induction is with
  | nil => intro s _ _; trivial
  | cons i is ih =>
      intro s hs hall
      exact ⟨hgoal s i hs hall.1, ih (hstep s i hs hall.1) hall.2⟩

/-- Two step relations that agree under the invariant agree along every run, when they
keep the invariant. -/
theorem stepsAll_congr (hstep : ∀ s i, I s → P s i → I (step s i))
    (hiff : ∀ s i, I s → (P s i ↔ Q s i)) :
    ∀ {is : List ι} {s : σ}, I s → (StepsAll step P s is ↔ StepsAll step Q s is) := by
  intro is
  induction is with
  | nil => intro s _; exact Iff.rfl
  | cons i is ih =>
      intro s hs
      refine (and_congr_right fun hP => ih (hstep s i hs hP)).trans ?_
      exact and_congr_left' (hiff s i hs)

end Runs
