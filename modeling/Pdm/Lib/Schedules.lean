/-
Runs of several parties.

A step belongs to one party, and a party takes only the steps it is ready for, so a step
function gives `none` for a step that cannot be taken now.  A schedule lists the steps of
all parties in the order in which they happen.  What holds after every schedule is shown
by the two rules below: of the state alone, or of the state and the schedule that led to
it.
-/
import Mathlib.Data.List.Induction

namespace Schedules

universe u v

variable {σ : Type u} {ι : Type v} (step : σ → ι → Option σ)

/-- The state a schedule ends in, if every step of it can be taken. -/
def run : σ → List ι → Option σ
  | s, [] => some s
  | s, i :: is => (step s i).bind fun t => run t is

variable {step}

@[simp] theorem run_nil (s : σ) : run step s [] = some s := rfl

@[simp] theorem run_cons (s : σ) (i : ι) (is : List ι) :
    run step s (i :: is) = (step s i).bind fun t => run step t is := rfl

theorem run_append (s : σ) (is js : List ι) :
    run step s (is ++ js) = (run step s is).bind fun t => run step t js := by
  induction is generalizing s with
  | nil => rfl
  | cons i is ih =>
      cases h : step s i with
      | none => simp [h]
      | some t => simp [h, ih t]

/-- The last step of a schedule. -/
theorem run_concat {s u : σ} {is : List ι} {i : ι} (h : run step s (is ++ [i]) = some u) :
    ∃ t, run step s is = some t ∧ step t i = some u := by
  rw [run_append] at h
  obtain ⟨t, ht, hu⟩ := Option.bind_eq_some_iff.mp h
  exact ⟨t, ht, by simpa using hu⟩

/-- The history rule: what holds of the empty schedule and is kept by one more step holds
of every schedule and the state it ends in. -/
theorem run_history {P : List ι → σ → Prop} {s : σ} (hinit : P [] s)
    (hstep : ∀ is t i u, P is t → step t i = some u → P (is ++ [i]) u) :
    ∀ {is : List ι} {t : σ}, run step s is = some t → P is t := by
  intro is
  induction is using List.reverseRecOn with
  | nil =>
    intro t ht
    rw [← Option.some.inj ht]
    exact hinit
  | append_singleton is i ih =>
    intro u hu
    obtain ⟨t, ht, hi⟩ := run_concat hu
    exact hstep is t i u (ih ht) hi

/-- The invariant rule. -/
theorem run_keeps {I : σ → Prop} {s : σ} (hinit : I s)
    (hstep : ∀ t i u, I t → step t i = some u → I u) {is : List ι} {t : σ}
    (hrun : run step s is = some t) : I t :=
  run_history (P := fun _ => I) hinit (fun _ t i u => hstep t i u) hrun

/-- The measure rule: where the steps of a kind make a measure smaller, a schedule of such steps
is no longer than the measure. -/
theorem run_bounded {I : σ → Prop} {own : ι → Prop} {measure : σ → Nat}
    (hkeep : ∀ s i t, I s → step s i = some t → I t)
    (hless : ∀ s i t, I s → own i → step s i = some t → measure t < measure s) :
    ∀ {is : List ι} {s t : σ}, I s → (∀ i ∈ is, own i) → run step s is = some t →
      is.length + measure t ≤ measure s := by
  intro is
  induction is with
  | nil =>
    intro s t _ _ hrun
    rw [Option.some.inj hrun]
    simp
  | cons i is ih =>
    intro s t hs hown hrun
    obtain ⟨u, hu, ht⟩ := Option.bind_eq_some_iff.mp hrun
    have hfirst := hless s i u hs (hown i (List.mem_cons_self ..)) hu
    have hrest := ih (hkeep s i u hs hu) (fun j hj => hown j (List.mem_cons_of_mem _ hj)) ht
    rw [List.length_cons]
    omega

/-! ### Conditions on the steps -/

/-- `P` holds of every step of the schedule and the state it is taken in. -/
def StepsAll (step : σ → ι → Option σ) (P : σ → ι → Prop) : σ → List ι → Prop
  | _, [] => True
  | s, i :: is => P s i ∧ ∀ t ∈ step s i, StepsAll step P t is

/-- A condition that can be evaluated at a step can be evaluated along a schedule. -/
instance StepsAll.decidable (step : σ → ι → Option σ) (P : σ → ι → Prop) [∀ s i, Decidable (P s i)] :
    (s : σ) → (is : List ι) → Decidable (StepsAll step P s is)
  | _, [] => inferInstanceAs (Decidable True)
  | s, i :: is =>
    have := fun t => StepsAll.decidable step P t is
    inferInstanceAs (Decidable (P s i ∧ ∀ t ∈ step s i, StepsAll step P t is))

theorem stepsAll_concat {P : σ → ι → Prop} {s : σ} {is : List ι} {i : ι} :
    StepsAll step P s (is ++ [i]) ↔ StepsAll step P s is ∧ ∀ t ∈ run step s is, P t i := by
  induction is generalizing s with
  | nil => simp [StepsAll]
  | cons j is ih =>
    simp only [List.cons_append, StepsAll, run_cons, ih, and_assoc]
    refine and_congr_right fun _ => ?_
    cases hstep : step s j with
    | none => simp
    | some u => simp

/-- The history rule for schedules whose steps meet a condition. -/
theorem run_history_of {P : List ι → σ → Prop} {Q : σ → ι → Prop} {s : σ} (hinit : P [] s)
    (hstep : ∀ is t i u, P is t → Q t i → step t i = some u → P (is ++ [i]) u) :
    ∀ {is : List ι} {t : σ}, run step s is = some t → StepsAll step Q s is → P is t := by
  intro is
  induction is using List.reverseRecOn with
  | nil =>
    intro t ht _
    rw [← Option.some.inj ht]
    exact hinit
  | append_singleton is i ih =>
    intro u hu hall
    obtain ⟨t, ht, hi⟩ := run_concat hu
    obtain ⟨hbefore, hlast⟩ := stepsAll_concat.mp hall
    exact hstep is t i u (ih ht hbefore) (hlast t ht) hi

/-- What the invariant and a condition that keeps it give at one step, they give at every step. -/
theorem stepsAll_of_keeps {I : σ → Prop} {P Q : σ → ι → Prop}
    (hstep : ∀ s i t, I s → P s i → step s i = some t → I t) (hgoal : ∀ s i, I s → P s i → Q s i) :
    ∀ {is : List ι} {s : σ}, I s → StepsAll step P s is → StepsAll step Q s is := by
  intro is
  induction is with
  | nil => intro s _ _; trivial
  | cons i is ih =>
      intro s hs hall
      exact ⟨hgoal s i hs hall.1, fun t ht => ih (hstep s i t hs hall.1 ht) (hall.2 t ht)⟩

/-- Two conditions on the steps agree along every schedule when they agree under an invariant
that is kept where the first of them is met. -/
theorem stepsAll_congr {I : σ → Prop} {P Q : σ → ι → Prop}
    (hstep : ∀ s i t, I s → P s i → step s i = some t → I t)
    (hiff : ∀ s i, I s → (P s i ↔ Q s i)) :
    ∀ {is : List ι} {s : σ}, I s → (StepsAll step P s is ↔ StepsAll step Q s is) := by
  intro is
  induction is with
  | nil => intro s _; exact Iff.rfl
  | cons i is ih =>
      intro s hs
      refine (and_congr_right fun hP => ?_).trans (and_congr_left' (hiff s i hs))
      exact forall_congr' fun t => forall_congr' fun ht => ih (hstep s i t hs hP ht)

/-! ### Where a step stands -/

/-- The schedule has the step `i` behind a beginning of which `P` holds. -/
def At (P : List ι → Prop) (i : ι) (is : List ι) : Prop :=
  ∃ before after, is = before ++ i :: after ∧ P before

variable {P : List ι → Prop} {i j : ι} {is : List ι}

theorem not_at_nil : ¬ At P i [] := by
  rintro ⟨before, after, heq, -⟩
  exact absurd heq (by simp)

theorem At.mem (h : At P i is) : i ∈ is := by
  obtain ⟨before, after, rfl, -⟩ := h
  simp

/-- What stands in a longer schedule stood there before, or it is the new step. -/
theorem at_concat : At P i (is ++ [j]) ↔ At P i is ∨ j = i ∧ P is := by
  constructor
  · rintro ⟨before, after, heq, hbefore⟩
    rcases List.eq_nil_or_concat after with rfl | ⟨rest, last, rfl⟩
    · obtain ⟨rfl, hlast⟩ := List.append_inj' heq rfl
      exact Or.inr ⟨by simpa using hlast, hbefore⟩
    · rw [List.concat_eq_append, ← List.cons_append, ← List.append_assoc] at heq
      obtain ⟨rfl, -⟩ := List.append_inj' heq rfl
      exact Or.inl ⟨before, rest, rfl, hbefore⟩
  · rintro (⟨before, after, rfl, hbefore⟩ | ⟨rfl, his⟩)
    · exact ⟨before, after ++ [j], by simp, hbefore⟩
    · exact ⟨is, [], rfl, his⟩

/-- `Q` holds of every step of the schedule and the beginning before it. -/
def Always (Q : List ι → ι → Prop) (is : List ι) : Prop :=
  ∀ before i after, is = before ++ i :: after → Q before i

variable {Q : List ι → ι → Prop}

@[simp] theorem always_nil : Always Q [] := by
  intro before i after heq
  exact absurd heq (by simp)

theorem always_iff_not_at : Always Q is ↔ ∀ i, ¬ At (fun before => ¬ Q before i) i is := by
  constructor
  · rintro h i ⟨before, after, heq, hnot⟩
    exact hnot (h before i after heq)
  · intro h before i after heq
    by_contra hnot
    exact h i ⟨before, after, heq, hnot⟩

/-- One more step has to meet the condition after all that came before it. -/
theorem always_concat : Always Q (is ++ [j]) ↔ Always Q is ∧ Q is j := by
  rw [always_iff_not_at, always_iff_not_at]
  simp only [at_concat, not_or, not_and, not_not, forall_and]
  exact and_congr_right fun _ => ⟨fun h => h j rfl, fun h i hi => hi ▸ h⟩

end Schedules
