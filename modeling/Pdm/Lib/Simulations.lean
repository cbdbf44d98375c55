/-
One machine does what another one does.

Two machines take steps as in `Schedules`.  The first simulates into the second where every
step of it, from states that belong together, is matched by steps of the second, by none or
by several, that end in states that belong together again.  What then holds after every
schedule of the second machine holds, as far as the relation carries it over, after every
schedule of the first.
-/
import Pdm.Lib.Schedules

namespace Simulations

open Schedules

universe u v w x

variable {σ : Type u} {ι : Type v} {τ : Type w} {κ : Type x}
variable {step : σ → ι → Option σ} {other : τ → κ → Option τ}
variable {R : σ → τ → Prop} {Q : κ → Prop}

/-- Every step of the first machine is matched by a schedule of the second, all of whose steps
are among those that `Q` admits. -/
def Simulates (step : σ → ι → Option σ) (other : τ → κ → Option τ) (R : σ → τ → Prop)
    (Q : κ → Prop) : Prop :=
  ∀ s i s' t, R s t → step s i = some s' →
    ∃ ks t', run other t ks = some t' ∧ R s' t' ∧ ∀ k ∈ ks, Q k

/-- **Every run of the first machine is matched by a run of the second.** -/
theorem Simulates.run (h : Simulates step other R Q) {s : σ} {t : τ} (hR : R s t) :
    ∀ {is : List ι} {s' : σ}, Schedules.run step s is = some s' →
      ∃ ks t', Schedules.run other t ks = some t' ∧ R s' t' ∧ ∀ k ∈ ks, Q k := by
  refine run_history (P := fun _ s' => ∃ ks t', Schedules.run other t ks = some t' ∧ R s' t' ∧
    ∀ k ∈ ks, Q k) ⟨[], t, rfl, hR, by simp⟩ ?_
  intro is s₁ i s₂ hbefore hstep
  obtain ⟨ks, t₁, hks, hR₁, hQ⟩ := hbefore
  obtain ⟨more, t₂, hmore, hR₂, hQ'⟩ := h s₁ i s₂ t₁ hR₁ hstep
  refine ⟨ks ++ more, t₂, ?_, hR₂, ?_⟩
  · rw [run_append, hks]
    exact hmore
  · intro k hk
    rcases List.mem_append.mp hk with hk | hk
    · exact hQ k hk
    · exact hQ' k hk

end Simulations
