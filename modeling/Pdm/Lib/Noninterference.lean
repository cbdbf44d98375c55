/-
Parties that share a machine and keep out of each other's way.

What a party sees of a state is given by an equivalence: two states that it cannot tell
apart.  An input concerns some of the parties.  When one that does not concern a party
leaves what it sees as it is, and one that does concern it does the same, with the same
answer, in all states that look the same to it, the machine unwinds for the party.  Then
all that it ever sees, and all answers it gets, come from its own inputs in their order:
the inputs of the others may be left out, put in or moved about.

The second part is about a loop that acts on every party in turn.
-/
import Pdm.Lib.Runs
import Pdm.Lib.Visit

namespace Noninterference

universe u v w

/-! ### Runs -/

section Runs

open Runs

variable {σ : Type u} {ι : Type v} {ρ : Type w} (step : σ → ι → σ) (answer : σ → ι → ρ)
  (concerns : ι → Bool)

/-- The answers to the inputs that concern a party. -/
def answers : σ → List ι → List ρ
  | _, [] => []
  | s, i :: is =>
    if concerns i then answer s i :: answers (step s i) is else answers (step s i) is

/-- **Unwinding.**  `sees` is what the party cannot tell apart, `I` an invariant of the
machine under inputs with `P`. -/
structure Unwinds (sees : σ → σ → Prop) (I : σ → Prop) (P : ι → Prop) : Prop where
  equiv : Equivalence sees
  keeps : ∀ s i, I s → P i → I (step s i)
  others : ∀ s i, I s → P i → concerns i = false → sees s (step s i)
  own : ∀ s t i, I s → I t → P i → concerns i = true → sees s t → sees (step s i) (step t i)
  answered : ∀ s t i, I s → I t → P i → concerns i = true → sees s t → answer s i = answer t i

variable {step answer concerns} {sees : σ → σ → Prop} {I : σ → Prop} {P : ι → Prop}

namespace Unwinds

theorem run_keeps (h : Unwinds step answer concerns sees I P) {is : List ι} :
    ∀ {s : σ}, I s → (∀ i ∈ is, P i) → I (run step s is) := by
  induction is with
  | nil => intro s hs _; exact hs
  | cons i is ih =>
      intro s hs hall
      exact ih (h.keeps s i hs (hall i (by simp))) fun j hj => hall j (by simp [hj])

/-- The inputs of the others may be left out. -/
theorem purge (h : Unwinds step answer concerns sees I P) {is : List ι} :
    ∀ {s t : σ}, I s → I t → (∀ i ∈ is, P i) → sees s t →
      sees (run step s is) (run step t (is.filter concerns)) ∧
        answers step answer concerns s is =
          answers step answer concerns t (is.filter concerns) := by
  induction is with
  | nil => intro s t _ _ _ hst; exact ⟨hst, rfl⟩
  | cons i is ih =>
      intro s t hs ht hall hst
      have hi := hall i (by simp)
      have hrest : ∀ j ∈ is, P j := fun j hj => hall j (by simp [hj])
      cases hc : concerns i with
      | true =>
        obtain ⟨hrun, hans⟩ := ih (h.keeps s i hs hi) (h.keeps t i ht hi) hrest
          (h.own s t i hs ht hi hc hst)
        rw [List.filter_cons_of_pos hc]
        refine ⟨hrun, ?_⟩
        unfold answers
        rw [if_pos hc, if_pos hc, hans, h.answered s t i hs ht hi hc hst]
      | false =>
        -- What the party sees of the state has not changed.
        have hseen : sees (step s i) t :=
          h.equiv.trans (h.equiv.symm (h.others s i hs hi hc)) hst
        obtain ⟨hrun, hans⟩ := ih (h.keeps s i hs hi) ht hrest hseen
        have hoff : ¬ concerns i = true := Bool.eq_false_iff.mp hc
        rw [List.filter_cons_of_neg hoff]
        refine ⟨hrun, ?_⟩
        rw [← hans]
        conv_lhs => unfold answers
        rw [if_neg hoff]

/-- **What a party sees comes from what concerns it**, whatever comes in between. -/
theorem same (h : Unwinds step answer concerns sees I P) {is js : List ι} {s : σ} (hs : I s)
    (his : ∀ i ∈ is, P i) (hjs : ∀ j ∈ js, P j)
    (hsame : is.filter concerns = js.filter concerns) :
    sees (run step s is) (run step s js) ∧
      answers step answer concerns s is = answers step answer concerns s js := by
  obtain ⟨hleft, hleft'⟩ := h.purge hs hs his (h.equiv.refl s)
  obtain ⟨hright, hright'⟩ := h.purge hs hs hjs (h.equiv.refl s)
  rw [← hsame] at hright hright'
  exact ⟨h.equiv.trans hleft (h.equiv.symm hright), hleft'.trans hright'.symm⟩

end Unwinds

end Runs

/-! ### Loops -/

section Loops

open Visit (visit visit_cons)

variable {σ : Type u} {α : Type v} {ρ : Type w} {f : σ → α → Visit.Out σ α ρ}
  {R : σ → σ → Prop}

/-- Acting on the same objects in states that look the same. -/
theorem visit_same {l : List α}
    (hf : ∀ s t, ∀ a ∈ l, R s t → (f s a).obj = (f t a).obj ∧ (f s a).ret = (f t a).ret ∧
      R (f s a).state (f t a).state) :
    ∀ {s t : σ}, R s t → (visit f s l).obj = (visit f t l).obj ∧
      (visit f s l).ret = (visit f t l).ret ∧ R (visit f s l).state (visit f t l).state := by
  induction l with
  | nil => intro s t h; exact ⟨rfl, rfl, h⟩
  | cons a as ih =>
      intro s t h
      obtain ⟨hobj, hret, hstate⟩ := hf s t a (by simp) h
      obtain ⟨hobjs, hrets, hlast⟩ := ih (fun s t b hb => hf s t b (by simp [hb])) hstate
      rw [visit_cons, visit_cons, hobj, hret, hobjs, hrets]
      exact ⟨rfl, rfl, hlast⟩

/-- What no call changes for a party, the loop does not. -/
theorem visit_others (hR : Equivalence R) {l : List α} (hf : ∀ s, ∀ a ∈ l, R s (f s a).state)
    (s : σ) : R s (visit f s l).state :=
  Visit.visit_state (P := fun t => R s t) (fun t a ha h => hR.trans h (hf t a ha)) (hR.refl s)

/-- **A loop over all parties does to one what the call on it alone does.** -/
theorem visit_alone (hR : Equivalence R) {as bs : List α} {d : α}
    (hothers : ∀ s, ∀ a ∈ as ++ bs, R s (f s a).state)
    (hown : ∀ s t, R s t → (f s d).obj = (f t d).obj ∧ R (f s d).state (f t d).state) (s : σ) :
    (∃ as' bs', (visit f s (as ++ d :: bs)).obj = as' ++ (f s d).obj :: bs') ∧
      R (f s d).state (visit f s (as ++ d :: bs)).state := by
  have hbefore : R s (visit f s as).state :=
    visit_others hR (fun t a ha => hothers t a (List.mem_append_left bs ha)) s
  obtain ⟨hobj, hstate⟩ := hown _ _ hbefore
  have hafter : R (f (visit f s as).state d).state
      (visit f (f (visit f s as).state d).state bs).state :=
    visit_others hR (fun t b hb => hothers t b (List.mem_append_right as hb)) _
  rw [Visit.visit_append, visit_cons]
  exact ⟨⟨_, _, by rw [hobj]⟩, hR.trans hstate hafter⟩

end Loops

end Noninterference
