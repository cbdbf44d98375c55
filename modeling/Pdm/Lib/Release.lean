/-
Giving back what a set holds.

A step tries to take some elements out of a finite set and answers whether it did.  It
is described by what is known before it: which elements it counts on finding in the set
(`tries`), whether it can do its part at all (`willing`), and which elements it takes
out (`frees`); a step that is willing takes out exactly what it counts on.  Such steps
compose, so a whole loop of them is one step, and its answer can be compared with what
the set is left with.
-/
import Mathlib.Data.Finset.Basic
import Pdm.Lib.Visit

namespace Release

universe u v w x

variable {α : Type u}

/-- A step from `K` to `K'` whose answer is `ok`. -/
structure Step (K K' : Finset α) (ok willing : Prop) (tries : List α) (frees : α → Prop) :
    Prop where
  left : ∀ m, m ∈ K' ↔ m ∈ K ∧ ¬ frees m
  answer : ok ↔ willing ∧ (∀ m ∈ tries, m ∈ K) ∧ tries.Nodup
  exact : willing → ∀ m, frees m ↔ m ∈ tries

namespace Step

variable {K K₁ K₂ : Finset α} {ok₁ ok₂ w₁ w₂ : Prop} {t₁ t₂ : List α} {f₁ f₂ : α → Prop}

/-- A step that takes nothing out and whose answer is settled beforehand. -/
theorem idle (K : Finset α) (ok : Prop) : Step K K ok ok [] (fun _ => False) :=
  ⟨by simp, by simp, by simp⟩

/-- A step that takes nothing out and fails, as it cannot do its part. -/
theorem refuse (K : Finset α) {ok willing : Prop} {tries : List α} {frees : α → Prop}
    (hok : ¬ ok) (hw : ¬ willing) (hf : ∀ m, ¬ frees m) : Step K K ok willing tries frees :=
  ⟨fun m => ⟨fun h => ⟨h, hf m⟩, And.left⟩, iff_of_false hok fun h => hw h.1, fun h => absurd h hw⟩

/-- **Two steps in a row are one step.** -/
theorem comp (h₁ : Step K K₁ ok₁ w₁ t₁ f₁) (h₂ : Step K₁ K₂ ok₂ w₂ t₂ f₂) :
    Step K K₂ (ok₁ ∧ ok₂) (w₁ ∧ w₂) (t₁ ++ t₂) (fun m => f₁ m ∨ f₂ m) := by
  refine ⟨fun m => ?_, ?_, ?_⟩
  · rw [h₂.left, h₁.left, and_assoc, not_or]
  · rw [h₁.answer, h₂.answer]
    constructor
    · rintro ⟨⟨hw₁, hm₁, hn₁⟩, hw₂, hm₂, hn₂⟩
      refine ⟨⟨hw₁, hw₂⟩, ?_, ?_⟩
      · intro m hm
        rcases List.mem_append.mp hm with h | h
        · exact hm₁ m h
        · exact ((h₁.left m).mp (hm₂ m h)).1
      · refine List.nodup_append'.mpr ⟨hn₁, hn₂, fun m h h' => ?_⟩
        -- What the first step took out the second one does not find.
        exact ((h₁.left m).mp (hm₂ m h')).2 ((h₁.exact hw₁ m).mpr h)
    · rintro ⟨⟨hw₁, hw₂⟩, hm, hn⟩
      obtain ⟨hn₁, hn₂, hdisj⟩ := List.nodup_append'.mp hn
      refine ⟨⟨hw₁, fun m h => hm m (List.mem_append_left _ h), hn₁⟩, hw₂, fun m h => ?_, hn₂⟩
      refine (h₁.left m).mpr ⟨hm m (List.mem_append_right _ h), fun hf => ?_⟩
      exact hdisj ((h₁.exact hw₁ m).mp hf) h
  · rintro ⟨hw₁, hw₂⟩ m
    rw [h₁.exact hw₁, h₂.exact hw₂, List.mem_append]

/-- A step may be described in other words. -/
theorem congr {ok ok' w w' : Prop} {t : List α} {f f' : α → Prop} (h : Step K K₁ ok w t f)
    (hok : ok' ↔ ok) (hw : w' ↔ w) (hf : ∀ m, f' m ↔ f m) : Step K K₁ ok' w' t f' :=
  ⟨fun m => by rw [h.left, hf], by rw [hok, hw, h.answer],
    fun hw' m => by rw [hf, h.exact (hw.mp hw')]⟩

/-- **A loop of steps is one step.** -/
theorem visit {σ : Type v} {β : Type w} {ρ : Type x} {K : σ → Finset α}
    {f : σ → β → Visit.Out σ β ρ} (good : ρ → Prop) {willing : β → Prop} {tries : β → List α}
    {frees : β → α → Prop}
    (hf : ∀ s b, Step (K s) (K (f s b).state) (good (f s b).ret) (willing b) (tries b) (frees b))
    (l : List β) (s : σ) :
    Step (K s) (K (Visit.visit f s l).state) (∀ r ∈ (Visit.visit f s l).ret, good r)
      (∀ b ∈ l, willing b) (l.flatMap tries) (fun m => ∃ b ∈ l, frees b m) := by
  induction l generalizing s with
  | nil => exact (idle (K s) True).congr (by simp) (by simp) (by simp)
  | cons b bs ih =>
      rw [Visit.visit_cons, List.flatMap_cons]
      exact ((hf s b).comp (ih (f s b).state)).congr (by simp) (by simp) (by simp)

/-! ### The answer and what is left -/

variable {ok willing : Prop} {tries : List α} {frees : α → Prop}

theorem eq_empty_iff (h : Step K K₁ ok willing tries frees) :
    K₁ = ∅ ↔ ∀ m ∈ K, frees m := by
  rw [Finset.eq_empty_iff_forall_notMem]
  refine forall_congr' fun m => ?_
  rw [h.left, not_and, not_not]

/-- **When the answer is that everything was given back.**  Either the step is willing
and what it counts on is all there is, each element once; or it fails its part, or counts
on too much, and something is left. -/
theorem truthful_iff (h : Step K K₁ ok willing tries frees) :
    (ok ↔ K₁ = ∅) ↔
      (willing ∧ tries.Nodup ∧ ∀ m, m ∈ tries ↔ m ∈ K) ∨
        (¬ (willing ∧ tries.Nodup ∧ ∀ m ∈ tries, m ∈ K) ∧ ∃ m ∈ K, ¬ frees m) := by
  have hanswer : ok ↔ willing ∧ tries.Nodup ∧ ∀ m ∈ tries, m ∈ K :=
    h.answer.trans (and_congr_right fun _ => and_comm)
  rw [h.eq_empty_iff]
  by_cases hok : ok
  · obtain ⟨hw, hn, hm⟩ := hanswer.mp hok
    constructor
    · intro hiff
      refine Or.inl ⟨hw, hn, fun m => ⟨hm m, fun hK => (h.exact hw m).mp (hiff.mp hok m hK)⟩⟩
    · rintro (⟨-, -, hall⟩ | ⟨hnot, -⟩)
      · exact iff_of_true hok fun m hK => (h.exact hw m).mpr ((hall m).mpr hK)
      · exact absurd ⟨hw, hn, hm⟩ hnot
  · have hnot : ¬ (willing ∧ tries.Nodup ∧ ∀ m ∈ tries, m ∈ K) := fun hc => hok (hanswer.mpr hc)
    constructor
    · intro hiff
      refine Or.inr ⟨hnot, ?_⟩
      by_contra hleft
      push Not at hleft
      exact hok (hiff.mpr hleft)
    · rintro (⟨hw, hn, hall⟩ | ⟨-, m, hK, hkept⟩)
      · exact absurd ⟨hw, hn, fun m hm => (hall m).mp hm⟩ hnot
      · exact iff_of_false hok fun hall => hkept (hall m hK)

end Step

end Release
