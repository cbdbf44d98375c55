/-
The foremost element of a list with a property.

A first-match search is a loop that stops at the first element that passes a test.
What it finds is described here by where things stand in the list: an element with the
property, and nothing ahead of it that has it.  A condition on such a search can then be
stated about the list and the property alone, without the search.
-/
import Mathlib.Data.List.Basic

universe u

variable {α : Type u} {P Q : α → Prop} {l : List α} {a b : α}

/-- Of the elements of the list with the property, `a` stands foremost. -/
def Foremost (P : α → Prop) (l : List α) (a : α) : Prop :=
  ∃ ahead behind, l = ahead ++ a :: behind ∧ P a ∧ ∀ b ∈ ahead, ¬ P b

namespace Foremost

theorem mem (h : Foremost P l a) : a ∈ l := by
  obtain ⟨ahead, behind, rfl, -, -⟩ := h
  simp

theorem holds (h : Foremost P l a) : P a := by
  obtain ⟨-, -, -, ha, -⟩ := h
  exact ha

/-- What a first-match search finds. -/
theorem iff_find? {p : α → Bool} : Foremost (fun x => p x = true) l a ↔ l.find? p = some a := by
  rw [List.find?_eq_some_iff_append]
  constructor
  · intro h
    obtain ⟨ahead, behind, hl, ha, hahead⟩ := h
    exact ⟨ha, ahead, behind, hl, fun b hb => by simpa using hahead b hb⟩
  · intro h
    obtain ⟨ha, ahead, behind, hl, hahead⟩ := h
    exact ⟨ahead, behind, hl, ha, fun b hb => by simpa using hahead b hb⟩

/-- There is at most one. -/
theorem unique (h : Foremost P l a) (h' : Foremost P l b) : a = b := by
  classical
  have hfind : ∀ {c}, Foremost P l c → l.find? (fun x => decide (P x)) = some c := by
    intro c hc
    refine iff_find?.mp ?_
    obtain ⟨ahead, behind, hl, hP, hahead⟩ := hc
    exact ⟨ahead, behind, hl, by simpa using hP, fun x hx => by simpa using hahead x hx⟩
  exact Option.some.inj ((hfind h).symm.trans (hfind h'))

/-- Properties that agree on the list have the same foremost element. -/
theorem congr (hPQ : ∀ b ∈ l, P b ↔ Q b) : Foremost P l a ↔ Foremost Q l a := by
  have hto : ∀ {P Q : α → Prop}, (∀ b ∈ l, P b ↔ Q b) → Foremost P l a → Foremost Q l a := by
    intro P Q hPQ h
    obtain ⟨ahead, behind, rfl, ha, hahead⟩ := h
    exact ⟨ahead, behind, rfl, (hPQ a (by simp)).mp ha,
      fun b hb hQ => hahead b hb ((hPQ b (by simp [hb])).mpr hQ)⟩
  exact ⟨hto hPQ, hto fun b hb => (hPQ b hb).symm⟩

end Foremost
