/-
Parties that live in one shared place and each get a home in it.

A party has a key, a home and the spots it uses.  Its home is the shared place until it
is given one of its own, and a home of its own is fit to be given up and reaches no spot
of another party.  When this is so for all parties (`Separate`), a party that leaves may
give its home up, and whoever stays is not reached.
-/
import Mathlib.Data.List.Basic

namespace Territory

universe u v

/-- A party: what it is known by, where it lives and the spots it uses. -/
structure Party (κ : Type u) (π : Type v) where
  key : κ
  home : π
  spots : List π

variable {κ : Type u} {π : Type v} (reaches : π → π → Prop) (fit : π → Prop) (shared : π)

/-- The home reaches no spot of a party that has not the key. -/
def Spares (ps : List (Party κ π)) (key : κ) (home : π) : Prop :=
  ∀ b ∈ ps, b.key ≠ key → ∀ m ∈ b.spots, ¬ reaches home m

/-- The spot is in no home of a party that has not the key; the shared place is no home. -/
def Avoids (ps : List (Party κ π)) (key : κ) (m : π) : Prop :=
  ∀ a ∈ ps, a.key ≠ key → a.home ≠ shared → ¬ reaches a.home m

/-- A home of one's own. -/
structure Own (ps : List (Party κ π)) (key : κ) (home : π) : Prop where
  fit : fit home
  spares : Spares reaches ps key home

/-- Every party lives in the shared place or in a home of its own. -/
def Separate (ps : List (Party κ π)) : Prop :=
  ∀ a ∈ ps, a.home = shared ∨ Own reaches fit ps a.key a.home

section Evaluation

variable [DecidableEq κ] [DecidableEq π] [∀ a m, Decidable (reaches a m)] [∀ a, Decidable (fit a)]

instance (ps : List (Party κ π)) (key : κ) (home : π) : Decidable (Spares reaches ps key home) :=
  inferInstanceAs (Decidable (∀ b ∈ ps, b.key ≠ key → ∀ m ∈ b.spots, ¬ reaches home m))

instance (ps : List (Party κ π)) (key : κ) (m : π) : Decidable (Avoids reaches shared ps key m) :=
  inferInstanceAs (Decidable (∀ a ∈ ps, a.key ≠ key → a.home ≠ shared → ¬ reaches a.home m))

instance (ps : List (Party κ π)) (key : κ) (home : π) : Decidable (Own reaches fit ps key home) :=
  decidable_of_iff (fit home ∧ Spares reaches ps key home)
    ⟨fun h => ⟨h.1, h.2⟩, fun h => ⟨h.fit, h.spares⟩⟩

end Evaluation

variable {reaches fit shared} {ps ps' : List (Party κ π)}

/-- `a` has come out of a party of `ps`, with no more spots than that one has. -/
def ComesFrom (ps : List (Party κ π)) (a : Party κ π) : Prop :=
  ∃ b ∈ ps, a.key = b.key ∧ a.home = b.home ∧ a.spots ⊆ b.spots

theorem ComesFrom.refl {a : Party κ π} (h : a ∈ ps) : ComesFrom ps a :=
  ⟨a, h, rfl, rfl, List.Subset.refl _⟩

theorem Spares.of_comesFrom {key : κ} {home : π} (h : Spares reaches ps key home)
    (hfrom : ∀ a ∈ ps', ComesFrom ps a) : Spares reaches ps' key home := by
  intro a ha hne m hm
  obtain ⟨b, hb, hkey, -, hspots⟩ := hfrom a ha
  exact h b hb (hkey ▸ hne) m (hspots hm)

namespace Separate

variable (h : Separate reaches fit shared ps)
include h

/-- A spot in use is in no home of another party. -/
theorem avoids {b : Party κ π} (hb : b ∈ ps) {m : π} (hm : m ∈ b.spots) :
    Avoids reaches shared ps b.key m :=
  fun a ha hne hown => ((h a ha).resolve_left hown).spares b hb (Ne.symm hne) m hm

/-- Parties may leave, and use fewer spots. -/
theorem of_comesFrom (hfrom : ∀ a ∈ ps', ComesFrom ps a) : Separate reaches fit shared ps' := by
  intro a ha
  obtain ⟨b, hb, hkey, hhome, -⟩ := hfrom a ha
  rw [hkey, hhome]
  exact (h b hb).imp_right fun hown => ⟨hown.fit, hown.spares.of_comesFrom hfrom⟩

/-- **A party comes, or is given a home or spots.**  The others stay; its home spares
them, and its spots avoid their homes. -/
theorem settle {e : Party κ π} (hps : ∀ a ∈ ps', a = e ∨ (a.key ≠ e.key ∧ a ∈ ps))
    (hhome : e.home = shared ∨ Own reaches fit ps e.key e.home)
    (hspots : ∀ m ∈ e.spots, Avoids reaches shared ps e.key m) :
    Separate reaches fit shared ps' := by
  intro a ha
  rcases hps a ha with rfl | ⟨hne, ha⟩
  · refine hhome.imp_right fun hown => ⟨hown.fit, fun b hb hbne m hm => ?_⟩
    rcases hps b hb with rfl | ⟨-, hb⟩
    · exact absurd rfl hbne
    · exact hown.spares b hb hbne m hm
  · by_cases hshared : a.home = shared
    · exact Or.inl hshared
    · have hown := (h a ha).resolve_left hshared
      refine Or.inr ⟨hown.fit, fun b hb hbne m hm => ?_⟩
      rcases hps b hb with rfl | ⟨-, hb⟩
      · exact hspots m hm a ha hne hshared
      · exact hown.spares b hb hbne m hm

/-- **A party leaves.**  Its own home is fit to be given up and reaches no spot of those
who stay. -/
theorem leave {a : Party κ π} (ha : a ∈ ps) (hown : a.home ≠ shared)
    (hps : ∀ b ∈ ps', b.key ≠ a.key ∧ b ∈ ps) :
    fit a.home ∧ ∀ b ∈ ps', ∀ m ∈ b.spots, ¬ reaches a.home m := by
  obtain ⟨hfit, hspares⟩ := (h a ha).resolve_left hown
  exact ⟨hfit, fun b hb => hspares b (hps b hb).2 (hps b hb).1⟩

end Separate

end Territory
