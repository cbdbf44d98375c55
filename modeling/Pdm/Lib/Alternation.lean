/-
Signals that go on and off.

A sequence of signals alternates when each of them changes the level: it never says on
where the level is on, nor off where it is off.  A sequence is judged piece by piece: each
piece from the level that the pieces before it have left.
-/
import Mathlib.Data.List.Basic

namespace Alternation

/-- From the level `on`, every signal of the sequence changes the level. -/
def Alternates : Bool → List Bool → Prop
  | _, [] => True
  | on, b :: bs => b = !on ∧ Alternates b bs

instance Alternates.decidable : (on : Bool) → (bs : List Bool) → Decidable (Alternates on bs)
  | _, [] => inferInstanceAs (Decidable True)
  | on, b :: bs =>
    have := Alternates.decidable b bs
    inferInstanceAs (Decidable (b = !on ∧ Alternates b bs))

/-- The level that a sequence leaves. -/
def level (on : Bool) (bs : List Bool) : Bool := bs.foldl (fun _ b => b) on

@[simp] theorem alternates_nil (on : Bool) : Alternates on [] := trivial

@[simp] theorem level_nil (on : Bool) : level on [] = on := rfl

@[simp] theorem level_cons (on b : Bool) (bs : List Bool) : level on (b :: bs) = level b bs := rfl

theorem alternates_cons {on b : Bool} {bs : List Bool} :
    Alternates on (b :: bs) ↔ b = !on ∧ Alternates b bs := Iff.rfl

/-- Piece by piece. -/
theorem alternates_append (xs ys : List Bool) :
    ∀ on, Alternates on (xs ++ ys) ↔ Alternates on xs ∧ Alternates (level on xs) ys := by
  induction xs with
  | nil => intro on; simp
  | cons b bs ih =>
      intro on
      rw [List.cons_append, alternates_cons, alternates_cons, ih, level_cons, and_assoc]

end Alternation
