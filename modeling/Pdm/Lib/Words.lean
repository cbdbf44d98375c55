/-
Arithmetic of unsigned words.

A computation on words is written once, over an `Arith`, and run in two ways.  `wrapping` does
what the machine does; its subtraction and its product are taken modulo the word.  `checked`
stops where the machine's result would not be the integers' own.  A run that `checked` does not
stop is the run of `wrapping`: `Simulates` says so of two computations, and goes along with
each operation and with sequencing.
-/
import Mathlib.Algebra.Group.Nat.Defs
import Mathlib.Tactic.Common

namespace Words

universe u

/-- The operations of a computation on words. -/
structure Arith (m : Type → Type u) where
  mul : Nat → Nat → m Nat
  sub : Nat → Nat → m Nat
  div : Nat → Nat → m Nat

/-- Words of `w` bits, as the machine computes with them. -/
def wrapping (w : Nat) : Arith Id where
  mul a b := a * b % 2 ^ w
  sub a b := (a + (2 ^ w - b)) % 2 ^ w
  div a b := a / b

/-- The same, stopped by a product that does not fit, a difference below zero and a division
by zero. -/
def checked (w : Nat) : Arith Option where
  mul a b := if a * b < 2 ^ w then some (a * b) else none
  sub a b := if b ≤ a then some (a - b) else none
  div a b := if b = 0 then none else some (a / b)

variable {w : Nat} {a b c : Nat} {α β : Type}

/-! ### Where nothing stops -/

theorem checked_mul (h : a * b < 2 ^ w) : (checked w).mul a b = some (a * b) := if_pos h

theorem checked_sub (h : b ≤ a) : (checked w).sub a b = some (a - b) := if_pos h

theorem checked_div (h : b ≠ 0) : (checked w).div a b = some (a / b) := if_neg h

theorem checked_mul_lt (h : (checked w).mul a b = some c) : c < 2 ^ w := by
  by_cases hfits : a * b < 2 ^ w
  · rw [checked_mul hfits] at h
    rw [← Option.some.inj h]
    exact hfits
  · have hstop : (checked w).mul a b = none := if_neg hfits
    rw [hstop] at h
    cases h

theorem checked_div_eq (h : (checked w).div a b = some c) : a / b = c := by
  by_cases hzero : b = 0
  · have hstop : (checked w).div a b = none := if_pos hzero
    rw [hstop] at h
    cases h
  · rw [checked_div hzero] at h
    exact Option.some.inj h

/-! ### The machine does the same -/

/-- What the first computation gives, where it is not stopped, the second gives. -/
def Simulates (x : Option α) (y : Id α) : Prop := ∀ r, x = some r → y = r

theorem Simulates.pure (r : α) : Simulates (some r) r := by
  intro s hs
  exact Option.some.inj hs

theorem Simulates.bind {x : Option α} {y : Id α} {f : α → Option β} {g : α → Id β}
    (hxy : Simulates x y) (hfg : ∀ r, x = some r → Simulates (f r) (g r)) :
    Simulates (x >>= f) (y >>= g) := by
  intro s hs
  obtain ⟨r, hr, hf⟩ := Option.bind_eq_some_iff.mp hs
  have hy : y = r := hxy r hr
  show g y = s
  rw [hy]
  exact hfg r hr s hf

theorem Simulates.ite {p : Prop} [Decidable p] {x x' : Option α} {y y' : Id α}
    (h : Simulates x y) (h' : Simulates x' y') :
    Simulates (if p then x else x') (if p then y else y') := by
  by_cases hp : p
  · rw [if_pos hp, if_pos hp]
    exact h
  · rw [if_neg hp, if_neg hp]
    exact h'

theorem Simulates.mul (a b : Nat) : Simulates ((checked w).mul a b) ((wrapping w).mul a b) := by
  intro r hr
  by_cases hfits : a * b < 2 ^ w
  · rw [checked_mul hfits] at hr
    have hr' : a * b = r := Option.some.inj hr
    show a * b % 2 ^ w = r
    rw [Nat.mod_eq_of_lt hfits, hr']
  · have hstop : (checked w).mul a b = none := if_neg hfits
    rw [hstop] at hr
    cases hr

/-- The word that is subtracted from fits. -/
theorem Simulates.sub (ha : a < 2 ^ w) :
    Simulates ((checked w).sub a b) ((wrapping w).sub a b) := by
  intro r hr
  by_cases hle : b ≤ a
  · rw [checked_sub hle] at hr
    have hr' : a - b = r := Option.some.inj hr
    show (a + (2 ^ w - b)) % 2 ^ w = r
    have hsum : a + (2 ^ w - b) = a - b + 2 ^ w := by omega
    rw [hsum, Nat.add_mod_right, Nat.mod_eq_of_lt (by omega), hr']
  · have hstop : (checked w).sub a b = none := if_neg hle
    rw [hstop] at hr
    cases hr

theorem Simulates.div (a b : Nat) : Simulates ((checked w).div a b) ((wrapping w).div a b) := by
  intro r hr
  exact checked_div_eq hr

end Words
