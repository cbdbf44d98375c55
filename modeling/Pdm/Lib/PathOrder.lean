/-
The order of paths in a directory tree.

A path is compared by its lexical normal form: its components without the empty ones
and `.`, and with each `..` taken together with the component before it.  `AtOrBelow`
says that one path leads to a directory or to something in it; it is a preorder, and
its strict part is `Below`.  Symbolic links are not followed.
-/
import Mathlib.Data.List.Basic

namespace PathOrder

/-! ### Normal forms -/

/-- The component `..`. -/
def up : List Char := ['.', '.']

/-- Add a component to a normal form, whose last component is the head of `stack`. -/
def push (absolute : Bool) (stack : List (List Char)) (c : List Char) : List (List Char) :=
  if c = [] ∨ c = ['.'] then stack
  else if c = up then
    match stack with
    | [] => if absolute then [] else [up]
    | top :: rest => if top = up then up :: stack else rest
  else c :: stack

/-- Whether a path starts at the root directory. -/
def isAbsolute (path : String) : Bool := path.toList.head? = some '/'

/-- The components of the normal form of a path. -/
def parts (path : String) : List (List Char) :=
  ((path.toList.splitOn '/').foldl (push (isAbsolute path)) []).reverse

/-! ### The order -/

/-- `path` is `top` or lies below it. -/
def AtOrBelow (top path : String) : Prop :=
  isAbsolute top = isAbsolute path ∧ parts top <+: parts path ∧
    up ∉ (parts path).drop (parts top).length

/-- `path` lies below `top` and is not `top`. -/
def Below (top path : String) : Prop := AtOrBelow top path ∧ parts top ≠ parts path

instance (top path : String) : Decidable (AtOrBelow top path) :=
  inferInstanceAs (Decidable (_ ∧ _ ∧ _))

instance (top path : String) : Decidable (Below top path) :=
  inferInstanceAs (Decidable (_ ∧ _))

theorem AtOrBelow.refl (path : String) : AtOrBelow path path := by
  refine ⟨rfl, List.prefix_refl _, ?_⟩
  simp

theorem AtOrBelow.trans {a b c : String} (hab : AtOrBelow a b) (hbc : AtOrBelow b c) :
    AtOrBelow a c := by
  obtain ⟨habs, ⟨r, hr⟩, hup⟩ := hab
  obtain ⟨hbbs, ⟨t, ht⟩, hup'⟩ := hbc
  refine ⟨habs.trans hbbs, ⟨r ++ t, by rw [← List.append_assoc, hr, ht]⟩, ?_⟩
  rw [← hr, List.drop_left] at hup
  rw [← ht, List.drop_left] at hup'
  rw [← ht, ← hr, List.append_assoc, List.drop_left]
  simp [hup, hup']

example : AtOrBelow "/tmp/usb" "/tmp/usb/./sda//sda1" := by decide
example : ¬ AtOrBelow "/sys/1-1" "/sys/1-10" := by decide
example : ¬ Below "/tmp/usb/" "/tmp/usb/sda/.." := by decide

end PathOrder
