/-
Taking elements off both ends of a list.

`strip p` drops the longest run of `p` in front and the longest run behind.  What is left has no
such element at either end, and that together with what was taken off determines it
(`strip_eq`), so stripping again changes nothing.
-/
import Mathlib.Data.List.Basic
import Mathlib.Data.List.TakeWhile

namespace Trims

universe u

variable {α : Type u} {p : α → Bool}

/-- The list without the runs of `p` at its ends, the one behind taken off first. -/
def strip (p : α → Bool) (l : List α) : List α :=
  ((l.reverse.dropWhile p).reverse).dropWhile p

/-- No element of `p` stands at either end. -/
structure Trimmed (p : α → Bool) (l : List α) : Prop where
  front : ∀ a ∈ l.head?, p a = false
  back : ∀ a ∈ l.getLast?, p a = false

/-- `inner` is `l` without a run of `p` in front and one behind, neither of which goes on. -/
structure Strips (p : α → Bool) (l inner : List α) : Prop where
  trimmed : Trimmed p inner
  around : ∃ before after, l = before ++ inner ++ after ∧
    (∀ a ∈ before, p a = true) ∧ ∀ a ∈ after, p a = true

theorem head?_dropWhile (l : List α) : ∀ a ∈ (l.dropWhile p).head?, p a = false := by
  intro a ha
  have hnot := List.head?_dropWhile_not p l
  rw [Option.mem_def.mp ha] at hnot
  simpa using hnot

theorem getLast?_dropWhile {l : List α} (h : ∀ a ∈ l.getLast?, p a = false) :
    ∀ a ∈ (l.dropWhile p).getLast?, p a = false := by
  intro a ha
  refine h a ?_
  obtain ⟨before, hbefore⟩ := List.dropWhile_suffix (l := l) p
  rw [← hbefore, List.getLast?_append, Option.mem_def.mp ha]
  rfl

/-- **What stripping leaves.** -/
theorem strip_strips (p : α → Bool) (l : List α) : Strips p l (strip p l) := by
  have hback := head?_dropWhile (p := p) l.reverse
  rw [← List.getLast?_reverse] at hback
  refine ⟨⟨head?_dropWhile _, getLast?_dropWhile hback⟩, ?_⟩
  refine ⟨(l.reverse.dropWhile p).reverse.takeWhile p, (l.reverse.takeWhile p).reverse, ?_,
    fun a => List.mem_takeWhile_imp, fun a ha => List.mem_takeWhile_imp (List.mem_reverse.mp ha)⟩
  unfold strip
  rw [List.takeWhile_append_dropWhile, ← List.reverse_append, List.takeWhile_append_dropWhile,
    List.reverse_reverse]

theorem dropWhile_of_front {l : List α} (h : ∀ a ∈ l.head?, p a = false) :
    l.dropWhile p = l := by
  cases l with
  | nil => rfl
  | cons a l =>
    have ha := h a rfl
    exact List.dropWhile_cons_of_neg (by simp [ha])

/-- Behind a run of `p` the rest is what it is on its own. -/
theorem dropWhile_append_run {before : List α} (h : ∀ a ∈ before, p a = true) (l : List α) :
    (before ++ l).dropWhile p = l.dropWhile p := by
  induction before with
  | nil => rfl
  | cons a before ih =>
    rw [List.cons_append, List.dropWhile_cons_of_pos (h a List.mem_cons_self)]
    exact ih fun b hb => h b (List.mem_cons_of_mem a hb)

/-- **Only the stripped list is left by taking the runs off.** -/
theorem strip_eq {l inner : List α} (h : Strips p l inner) : strip p l = inner := by
  obtain ⟨⟨hfront, hback⟩, before, after, rfl, hbefore, hafter⟩ := h
  have hrun : ∀ a ∈ after.reverse, p a = true := fun a ha => hafter a (List.mem_reverse.mp ha)
  unfold strip
  rw [List.reverse_append, dropWhile_append_run hrun]
  by_cases hinner : inner = []
  · subst hinner
    rw [List.append_nil]
    have hall : ∀ a ∈ before.reverse, p a = true := fun a ha => hbefore a (List.mem_reverse.mp ha)
    have hnil : before.reverse.dropWhile p = [] := by
      simpa using dropWhile_append_run hall []
    rw [hnil]
    rfl
  · have hlast : ∀ a ∈ (before ++ inner).reverse.head?, p a = false := by
      intro a ha
      rw [List.head?_reverse, List.getLast?_append_of_ne_nil before hinner] at ha
      exact hback a ha
    rw [dropWhile_of_front hlast, List.reverse_reverse, dropWhile_append_run hbefore,
      dropWhile_of_front hfront]

theorem strip_of_trimmed {l : List α} (h : Trimmed p l) : strip p l = l := by
  refine strip_eq ⟨h, [], [], ?_, fun a ha => absurd ha List.not_mem_nil,
    fun a ha => absurd ha List.not_mem_nil⟩
  simp

theorem strip_strip (p : α → Bool) (l : List α) : strip p (strip p l) = strip p l :=
  strip_of_trimmed (strip_strips p l).trimmed

end Trims
