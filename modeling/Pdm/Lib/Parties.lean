/-
A list of parties of which one moves.

A party is known by its place in the list.  A move puts one party into another phase and
leaves the others where they are, so whatever is counted over the list changes by what that
party counted for before and what it counts for now.
-/
import Mathlib.Algebra.BigOperators.Group.List.Basic
import Mathlib.Algebra.GroupWithZero.Nat
import Mathlib.Data.List.Perm.Basic

namespace Parties

universe u v

variable {α : Type u} {β : Type v} {l : List α} {i : Nat} {a : α}

/-- The parties before and behind the one that moves. -/
theorem split (h : l[i]? = some a) :
    ∃ before after, l = before ++ a :: after ∧ ∀ b, l.set i b = before ++ b :: after := by
  induction l generalizing i with
  | nil => simp at h
  | cons x l ih =>
      cases i with
      | zero =>
        obtain rfl : x = a := by simpa using h
        exact ⟨[], l, rfl, fun _ => rfl⟩
      | succ i =>
        obtain ⟨before, after, hl, hset⟩ := ih (by simpa using h)
        exact ⟨x :: before, after, by rw [hl]; rfl, fun b => by rw [List.set_cons_succ, hset]; rfl⟩

/-- What the parties weigh together. -/
theorem sum_set (h : l[i]? = some a) (w : α → Nat) (b : α) :
    ((l.set i b).map w).sum + w a = (l.map w).sum + w b := by
  obtain ⟨before, after, rfl, hset⟩ := split h
  rw [hset]
  simp only [List.map_append, List.map_cons, List.sum_append, List.sum_cons]
  omega

/-- How many parties are in one phase. -/
theorem count_set [DecidableEq α] (h : l[i]? = some a) (b c : α) :
    (l.set i b).count c + [a].count c = l.count c + [b].count c := by
  obtain ⟨before, after, rfl, hset⟩ := split h
  rw [hset]
  simp only [List.count_append, List.count_cons, List.count_nil]
  omega

/-- What the parties hold together. -/
theorem flatMap_set (h : l[i]? = some a) (f : α → List β) (b : α) :
    ((l.set i b).flatMap f ++ f a).Perm (l.flatMap f ++ f b) := by
  obtain ⟨before, after, rfl, hset⟩ := split h
  rw [hset]
  simp only [List.flatMap_append, List.flatMap_cons]
  rw [List.append_assoc, List.append_assoc, List.append_assoc, List.append_assoc]
  refine List.Perm.append_left _ ?_
  have hfront : (f b ++ (after.flatMap f ++ f a)).Perm (f a ++ after.flatMap f ++ f b) :=
    List.perm_append_comm.trans (List.perm_append_comm.append_right _)
  rw [List.append_assoc] at hfront
  exact hfront

/-- A party in a phase that the move does not lead to was in it before. -/
theorem mem_of_mem_set {b c : α} (hne : c ≠ b) (h : c ∈ l.set i b) : c ∈ l :=
  (List.mem_or_eq_of_mem_set h).resolve_right hne

/-- A party that is not in the phase that is left is where it was. -/
theorem getElem?_set_of_ne {b c : α} {j : Nat} (h : l[i]? = some a) (hj : l[j]? = some c)
    (hne : c ≠ a) : (l.set i b)[j]? = some c := by
  have hij : i ≠ j := by
    intro heq
    rw [heq, hj] at h
    exact hne (Option.some.inj h)
  rw [List.getElem?_set_ne hij, hj]

end Parties
