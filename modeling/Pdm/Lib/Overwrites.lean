/-
A flag that is overwritten again and again, and an answer it is copied into.

A loop that keeps the outcome of an operation in one variable, and writes that variable into
its answer now and then, is a list of `Write`s.  The answer is the last outcome before the last
copy; `heard` is what came before it.
-/
import Mathlib.Data.List.Basic

namespace Overwrites

universe u

variable {α : Type u}

/-- What a loop does to the flag and the answer. -/
inductive Write (α : Type u) where
  | set (a : α)
  | copy
  deriving DecidableEq, Repr

structure Cell (α : Type u) where
  flag : α
  answer : Option α := none
  deriving DecidableEq, Repr

namespace Cell

def write (c : Cell α) : Write α → Cell α
  | .set a => { c with flag := a }
  | .copy => { c with answer := some c.flag }

def run (c : Cell α) (writes : List (Write α)) : Cell α := writes.foldl write c

@[simp] theorem run_nil (c : Cell α) : c.run [] = c := rfl

@[simp] theorem run_cons (c : Cell α) (w : Write α) (writes : List (Write α)) :
    c.run (w :: writes) = (c.write w).run writes := rfl

theorem run_append (c : Cell α) (writes writes' : List (Write α)) :
    c.run (writes ++ writes') = (c.run writes).run writes' := by
  unfold run
  rw [List.foldl_append]

/-- A loop on a state that has such a cell in it, of which each turn is a run, is a run. -/
theorem run_flatMap {σ β : Type u} (cell : σ → Cell α) (turn : σ → β → σ)
    (writes : β → List (Write α)) (h : ∀ s b, cell (turn s b) = (cell s).run (writes b)) (s : σ)
    (l : List β) : cell (l.foldl turn s) = (cell s).run (l.flatMap writes) := by
  induction l generalizing s with
  | nil => rfl
  | cons b l ih => rw [List.foldl_cons, List.flatMap_cons, run_append, ih, h]

end Cell

/-- The outcomes, in their order. -/
def outcomes : List (Write α) → List α
  | [] => []
  | .set a :: writes => a :: outcomes writes
  | .copy :: writes => outcomes writes

theorem outcomes_append (writes writes' : List (Write α)) :
    outcomes (writes ++ writes') = outcomes writes ++ outcomes writes' := by
  induction writes with
  | nil => rfl
  | cons w writes ih => cases w <;> simp [outcomes, ih]

theorem outcomes_flatMap {β : Type u} (f : β → List (Write α)) (l : List β) :
    outcomes (l.flatMap f) = l.flatMap fun b => outcomes (f b) := by
  induction l with
  | nil => rfl
  | cons b l ih => rw [List.flatMap_cons, List.flatMap_cons, outcomes_append, ih]

/-- The outcomes before the last copy, where there is one. -/
def heard : List (Write α) → Option (List α)
  | [] => none
  | .set a :: writes => (heard writes).map (a :: ·)
  | .copy :: writes => some ((heard writes).getD [])

theorem heard_isSome_iff {writes : List (Write α)} :
    (heard writes).isSome ↔ Write.copy ∈ writes := by
  induction writes with
  | nil => simp [heard]
  | cons w writes ih => cases w <;> simp [heard, ih]

/-- Nothing is heard but outcomes. -/
theorem heard_subset {writes : List (Write α)} {l : List α} (h : heard writes = some l) :
    ∀ a ∈ l, a ∈ outcomes writes := by
  induction writes generalizing l with
  | nil => cases h
  | cons w writes ih =>
      intro a ha
      cases w with
      | set b =>
          obtain ⟨l', hl', rfl⟩ := Option.map_eq_some_iff.mp h
          rcases List.mem_cons.mp ha with rfl | ha
          · exact List.mem_cons_self
          · exact List.mem_cons_of_mem _ (ih hl' a ha)
      | copy =>
          cases hrest : heard writes with
          | none =>
              rw [heard, hrest] at h
              rw [← Option.some.inj h] at ha
              cases ha
          | some l' =>
              rw [heard, hrest] at h
              rw [← Option.some.inj h] at ha
              exact ih hrest a ha

/-- The answer is the last outcome before the last copy. -/
theorem run_answer (c : Cell α) (writes : List (Write α)) :
    (c.run writes).answer =
      match heard writes with
      | none => c.answer
      | some l => some (l.getLast?.getD c.flag) := by
  induction writes generalizing c with
  | nil => rfl
  | cons w writes ih =>
      rw [Cell.run_cons, ih]
      cases w with
      | set a =>
          rw [heard]
          cases heard writes with
          | none => rfl
          | some l =>
              cases l with
              | nil => rfl
              | cons b l =>
                  simp [Cell.write, List.getLast?_eq_some_getLast (List.cons_ne_nil b l)]
      | copy =>
          rw [heard]
          cases heard writes with
          | none => rfl
          | some l => rfl

end Overwrites
