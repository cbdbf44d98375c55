/-
A board that is copied from a collection now and then.

The collection changes all the time: new members join it, others leave.  A board holds what
was copied last.  Beside the copy two lists are kept: of the members that have joined since
and of those that have left since.  The board is `Exact` when these two are all it is wrong
about, and each thing that can happen keeps it so.
-/
import Mathlib.Data.List.Basic

namespace Boards

universe u

/-- What was copied last, who has joined since and who has left since. -/
structure Board (α : Type u) where
  copy : List α := []
  joined : List α := []
  left : List α := []
  deriving DecidableEq

namespace Board

variable {α : Type u} [DecidableEq α]

/-- The collection is copied; those that are `late` join right behind the copy. -/
def post (listed late : List α) : Board α := ⟨listed, late, []⟩

/-- Some join unseen. -/
def join (b : Board α) (new : List α) : Board α := { b with joined := b.joined ++ new }

/-- Some leave unseen; who was not on the copy has not to be kept account of. -/
def leave (b : Board α) (gone : List α) : Board α :=
  { b with left := b.left ++ gone.filter (· ∉ b.joined) }

/-- The copy holds the collection without those that have joined since, and those that have
left since. -/
def Exact (listed : α → Prop) (b : Board α) : Prop :=
  ∀ a, a ∈ b.copy ↔ (listed a ∧ a ∉ b.joined) ∨ a ∈ b.left

variable {listed listed' : α → Prop} {b : Board α}

omit [DecidableEq α] in
theorem Exact.init : Exact (fun _ : α => False) {} := by
  intro a
  simp

omit [DecidableEq α] in
/-- Nothing has changed. -/
theorem Exact.congr (h : b.Exact listed) (hl : ∀ a, listed' a ↔ listed a) : b.Exact listed' := by
  intro a
  rw [h a, hl a]

omit [DecidableEq α] in
/-- The late ones were not in the collection before. -/
theorem Exact.post {l late : List α} (hlate : ∀ a ∈ late, a ∉ l)
    (hl : ∀ a, listed a ↔ a ∈ l ∨ a ∈ late) : (Board.post l late).Exact listed := by
  intro a
  rw [hl a]
  constructor
  · intro ha
    exact Or.inl ⟨Or.inl ha, fun hnew => hlate a hnew ha⟩
  · intro ha
    rcases ha with ⟨ha | ha, hnot⟩ | ha
    · exact ha
    · exact absurd ha hnot
    · cases ha

omit [DecidableEq α] in
/-- Who joins is not on the copy. -/
theorem Exact.join (h : b.Exact listed) {new : List α} (hcopy : ∀ a ∈ new, a ∉ b.copy)
    (hl : ∀ a, listed' a ↔ listed a ∨ a ∈ new) :
    (b.join new).Exact listed' := by
  intro a
  have hnot : a ∉ b.joined ++ new ↔ a ∉ b.joined ∧ a ∉ new := by
    rw [List.mem_append, not_or]
  change a ∈ b.copy ↔ (listed' a ∧ a ∉ b.joined ++ new) ∨ a ∈ b.left
  rw [hl a, hnot, h a]
  by_cases hnew : a ∈ new
  · have hcopy := hcopy a hnew
    rw [h a] at hcopy
    tauto
  · tauto

/-- Who leaves is not in the collection any more. -/
theorem Exact.leave (h : b.Exact listed) {gone : List α} (hgone : ∀ a ∈ gone, listed a)
    (hl : ∀ a, listed' a ↔ listed a ∧ a ∉ gone) : (b.leave gone).Exact listed' := by
  intro a
  have hleft : a ∈ b.left ++ gone.filter (· ∉ b.joined) ↔
      a ∈ b.left ∨ (a ∈ gone ∧ a ∉ b.joined) := by
    rw [List.mem_append, List.mem_filter, decide_eq_true_eq]
  change a ∈ b.copy ↔ (listed' a ∧ a ∉ b.joined) ∨ a ∈ b.left ++ gone.filter (· ∉ b.joined)
  rw [hl a, hleft, h a]
  have hlisted := hgone a
  tauto

end Board

end Boards
