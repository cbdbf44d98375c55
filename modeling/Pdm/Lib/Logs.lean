/-
A log of what happened to whom.

Each entry of the log is an event with the key of the one it is about.  What is told about
one key is the part of the log with that key, in order, and a piece that is about another key
does not change it.
-/
import Mathlib.Data.List.Basic

namespace Logs

universe u v

variable {ε : Type u} {κ : Type v} [DecidableEq κ]

/-- The events about one key, oldest first. -/
def about (k : κ) (log : List (ε × κ)) : List ε := (log.filter (·.2 = k)).map (·.1)

@[simp] theorem about_nil (k : κ) : about k ([] : List (ε × κ)) = [] := rfl

@[simp] theorem about_append (k : κ) (log more : List (ε × κ)) :
    about k (log ++ more) = about k log ++ about k more := by
  unfold about
  rw [List.filter_append, List.map_append]

theorem mem_about {k : κ} {log : List (ε × κ)} {b : ε} : b ∈ about k log ↔ (b, k) ∈ log := by
  unfold about
  constructor
  · intro h
    obtain ⟨⟨c, k'⟩, hx, rfl⟩ := List.mem_map.mp h
    obtain ⟨hmem, hkey⟩ := List.mem_filter.mp hx
    obtain rfl : k' = k := of_decide_eq_true hkey
    exact hmem
  · intro h
    exact List.mem_map.mpr ⟨(b, k), List.mem_filter.mpr ⟨h, decide_eq_true rfl⟩, rfl⟩

/-- A piece in which the key does not occur. -/
theorem about_eq_nil {k : κ} {log : List (ε × κ)} (h : ∀ x ∈ log, x.2 ≠ k) : about k log = [] := by
  refine List.eq_nil_iff_forall_not_mem.mpr fun b hb => ?_
  exact h _ (mem_about.mp hb) rfl

/-- A piece that is about the key. -/
theorem about_self (k : κ) (bs : List ε) : about k (bs.map (·, k)) = bs := by
  unfold about
  rw [List.filter_eq_self.mpr fun x hx => ?_, List.map_map]
  · exact List.map_id bs
  · obtain ⟨b, -, rfl⟩ := List.mem_map.mp hx
    exact decide_eq_true rfl

/-- A piece that is about another key. -/
theorem about_other {k k' : κ} (hne : k ≠ k') (bs : List ε) : about k (bs.map (·, k')) = [] := by
  refine about_eq_nil fun x hx => ?_
  obtain ⟨b, -, rfl⟩ := List.mem_map.mp hx
  exact hne.symm

end Logs
