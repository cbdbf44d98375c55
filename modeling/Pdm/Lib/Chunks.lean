/-
A cursor that goes on in chunks towards an end that moves.

At each turn the cursor is told where the end is now, and goes on by one chunk, or to that end
if it is nearer.  Whether it has stayed within a bound is said without the cursor: the chunks
alone do not reach past the bound, or one of the ends that it was told, with the chunks since
then, does not.
-/
import Mathlib.Data.List.Induction
import Mathlib.Order.MinMax

namespace Chunks

/-- Where the cursor is after it was told these ends. -/
def cursor (chunk : Nat) (ends : List Nat) : Nat :=
  ends.foldl (fun position e => min e (position + chunk)) 0

/-- The turns it takes do not lead past the bound. -/
def Within (chunk bound : Nat) (ends : List Nat) : Prop :=
  chunk * ends.length ≤ bound ∨
    ∃ before e after, ends = before ++ e :: after ∧ e + chunk * after.length ≤ bound

variable {chunk bound e : Nat} {ends : List Nat}

@[simp] theorem cursor_nil : cursor chunk [] = 0 := rfl

@[simp] theorem cursor_concat :
    cursor chunk (ends ++ [e]) = min e (cursor chunk ends + chunk) := by
  unfold cursor
  rw [List.foldl_append]
  rfl

theorem within_nil : Within chunk bound [] := Or.inl (Nat.zero_le _)

/-- One more end is within the bound, or the turns before it leave room for one more chunk. -/
theorem within_concat :
    Within chunk bound (ends ++ [e]) ↔
      e ≤ bound ∨ chunk ≤ bound ∧ Within chunk (bound - chunk) ends := by
  have hroom : ∀ n k : Nat, n + chunk * (k + 1) ≤ bound ↔
      chunk ≤ bound ∧ n + chunk * k ≤ bound - chunk := by
    intro n k
    rw [Nat.mul_succ]
    omega
  constructor
  · rintro (hchunks | ⟨before, e', after, heq, hbound⟩)
    · rw [List.length_append, List.length_singleton, ← Nat.zero_add (chunk * _), hroom] at hchunks
      exact Or.inr ⟨hchunks.1, Or.inl (by omega)⟩
    · rcases List.eq_nil_or_concat after with rfl | ⟨rest, last, rfl⟩
      · obtain ⟨-, hlast⟩ := List.append_inj' heq rfl
        have he : e = e' := by simpa using hlast
        exact Or.inl (by simpa [he] using hbound)
      · rw [List.concat_eq_append, ← List.cons_append, ← List.append_assoc] at heq
        obtain ⟨rfl, -⟩ := List.append_inj' heq rfl
        rw [List.concat_eq_append, List.length_append, List.length_singleton, hroom] at hbound
        exact Or.inr ⟨hbound.1, Or.inr ⟨before, e', rest, rfl, hbound.2⟩⟩
  · rintro (hend | ⟨hchunk, hchunks | ⟨before, e', after, rfl, hbound⟩⟩)
    · exact Or.inr ⟨ends, e, [], rfl, by simpa using hend⟩
    · refine Or.inl ?_
      rw [List.length_append, List.length_singleton, ← Nat.zero_add (chunk * _), hroom]
      exact ⟨hchunk, by omega⟩
    · refine Or.inr ⟨before, e', after ++ [e], by simp, ?_⟩
      rw [List.length_append, List.length_singleton, hroom]
      exact ⟨hchunk, hbound⟩

/-- **The cursor is within a bound exactly when the turns it took do not lead past it.** -/
theorem cursor_le_iff : cursor chunk ends ≤ bound ↔ Within chunk bound ends := by
  induction ends using List.reverseRecOn generalizing bound with
  | nil => exact iff_of_true (Nat.zero_le _) within_nil
  | append_singleton ends e ih =>
    rw [within_concat, ← ih, cursor_concat, min_le_iff]
    refine or_congr_right ?_
    omega

end Chunks
