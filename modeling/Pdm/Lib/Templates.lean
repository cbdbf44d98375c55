/-
Lists built from a template.

A template is a list whose words are either fixed or a hole with a name; filling it puts one
value into each hole.  However it is filled it has the length of the template, and two
fillings that agree on all holes but one differ in the places of that hole at most.
-/
import Mathlib.Data.List.Basic

namespace Template

universe u v

/-- Two lists that differ in one place at most, where one has `a` and the other `b`. -/
structure OnlyAt {α : Type v} (p : Nat) (a b : α) (l l' : List α) : Prop where
  length_eq : l.length = l'.length
  elsewhere : ∀ i, i ≠ p → l[i]? = l'[i]?
  here : l ≠ [] → l[p]? = some a ∧ l'[p]? = some b

inductive Word (κ : Type u) (α : Type v) where
  | text (a : α)
  | hole (k : κ)
  deriving DecidableEq, Repr

variable {κ : Type u} {α : Type v}

def Word.fill (values : κ → α) : Word κ α → α
  | .text a => a
  | .hole k => values k

def fill (values : κ → α) (t : List (Word κ α)) : List α := t.map (Word.fill values)

theorem fill_append (values : κ → α) (t t' : List (Word κ α)) :
    fill values (t ++ t') = fill values t ++ fill values t' :=
  List.map_append

/-- Fixed words stay as they are. -/
theorem fill_text (values : κ → α) (l : List α) : fill values (l.map Word.text) = l := by
  unfold fill
  rw [List.map_map]
  exact List.map_id' l

theorem hole_notMem_text (k : κ) (l : List α) : (Word.hole k : Word κ α) ∉ l.map Word.text := by
  intro h
  obtain ⟨a, -, ha⟩ := List.mem_map.mp h
  cases ha

theorem fill_eq_nil {values : κ → α} {t : List (Word κ α)} : fill values t = [] ↔ t = [] :=
  List.map_eq_nil_iff

theorem length_fill (values values' : κ → α) (t : List (Word κ α)) :
    (fill values t).length = (fill values' t).length := by
  unfold fill
  rw [List.length_map, List.length_map]

theorem head?_fill {t : List (Word κ α)} {a : α} (h : t.head? = some (.text a))
    (values : κ → α) : (fill values t).head? = some a := by
  unfold fill
  rw [List.head?_map, h]
  rfl

/-- Values that are the same but for one hole fill a word without it the same way. -/
theorem fill_congr {k : κ} {values values' : κ → α} (hvalues : ∀ j, j ≠ k → values j = values' j)
    {t : List (Word κ α)} (ht : Word.hole k ∉ t) : fill values t = fill values' t := by
  apply List.map_congr_left
  intro w hw
  cases w with
  | text a => rfl
  | hole j =>
    apply hvalues
    rintro rfl
    exact ht hw

/-- The place of a hole that stands in a template once. -/
theorem onlyAt_fill {k : κ} {values values' : κ → α}
    (hvalues : ∀ j, j ≠ k → values j = values' j) {before after : List (Word κ α)}
    (hbefore : Word.hole k ∉ before) (hafter : Word.hole k ∉ after) :
    OnlyAt before.length (values k) (values' k)
      (fill values (before ++ .hole k :: after)) (fill values' (before ++ .hole k :: after)) := by
  have hlength : ∀ v : κ → α, (fill v before).length = before.length := fun v => List.length_map ..
  have hsplit : ∀ v : κ → α, fill v (before ++ .hole k :: after)
      = fill v before ++ v k :: fill v after := fun v => fill_append ..
  refine ⟨length_fill _ _ _, ?_, ?_⟩
  · intro i hi
    rw [hsplit, hsplit, fill_congr hvalues hbefore, fill_congr hvalues hafter]
    rcases Nat.lt_or_gt_of_ne hi with hlt | hgt
    · rw [List.getElem?_append_left (by rw [hlength]; exact hlt),
        List.getElem?_append_left (by rw [hlength]; exact hlt)]
    · obtain ⟨j, rfl⟩ : ∃ j, i = before.length + (j + 1) := ⟨i - before.length - 1, by omega⟩
      rw [← hlength values', List.getElem?_append_right (Nat.le_add_right _ _),
        List.getElem?_append_right (Nat.le_add_right _ _), Nat.add_sub_cancel_left]
      rfl
  · intro _
    have hhere : ∀ v : κ → α, (fill v (before ++ .hole k :: after))[before.length]?
        = some (v k) := by
      intro v
      rw [hsplit, ← hlength v, List.getElem?_append_right (Nat.le_refl _), Nat.sub_self]
      rfl
    exact ⟨hhere values, hhere values'⟩

/-- Nothing is different in an empty template. -/
theorem onlyAt_nil (p : Nat) (a b : α) : OnlyAt p a b ([] : List α) [] where
  length_eq := rfl
  elsewhere _ _ := rfl
  here h := absurd rfl h

end Template
