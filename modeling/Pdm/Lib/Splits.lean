/-
A list that is split over two lists.

`ListSplit keep left right l ls rs` says that every element of `l` has gone to exactly one of the
two, to `ls` where `keep` holds of it and to `rs` where not, in its order and with nothing in
between.  What stands there for it is related to it by `left` or `right`.
-/
import Mathlib.Data.List.Basic

universe u v w

variable {α : Type u} {β : Type v} {γ : Type w}

inductive ListSplit (keep : α → Prop) (left : α → β → Prop) (right : α → γ → Prop) :
    List α → List β → List γ → Prop
  | nil : ListSplit keep left right [] [] []
  | left {a b l ls rs} (h : keep a) (hab : left a b) (rest : ListSplit keep left right l ls rs) :
      ListSplit keep left right (a :: l) (b :: ls) rs
  | right {a c l ls rs} (h : ¬ keep a) (hac : right a c) (rest : ListSplit keep left right l ls rs) :
      ListSplit keep left right (a :: l) ls (c :: rs)

namespace ListSplit

/-- Two filters whose tests are opposite split a list. -/
theorem filter_map (keep : α → Bool) {left : α → β → Prop} {right : α → γ → Prop} {f : α → β}
    {g : α → γ} (hf : ∀ a, left a (f a)) (hg : ∀ a, right a (g a)) (l : List α) :
    ListSplit (fun a => keep a = true) left right l ((l.filter keep).map f)
      ((l.filter fun a => !keep a).map g) := by
  induction l with
  | nil => exact ListSplit.nil
  | cons a l ih =>
    cases ha : keep a with
    | true =>
      rw [List.filter_cons_of_pos ha, List.filter_cons_of_neg (by simp [ha]), List.map_cons]
      exact ListSplit.left ha (hf a) ih
    | false =>
      rw [List.filter_cons_of_neg (by simp [ha]), List.filter_cons_of_pos (by simp [ha]),
        List.map_cons]
      exact ListSplit.right (by simp [ha]) (hg a) ih

end ListSplit
