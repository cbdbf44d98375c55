/-
Acting on every element of a list in turn, over a state they share.

An operation on one object reads and writes a shared state and leaves a changed
object and an answer.  `visit` runs it over a list, first element first, and keeps
all answers.  This is the shape of a loop that walks over the objects a component
owns and calls a method on each.

Three kinds of facts are needed about such a loop: what holds of the state
throughout, what each object keeps, and what ties an object to the state.  The last
is the interesting one: an object's tie must survive what is done to the others, and
`visit_ties` says when it does.
-/
import Mathlib.Data.List.Basic
import Mathlib.Data.List.Pairwise

namespace Visit

universe u v w

/-- What acting on an object leaves: the shared state, the object and the answer. -/
structure Out (σ : Type u) (α : Type v) (ρ : Type w) where
  state : σ
  obj : α
  ret : ρ

variable {σ : Type u} {α : Type v} {ρ : Type w}

/-- Run `f` on each element of a list in turn. -/
def visit (f : σ → α → Out σ α ρ) : σ → List α → Out σ (List α) (List ρ)
  | s, [] => ⟨s, [], []⟩
  | s, a :: as =>
    let o := f s a
    let r := visit f o.state as
    ⟨r.state, o.obj :: r.obj, o.ret :: r.ret⟩

variable {f : σ → α → Out σ α ρ}

@[simp] theorem visit_nil (s : σ) : visit f s [] = ⟨s, [], []⟩ := rfl

theorem visit_cons (s : σ) (a : α) (as : List α) :
    visit f s (a :: as) =
      ⟨(visit f (f s a).state as).state, (f s a).obj :: (visit f (f s a).state as).obj,
        (f s a).ret :: (visit f (f s a).state as).ret⟩ := rfl

/-! ### The state -/

/-- What every call keeps, the loop keeps. -/
theorem visit_state {P : σ → Prop} {l : List α} (hf : ∀ s, ∀ a ∈ l, P s → P (f s a).state) :
    ∀ {s : σ}, P s → P (visit f s l).state := by
  induction l with
  | nil => intro s h; exact h
  | cons a as ih =>
      intro s h
      exact ih (fun s b hb => hf s b (by simp [hb])) (hf s a (by simp) h)

/-! ### The objects -/

/-- Each object of the loop's result comes from one of the list. -/
theorem visit_mem {R : α → α → Prop} (hf : ∀ s a, R a (f s a).obj) :
    ∀ (l : List α) (s : σ), ∀ b ∈ (visit f s l).obj, ∃ a ∈ l, R a b := by
  intro l
  induction l with
  | nil => intro s b hb; exact absurd hb (by simp)
  | cons a as ih =>
      intro s b hb
      rw [visit_cons] at hb
      rcases List.mem_cons.mp hb with rfl | hb
      · exact ⟨a, by simp, hf s a⟩
      · obtain ⟨c, hc, hcb⟩ := ih _ b hb
        exact ⟨c, by simp [hc], hcb⟩

/-- What each call makes of an object, whatever the state, the loop makes of the list. -/
theorem visit_image {β : Type*} {g h : α → β} (hf : ∀ s a, g (f s a).obj = h a) :
    ∀ (l : List α) (s : σ), (visit f s l).obj.map g = l.map h := by
  intro l
  induction l with
  | nil => intro s; rfl
  | cons a as ih =>
      intro s
      rw [visit_cons, List.map_cons, List.map_cons, hf, ih]

/-- A function of the objects that no call changes is not changed by the loop. -/
theorem visit_map {β : Type*} {g : α → β} (hf : ∀ s a, g (f s a).obj = g a) (l : List α) (s : σ) :
    (visit f s l).obj.map g = l.map g :=
  visit_image hf l s

/-- When each call adds to what holds of the state, the loop adds what some call adds. -/
theorem visit_gains {β : Type*} {P : σ → β → Prop} {Q : α → β → Prop}
    (hf : ∀ s a b, P (f s a).state b ↔ P s b ∨ Q a b) :
    ∀ (l : List α) (s : σ) (b : β),
      P (visit f s l).state b ↔ P s b ∨ ∃ a ∈ l, Q a b := by
  intro l
  induction l with
  | nil => intro s b; exact (or_iff_left (by simp)).symm
  | cons a as ih =>
      intro s b
      rw [visit_cons, ih, hf, List.exists_mem_cons_iff, or_assoc]

/-- When an answer is good does not depend on the state. -/
theorem visit_ret_iff {good : ρ → Prop} {P : α → Prop} (hf : ∀ s a, good (f s a).ret ↔ P a) :
    ∀ (l : List α) (s : σ), (∀ r ∈ (visit f s l).ret, good r) ↔ ∀ a ∈ l, P a := by
  intro l
  induction l with
  | nil => intro s; exact iff_of_true (fun r hr => absurd hr (by simp)) (fun a ha => absurd ha (by simp))
  | cons a as ih =>
      intro s
      rw [visit_cons, List.forall_mem_cons, List.forall_mem_cons]
      exact and_congr (hf s a) (ih _)

/-! ### Loops of loops -/

theorem visit_append (l m : List α) (s : σ) :
    visit f s (l ++ m) =
      ⟨(visit f (visit f s l).state m).state, (visit f s l).obj ++ (visit f (visit f s l).state m).obj,
        (visit f s l).ret ++ (visit f (visit f s l).state m).ret⟩ := by
  induction l generalizing s with
  | nil => rfl
  | cons a as ih =>
      rw [List.cons_append, visit_cons, visit_cons, ih]
      rfl

/-- A loop whose every call loops over the parts of an object is one loop over all
parts; an answer is good when the answers it was made from all are. -/
theorem visit_flatMap {β : Type*} {τ : Type*} {g : σ → β → Out σ β τ} (parts : β → List α)
    (good : ρ → Prop) (good' : τ → Prop)
    (hstate : ∀ s b, (g s b).state = (visit f s (parts b)).state)
    (hobj : ∀ s b, parts (g s b).obj = (visit f s (parts b)).obj)
    (hret : ∀ s b, good' (g s b).ret ↔ ∀ r ∈ (visit f s (parts b)).ret, good r)
    (l : List β) (s : σ) :
    (visit g s l).state = (visit f s (l.flatMap parts)).state ∧
      (visit g s l).obj.flatMap parts = (visit f s (l.flatMap parts)).obj ∧
      ((∀ r ∈ (visit g s l).ret, good' r) ↔ ∀ r ∈ (visit f s (l.flatMap parts)).ret, good r) := by
  induction l generalizing s with
  | nil => simp
  | cons b bs ih =>
      obtain ⟨hs, ho, hr⟩ := ih (g s b).state
      rw [visit_cons, List.flatMap_cons, visit_append, ← hstate]
      refine ⟨hs, by rw [List.flatMap_cons, hobj, ho], ?_⟩
      rw [List.forall_mem_cons, List.forall_mem_append]
      exact and_congr (hret s b) hr

/-! ### What ties an object to the state -/

/-- **The loop ties every object to the state.**  `P` is what holds of the state
throughout.  `T s a` is what is known of an object the loop has not reached yet, `J s a`
what a call establishes for the object it is on, and `D a b` says that acting on `a`
leaves both alone for `b`; `D` does not see what a call changes in an object. -/
theorem visit_ties {P : σ → Prop} {T J : σ → α → Prop} {D : α → α → Prop} :
    ∀ (l : List α) (s : σ),
      (∀ s, ∀ a ∈ l, P s → T s a → P (f s a).state ∧ J (f s a).state (f s a).obj) →
      (∀ s, ∀ a ∈ l, ∀ b, P s → D a b → T s b → T (f s a).state b) →
      (∀ s, ∀ a ∈ l, ∀ b, P s → D a b → J s b → J (f s a).state b) →
      (∀ s, ∀ a ∈ l, ∀ b, D b a → D b (f s a).obj) →
      l.Pairwise (fun a b => D a b ∧ D b a) → P s → (∀ a ∈ l, T s a) →
      P (visit f s l).state ∧ (∀ a ∈ (visit f s l).obj, J (visit f s l).state a) ∧
        ∀ b, J s b → (∀ a ∈ l, D a b) → J (visit f s l).state b := by
  intro l
  induction l with
  | nil => intro s _ _ _ _ _ hP _; exact ⟨hP, by simp, fun b hb _ => hb⟩
  | cons a as ih =>
      intro s own todo done keep hpair hP hall
      have hsep := List.pairwise_cons.mp hpair
      have ha := own s a (by simp) hP (hall a (by simp))
      obtain ⟨hP', hobjs, hout⟩ := ih (f s a).state
        (fun s b hb => own s b (by simp [hb]))
        (fun s b hb => todo s b (by simp [hb]))
        (fun s b hb => done s b (by simp [hb]))
        (fun s b hb => keep s b (by simp [hb])) hsep.2 ha.1
        (fun b hb => todo s a (by simp) b hP (hsep.1 b hb).1 (hall b (by simp [hb])))
      refine ⟨hP', ?_, ?_⟩
      · intro b hb
        rw [visit_cons] at hb ⊢
        rcases List.mem_cons.mp hb with hba | hb
        · subst hba
          -- The later calls leave the first object's tie alone.
          exact hout _ ha.2 (fun c hc => keep s a (by simp) c (hsep.1 c hc).2)
        · exact hobjs b hb
      · intro b hb hD
        rw [visit_cons]
        exact hout b (done s a (by simp) b hP (hD a (by simp)) hb)
          (fun c hc => hD c (by simp [hc]))

end Visit
