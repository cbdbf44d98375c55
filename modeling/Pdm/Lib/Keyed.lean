/-
Lists of objects known by a key.

`put` writes an object back where its key stands.  When no two objects of a list have one
key, that is one place, and what is read off the list object by object changes exactly when
it changes for that object.
-/
import Mathlib.Data.List.Nodup

namespace Keyed

universe u v w

variable {α : Type u} {κ : Type v} {β : Type w} [DecidableEq κ]

/-- The list, with the object in the place of the one that has its key. -/
def put (key : α → κ) (l : List α) (e : α) : List α := l.map fun x => if key x = key e then e else x

variable (key : α → κ) {l : List α} {d e e' : α}

/-- The keys stay in their places. -/
theorem put_keys (l : List α) (e : α) : (put key l e).map key = l.map key := by
  unfold put
  rw [List.map_map]
  refine List.map_congr_left fun x _ => ?_
  by_cases hx : key x = key e
  · rw [Function.comp_apply, if_pos hx]
    exact hx.symm
  · rw [Function.comp_apply, if_neg hx]

/-- What is in a list after an object was written back. -/
theorem mem_put {x : α} (hx : x ∈ put key l e) : x = e ∨ (x ∈ l ∧ key x ≠ key e) := by
  obtain ⟨y, hy, rfl⟩ := List.mem_map.mp hx
  by_cases hkey : key y = key e
  · rw [if_pos hkey]
    exact Or.inl rfl
  · rw [if_neg hkey]
    exact Or.inr ⟨hy, hkey⟩

theorem put_of_missing (h : ∀ x ∈ l, key x ≠ key e) : put key l e = l := by
  induction l with
  | nil => rfl
  | cons x xs ih =>
      have hx := h x (by simp)
      have hxs := ih fun y hy => h y (by simp [hy])
      unfold put at hxs ⊢
      rw [List.map_cons, if_neg hx, hxs]

/-- An object that is written back twice. -/
theorem put_put (he : key e' = key e) : put key (put key l e) e' = put key l e' := by
  unfold put
  rw [List.map_map]
  refine List.map_congr_left fun x _ => ?_
  rw [Function.comp_apply]
  by_cases hx : key x = key e
  · rw [if_pos hx, if_pos he.symm, if_pos (hx.trans he.symm)]
  · rw [if_neg hx]

/-- Some of the objects, in their order, are found by their keys. -/
theorem filter_keys {some : List α} (hsome : some.Sublist l) (hnodup : (l.map key).Nodup) :
    l.filter (fun x => key x ∈ some.map key) = some := by
  induction hsome with
  | slnil => rfl
  | @cons some l a hsome ih =>
    obtain ⟨hnew, hnodup⟩ := List.nodup_cons.mp hnodup
    rw [List.filter_cons_of_neg, ih hnodup]
    have hmissing : key a ∉ some.map key := fun h => hnew ((hsome.map key).subset h)
    simpa using hmissing
  | @cons_cons some l a hsome ih =>
    obtain ⟨hnew, hnodup⟩ := List.nodup_cons.mp hnodup
    rw [List.filter_cons_of_pos (by simp)]
    refine congrArg (a :: ·) ((List.filter_congr fun x hx => ?_).trans (ih hnodup))
    have hne : key x ≠ key a := fun h => hnew (h ▸ List.mem_map_of_mem hx)
    rw [List.map_cons, decide_eq_decide, List.mem_cons, or_iff_right hne]

theorem put_mem (hd : d ∈ l) (he : key e = key d) : e ∈ put key l e :=
  List.mem_map.mpr ⟨d, hd, if_pos he.symm⟩

/-- The one place where a key stands. -/
theorem put_split (hnodup : (l.map key).Nodup) (hd : d ∈ l) :
    ∃ as bs, l = as ++ d :: bs ∧ ∀ e, key e = key d → put key l e = as ++ e :: bs := by
  obtain ⟨as, bs, rfl⟩ := List.append_of_mem hd
  refine ⟨as, bs, rfl, fun e he => ?_⟩
  rw [List.map_append, List.map_cons, List.nodup_append'] at hnodup
  obtain ⟨-, hbs, hdisjoint⟩ := hnodup
  have has : ∀ x ∈ as, key x ≠ key e := by
    intro x hx hxe
    exact hdisjoint (List.mem_map_of_mem hx) (by rw [hxe, he]; simp)
  have hbs' : ∀ x ∈ bs, key x ≠ key e := by
    intro x hx hxe
    refine (List.nodup_cons.mp hbs).1 ?_
    rw [← he, ← hxe]
    exact List.mem_map_of_mem hx
  have hleft := put_of_missing key has
  have hright := put_of_missing key hbs'
  unfold put at hleft hright ⊢
  rw [List.map_append, List.map_cons, if_pos he.symm, hleft, hright]

theorem put_self (hnodup : (l.map key).Nodup) (hd : d ∈ l) : put key l d = l := by
  obtain ⟨as, bs, hl, hput⟩ := put_split key hnodup hd
  rw [hput d rfl]
  exact hl.symm

/-- Looked up by its key an object is found. -/
theorem find?_key (hnodup : (l.map key).Nodup) (hd : d ∈ l) :
    l.find? (fun x => key x = key d) = some d := by
  induction l with
  | nil => exact absurd hd List.not_mem_nil
  | cons x xs ih =>
      rw [List.map_cons, List.nodup_cons] at hnodup
      rcases List.mem_cons.mp hd with rfl | hd
      · simp
      · have hne : key x ≠ key d := fun h => hnodup.1 (h ▸ List.mem_map_of_mem hd)
        simp [hne, ih hnodup.2 hd]

theorem toList_injective {a b : Option β} (h : a.toList = b.toList) : a = b := by
  cases a <;> cases b <;> simp_all

/-- What is read off the objects that have something to show. -/
theorem filterMap_put_iff (f : α → Option β) (hnodup : (l.map key).Nodup) (hd : d ∈ l)
    (he : key e = key d) (he' : key e' = key d) :
    (put key l e).filterMap f = (put key l e').filterMap f ↔ f e = f e' := by
  obtain ⟨as, bs, -, hput⟩ := put_split key hnodup hd
  have hcons : ∀ x, (as ++ x :: bs).filterMap f =
      as.filterMap f ++ ((f x).toList ++ bs.filterMap f) := by
    intro x
    rw [List.filterMap_append]
    refine congrArg (as.filterMap f ++ ·) ?_
    cases hx : f x <;> simp [hx]
  rw [hput e he, hput e' he', hcons, hcons, List.append_cancel_left_eq]
  refine ⟨fun h => toList_injective (List.append_cancel_right h), fun h => ?_⟩
  rw [h]

/-- What is read off every object. -/
theorem map_put_iff (f : α → β) (hnodup : (l.map key).Nodup) (hd : d ∈ l) (he : key e = key d)
    (he' : key e' = key d) : (put key l e).map f = (put key l e').map f ↔ f e = f e' := by
  have h := filterMap_put_iff key (fun x => some (f x)) hnodup hd he he'
  rw [List.filterMap_eq_map', Option.some.injEq] at h
  exact h

/-- What the object written back shows as before stays as it is. -/
theorem map_put (f : α → β) (hnodup : (l.map key).Nodup) (hd : d ∈ l) (he : key e = key d)
    (hf : f e = f d) : (put key l e).map f = l.map f := by
  have h := (map_put_iff key f hnodup hd he rfl).mpr hf
  rwa [put_self key hnodup hd] at h

/-- What is left when the object at a key is taken out. -/
theorem take_split (hnodup : (l.map key).Nodup) (hd : d ∈ l) :
    ∃ as bs, l = as ++ d :: bs ∧ (l.filter fun x => key x ≠ key d) = as ++ bs ∧
      ∀ e, key e = key d → put key l e = as ++ e :: bs := by
  obtain ⟨as, bs, rfl, hput⟩ := put_split key hnodup hd
  refine ⟨as, bs, rfl, ?_, hput⟩
  rw [List.map_append, List.map_cons, List.nodup_append'] at hnodup
  obtain ⟨-, hbs, hdisjoint⟩ := hnodup
  have has : as.filter (fun x => key x ≠ key d) = as := by
    refine List.filter_eq_self.mpr fun x hx => decide_eq_true fun hxd => ?_
    exact hdisjoint (List.mem_map_of_mem hx) (by rw [hxd]; simp)
  have hbs' : bs.filter (fun x => key x ≠ key d) = bs := by
    refine List.filter_eq_self.mpr fun x hx => decide_eq_true fun hxd => ?_
    exact (List.nodup_cons.mp hbs).1 (hxd ▸ List.mem_map_of_mem hx)
  rw [List.filter_append, has, List.filter_cons_of_neg (by simp), hbs']

/-- Taking out the object at a key changes what is read off the list unless that object had
nothing to show. -/
theorem filterMap_take_iff (f : α → Option β) (hnodup : (l.map key).Nodup) (hd : d ∈ l) :
    (l.filter fun x => key x ≠ key d).filterMap f = l.filterMap f ↔ f d = none := by
  obtain ⟨as, bs, hl, htake, -⟩ := take_split key hnodup hd
  rw [htake, hl, List.filterMap_append, List.filterMap_append, List.append_cancel_left_eq]
  cases hfd : f d with
  | none => exact iff_of_true (List.filterMap_cons_none hfd).symm rfl
  | some b =>
      rw [List.filterMap_cons_some hfd]
      exact iff_of_false (fun h => by simpa using congrArg List.length h) (by simp)

/-- Two readings that show the same objects agree on a list when they agree on each. -/
theorem filterMap_inj_iff {f g : α → Option β} (hsame : ∀ x ∈ l, f x = none ↔ g x = none) :
    l.filterMap f = l.filterMap g ↔ ∀ x ∈ l, f x = g x := by
  induction l with
  | nil => exact iff_of_true rfl fun x hx => absurd hx (by simp)
  | cons x xs ih =>
      have ih' := ih fun y hy => hsame y (by simp [hy])
      have hx := hsame x (by simp)
      rw [List.forall_mem_cons, ← ih']
      cases hf : f x with
      | none =>
        rw [List.filterMap_cons_none hf, List.filterMap_cons_none (hx.mp hf), hx.mp hf]
        exact ⟨fun h => ⟨rfl, h⟩, fun h => h.2⟩
      | some b =>
        obtain ⟨c, hc⟩ := Option.ne_none_iff_exists'.mp (mt hx.mpr (by simp [hf]))
        rw [List.filterMap_cons_some hf, List.filterMap_cons_some hc, hc, List.cons.injEq,
          Option.some.injEq]

omit [DecidableEq κ] in
/-- Lists with the same keys show the same when each object shows what one with its key
shows. -/
theorem map_eq_of_each (f : α → β) {l' : List α} (hnodup : (l.map key).Nodup)
    (hkeys : l'.map key = l.map key) (heach : ∀ e ∈ l', ∃ d ∈ l, key e = key d ∧ f e = f d) :
    l'.map f = l.map f := by
  have hlength : l'.length = l.length := by
    have := congrArg List.length hkeys
    simpa using this
  refine List.ext_getElem (by simpa using hlength) fun i hi hi' => ?_
  rw [List.length_map] at hi hi'
  obtain ⟨d, hd, hkey, hshown⟩ := heach l'[i] (List.getElem_mem hi)
  have hhere : key l'[i] = key l[i] := by
    have := List.getElem_of_eq hkeys (i := i) (by simpa using hi)
    simpa using this
  have hsame : d = l[i] :=
    List.inj_on_of_nodup_map hnodup hd (List.getElem_mem hi') (hkey.symm.trans hhere)
  rw [List.getElem_map, List.getElem_map, hshown, hsame]

end Keyed
