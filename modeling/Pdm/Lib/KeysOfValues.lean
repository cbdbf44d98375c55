/-
Looking up a key by its value in an ordered map.

A search through the entries in the order of their keys stops at the least key that has the
value, whatever else has it.
-/
import Mathlib.Tactic.Linarith

namespace KeysOfValues

universe u v

open Std

variable {α : Type u} {β : Type v} {cmp : α → α → Ordering} [TransCmp cmp] [LawfulEqCmp cmp]
  [DecidableEq β]

/-- The first key in order that has the value. -/
def keyOf (m : TreeMap α β cmp) (b : β) : Option α := (m.toList.find? (·.2 = b)).map Prod.fst

variable {m : TreeMap α β cmp} {a : α} {b : β}

theorem keyOf_eq_none_iff : keyOf m b = none ↔ ∀ a : α, m[a]? ≠ some b := by
  unfold keyOf
  rw [Option.map_eq_none_iff, List.find?_eq_none]
  constructor
  · intro h a ha
    exact h (a, b) (TreeMap.mem_toList_iff_getElem?_eq_some.mpr ha) (by simp)
  · intro h entry hentry hb
    obtain ⟨a, c⟩ := entry
    obtain rfl : c = b := by simpa using hb
    exact h a (TreeMap.mem_toList_iff_getElem?_eq_some.mp hentry)

/-- **The key that is found is the least one that has the value.** -/
theorem keyOf_eq_some_iff :
    keyOf m b = some a ↔ m[a]? = some b ∧ ∀ k, cmp k a = .lt → m[k]? ≠ some b := by
  have hfirst : ∀ {a : α}, keyOf m b = some a →
      m[a]? = some b ∧ ∀ k, cmp k a = .lt → m[k]? ≠ some b := by
    intro a h
    obtain ⟨⟨a', c⟩, hfind, rfl⟩ := Option.map_eq_some_iff.mp h
    obtain ⟨hc, before, after, hlist, hbefore⟩ := List.find?_eq_some_iff_append.mp hfind
    obtain rfl : c = b := of_decide_eq_true hc
    have hmem : (a', c) ∈ m.toList := List.mem_of_find?_eq_some hfind
    refine ⟨TreeMap.mem_toList_iff_getElem?_eq_some.mp hmem, fun k hk hkc => ?_⟩
    have hkmem : (k, c) ∈ m.toList := TreeMap.mem_toList_iff_getElem?_eq_some.mpr hkc
    have hordered := TreeMap.ordered_keys_toList (t := m)
    rw [hlist] at hkmem hordered
    rcases List.mem_append.mp hkmem with hin | hin
    · -- An entry in front of the one that is found has another value.
      simpa using hbefore (k, c) hin
    · rcases List.mem_cons.mp hin with heq | hin
      · obtain rfl : k = a' := congrArg Prod.fst heq
        have hself : cmp k k = .eq := ReflCmp.compare_self
        rw [hself] at hk
        cases hk
      · -- One behind it has a greater key.
        have hlt : cmp a' k = .lt :=
          List.rel_of_pairwise_cons (List.pairwise_append.mp hordered).2.1 hin
        have hswap : cmp a' k = (cmp k a').swap := OrientedCmp.eq_swap
        rw [hlt, hk] at hswap
        cases hswap
  constructor
  · exact hfirst
  · intro ⟨hab, hleast⟩
    cases hkey : keyOf m b with
    | none => exact absurd hab (keyOf_eq_none_iff.mp hkey a)
    | some k =>
      obtain ⟨hkb, hkleast⟩ := hfirst hkey
      cases hcmp : cmp k a with
      | lt => exact absurd hkb (hleast k hcmp)
      | eq => rw [LawfulEqCmp.eq_of_compare hcmp]
      | gt =>
        rw [OrientedCmp.gt_iff_lt] at hcmp
        exact absurd hab (hkleast a hcmp)

end KeysOfValues
