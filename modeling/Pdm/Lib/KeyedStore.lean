/-
Stores that hold one entry for each key.

`put` puts an entry in the place of the one that has its key, or behind all others, and
`remove` takes the entry of a key out.  A store is told apart from another by what stands
in it, so what an operation does is said by what is an entry afterwards.
-/
import Pdm.Lib.Keyed

universe u v

structure KeyedStore {α : Type u} {κ : Type v} (key : α → κ) where
  entries : List α
  nodup : (entries.map key).Nodup

namespace KeyedStore

variable {α : Type u} {κ : Type v} {key : α → κ}

def empty : KeyedStore key := ⟨[], List.nodup_nil⟩

/-- The entry itself, found by its key. -/
theorem eq_of_key (s : KeyedStore key) {x y : α} (hx : x ∈ s.entries) (hy : y ∈ s.entries)
    (hkey : key x = key y) : x = y := List.inj_on_of_nodup_map s.nodup hx hy hkey

variable [DecidableEq κ]

def remove (s : KeyedStore key) (k : κ) : KeyedStore key :=
  ⟨s.entries.filter fun x => key x ≠ k, s.nodup.sublist (List.filter_sublist.map key)⟩

@[simp] theorem mem_remove {s : KeyedStore key} {k : κ} {x : α} :
    x ∈ (s.remove k).entries ↔ x ∈ s.entries ∧ key x ≠ k := by simp [remove]

def put (s : KeyedStore key) (e : α) : KeyedStore key :=
  if h : key e ∈ s.entries.map key then
    ⟨Keyed.put key s.entries e, by rw [Keyed.put_keys]; exact s.nodup⟩
  else
    ⟨s.entries ++ [e], by
      rw [List.map_append, List.nodup_append']
      refine ⟨s.nodup, by simp, ?_⟩
      intro k hk hk'
      rw [List.mem_singleton.mp hk'] at hk
      exact h hk⟩

@[simp] theorem mem_put {s : KeyedStore key} {e x : α} :
    x ∈ (s.put e).entries ↔ x = e ∨ (x ∈ s.entries ∧ key x ≠ key e) := by
  unfold put
  split
  case isTrue h =>
    obtain ⟨y, hy, hkey⟩ := List.mem_map.mp h
    constructor
    · exact Keyed.mem_put key
    · rintro (rfl | ⟨hx, hne⟩)
      · exact List.mem_map.mpr ⟨y, hy, if_pos hkey⟩
      · exact List.mem_map.mpr ⟨x, hx, if_neg hne⟩
  case isFalse h =>
    rw [List.mem_append, List.mem_singleton, or_comm]
    refine or_congr_right ⟨fun hx => ⟨hx, ?_⟩, And.left⟩
    intro hkey
    exact h (List.mem_map.mpr ⟨x, hx, hkey⟩)

/-- An entry whose key is there takes the place of the entry that has it. -/
theorem put_in_place {s : KeyedStore key} {e : α} (h : key e ∈ s.entries.map key) :
    ∃ before x after, s.entries = before ++ x :: after ∧ key x = key e ∧
      (∀ y ∈ before, key y ≠ key e) ∧ (s.put e).entries = before ++ e :: after := by
  obtain ⟨x, hx, hkey⟩ := List.mem_map.mp h
  obtain ⟨before, after, hsplit, hput⟩ := Keyed.put_split key s.nodup hx
  refine ⟨before, x, after, hsplit, hkey, ?_, ?_⟩
  · intro y hy hsame
    have hnodup := s.nodup
    rw [hsplit, List.map_append, List.map_cons, List.nodup_append'] at hnodup
    exact hnodup.2.2 (List.mem_map_of_mem hy) (by rw [hsame, hkey]; simp)
  · unfold put
    rw [dif_pos h]
    exact hput e hkey.symm

/-- Any other entry stands behind all others. -/
theorem put_behind {s : KeyedStore key} {e : α} (h : key e ∉ s.entries.map key) :
    (s.put e).entries = s.entries ++ [e] := by
  unfold put
  rw [dif_neg h]

/-- A run of steps of which each puts an entry, or none. -/
def putAll {ε : Type u} (entry : ε → Option α) (s : KeyedStore key) (l : List ε) :
    KeyedStore key := l.foldl (fun s e => (entry e).elim s s.put) s

/-- What stands in a store after a run is what was put last under its key. -/
theorem mem_putAll {ε : Type u} {entry : ε → Option α} {s : KeyedStore key} {l : List ε} {x : α} :
    x ∈ (putAll entry s l).entries ↔
      (∃ before e after, l = before ++ e :: after ∧ entry e = some x ∧
        ∀ later ∈ after, ∀ y, entry later = some y → key y ≠ key x) ∨
      (x ∈ s.entries ∧ ∀ e ∈ l, ∀ y, entry e = some y → key y ≠ key x) := by
  induction l generalizing s with
  | nil => simp [putAll]
  | cons e l ih =>
    have hstep : putAll entry s (e :: l) = putAll entry ((entry e).elim s s.put) l := rfl
    have hmem : x ∈ ((entry e).elim s s.put).entries ↔
        entry e = some x ∨ (x ∈ s.entries ∧ ∀ y, entry e = some y → key y ≠ key x) := by
      cases entry e with
      | none => simp
      | some y => simp [eq_comm]
    rw [hstep, ih, hmem, List.forall_mem_cons]
    constructor
    · rintro (⟨before, e', after, rfl, hput, hlater⟩ | ⟨hput | ⟨hx, hother⟩, hlater⟩)
      · exact Or.inl ⟨e :: before, e', after, rfl, hput, hlater⟩
      · exact Or.inl ⟨[], e, l, rfl, hput, hlater⟩
      · exact Or.inr ⟨hx, hother, hlater⟩
    · rintro (⟨before, e', after, hl, hput, hlater⟩ | ⟨hx, hother, hlater⟩)
      · cases before with
        | nil =>
          obtain ⟨rfl, rfl⟩ := List.cons.inj hl
          exact Or.inr ⟨Or.inl hput, hlater⟩
        | cons b before =>
          obtain ⟨rfl, rfl⟩ := List.cons.inj hl
          exact Or.inl ⟨before, e', after, rfl, hput, hlater⟩
      · exact Or.inr ⟨Or.inr ⟨hx, hother⟩, hlater⟩

/-- The entry of a key is all that a look by the key finds. -/
theorem filter_key {s : KeyedStore key} {e : α} (he : e ∈ s.entries) :
    (s.entries.filter fun x => key x = key e) = [e] := by
  have hnodup : (s.entries.filter fun x => key x = key e).Nodup :=
    (s.nodup.of_map key).sublist List.filter_sublist
  refine List.perm_singleton.mp ?_
  refine (List.perm_ext_iff_of_nodup hnodup (by simp)).mpr fun x => ?_
  rw [List.mem_filter, List.mem_singleton, decide_eq_true_eq]
  refine ⟨fun h => s.eq_of_key h.1 he h.2, ?_⟩
  rintro rfl
  exact ⟨he, rfl⟩

end KeyedStore
