/-
One slot that is written again and again with payloads of different lengths.

A write covers the beginning of the slot and leaves the rest.  A reader that comes back
for an earlier payload finds it whole when every payload written since agrees with it as
far as both go, and if all readers that come in order find what they came for, this is
also necessary (`intact_iff`): a byte that was spoilt and restored is spoilt for the
payload that had spoilt it, and some payload is the last.
-/
import Mathlib.Data.List.Basic
import Mathlib.Tactic.Push

namespace Slots

universe u

variable {α : Type u}

/-- The slot after `p` has been copied to its beginning. -/
def write (p s : List α) : List α := p ++ s.drop p.length

theorem write_getElem? (p s : List α) (x : Nat) :
    (write p s)[x]? = if x < p.length then p[x]? else s[x]? := by
  unfold write
  by_cases hx : x < p.length
  · rw [if_pos hx, List.getElem?_append_left hx]
  · rw [if_neg hx, List.getElem?_append_right (by omega), List.getElem?_drop]
    congr 1
    omega

/-- The slot after the first `m` payloads. -/
def content (s : List α) (p : Nat → List α) : Nat → List α
  | 0 => s
  | m + 1 => write (p m) (content s p m)

variable {s : List α} {p : Nat → List α}

/-- One of two payloads begins with the other. -/
def Agree (a b : List α) : Prop := a <+: b ∨ b <+: a

instance [DecidableEq α] (a b : List α) : Decidable (Agree a b) :=
  inferInstanceAs (Decidable (a <+: b ∨ b <+: a))

theorem agree_iff {a b : List α} :
    Agree a b ↔ ∀ x, x < a.length → x < b.length → a[x]? = b[x]? := by
  constructor
  · rintro (h | h) x ha hb
    · exact (List.prefix_iff_getElem?.mp h x ha).symm ▸ List.getElem?_eq_getElem ha
    · rw [List.prefix_iff_getElem?.mp h x hb, List.getElem?_eq_getElem hb]
  · intro h
    rcases Nat.le_total a.length b.length with hle | hle
    · refine Or.inl (List.prefix_iff_getElem?.mpr fun x hx => ?_)
      rw [← h x hx (by omega), List.getElem?_eq_getElem hx]
    · refine Or.inr (List.prefix_iff_getElem?.mpr fun x hx => ?_)
      rw [h x (by omega) hx, List.getElem?_eq_getElem hx]

/-- Every byte that some payload covers comes from the last payload that covers it. -/
theorem last_writer {x k m : Nat} (hk : k < m) (hx : x < (p k).length) :
    ∃ j, k ≤ j ∧ j < m ∧ x < (p j).length ∧ (content s p m)[x]? = (p j)[x]? := by
  induction m with
  | zero => omega
  | succ m ih =>
    by_cases hm : x < (p m).length
    · refine ⟨m, by omega, by omega, hm, ?_⟩
      rw [content, write_getElem?, if_pos hm]
    · have hlt : k < m := by
        rcases Nat.lt_or_ge k m with hlt | hge
        · exact hlt
        · obtain rfl : k = m := by omega
          exact absurd hx hm
      obtain ⟨j, hkj, hjm, hj, heq⟩ := ih hlt
      refine ⟨j, hkj, by omega, hj, ?_⟩
      rw [content, write_getElem?, if_neg hm, heq]

/-- A reader that comes for payload `k` after `m` payloads finds it. -/
def Intact (s : List α) (p : Nat → List α) (k m : Nat) : Prop :=
  (content s p m).take (p k).length = p k

theorem intact_iff_getElem? {k m : Nat} :
    Intact s p k m ↔ ∀ x, x < (p k).length → (content s p m)[x]? = (p k)[x]? := by
  unfold Intact
  constructor
  · intro h x hx
    rw [← h, List.getElem?_take, if_pos hx]
  · intro h
    refine List.ext_getElem? fun x => ?_
    rw [List.getElem?_take]
    by_cases hx : x < (p k).length
    · rw [if_pos hx, h x hx]
    · rw [if_neg hx, List.getElem?_eq_none (by omega)]

/-- Payloads that agree with it do not spoil a payload. -/
theorem intact_of_agree {k m : Nat} (hk : k < m)
    (h : ∀ j, k < j → j < m → Agree (p k) (p j)) : Intact s p k m := by
  refine intact_iff_getElem?.mpr fun x hx => ?_
  obtain ⟨j, hkj, hjm, hj, heq⟩ := last_writer (s := s) hk hx
  rcases Nat.eq_or_lt_of_le hkj with rfl | hlt
  · exact heq
  · rw [heq, agree_iff.mp (h j hlt hjm) x hx hj]

section Readers

/-! ### Readers that come in order -/

variable {n : Nat} {R : Nat → Nat → Prop}

/-- Where all readers find what they came for, no payload spoils an earlier one. -/
theorem agree_of_intact (hread : ∀ k, k < n → ∃ m, R k m) (hbound : ∀ k m, R k m → m ≤ n)
    (hmono : ∀ k j m m', R k m → R j m' → k ≤ j → m ≤ m')
    (hintact : ∀ k m, R k m → Intact s p k m) :
    ∀ d k j m, n - j = d → R k m → k < j → j < m → Agree (p k) (p j) := by
  intro d
  induction d using Nat.strongRecOn with
  | ind d ih =>
    intro k j m hd hkm hkj hjm
    refine agree_iff.mpr fun x hk hj => ?_
    obtain ⟨i, hji, him, hi, heq⟩ := last_writer (s := s) hjm hj
    have hfound : (p k)[x]? = (p i)[x]? := by
      rw [← intact_iff_getElem?.mp (hintact k m hkm) x hk, heq]
    rcases Nat.eq_or_lt_of_le hji with rfl | hlt
    · exact hfound
    · -- the reader of payload `j` comes later still, so `i` does not spoil it
      have hn : m ≤ n := hbound k m hkm
      obtain ⟨m', hjm'⟩ := hread j (by omega)
      have hle : m ≤ m' := hmono k j m m' hkm hjm' (by omega)
      have hagree := ih (n - i) (by omega) j i m' rfl hjm' hlt (by omega)
      rw [hfound, agree_iff.mp hagree x hj hi]

/-- **All readers find what they came for if and only if no payload was followed, before
it was read, by one that does not agree with it.** -/
theorem intact_iff (hread : ∀ k, k < n → ∃ m, R k m) (hbound : ∀ k m, R k m → k < m ∧ m ≤ n)
    (hmono : ∀ k j m m', R k m → R j m' → k ≤ j → m ≤ m') :
    (∀ k m, R k m → Intact s p k m) ↔
      ∀ k j m, R k m → k < j → j < m → Agree (p k) (p j) := by
  constructor
  · intro hintact k j m hkm
    exact agree_of_intact hread (fun k m h => (hbound k m h).2) hmono hintact _ k j m rfl hkm
  · intro hagree k m hkm
    exact intact_of_agree (hbound k m hkm).1 fun j hkj hjm => hagree k j m hkm hkj hjm

end Readers

end Slots
