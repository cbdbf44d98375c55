/-
A text that is read line by line, and bindings of which the first counts.

`getlines` takes a text apart as a reader of lines does: the last line may lack its end, and
an end with nothing behind it begins no line.  `firstValue` is what a list of bindings says
of a key when later bindings of the same key are dropped, as `insertNew` drops them.
-/
import Mathlib.Data.List.Basic

namespace Lines

/-! ### Lines -/

/-- The lines of a text, after what has been read of the first. -/
def getlines (line : List Char) : List Char → List (List Char)
  | [] => if line = [] then [] else [line]
  | c :: cs => if c = '\n' then line :: getlines [] cs else getlines (line ++ [c]) cs

theorem getlines_cons {c : Char} (h : c ≠ '\n') (line cs : List Char) :
    getlines line (c :: cs) = getlines (line ++ [c]) cs := if_neg h

/-- The lines that have something on them. -/
def written (cs : List Char) : List (List Char) := (getlines [] cs).filter (· ≠ [])

theorem getlines_append_newline {l : List Char} (h : '\n' ∉ l) (line rest : List Char) :
    getlines line (l ++ '\n' :: rest) = (line ++ l) :: getlines [] rest := by
  induction l generalizing line with
  | nil => simp [getlines]
  | cons c l ih =>
    have hc : c ≠ '\n' := fun hc => h (hc ▸ List.mem_cons_self)
    have hl : '\n' ∉ l := fun hl => h (List.mem_cons_of_mem c hl)
    rw [List.cons_append, getlines_cons hc, ih hl, List.append_assoc, List.singleton_append]

theorem getlines_of_notMem {l : List Char} (h : '\n' ∉ l) (line : List Char) :
    getlines line l = if line ++ l = [] then [] else [line ++ l] := by
  induction l generalizing line with
  | nil => rw [List.append_nil]; rfl
  | cons c l ih =>
    have hc : c ≠ '\n' := fun hc => h (hc ▸ List.mem_cons_self)
    have hl : '\n' ∉ l := fun hl => h (List.mem_cons_of_mem c hl)
    rw [getlines_cons hc, ih hl, List.append_assoc, List.singleton_append]

/-- A line, where there is something on it. -/
def piece (l : List Char) : List (List Char) := if l = [] then [] else [l]

theorem written_append_newline {l : List Char} (h : '\n' ∉ l) (rest : List Char) :
    written (l ++ '\n' :: rest) = piece l ++ written rest := by
  unfold written piece
  rw [getlines_append_newline h, List.nil_append]
  by_cases hl : l = []
  · simp [hl]
  · simp [hl]

theorem written_of_notMem {l : List Char} (h : '\n' ∉ l) : written l = piece l := by
  unfold written piece
  rw [getlines_of_notMem h, List.nil_append]
  by_cases hl : l = []
  · simp [hl]
  · simp [hl]

/-- Lines that are each put on a line of their own, the last one ended or not. -/
theorem written_join {lines : List (List Char)} (hne : ∀ l ∈ lines, l ≠ [])
    (hone : ∀ l ∈ lines, '\n' ∉ l) {first : List Char} (hfirst : '\n' ∉ first)
    {tail : List Char} (htail : tail = [] ∨ tail = ['\n']) :
    written (first ++ lines.flatMap ('\n' :: ·) ++ tail) = piece first ++ lines := by
  induction lines generalizing first with
  | nil =>
    rw [List.flatMap_nil, List.append_nil, List.append_nil]
    rcases htail with rfl | rfl
    · rw [List.append_nil, written_of_notMem hfirst]
    · rw [written_append_newline hfirst]
      exact List.append_nil _
  | cons l lines ih =>
    have hl := hone l List.mem_cons_self
    have hrest := ih (fun l' h => hne l' (List.mem_cons_of_mem l h))
      (fun l' h => hone l' (List.mem_cons_of_mem l h)) hl
    have hpiece : piece l = [l] := if_neg (hne l List.mem_cons_self)
    have hassoc : first ++ (l :: lines).flatMap ('\n' :: ·) ++ tail
        = first ++ '\n' :: (l ++ lines.flatMap ('\n' :: ·) ++ tail) := by
      simp
    rw [hassoc, written_append_newline hfirst, hrest, hpiece, List.singleton_append]

/-- The last place in a list where something is found. -/
theorem exists_last {α : Type} {p : α → Prop} {l : List α} (h : ∃ a ∈ l, p a) :
    ∃ before a after, l = before ++ a :: after ∧ p a ∧ ∀ b ∈ after, ¬ p b := by
  induction l with
  | nil =>
    obtain ⟨a, ha, -⟩ := h
    exact absurd ha List.not_mem_nil
  | cons x l ih =>
    by_cases hl : ∃ a ∈ l, p a
    · obtain ⟨before, a, after, rfl, ha, hafter⟩ := ih hl
      exact ⟨x :: before, a, after, rfl, ha, hafter⟩
    · obtain ⟨a, ha, hpa⟩ := h
      rcases List.mem_cons.mp ha with rfl | ha
      · exact ⟨[], a, l, rfl, hpa, fun b hb hpb => hl ⟨b, hb, hpb⟩⟩
      · exact absurd ⟨a, ha, hpa⟩ hl

/-! ### Bindings -/

universe u v

variable {κ : Type u} {β : Type v} [DecidableEq κ]

/-- What the first binding of a key says. -/
def firstValue (key : κ) : List (κ × β) → Option β
  | [] => none
  | (k, v) :: bindings => if k = key then some v else firstValue key bindings

/-- A binding is added where its key has none. -/
def insertNew (bindings : List (κ × β)) (b : κ × β) : List (κ × β) :=
  if firstValue b.1 bindings = none then bindings ++ [b] else bindings

@[simp] theorem firstValue_nil (key : κ) : firstValue key ([] : List (κ × β)) = none := rfl

theorem firstValue_cons (key : κ) (b : κ × β) (l : List (κ × β)) :
    firstValue key (b :: l) = if b.1 = key then some b.2 else firstValue key l := rfl

theorem firstValue_append (key : κ) (l l' : List (κ × β)) :
    firstValue key (l ++ l') = (firstValue key l).or (firstValue key l') := by
  induction l with
  | nil => rfl
  | cons b l ih =>
    rw [List.cons_append, firstValue_cons, firstValue_cons, ih]
    by_cases hb : b.1 = key <;> simp [hb]

theorem firstValue_insertNew (key : κ) (l : List (κ × β)) (b : κ × β) :
    firstValue key (insertNew l b) = (firstValue key l).or (firstValue key [b]) := by
  unfold insertNew
  by_cases h : firstValue b.1 l = none
  · rw [if_pos h, firstValue_append]
  · rw [if_neg h]
    by_cases hb : b.1 = key
    · subst hb
      cases hl : firstValue b.1 l with
      | none => exact absurd hl h
      | some v => rfl
    · simp [firstValue, hb]

/-- Of bindings that are inserted one after the other, the first counts. -/
theorem firstValue_foldl_insertNew (key : κ) (l bindings : List (κ × β)) :
    firstValue key (bindings.foldl insertNew l)
      = (firstValue key l).or (firstValue key bindings) := by
  induction bindings generalizing l with
  | nil => simp [firstValue]
  | cons b bindings ih =>
    rw [List.foldl_cons, ih, firstValue_insertNew, Option.or_assoc, ← firstValue_append]
    rfl

theorem firstValue_eq_none {key : κ} {l : List (κ × β)} :
    firstValue key l = none ↔ ∀ b ∈ l, b.1 ≠ key := by
  induction l with
  | nil => simp [firstValue]
  | cons b l ih =>
    rw [firstValue_cons]
    by_cases hb : b.1 = key
    · simp [hb]
    · simp [hb, ih]

theorem firstValue_eq_some {key : κ} {v : β} {l : List (κ × β)} :
    firstValue key l = some v ↔
      ∃ pre post, l = pre ++ (key, v) :: post ∧ ∀ b ∈ pre, b.1 ≠ key := by
  constructor
  · intro h
    induction l with
    | nil => cases h
    | cons b l ih =>
      rw [firstValue_cons] at h
      by_cases hb : b.1 = key
      · rw [if_pos hb] at h
        obtain rfl : b = (key, v) := Prod.ext hb (Option.some.inj h)
        exact ⟨[], l, rfl, fun _ hnil => absurd hnil List.not_mem_nil⟩
      · rw [if_neg hb] at h
        obtain ⟨pre, post, rfl, hpre⟩ := ih h
        refine ⟨b :: pre, post, rfl, ?_⟩
        rw [List.forall_mem_cons]
        exact ⟨hb, hpre⟩
  · rintro ⟨pre, post, rfl, hpre⟩
    rw [firstValue_append, firstValue_eq_none.mpr hpre, firstValue_cons, if_pos rfl]
    rfl

/-- Two lists with a common end tell the same when they do of every key before it. -/
theorem firstValue_congr_iff {pre pre' post : List (κ × β)} :
    (∀ key, firstValue key (pre ++ post) = firstValue key (pre' ++ post)) ↔
      ∀ b ∈ pre' ++ pre, firstValue b.1 (pre ++ post) = firstValue b.1 (pre' ++ post) := by
  refine ⟨fun h b _ => h b.1, ?_⟩
  intro h key
  by_cases hkey : ∃ b ∈ pre' ++ pre, b.1 = key
  · obtain ⟨b, hb, rfl⟩ := hkey
    exact h b hb
  · have hnone : ∀ l, (∀ b ∈ l, b ∈ pre' ++ pre) → firstValue key l = none := by
      intro l hl
      rw [firstValue_eq_none]
      intro b hb hbkey
      exact hkey ⟨b, hl b hb, hbkey⟩
    rw [firstValue_append, firstValue_append, hnone pre fun b hb => List.mem_append_right _ hb,
      hnone pre' fun b hb => List.mem_append_left _ hb]

end Lines
