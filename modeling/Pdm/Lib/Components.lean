/-
A text and its components between separators.

`split_induction` takes a text apart at its first separator.  `occurrences` says what a search
for a separator followed by a name finds: the components that begin with the name, except for
the first one, which no separator precedes.
-/
import Mathlib.Data.List.Infix

namespace Components

universe u v

variable {α : Type u} [DecidableEq α] {sep : α}

/-- A text has no separator, or there is one behind its first component. -/
theorem split_induction (sep : α) {motive : List α → Prop} (last : ∀ c, sep ∉ c → motive c)
    (cons : ∀ c rest, sep ∉ c → motive rest → motive (c ++ sep :: rest)) (l : List α) :
    motive l := by
  by_cases h : sep ∈ l
  · obtain ⟨c, rest, hl, hc⟩ := List.eq_append_cons_of_mem h
    have hrest : rest.length < l.length := by
      rw [hl, List.length_append, List.length_cons]
      omega
    rw [hl]
    exact cons c rest hc (split_induction sep last cons rest)
  · exact last l h
termination_by l.length

/-- The first component, and what follows it. -/
theorem head_split (sep : α) (l : List α) :
    ∃ c cs r, l.splitOn sep = c :: cs ∧ l = c ++ r ∧ sep ∉ c ∧ (r = [] ∨ ∃ r', r = sep :: r') := by
  by_cases h : sep ∈ l
  · obtain ⟨c, rest, hl, hc⟩ := List.eq_append_cons_of_mem h
    refine ⟨c, rest.splitOn sep, sep :: rest, ?_, hl, hc, Or.inr ⟨rest, rfl⟩⟩
    rw [hl, List.splitOn_append_cons_self_of_not_mem hc]
  · exact ⟨l, [], [], List.splitOn_eq_singleton h, (List.append_nil l).symm, h, Or.inl rfl⟩

/-- A name without the separator begins a text exactly when it begins its first component. -/
theorem isPrefixOf_append_iff {name c r : List α} (hname : sep ∉ name)
    (hr : r = [] ∨ ∃ r', r = sep :: r') :
    name.isPrefixOf (c ++ r) = name.isPrefixOf c := by
  rw [Bool.eq_iff_iff, List.isPrefixOf_iff_prefix, List.isPrefixOf_iff_prefix]
  constructor
  · intro h
    rcases List.prefix_or_prefix_of_prefix h (List.prefix_append c r) with hc | ⟨t, ht⟩
    · exact hc
    · -- what the name has beyond the component begins with the separator
      rcases hr with rfl | ⟨r', rfl⟩
      · rw [List.append_nil] at h
        exact h
      · subst ht
        rw [List.prefix_append_right_inj] at h
        cases t with
        | nil => rw [List.append_nil]
        | cons a t =>
          obtain ⟨rfl, -⟩ := List.cons_prefix_cons.mp h
          simp at hname
  · intro h
    exact h.trans (List.prefix_append c r)

/-- No suffix of a component begins with the separator. -/
theorem tails_filter_append {name c : List α} (hc : sep ∉ c) (l : List α) :
    (c ++ sep :: l).tails.filter ((sep :: name).isPrefixOf ·)
      = (sep :: l).tails.filter ((sep :: name).isPrefixOf ·) := by
  induction c with
  | nil => rfl
  | cons a c ih =>
    have ha : sep ≠ a := fun h => hc (h ▸ List.mem_cons_self)
    have hc' : sep ∉ c := fun h => hc (List.mem_cons_of_mem a h)
    have hno : ¬ (sep :: name).isPrefixOf (a :: (c ++ sep :: l)) = true := by
      rw [List.isPrefixOf_iff_prefix, List.cons_prefix_cons]
      exact fun h => ha h.1
    rw [List.cons_append, List.tails_cons, List.filter_cons_of_neg hno, ih hc']

theorem tails_filter_of_notMem {name c : List α} (hc : sep ∉ c) :
    c.tails.filter ((sep :: name).isPrefixOf ·) = [] := by
  rw [List.filter_eq_nil_iff]
  intro t ht hstarts
  rw [List.isPrefixOf_iff_prefix] at hstarts
  have hmem : sep ∈ t := hstarts.subset List.mem_cons_self
  exact hc (((List.mem_tails t c).mp ht).subset hmem)

variable {β : Type v}

/-- **What a search for a separator and a name finds.** -/
theorem occurrences {name : List α} (hname : sep ∉ name) (f g : List α → β)
    (hread : ∀ c r, name <+: c → (r = [] ∨ ∃ r', r = sep :: r') → f (sep :: (c ++ r)) = g c)
    (l : List α) :
    (l.tails.filter ((sep :: name).isPrefixOf ·)).map f
      = ((l.splitOn sep).tail.filter (name.isPrefixOf ·)).map g := by
  induction l using split_induction sep with
  | last c hc => rw [tails_filter_of_notMem hc, List.splitOn_eq_singleton hc]; rfl
  | cons c rest hc ih =>
    obtain ⟨c', cs, r, hsplit, hrest, -, hr⟩ := head_split sep rest
    rw [tails_filter_append hc, List.splitOn_append_cons_self_of_not_mem hc, List.tail_cons,
      List.tails_cons]
    rw [hsplit] at ih ⊢
    have hhead : (sep :: name).isPrefixOf (sep :: rest) = name.isPrefixOf c' := by
      rw [hrest, ← isPrefixOf_append_iff hname hr]
      simp [List.isPrefixOf]
    by_cases h : name.isPrefixOf c' = true
    · rw [List.filter_cons_of_pos (hhead.trans h), List.filter_cons_of_pos h, List.map_cons,
        List.map_cons, ih]
      congr 1
      rw [hrest]
      exact hread c' r (List.isPrefixOf_iff_prefix.mp h) hr
    · rw [List.filter_cons_of_neg (by rw [hhead]; exact h), List.filter_cons_of_neg h, ih]
      rfl

end Components
