/-
Whether the ids of a card's controls fit the array they are read into.

The array has room for as many ids as the first listing counts.  Each later listing counts
anew, and the loop goes on to the new count in chunks of a thousand, so its offset is a cursor
towards an end that moves (`Chunks`).  It stays in the array exactly when the chunks taken
so far, or one of the counts with the chunks taken since then, do not lead past the first count.

The driver writes only below the offset that the loop has next (`written_lt_offset`), so the
array is safe when the offset is.  Every listing moves the offset on by at least one, and the
loop stops where it reaches a count; with the counts it is bounded.

**A listing that fails in the loop is told by a positive number, and `main` takes only a
negative one for a failure.**
-/
import Pdm.Lib.Chunks
import Pdm.SndCtl

namespace Pdm.SndCtl

open AllocateElemIds

namespace ElemListAnswer

def Succeeds (a : ElemListAnswer) : Prop := ∃ count used, a = .lists count used

/-- The elements that were counted. -/
def reported : ElemListAnswer → Nat
  | .fails _ => 0
  | .lists count _ => count.toNat

@[simp] theorem succeeds_lists (count used : UInt32) : (lists count used).Succeeds :=
  ⟨count, used, rfl⟩

@[simp] theorem not_succeeds_fails (errno : ℕ+) : ¬ (fails errno).Succeeds := by
  rintro ⟨count, used, h⟩
  cases h

end ElemListAnswer

open ElemListAnswer

/-! ### What an answer leads to -/

variable {calloc : Bool} {s t : AllocateElemIds} {a : ElemListAnswer}
  {answers : List ElemListAnswer}

inductive Stepped (calloc : Bool) (s : AllocateElemIds) :
    ElemListAnswer → AllocateElemIds → Prop
  | uncounted (errno : ℕ+) (hpoint : s.point = .counting) :
      Stepped calloc s (.fails errno) { s with point := .returned (-errno) }
  | empty (used : UInt32) (hpoint : s.point = .counting) :
      Stepped calloc s (.lists 0 used)
        { s with list := { s.list with count := 0, used := used }, point := .returned 0 }
  | refused (count used : UInt32) (hpoint : s.point = .counting) (hcount : count ≠ 0)
      (hcalloc : calloc = false) :
      Stepped calloc s (.lists count used)
        { s with
          list := { s.list with count := count, used := used }
          point := .returned (-ENOMEM) }
  | counted (count used : UInt32) (hpoint : s.point = .counting) (hcount : count ≠ 0)
      (hcalloc : calloc = true) :
      Stepped calloc s (.lists count used)
        (loopHead
          { s with
            list := { s.list with count := count, used := used, offset := 0 }
            allocated := count.toNat })
  | failed (errno : ℕ+) (hpoint : s.point = .reading) :
      Stepped calloc s (.fails errno)
        { s with
          list := { s.list with pids := none }, freed := true, point := .returned errno }
  | read (count used : UInt32) (hpoint : s.point = .reading) :
      Stepped calloc s (.lists count used)
        (loopHead
          { s with
            list := { s.list with
              count := count, used := used, offset := s.list.offset + s.list.space }
            written := s.written ++ s.list.places count used })

theorem step_cases (h : step calloc s a = some t) : Stepped calloc s a t := by
  unfold step at h
  cases hpoint : s.point with
  | counting =>
    cases a with
    | fails errno =>
      rw [hpoint] at h
      cases Option.some.inj h
      exact .uncounted errno hpoint
    | lists count used =>
      rw [hpoint] at h
      dsimp only at h
      by_cases hcount : count = 0
      · rw [if_pos hcount] at h
        cases Option.some.inj h
        subst hcount
        exact .empty used hpoint
      · rw [if_neg hcount] at h
        by_cases hcalloc : calloc = false
        · rw [if_pos hcalloc] at h
          cases Option.some.inj h
          exact .refused count used hpoint hcount hcalloc
        · rw [if_neg hcalloc] at h
          cases Option.some.inj h
          exact .counted count used hpoint hcount (by simpa using hcalloc)
  | reading =>
    cases a with
    | fails errno =>
      rw [hpoint] at h
      cases Option.some.inj h
      exact .failed errno hpoint
    | lists count used =>
      rw [hpoint] at h
      cases Option.some.inj h
      exact .read count used hpoint
  | returned ret =>
    rw [hpoint] at h
    cases h

/-! ### The head of the loop -/

@[simp] theorem loopHead_offset (s : AllocateElemIds) :
    (loopHead s).list.offset = s.list.offset := by
  unfold loopHead
  split <;> rfl

@[simp] theorem loopHead_count (s : AllocateElemIds) :
    (loopHead s).list.count = s.list.count := by
  unfold loopHead
  split <;> rfl

@[simp] theorem loopHead_allocated (s : AllocateElemIds) :
    (loopHead s).allocated = s.allocated := by
  unfold loopHead
  split <;> rfl

@[simp] theorem loopHead_freed (s : AllocateElemIds) : (loopHead s).freed = s.freed := by
  unfold loopHead
  split <;> rfl

@[simp] theorem loopHead_written (s : AllocateElemIds) : (loopHead s).written = s.written := by
  unfold loopHead
  split <;> rfl

/-- What the body of the loop asks for: the next chunk, where the offset is. -/
structure Asks (s : AllocateElemIds) : Prop where
  left : s.list.offset.toNat < s.list.count.toNat
  space : s.list.space.toNat = min 1000 (s.list.count.toNat - s.list.offset.toNat)
  pids : s.list.pids = some s.list.offset.toNat

theorem loopHead_cases (s : AllocateElemIds) :
    ((loopHead s).point = .reading ∧ Asks (loopHead s)) ∨
      ((loopHead s).point = .returned 0 ∧ (loopHead s).list.pids = some 0) := by
  unfold loopHead
  by_cases hleft : s.list.offset < s.list.count
  · rw [if_pos hleft]
    have hdiff : (s.list.count - s.list.offset).toNat = s.list.count.toNat - s.list.offset.toNat :=
      UInt32.toNat_sub_of_le _ _ (UInt32.le_of_lt hleft)
    refine Or.inl ⟨rfl, UInt32.lt_iff_toNat_lt.mp hleft, ?_, rfl⟩
    dsimp only
    rw [← hdiff]
    by_cases hlong : s.list.count - s.list.offset > 1000
    · rw [if_pos hlong]
      have : 1000 < (s.list.count - s.list.offset).toNat := UInt32.lt_iff_toNat_lt.mp hlong
      exact (min_eq_left this.le).symm
    · rw [if_neg hlong]
      have : ¬ 1000 < (s.list.count - s.list.offset).toNat :=
        fun h => hlong (UInt32.lt_iff_toNat_lt.mpr h)
      exact (min_eq_right (not_lt.mp this)).symm
  · rw [if_neg hleft]
    exact Or.inr ⟨rfl, rfl⟩

theorem Asks.offset_add_space (h : Asks s) :
    (s.list.offset + s.list.space).toNat = s.list.offset.toNat + s.list.space.toNat := by
  have hspace := h.space
  have hleft := h.left
  have hword := s.list.count.toNat_lt
  rw [UInt32.toNat_add, Nat.mod_eq_of_lt (by omega)]

theorem Asks.next (h : Asks s) :
    (s.list.offset + s.list.space).toNat =
      min s.list.count.toNat (s.list.offset.toNat + 1000) := by
  rw [h.offset_add_space, h.space]
  have := h.left
  omega

/-- The driver writes from the offset on, and not past the next one. -/
theorem Asks.places (h : Asks s) {count used : UInt32} {place : Nat}
    (hplace : place ∈ s.list.places count used) :
    place < (s.list.offset + s.list.space).toNat := by
  unfold ElemList.places at hplace
  rw [h.pids] at hplace
  obtain ⟨i, hi, rfl⟩ := List.mem_map.mp hplace
  rw [h.offset_add_space]
  have := List.mem_range.mp hi
  omega

/-! ### In the loop -/

/-- Where the loop is after these answers. -/
structure Counts (calloc : Bool) (answers : List ElemListAnswer) (s : AllocateElemIds) :
    Prop where
  memory : calloc = true
  succeeds : ∀ a ∈ answers, a.Succeeds
  array : answers.head?.map reported = some s.allocated
  last : ∃ a ∈ answers, reported a = s.list.count.toNat
  /-- The cursor is ahead of the offset by the chunk that is asked for. -/
  cursor : Chunks.cursor 1000 (answers.map reported) =
    min s.list.count.toNat (s.list.offset.toNat + 1000)
  calls : answers.length ≤ s.list.offset.toNat + 1

theorem Counts.head?_append (h : Counts calloc answers s) (rest : List ElemListAnswer) :
    (answers ++ rest).head? = answers.head? := by
  obtain ⟨first, hfirst, -⟩ := Option.map_eq_some_iff.mp h.array
  rw [List.head?_append, hfirst]
  rfl

theorem Counts.loopHead (h : Counts calloc answers s) :
    Counts calloc answers (loopHead s) where
  memory := h.memory
  succeeds := h.succeeds
  array := by rw [loopHead_allocated]; exact h.array
  last := by rw [loopHead_count]; exact h.last
  cursor := by rw [loopHead_count, loopHead_offset]; exact h.cursor
  calls := by rw [loopHead_offset]; exact h.calls

theorem counts_first {count used : UInt32} {list : ElemList} (hcalloc : calloc = true)
    (hoffset : list.offset = 0) (hcount : list.count = count) :
    Counts calloc [.lists count used] { s with list := list, allocated := count.toNat } where
  memory := hcalloc
  succeeds := by simp
  array := rfl
  last := ⟨.lists count used, by simp, by rw [hcount]; rfl⟩
  cursor := by rw [hoffset, hcount]; rfl
  calls := Nat.le_add_left 1 _

theorem Counts.read (h : Counts calloc answers s) (hasks : Asks s) {count used : UInt32}
    {written : List Nat} :
    Counts calloc (answers ++ [.lists count used])
      { s with
        list := { s.list with
          count := count, used := used, offset := s.list.offset + s.list.space }
        written := written } where
  memory := h.memory
  succeeds := by
    intro a ha
    rcases List.mem_append.mp ha with ha | ha
    · exact h.succeeds a ha
    · rw [List.mem_singleton.mp ha]
      exact succeeds_lists count used
  array := by rw [h.head?_append]; exact h.array
  last := ⟨.lists count used, by simp, rfl⟩
  cursor := by
    rw [List.map_append, List.map_singleton, Chunks.cursor_concat, h.cursor, ← hasks.next]
    rfl
  calls := by
    have hspace := hasks.space
    have hleft := hasks.left
    rw [List.length_append, List.length_singleton, hasks.offset_add_space]
    have := h.calls
    omega

/-- The ways to the `return`, with what is returned. -/
inductive Ended (calloc : Bool) : List ElemListAnswer → Int → Prop
  | uncounted (errno : ℕ+) : Ended calloc [.fails errno] (-errno)
  | empty (used : UInt32) : Ended calloc [.lists 0 used] 0
  | refused (count used : UInt32) (hcount : count ≠ 0) (hcalloc : calloc = false) :
      Ended calloc [.lists count used] (-ENOMEM)
  | failed {answers : List ElemListAnswer} {s : AllocateElemIds} (errno : ℕ+)
      (hcounts : Counts calloc answers s) : Ended calloc (answers ++ [.fails errno]) errno
  | read {answers : List ElemListAnswer} {s : AllocateElemIds}
      (hcounts : Counts calloc answers s) : Ended calloc answers 0

/-- What is known at each point of the code. -/
structure Reached (calloc : Bool) (answers : List ElemListAnswer) (s : AllocateElemIds) :
    Prop where
  start : s.point = .counting → answers = [] ∧ s = {}
  reading : s.point = .reading → Counts calloc answers s ∧ Asks s
  returned : ∀ ret, s.point = .returned ret → Ended calloc answers ret

theorem reached_returned {ret : Int} (h : s.point = .returned ret)
    (hended : Ended calloc answers ret) : Reached calloc answers s where
  start hpoint := by rw [h] at hpoint; cases hpoint
  reading hpoint := by rw [h] at hpoint; cases hpoint
  returned ret' hpoint := by rw [h] at hpoint; cases hpoint; exact hended

theorem reached_loopHead (h : Counts calloc answers s) : Reached calloc answers (loopHead s) := by
  rcases loopHead_cases s with ⟨hpoint, hasks⟩ | ⟨hpoint, -⟩
  · refine ⟨fun hcounting => ?_, fun _ => ⟨h.loopHead, hasks⟩, fun ret hreturned => ?_⟩
    · rw [hpoint] at hcounting
      cases hcounting
    · rw [hpoint] at hreturned
      cases hreturned
  · exact reached_returned hpoint (.read h)

/-- What the listings have in them: the first has no array yet. -/
theorem answers_of_counting (h : Reached calloc answers s) (hpoint : s.point = .counting) :
    answers ++ [a] = [a] ∧ s = {} := by
  obtain ⟨rfl, rfl⟩ := h.start hpoint
  exact ⟨rfl, rfl⟩

theorem reached_step (h : Reached calloc answers s) (hstep : step calloc s a = some t) :
    Reached calloc (answers ++ [a]) t := by
  cases step_cases hstep with
  | uncounted errno hpoint =>
    obtain ⟨hanswers, rfl⟩ := answers_of_counting h hpoint
    rw [hanswers]
    exact reached_returned rfl (.uncounted errno)
  | empty used hpoint =>
    obtain ⟨hanswers, rfl⟩ := answers_of_counting h hpoint
    rw [hanswers]
    exact reached_returned rfl (.empty used)
  | refused count used hpoint hcount hcalloc =>
    obtain ⟨hanswers, rfl⟩ := answers_of_counting h hpoint
    rw [hanswers]
    exact reached_returned rfl (.refused count used hcount hcalloc)
  | counted count used hpoint hcount hcalloc =>
    obtain ⟨hanswers, rfl⟩ := answers_of_counting h hpoint
    rw [hanswers]
    exact reached_loopHead (counts_first hcalloc rfl rfl)
  | failed errno hpoint => exact reached_returned rfl (.failed errno (h.reading hpoint).1)
  | read count used hpoint =>
    obtain ⟨hcounts, hasks⟩ := h.reading hpoint
    exact reached_loopHead (hcounts.read hasks)

theorem reached_start : Reached calloc [] {} :=
  ⟨fun _ => ⟨rfl, rfl⟩, (fun hpoint => nomatch hpoint), (fun _ hpoint => nomatch hpoint)⟩

theorem reached (h : allocate_elem_ids calloc answers = some s) : Reached calloc answers s :=
  Schedules.run_history (P := Reached calloc) reached_start (fun _ _ _ _ => reached_step) h

/-- The rule for what holds after every run of answers: one case for each way a step can go. -/
theorem answers_rule {P : List ElemListAnswer → AllocateElemIds → Prop} (hstart : P [] {})
    (hstep : ∀ answers a s t, Reached calloc answers s → P answers s → Stepped calloc s a t →
      P (answers ++ [a]) t)
    (h : allocate_elem_ids calloc answers = some s) : P answers s := by
  refine (Schedules.run_history (P := fun answers s => Reached calloc answers s ∧ P answers s)
    ⟨reached_start, hstart⟩ ?_ h).2
  intro answers s a t hs ht
  exact ⟨reached_step hs.1 ht, hstep answers a s t hs.1 hs.2 (step_cases ht)⟩

/-! ### The array -/

/-- Every listing in the loop is asked for ids that end inside the array: the chunks taken do
not lead past the count of the first listing, or one of the counts told before it and the
chunks since then do not. -/
def EveryChunkFits (answers : List ElemListAnswer) : Prop :=
  Schedules.Always (fun before a => ∀ first ∈ before.head?, a.Succeeds →
    Chunks.Within 1000 (reported first) (before.map reported)) answers

theorem everyChunkFits_concat :
    EveryChunkFits (answers ++ [a]) ↔ EveryChunkFits answers ∧
      ∀ first ∈ answers.head?, a.Succeeds →
        Chunks.Within 1000 (reported first) (answers.map reported) :=
  Schedules.always_concat

theorem everyChunkFits_singleton : EveryChunkFits [a] := by
  rw [← List.nil_append [a], everyChunkFits_concat]
  exact ⟨Schedules.always_nil, by simp⟩

theorem offset_le_iff (h : allocate_elem_ids calloc answers = some s) :
    s.list.offset.toNat ≤ s.allocated ↔ EveryChunkFits answers := by
  refine answers_rule
    (P := fun answers s => s.list.offset.toNat ≤ s.allocated ↔ EveryChunkFits answers)
    ?_ ?_ h
  · exact iff_of_true (Nat.zero_le _) Schedules.always_nil
  intro answers a s t hs hiff hstep
  cases hstep with
  | uncounted errno hpoint | empty used hpoint | refused count used hpoint hcount hcalloc
  | counted count used hpoint hcount hcalloc =>
    obtain ⟨hanswers, rfl⟩ := answers_of_counting hs hpoint
    rw [hanswers]
    exact iff_of_true (by simp) everyChunkFits_singleton
  | failed errno hpoint =>
    rw [everyChunkFits_concat, ← hiff]
    exact ⟨fun hle => ⟨hle, fun _ _ hsucceeds => absurd hsucceeds (not_succeeds_fails errno)⟩,
      And.left⟩
  | read count used hpoint =>
    obtain ⟨hcounts, hasks⟩ := hs.reading hpoint
    obtain ⟨first, hfirst, harray⟩ := Option.map_eq_some_iff.mp hcounts.array
    have hnext : (s.list.offset + s.list.space).toNat =
        Chunks.cursor 1000 (answers.map reported) := by rw [hcounts.cursor, hasks.next]
    rw [everyChunkFits_concat, ← hiff, loopHead_offset, loopHead_allocated]
    have hchunk : (∀ first ∈ answers.head?, (lists count used).Succeeds →
          Chunks.Within 1000 (reported first) (answers.map reported)) ↔
        (s.list.offset + s.list.space).toNat ≤ s.allocated := by
      rw [hnext, Chunks.cursor_le_iff, hfirst, ← harray]
      simp
    rw [hchunk]
    have hgrown : s.list.offset.toNat ≤ (s.list.offset + s.list.space).toNat := by
      rw [hasks.offset_add_space]
      exact Nat.le_add_right _ _
    exact ⟨fun hle => ⟨hgrown.trans hle, hle⟩, And.right⟩

theorem written_lt_offset (h : allocate_elem_ids calloc answers = some s) :
    ∀ place ∈ s.written, place < s.list.offset.toNat := by
  refine answers_rule
    (P := fun _ s => ∀ place ∈ s.written, place < s.list.offset.toNat) (by simp) ?_ h
  intro answers a s t hs hwritten hstep
  cases hstep with
  | uncounted errno hpoint | empty used hpoint | refused count used hpoint hcount hcalloc
  | failed errno hpoint => exact hwritten
  | counted count used hpoint hcount hcalloc =>
    obtain ⟨-, rfl⟩ := answers_of_counting (a := .lists count used) hs hpoint
    simp
  | read count used hpoint =>
    obtain ⟨-, hasks⟩ := hs.reading hpoint
    intro place hplace
    rw [loopHead_offset]
    rw [loopHead_written] at hplace
    rcases List.mem_append.mp hplace with hbefore | hnow
    · have := hwritten place hbefore
      show place < (s.list.offset + s.list.space).toNat
      rw [hasks.offset_add_space]
      omega
    · exact hasks.places hnow

/-! ### How many listings there are -/

/-- **The loop ends: there are no more listings than the largest count, and the first one.** -/
theorem answers_length (h : allocate_elem_ids calloc answers = some s) {bound : Nat}
    (hbound : ∀ a ∈ answers, reported a ≤ bound) : answers.length ≤ bound + 1 := by
  refine answers_rule (P := fun answers _ => (∀ a ∈ answers, reported a ≤ bound) →
    answers.length ≤ bound + 1) (by simp) ?_ h hbound
  intro answers a s t hs hlength hstep hbound
  have hlater : s.point = .reading → (answers ++ [a]).length ≤ bound + 1 := by
    intro hpoint
    obtain ⟨hcounts, hasks⟩ := hs.reading hpoint
    obtain ⟨last, hlast, hcount⟩ := hcounts.last
    have hle := hbound last (List.mem_append_left _ hlast)
    have hcalls := hcounts.calls
    have hleft := hasks.left
    rw [List.length_append, List.length_singleton]
    omega
  cases hstep with
  | uncounted errno hpoint | empty used hpoint | refused count used hpoint hcount hcalloc
  | counted count used hpoint hcount hcalloc =>
    obtain ⟨hanswers, -⟩ := answers_of_counting hs hpoint
    rw [hanswers]
    exact Nat.le_add_left 1 bound
  | failed errno hpoint => exact hlater hpoint
  | read count used hpoint => exact hlater hpoint

/-! ### What is returned -/

/-- The memory for the array was asked for and there was none. -/
def AllocationFails (calloc : Bool) (answers : List ElemListAnswer) : Prop :=
  calloc = false ∧ ∃ first ∈ answers.head?, first.Succeeds ∧ reported first ≠ 0

/-- The allocation or a listing failed. -/
def Failure (calloc : Bool) (answers : List ElemListAnswer) : Prop :=
  AllocationFails calloc answers ∨ ∃ a ∈ answers, ¬ a.Succeeds

/-- There was a failure before the loop. -/
def FirstFailure (calloc : Bool) (answers : List ElemListAnswer) : Prop :=
  AllocationFails calloc answers ∨ ∃ first ∈ answers.head?, ¬ first.Succeeds

theorem failure_singleton : Failure calloc [a] ↔ FirstFailure calloc [a] := by
  simp [Failure, FirstFailure]

theorem Counts.not_failure (h : Counts calloc answers s) : ¬ Failure calloc answers := by
  rintro (hallocation | ⟨a, ha, hfails⟩)
  · exact Bool.false_ne_true (hallocation.1.symm.trans h.memory)
  · exact hfails (h.succeeds a ha)

theorem Counts.not_firstFailure (h : Counts calloc answers s) (rest : List ElemListAnswer) :
    ¬ FirstFailure calloc (answers ++ rest) := by
  rintro (hallocation | ⟨first, hfirst, hfails⟩)
  · exact Bool.false_ne_true (hallocation.1.symm.trans h.memory)
  · rw [h.head?_append] at hfirst
    exact hfails (h.succeeds first (List.mem_of_mem_head? hfirst))

/-- Every listing but the first succeeds. -/
def LaterSucceed (answers : List ElemListAnswer) : Prop :=
  Schedules.Always (fun before a => before ≠ [] → a.Succeeds) answers

theorem laterSucceed_concat :
    LaterSucceed (answers ++ [a]) ↔ LaterSucceed answers ∧ (answers ≠ [] → a.Succeeds) :=
  Schedules.always_concat

theorem laterSucceed_singleton : LaterSucceed [a] := by
  rw [← List.nil_append [a], laterSucceed_concat]
  exact ⟨Schedules.always_nil, fun hne => absurd rfl hne⟩

theorem laterSucceed_of_all (h : ∀ a ∈ answers, a.Succeeds) : LaterSucceed answers := by
  rintro before a after rfl -
  exact h a (by simp)

theorem Counts.not_laterSucceed (h : Counts calloc answers s) (errno : ℕ+) :
    ¬ LaterSucceed (answers ++ [.fails errno]) := by
  intro hlater
  refine not_succeeds_fails errno ((laterSucceed_concat.mp hlater).2 ?_)
  rintro rfl
  cases h.array

namespace Ended

variable {ret : Int}

/-- **A negative number is returned for a failure before the loop, and for no other.** -/
theorem neg_iff (h : Ended calloc answers ret) : ret < 0 ↔ FirstFailure calloc answers := by
  cases h with
  | uncounted errno =>
    refine iff_of_true ?_ (Or.inr ⟨_, rfl, not_succeeds_fails errno⟩)
    have := errno.pos
    omega
  | empty used => simp [FirstFailure, AllocationFails, reported]
  | refused count used hcount hcalloc =>
    refine iff_of_true (by decide) (Or.inl ⟨hcalloc, _, rfl, succeeds_lists count used, ?_⟩)
    exact fun hzero => hcount (UInt32.toNat_inj.mp hzero)
  | failed errno hcounts =>
    exact iff_of_false (not_lt.mpr (Int.natCast_nonneg _)) (hcounts.not_firstFailure _)
  | read hcounts =>
    refine iff_of_false (lt_irrefl 0) ?_
    rw [← List.append_nil answers]
    exact hcounts.not_firstFailure []

theorem tells_iff (h : Ended calloc answers ret) :
    (ret < 0 ↔ Failure calloc answers) ↔ LaterSucceed answers := by
  rw [h.neg_iff]
  cases h with
  | uncounted errno | empty used | refused count used hcount hcalloc =>
    exact iff_of_true failure_singleton.symm laterSucceed_singleton
  | failed errno hcounts =>
    refine iff_of_false (fun htold => ?_) (hcounts.not_laterSucceed errno)
    exact hcounts.not_firstFailure _
      (htold.mpr (Or.inr ⟨.fails errno, by simp, not_succeeds_fails errno⟩))
  | read hcounts =>
    refine iff_of_true (iff_of_false ?_ hcounts.not_failure) (laterSucceed_of_all hcounts.succeeds)
    rw [← List.append_nil answers]
    exact hcounts.not_firstFailure []

end Ended

/-- A negative number is returned for a failure, and for nothing else. -/
def TellsFailure (calloc : Bool) (answers : List ElemListAnswer) (s : AllocateElemIds) : Prop :=
  ∀ ret, s.point = .returned ret → (ret < 0 ↔ Failure calloc answers)

theorem tellsFailure_iff (h : allocate_elem_ids calloc answers = some s) :
    TellsFailure calloc answers s ↔ LaterSucceed answers := by
  have hreached := reached h
  cases hpoint : s.point with
  | returned ret =>
    have htells := (hreached.returned ret hpoint).tells_iff
    refine ⟨fun htold => htells.mp (htold ret hpoint), fun hlater ret' hpoint' => ?_⟩
    rw [hpoint] at hpoint'
    cases hpoint'
    exact htells.mpr hlater
  | counting =>
    obtain ⟨rfl, -⟩ := hreached.start hpoint
    refine iff_of_true (fun ret hreturned => ?_) Schedules.always_nil
    rw [hpoint] at hreturned
    cases hreturned
  | reading =>
    refine iff_of_true (fun ret hreturned => ?_)
      (laterSucceed_of_all (hreached.reading hpoint).1.succeeds)
    rw [hpoint] at hreturned
    cases hreturned

/-! ### The program -/

/-- The list points at the array as long as there is one. -/
structure Holds (s : AllocateElemIds) : Prop where
  freed : s.freed = true → s.list.pids = none
  dropped : s.list.pids = none → s.allocated = 0 ∨ s.freed = true

theorem holds_loopHead (h : s.freed = false) : Holds (loopHead s) := by
  have hpids : (loopHead s).list.pids ≠ none := by
    rcases loopHead_cases s with ⟨-, hasks⟩ | ⟨-, hpids⟩
    · rw [hasks.pids]
      exact Option.some_ne_none _
    · rw [hpids]
      exact Option.some_ne_none _
  refine ⟨fun hfreed => ?_, fun hnone => absurd hnone hpids⟩
  rw [loopHead_freed, h] at hfreed
  cases hfreed

theorem holds (h : allocate_elem_ids calloc answers = some s) : Holds s := by
  refine answers_rule (P := fun _ s => Holds s)
    ⟨(fun hfreed => nomatch hfreed), fun _ => Or.inl rfl⟩ ?_ h
  intro answers a s t hs hholds hstep
  cases hstep with
  | uncounted errno hpoint => exact ⟨hholds.freed, hholds.dropped⟩
  | empty used hpoint => exact ⟨hholds.freed, hholds.dropped⟩
  | refused count used hpoint hcount hcalloc => exact ⟨hholds.freed, hholds.dropped⟩
  | counted count used hpoint hcount hcalloc =>
    obtain ⟨-, rfl⟩ := answers_of_counting (a := .lists count used) hs hpoint
    exact holds_loopHead rfl
  | failed errno hpoint => exact ⟨fun _ => rfl, fun _ => Or.inr rfl⟩
  | read count used hpoint =>
    obtain ⟨-, hasks⟩ := hs.reading hpoint
    refine holds_loopHead (Bool.eq_false_iff.mpr fun hfreed => ?_)
    have hnone := hholds.freed hfreed
    rw [hasks.pids] at hnone
    cases hnone

/-- No array is left that nothing points at, and none is freed twice. -/
theorem deallocate_elem_ids_frees (h : allocate_elem_ids calloc answers = some s) :
    ((deallocate_elem_ids s).allocated = 0 ∨ (deallocate_elem_ids s).freed = true) ∧
      (s.freed = true → deallocate_elem_ids s = s) := by
  have hholds := holds h
  unfold deallocate_elem_ids
  by_cases hnone : s.list.pids = none
  · simpa [hnone] using hholds.dropped hnone
  · refine ⟨Or.inr (by simp [hnone]), fun hfreed => absurd (hholds.freed hfreed) hnone⟩

/-- **The program succeeds with what it was called with and what the card tells of itself; of
the listings only the first counts.** -/
theorem main_exitSuccess (h : allocate_elem_ids calloc answers = some s) {ret : Int}
    (hreturned : s.point = .returned ret) (strerror : ℕ+ → String) (argc : Nat)
    (opened : Except ℕ+ Unit) (info : Except ℕ+ CardInfo) :
    (main strerror argc opened s ret info).status = .exitSuccess ↔
      2 ≤ argc ∧ opened.isOk ∧ ¬ FirstFailure calloc answers ∧ info.isOk := by
  rw [← ((reached h).returned ret hreturned).neg_iff]
  unfold main
  by_cases hargc : argc < 2
  · simp [hargc]
  rw [if_neg hargc]
  cases opened with
  | error errno => simp [Except.isOk, Except.toBool]
  | ok fd =>
    by_cases hret : ret < 0
    · simp [hret]
    cases info with
    | error errno =>
      have := errno.pos
      simp [hret, dump_card_info, Except.isOk, Except.toBool]
    | ok info => simp [hret, dump_card_info, Except.isOk, Except.toBool, not_lt.mp hargc]

/-! ### Reading the ids -/

structure ReadsSafely (calloc : Bool) (answers : List ElemListAnswer) (s : AllocateElemIds) :
    Prop where
  inside : ∀ place ∈ s.written, place < s.allocated
  within : s.list.offset.toNat ≤ s.allocated
  ends : ∀ bound, (∀ a ∈ answers, reported a ≤ bound) → answers.length ≤ bound + 1
  told : TellsFailure calloc answers s

/-- **Wherever the function is after these answers, it has read the ids safely exactly when
every listing but the first succeeds and every chunk fits the count of the first.** -/
theorem readsSafely_iff (h : allocate_elem_ids calloc answers = some s) :
    ReadsSafely calloc answers s ↔ EveryChunkFits answers ∧ LaterSucceed answers := by
  constructor
  · intro hsafe
    exact ⟨(offset_le_iff h).mp hsafe.within, (tellsFailure_iff h).mp hsafe.told⟩
  · rintro ⟨hfits, hlater⟩
    have hwithin := (offset_le_iff h).mpr hfits
    exact
      { inside := fun place hplace => (written_lt_offset h place hplace).trans_le hwithin
        within := hwithin
        ends := fun _ => answers_length h
        told := (tellsFailure_iff h).mpr hlater }

/-- One of three elements goes away before their ids are read. -/
theorem readsSafely_oneGone : ∃ s,
    allocate_elem_ids true [.lists 3 0, .lists 2 2] = some s ∧ s.point = .returned 0 ∧
      s.written = [0, 1] ∧ ReadsSafely true [.lists 3 0, .lists 2 2] s := by
  refine ⟨_, rfl, rfl, rfl, (readsSafely_iff rfl).mpr ⟨?_, ?_⟩⟩
  · refine everyChunkFits_concat.mpr
      (⟨everyChunkFits_singleton, ?_⟩ : EveryChunkFits [.lists 3 0] ∧ _)
    rintro first hfirst -
    cases hfirst
    exact Or.inr ⟨[], 3, [], rfl, le_refl 3⟩
  · exact laterSucceed_of_all (by simp)

/-- An element that comes while the first one is read is written behind the array; and a
device that goes away then is told by its `errno`. -/
theorem element_added :
    (∃ s, allocate_elem_ids true [.lists 1 0, .lists 2 1, .lists 2 1] = some s ∧
      s.allocated = 1 ∧ s.written = [0, 1] ∧ s.list.offset = 2 ∧
      ¬ ReadsSafely true [.lists 1 0, .lists 2 1, .lists 2 1] s) ∧
    ∃ s, allocate_elem_ids true [.lists 1 0, .fails 19] = some s ∧ s.point = .returned 19 ∧
      ¬ ReadsSafely true [.lists 1 0, .fails 19] s := by
  refine ⟨⟨_, rfl, rfl, rfl, rfl, fun hsafe => ?_⟩, ⟨_, rfl, rfl, fun hsafe => ?_⟩⟩
  · exact absurd hsafe.within (by decide)
  · have hnegative := (hsafe.told 19 rfl).mpr (Or.inr ⟨.fails 19, by simp, not_succeeds_fails 19⟩)
    exact absurd hnegative (by decide)

end Pdm.SndCtl
