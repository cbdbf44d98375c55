/-
Threads that share a state and a mutex.

The code of a thread is a tree: what comes next is a function of the state it has seen, or of
whether it got the mutex.  It is a monad, so a function that takes the mutex is written as it
stands.  `Brackets b c b'` says that `c` is begun inside (`b`) or outside the section between
lock and unlock, never locks inside or unlocks outside, and leaves by every exit as `b'` says; its
rules follow the code.

A thread that tries to lock goes on whether or not it got the mutex, and an unlock frees it
whoever has it.  For code that keeps its brackets, all goes well exactly as long as every lock
finds the mutex free (`guarded_iff`).
-/
import Mathlib.Logic.Function.Basic
import Pdm.Lib.Schedules

namespace TryLocks

universe u v

/-- What is left of a thread's code.  A step may change the shared state, and what comes next
depends on the state it has found. -/
inductive Code (σ : Type u) (α : Type) where
  | ret (a : α)
  | act (effect : σ → σ) (next : σ → Code σ α)
  | tryLock (next : Bool → Code σ α)
  | unlock (next : Code σ α)

namespace Code

variable {σ : Type u} {α β : Type}

def bind : Code σ α → (α → Code σ β) → Code σ β
  | ret a, f => f a
  | act effect next, f => act effect fun s => (next s).bind f
  | tryLock next, f => tryLock fun got => (next got).bind f
  | unlock next, f => unlock (next.bind f)

instance : Monad (Code σ) where
  pure := ret
  bind := bind

/-- One access to the shared state. -/
def modifyGet (f : σ → β × σ) : Code σ β := act (fun s => (f s).2) fun s => ret (f s).1

/-- The code with nobody else about: it gets the mutex. -/
def alone : Code σ α → σ → α × σ
  | ret a, s => (a, s)
  | act effect next, s => (next s).alone (effect s)
  | tryLock next, s => (next true).alone s
  | unlock next, s => next.alone s

@[simp] theorem alone_pure (a : α) (s : σ) : (pure a : Code σ α).alone s = (a, s) := rfl

@[simp] theorem alone_modifyGet (f : σ → β × σ) (next : β → Code σ α) (s : σ) :
    (modifyGet f >>= next).alone s = (next (f s).1).alone (f s).2 := rfl

@[simp] theorem alone_tryLock (next : Bool → Code σ α) (s : σ) :
    (tryLock next).alone s = (next true).alone s := rfl

@[simp] theorem alone_unlock (next : Code σ α) (s : σ) :
    (unlock next).alone s = next.alone s := rfl

theorem alone_ite {p : Prop} [Decidable p] (c c' : Code σ α) (s : σ) :
    (if p then c else c').alone s = if p then c.alone s else c'.alone s :=
  apply_ite (fun c => c.alone s) p c c'

/-! ### Lock and unlock as brackets -/

/-- Begun inside the section or outside, the code locks only outside, unlocks only inside and
is done as the last flag says. -/
def Brackets : Code σ α → Bool → Bool → Prop
  | ret _, inside, after => inside = after
  | act _ next, inside, after => ∀ s, (next s).Brackets inside after
  | tryLock next, inside, after => inside = false ∧ ∀ got, (next got).Brackets true after
  | unlock next, inside, after => inside = true ∧ next.Brackets false after

theorem brackets_pure (a : α) (inside : Bool) : (pure a : Code σ α).Brackets inside inside := rfl

theorem brackets_modifyGet (f : σ → β × σ) (inside : Bool) :
    (modifyGet f).Brackets inside inside := fun _ => rfl

theorem brackets_bind {c : Code σ α} {f : α → Code σ β} {inside within after : Bool}
    (hc : c.Brackets inside within) (hf : ∀ a, (f a).Brackets within after) :
    (c >>= f).Brackets inside after := by
  show (c.bind f).Brackets inside after
  induction c generalizing inside with
  | ret a =>
    have hinside : inside = within := hc
    rw [hinside]
    exact hf a
  | act effect next ih => exact fun s => ih s (hc s)
  | tryLock next ih => exact ⟨hc.1, fun got => ih got (hc.2 got)⟩
  | unlock next ih => exact ⟨hc.1, ih hc.2⟩

theorem brackets_ite {p : Prop} [Decidable p] {c c' : Code σ α} {inside after : Bool}
    (hc : c.Brackets inside after) (hc' : c'.Brackets inside after) :
    (if p then c else c').Brackets inside after := by
  by_cases hp : p
  · rw [if_pos hp]
    exact hc
  · rw [if_neg hp]
    exact hc'

/-- What is between a lock and the unlocks, whether the mutex was got or not. -/
theorem brackets_tryLock {next : Bool → Code σ α} {after : Bool}
    (h : ∀ got, (next got).Brackets true after) : (tryLock next).Brackets false after := ⟨rfl, h⟩

theorem brackets_unlock {next : Code σ α} {after : Bool} (h : next.Brackets false after) :
    (unlock next).Brackets true after := ⟨rfl, h⟩

end Code

/-! ### Threads -/

/-- The threads `ι` at some moment: what each has left to do, the state they share, who owns the
mutex, and which of them are between a lock and its unlock. -/
structure Threads (ι : Type v) (σ : Type u) where
  code : ι → Code σ Unit
  shared : σ
  owner : Option ι := none
  inside : ι → Bool := fun _ => false

variable {ι : Type v} {σ : Type u}

namespace Threads

def step [DecidableEq ι] (s : Threads ι σ) (i : ι) : Option (Threads ι σ) :=
  match s.code i with
  | .ret _ => none
  | .act effect next =>
    some
      { s with
        code := Function.update s.code i (next s.shared)
        shared := effect s.shared }
  | .tryLock next =>
    some
      { s with
        code := Function.update s.code i (next s.owner.isNone)
        owner := some (s.owner.getD i)
        inside := Function.update s.inside i true }
  | .unlock next =>
    some
      { s with
        code := Function.update s.code i next
        owner := none
        inside := Function.update s.inside i false }

/-- The thread's next step is to lock. -/
def Locks (s : Threads ι σ) (i : ι) : Prop := ∃ next, s.code i = .tryLock next

/-- The thread's next step is to unlock. -/
def Unlocks (s : Threads ι σ) (i : ι) : Prop := ∃ next, s.code i = .unlock next

/-- At most one thread is between a lock and its unlock. -/
def Exclusive (s : Threads ι σ) : Prop :=
  ∀ i j, s.inside i = true → s.inside j = true → i = j

/-- If the thread unlocks now it owns the mutex. -/
def OwnerUnlocks (s : Threads ι σ) (i : ι) : Prop := s.Unlocks i → s.owner = some i

/-- If the thread locks now nobody owns the mutex. -/
def FindsFree (s : Threads ι σ) (i : ι) : Prop := s.Locks i → s.owner = none

/-- After the thread's step at most one thread is inside, and if it unlocks it owns the mutex. -/
def Guarded [DecidableEq ι] (s : Threads ι σ) (i : ι) : Prop :=
  s.OwnerUnlocks i ∧ ∀ t ∈ s.step i, t.Exclusive

/-- The owner is who is inside, and all that is left to do keeps its brackets. -/
structure Bracketed (s : Threads ι σ) : Prop where
  owner : ∀ i, s.owner = some i ↔ s.inside i = true
  code : ∀ i, (s.code i).Brackets (s.inside i) false

variable {s t : Threads ι σ} {i : ι}

theorem Bracketed.exclusive (h : s.Bracketed) : s.Exclusive := by
  intro i j hi hj
  exact Option.some.inj (((h.owner i).mpr hi).symm.trans ((h.owner j).mpr hj))

theorem Bracketed.ownerUnlocks (h : s.Bracketed) (i : ι) : s.OwnerUnlocks i := by
  rintro ⟨next, hcode⟩
  have hbrackets := h.code i
  rw [hcode] at hbrackets
  exact (h.owner i).mpr hbrackets.1

variable [DecidableEq ι]

theorem Bracketed.step (h : s.Bracketed) (hfree : s.FindsFree i) (hstep : step s i = some t) :
    t.Bracketed := by
  have hbrackets := h.code i
  unfold Threads.step at hstep
  cases hcode : s.code i with
  | ret a =>
    rw [hcode] at hstep
    cases hstep
  | act effect next =>
    rw [hcode] at hstep hbrackets
    cases hstep
    refine ⟨h.owner, fun j => ?_⟩
    by_cases hj : j = i
    · subst hj
      simpa using hbrackets s.shared
    · simpa [Function.update_of_ne hj] using h.code j
  | tryLock next =>
    have howner := hfree ⟨next, hcode⟩
    rw [hcode] at hstep hbrackets
    cases hstep
    refine ⟨fun j => ?_, fun j => ?_⟩
    · by_cases hj : j = i
      · simp [hj, howner]
      · have hout : s.inside j = false := by
          rw [← Bool.not_eq_true, ← h.owner j, howner]
          exact (Option.some_ne_none j).symm
        simp [Function.update_of_ne hj, howner, hout, Ne.symm hj]
    · by_cases hj : j = i
      · subst hj
        simpa using hbrackets.2 _
      · simpa [Function.update_of_ne hj] using h.code j
  | unlock next =>
    rw [hcode] at hstep hbrackets
    cases hstep
    have howner : s.owner = some i := (h.owner i).mpr hbrackets.1
    refine ⟨fun j => ?_, fun j => ?_⟩
    · by_cases hj : j = i
      · simp [hj]
      · have hout : s.inside j = false := by
          rw [← Bool.not_eq_true, ← h.owner j, howner]
          exact fun heq => hj (Option.some.inj heq).symm
        simp [Function.update_of_ne hj, hout]
    · by_cases hj : j = i
      · subst hj
        simpa using hbrackets.2
      · simpa [Function.update_of_ne hj] using h.code j

/-- A lock that finds the mutex taken puts a second thread inside. -/
theorem Bracketed.findsFree (h : s.Bracketed) (hexclusive : ∀ t ∈ s.step i, t.Exclusive) :
    s.FindsFree i := by
  rintro ⟨next, hcode⟩
  by_contra hne
  obtain ⟨j, howner⟩ := Option.ne_none_iff_exists'.mp hne
  have hbrackets := h.code i
  rw [hcode] at hbrackets
  have hj : s.inside j = true := (h.owner j).mp howner
  have hji : j ≠ i := by
    rintro rfl
    exact Bool.false_ne_true (hbrackets.1.symm.trans hj)
  have hstep : s.step i = some
      { s with
        code := Function.update s.code i (next s.owner.isNone)
        owner := some (s.owner.getD i)
        inside := Function.update s.inside i true } := by
    unfold Threads.step
    rw [hcode]
  refine hji (hexclusive _ hstep j i ?_ ?_)
  · simpa [Function.update_of_ne hji] using hj
  · simp

/-- **Along every schedule, the mutex is unlocked by its owner only and at most one thread is
inside exactly when every lock finds the mutex free.** -/
theorem guarded_iff (h : s.Bracketed) (is : List ι) :
    Schedules.StepsAll step Guarded s is ↔ Schedules.StepsAll step FindsFree s is := by
  refine Schedules.stepsAll_congr (I := Bracketed) ?_ ?_ h
  · intro s i t hs hguarded hstep
    exact hs.step (hs.findsFree hguarded.2) hstep
  · intro s i hs
    refine ⟨fun hguarded => hs.findsFree hguarded.2, fun hfree => ⟨hs.ownerUnlocks i, ?_⟩⟩
    exact fun t ht => (hs.step hfree ht).exclusive

end Threads

end TryLocks
