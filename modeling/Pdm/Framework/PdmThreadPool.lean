/-
`PdmThreadPool`, from one moment under `queue_mutex` to the next.

Everything the workers and the callers share is read and written under `queue_mutex`, so a
critical section is one step.  What lies between the steps is the point here: a worker that
finds nothing to do falls asleep in `condition.wait` and lets go of the lock in the same
moment, a call of `enqueue` wakes a worker only after it has let go of the lock, and
`wait` may also return for no reason.

A task is an object of its own, so none is handed over twice.  `created`, `accepted`,
`refused`, `started` and `finished` are a record of what has happened; no step reads them but
to see that a task is new.
-/
import Mathlib.Data.List.Basic
import Pdm.Lib.Schedules

namespace Pdm

/-- Where a worker is in its loop. -/
inductive WorkerPhase (τ : Type) where
  /-- in front of the lock: at the beginning of a turn, or woken in `condition.wait` -/
  | ready
  /-- in `condition.wait` -/
  | asleep
  /-- in `task()` -/
  | running (task : τ)
  | returned
  deriving DecidableEq, Repr

/-- Where the destructor is. -/
inductive DestructorPhase where
  | notCalled
  /-- in front of `notify_all` -/
  | terminating
  /-- in its loop, with so many workers joined -/
  | joining (joined : Nat)
  deriving DecidableEq, Repr

structure PdmThreadPool (τ : Type) where
  terminate : Bool := false
  pdmTasks : List τ := []
  workers : List (WorkerPhase τ)
  /-- The calls of `enqueue` that have let go of the lock and not called `notify_one` yet,
  each by its task. -/
  notifying : List τ := []
  destructor : DestructorPhase := .notCalled
  created : List τ := []
  accepted : List τ := []
  /-- The tasks for which `enqueue` has thrown. -/
  refused : List τ := []
  started : List τ := []
  finished : List τ := []
  deriving DecidableEq, Repr

/-- What happens next. -/
inductive ThreadPoolStep (τ : Type) where
  /-- A call of `enqueue` holds the lock; it throws on a terminated pool and where memory runs
  out. -/
  | enqueue (task : τ) (outOfMemory : Bool)
  /-- `notify_one` wakes this worker, or none where none is asleep. -/
  | notifyOne (task : τ) (woken : Option Nat)
  /-- A worker holds the lock: it takes a task, falls asleep or returns. -/
  | turn (worker : Nat)
  /-- `condition.wait` returns to a worker that nobody has woken. -/
  | wakeUp (worker : Nat)
  | taskReturns (worker : Nat)
  /-- The destructor sets `terminate`. -/
  | terminate
  | notifyAll
  /-- The destructor's `join` of the next worker returns. -/
  | join
  deriving DecidableEq, Repr

namespace WorkerPhase

variable {τ : Type}

/-- The task that a worker has in hand. -/
def task : WorkerPhase τ → List τ
  | .running task => [task]
  | _ => []

/-- `notify_all` on one worker. -/
def woken : WorkerPhase τ → WorkerPhase τ
  | .asleep => .ready
  | phase => phase

end WorkerPhase

namespace PdmThreadPool

variable {τ : Type}

/-- The constructor: every worker is on its way to the lock. -/
def create (τ : Type) (threads : Nat) : PdmThreadPool τ where
  workers := List.replicate threads .ready

/-- Put a worker into a phase. -/
def moveTo (p : PdmThreadPool τ) (worker : Nat) (phase : WorkerPhase τ) : PdmThreadPool τ :=
  { p with workers := p.workers.set worker phase }

section moveTo

variable (p : PdmThreadPool τ) (worker : Nat) (phase : WorkerPhase τ)

@[simp] theorem moveTo_terminate : (p.moveTo worker phase).terminate = p.terminate := rfl
@[simp] theorem moveTo_pdmTasks : (p.moveTo worker phase).pdmTasks = p.pdmTasks := rfl
@[simp] theorem moveTo_notifying : (p.moveTo worker phase).notifying = p.notifying := rfl
@[simp] theorem moveTo_destructor : (p.moveTo worker phase).destructor = p.destructor := rfl
@[simp] theorem moveTo_workers :
    (p.moveTo worker phase).workers = p.workers.set worker phase := rfl

end moveTo

variable [DecidableEq τ]

/-- One step, where it can be taken. -/
def step (p : PdmThreadPool τ) : ThreadPoolStep τ → Option (PdmThreadPool τ)
  | .enqueue task outOfMemory =>
    if task ∈ p.created then none
    else if p.terminate ∨ outOfMemory then
      some { p with created := p.created ++ [task], refused := p.refused ++ [task] }
    else
      some { p with
        created := p.created ++ [task]
        accepted := p.accepted ++ [task]
        pdmTasks := p.pdmTasks ++ [task]
        notifying := p.notifying ++ [task] }
  | .notifyOne task woken =>
    if task ∉ p.notifying then none
    else
      match woken with
      | none =>
        if .asleep ∈ p.workers then none else some { p with notifying := p.notifying.erase task }
      | some worker =>
        if p.workers[worker]? = some .asleep then
          some { p.moveTo worker .ready with notifying := p.notifying.erase task }
        else none
  | .turn worker =>
    if p.workers[worker]? = some .ready then
      match p.pdmTasks with
      | task :: rest =>
        some { p.moveTo worker (.running task) with
          pdmTasks := rest, started := p.started ++ [task] }
      | [] => some (p.moveTo worker (if p.terminate then .returned else .asleep))
    else none
  | .wakeUp worker =>
    if p.workers[worker]? = some .asleep then some (p.moveTo worker .ready) else none
  | .taskReturns worker =>
    match p.workers[worker]? with
    | some (.running task) =>
      some { p.moveTo worker .ready with finished := p.finished ++ [task] }
    | _ => none
  | .terminate =>
    if p.destructor = .notCalled then
      some { p with terminate := true, destructor := .terminating }
    else none
  | .notifyAll =>
    if p.destructor = .terminating then
      some { p with workers := p.workers.map (·.woken), destructor := .joining 0 }
    else none
  | .join =>
    match p.destructor with
    | .joining joined =>
      if p.workers[joined]? = some .returned then
        some { p with destructor := .joining (joined + 1) }
      else none
    | _ => none

/-- The destructor has joined all workers. -/
def Destroyed (p : PdmThreadPool τ) : Prop := p.destructor = .joining p.workers.length

/-- A task is run by the one worker that the call of `enqueue` wakes, after `wait` has returned
to the other one for no reason. -/
example :
    (Schedules.run step (create Nat 2)
      [.turn 0, .turn 1, .enqueue 7 false, .wakeUp 1, .notifyOne 7 (some 0), .turn 0, .turn 1,
        .taskReturns 0]).map (fun p => (p.finished, p.workers)) =
      some ([7], [.ready, .asleep]) := by decide

end PdmThreadPool

namespace ThreadPoolStep

variable {τ : Type}

/-- The steps of the pool itself: no caller begins one, and `wait` returns to nobody unasked. -/
def own : ThreadPoolStep τ → Bool
  | .enqueue _ _ => false
  | .wakeUp _ => false
  | .terminate => false
  | _ => true

end ThreadPoolStep

end Pdm
