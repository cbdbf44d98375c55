/-
The thread pool loses no wake-up, no task and no worker.

A worker falls asleep where it finds the queue empty, and only there.  So while one sleeps,
every task in the queue has a worker on its way to the lock or a `notify_one` that is still to
come (`Attended`): no task waits for a busy worker while another one sleeps.  And the steps
the pool takes of its own come to an end, in a state in which all that was accepted has been
run (`Drained`): there is neither a deadlock nor a worker that the destructor joins in vain.
-/
import Mathlib.Data.List.Nodup
import Pdm.Framework.PdmThreadPool
import Pdm.Lib.Parties

namespace Pdm

namespace PdmThreadPool

variable {τ : Type}

/-! ### What a step does -/

/-- The steps that can be taken, with what each leaves. -/
inductive Stepped [DecidableEq τ] (p : PdmThreadPool τ) : ThreadPoolStep τ → PdmThreadPool τ → Prop
  | refused (task : τ) (outOfMemory : Bool) (hnew : task ∉ p.created)
      (hrefused : p.terminate = true ∨ outOfMemory = true) :
      Stepped p (.enqueue task outOfMemory)
        { p with created := p.created ++ [task], refused := p.refused ++ [task] }
  | accepted (task : τ) (hnew : task ∉ p.created) (hopen : p.terminate = false) :
      Stepped p (.enqueue task false)
        { p with
          created := p.created ++ [task]
          accepted := p.accepted ++ [task]
          pdmTasks := p.pdmTasks ++ [task]
          notifying := p.notifying ++ [task] }
  | unheard (task : τ) (htask : task ∈ p.notifying) (hawake : .asleep ∉ p.workers) :
      Stepped p (.notifyOne task none) { p with notifying := p.notifying.erase task }
  | heard (task : τ) (worker : Nat) (htask : task ∈ p.notifying)
      (hworker : p.workers[worker]? = some .asleep) :
      Stepped p (.notifyOne task (some worker))
        { p.moveTo worker .ready with notifying := p.notifying.erase task }
  | taken (worker : Nat) (task : τ) (rest : List τ) (hworker : p.workers[worker]? = some .ready)
      (htasks : p.pdmTasks = task :: rest) :
      Stepped p (.turn worker)
        { p.moveTo worker (.running task) with
          pdmTasks := rest, started := p.started ++ [task] }
  | returned (worker : Nat) (hworker : p.workers[worker]? = some .ready)
      (htasks : p.pdmTasks = []) (hterminate : p.terminate = true) :
      Stepped p (.turn worker) (p.moveTo worker .returned)
  | fellAsleep (worker : Nat) (hworker : p.workers[worker]? = some .ready)
      (htasks : p.pdmTasks = []) (hterminate : p.terminate = false) :
      Stepped p (.turn worker) (p.moveTo worker .asleep)
  | wokeUp (worker : Nat) (hworker : p.workers[worker]? = some .asleep) :
      Stepped p (.wakeUp worker) (p.moveTo worker .ready)
  | finished (worker : Nat) (task : τ) (hworker : p.workers[worker]? = some (.running task)) :
      Stepped p (.taskReturns worker)
        { p.moveTo worker .ready with finished := p.finished ++ [task] }
  | terminated (hfirst : p.destructor = .notCalled) :
      Stepped p .terminate { p with terminate := true, destructor := .terminating }
  | notifiedAll (hnext : p.destructor = .terminating) :
      Stepped p .notifyAll
        { p with workers := p.workers.map (·.woken), destructor := .joining 0 }
  | joined (joined : Nat) (hnext : p.destructor = .joining joined)
      (hworker : p.workers[joined]? = some .returned) :
      Stepped p .join { p with destructor := .joining (joined + 1) }

theorem step_cases [DecidableEq τ] {p q : PdmThreadPool τ} {i : ThreadPoolStep τ}
    (hstep : p.step i = some q) : Stepped p i q := by
  cases i with
  | enqueue task outOfMemory =>
    simp only [step] at hstep
    split at hstep
    case isTrue => cases hstep
    case isFalse hnew =>
      split at hstep
      case isTrue hrefused =>
        rw [← Option.some.inj hstep]
        exact .refused task outOfMemory hnew hrefused
      case isFalse hopen =>
        rw [← Option.some.inj hstep]
        obtain rfl : outOfMemory = false := Bool.eq_false_iff.mpr fun h => hopen (Or.inr h)
        exact .accepted task hnew (Bool.eq_false_iff.mpr fun h => hopen (Or.inl h))
  | notifyOne task woken =>
    simp only [step] at hstep
    split at hstep
    case isTrue => cases hstep
    case isFalse htask =>
      cases woken with
      | none =>
        obtain ⟨hawake, hq⟩ := Option.ite_none_left_eq_some.mp hstep
        rw [← Option.some.inj hq]
        exact .unheard task (not_not.mp htask) hawake
      | some worker =>
        obtain ⟨hworker, hq⟩ := Option.ite_none_right_eq_some.mp hstep
        rw [← Option.some.inj hq]
        exact .heard task worker (not_not.mp htask) hworker
  | turn worker =>
    obtain ⟨hworker, hq⟩ := Option.ite_none_right_eq_some.mp hstep
    split at hq
    · rename_i task rest htasks
      rw [← Option.some.inj hq]
      exact .taken worker task rest hworker htasks
    · rename_i htasks
      rw [← Option.some.inj hq]
      cases hterminate : p.terminate with
      | true => exact .returned worker hworker htasks hterminate
      | false => exact .fellAsleep worker hworker htasks hterminate
  | wakeUp worker =>
    obtain ⟨hworker, hq⟩ := Option.ite_none_right_eq_some.mp hstep
    rw [← Option.some.inj hq]
    exact .wokeUp worker hworker
  | taskReturns worker =>
    simp only [step] at hstep
    split at hstep
    · rename_i task hworker
      rw [← Option.some.inj hstep]
      exact .finished worker task hworker
    · cases hstep
  | terminate =>
    obtain ⟨hfirst, hq⟩ := Option.ite_none_right_eq_some.mp hstep
    rw [← Option.some.inj hq]
    exact .terminated hfirst
  | notifyAll =>
    obtain ⟨hnext, hq⟩ := Option.ite_none_right_eq_some.mp hstep
    rw [← Option.some.inj hq]
    exact .notifiedAll hnext
  | join =>
    simp only [step] at hstep
    split at hstep
    · rename_i joined hnext
      obtain ⟨hworker, hq⟩ := Option.ite_none_right_eq_some.mp hstep
      rw [← Option.some.inj hq]
      exact .joined joined hnext hworker
    · cases hstep

/-! ### The destructor -/

/-- The destructor's progress, as the other fields know it. -/
structure Shutdown (p : PdmThreadPool τ) : Prop where
  terminate : p.terminate = true ↔ p.destructor ≠ .notCalled
  /-- Once `notify_all` has been called, nobody sleeps any more. -/
  awake : ∀ joined, p.destructor = .joining joined → .asleep ∉ p.workers
  returned : .returned ∈ p.workers → p.terminate = true ∧ p.pdmTasks = []
  joined : ∀ joined, p.destructor = .joining joined →
    joined ≤ p.workers.length ∧ ∀ i, i < joined → p.workers[i]? = some .returned

theorem create_shutdown (threads : Nat) : (create τ threads).Shutdown := by
  refine ⟨by simp [create], by simp [create], ?_, by simp [create]⟩
  intro h
  exact absurd (List.eq_of_mem_replicate h) (by simp)

/-- A worker that has not returned moves to where it neither sleeps nor has returned. -/
theorem Shutdown.moveTo {p : PdmThreadPool τ} (h : p.Shutdown) {worker : Nat}
    {old : WorkerPhase τ} (hworker : p.workers[worker]? = some old) (new : WorkerPhase τ)
    (hold : old ≠ .returned) (hasleep : new = .asleep → p.terminate = false)
    (hreturned : new = .returned → p.terminate = true ∧ p.pdmTasks = []) :
    (p.moveTo worker new).Shutdown := by
  refine ⟨h.terminate, ?_, ?_, ?_⟩
  · intro joined hjoining hmem
    rw [moveTo_destructor] at hjoining
    by_cases hnew : new = .asleep
    · have hterminate := h.terminate.mpr (by rw [hjoining]; exact DestructorPhase.noConfusion)
      rw [hasleep hnew] at hterminate
      exact absurd hterminate (by simp)
    · exact h.awake joined hjoining (Parties.mem_of_mem_set (Ne.symm hnew) hmem)
  · intro hmem
    by_cases hnew : new = .returned
    · exact hreturned hnew
    · exact h.returned (Parties.mem_of_mem_set (Ne.symm hnew) hmem)
  · intro joined hjoining
    obtain ⟨hle, hall⟩ := h.joined joined hjoining
    refine ⟨by simpa [PdmThreadPool.moveTo] using hle, fun i hi => ?_⟩
    exact Parties.getElem?_set_of_ne hworker (hall i hi) (Ne.symm hold)

/-- The tasks may change where nobody has returned. -/
theorem Shutdown.withTasks {p : PdmThreadPool τ} (h : p.Shutdown)
    (htasks : .returned ∉ p.workers) (created accepted pdmTasks notifying started : List τ) :
    Shutdown { p with
      created := created, accepted := accepted, pdmTasks := pdmTasks, notifying := notifying
      started := started } :=
  ⟨h.terminate, h.awake, fun hmem => absurd hmem htasks, h.joined⟩

theorem step_shutdown [DecidableEq τ] {p q : PdmThreadPool τ} {i : ThreadPoolStep τ}
    (h : p.Shutdown) (hstep : p.step i = some q) : q.Shutdown := by
  cases step_cases hstep with
  | refused task outOfMemory _ _ => exact ⟨h.terminate, h.awake, h.returned, h.joined⟩
  | accepted task _ hopen =>
    refine h.withTasks (fun hmem => ?_) _ _ _ _ _
    rw [(h.returned hmem).1] at hopen
    exact absurd hopen (by simp)
  | unheard task _ _ => exact ⟨h.terminate, h.awake, h.returned, h.joined⟩
  | heard task worker _ hworker =>
    have hmoved := h.moveTo hworker .ready (by simp) (by simp) (by simp)
    exact ⟨hmoved.terminate, hmoved.awake, hmoved.returned, hmoved.joined⟩
  | taken worker task rest hworker htasks =>
    have hmoved := h.moveTo hworker (.running task) (by simp) (by simp) (by simp)
    refine hmoved.withTasks (fun hmem => ?_) _ _ _ _ _
    rw [(h.returned (Parties.mem_of_mem_set (by simp) hmem)).2] at htasks
    exact absurd htasks (by simp)
  | returned worker hworker htasks hterminate =>
    exact h.moveTo hworker _ (by simp) (by simp) fun _ => ⟨hterminate, htasks⟩
  | fellAsleep worker hworker _ hterminate =>
    exact h.moveTo hworker _ (by simp) (fun _ => hterminate) (by simp)
  | wokeUp worker hworker => exact h.moveTo hworker _ (by simp) (by simp) (by simp)
  | finished worker task hworker =>
    have hmoved := h.moveTo hworker .ready (by simp) (by simp) (by simp)
    exact ⟨hmoved.terminate, hmoved.awake, hmoved.returned, hmoved.joined⟩
  | terminated hfirst =>
    refine ⟨by simp, by simp, fun hmem => ?_, by simp⟩
    have hterminate := h.terminate.mp (h.returned hmem).1
    exact absurd hfirst hterminate
  | notifiedAll hnext =>
    have hterminate : p.terminate = true :=
      h.terminate.mpr (by rw [hnext]; exact DestructorPhase.noConfusion)
    refine ⟨by simp [hterminate], ?_, ?_, ?_⟩
    · intro joined _ hmem
      obtain ⟨phase, -, hphase⟩ := List.mem_map.mp hmem
      cases phase <;> simp [WorkerPhase.woken] at hphase
    · intro hmem
      obtain ⟨phase, hphase, hwoken⟩ := List.mem_map.mp hmem
      cases phase with
      | returned => exact h.returned hphase
      | ready => simp [WorkerPhase.woken] at hwoken
      | asleep => simp [WorkerPhase.woken] at hwoken
      | running task => simp [WorkerPhase.woken] at hwoken
    · intro joined hjoining
      obtain rfl : 0 = joined := DestructorPhase.joining.inj hjoining
      exact ⟨Nat.zero_le _, fun i hi => absurd hi (Nat.not_lt_zero i)⟩
  | joined joined hnext hworker =>
    obtain ⟨-, hall⟩ := h.joined joined hnext
    have hterminate : p.terminate = true :=
      h.terminate.mpr (by rw [hnext]; exact DestructorPhase.noConfusion)
    refine ⟨by simp [hterminate], fun _ _ => h.awake joined hnext, h.returned, ?_⟩
    intro more hjoining
    obtain rfl : joined + 1 = more := DestructorPhase.joining.inj hjoining
    refine ⟨(List.getElem?_eq_some_iff.mp hworker).1, fun i hi => ?_⟩
    rcases Nat.lt_succ_iff_lt_or_eq.mp hi with hlt | rfl
    · exact hall i hlt
    · exact hworker

/-! ### No wake-up is lost -/

/-- While a worker sleeps, every task in the queue has a worker on its way to the lock, or a
call of `notify_one` that is still to come. -/
def Attended [DecidableEq τ] (p : PdmThreadPool τ) : Prop :=
  .asleep ∈ p.workers → p.pdmTasks.length ≤ p.workers.count .ready + p.notifying.length

theorem create_attended [DecidableEq τ] (threads : Nat) : (create τ threads).Attended :=
  fun _ => Nat.zero_le _

variable [DecidableEq τ]

/-- The workers that are ready, when one of them has moved. -/
theorem count_ready_moveTo {p : PdmThreadPool τ} {worker : Nat} {old : WorkerPhase τ}
    (hworker : p.workers[worker]? = some old) (new : WorkerPhase τ) :
    (p.moveTo worker new).workers.count .ready + [old].count .ready =
      p.workers.count .ready + [new].count .ready :=
  Parties.count_set hworker new .ready

theorem step_attended {p q : PdmThreadPool τ} {i : ThreadPoolStep τ} (h : p.Attended)
    (hstep : p.step i = some q) : q.Attended := by
  cases step_cases hstep with
  | refused task outOfMemory _ _ => exact h
  | accepted task _ _ =>
    intro hasleep
    have hbefore := h hasleep
    simp only [List.length_append, List.length_singleton]
    omega
  | unheard task _ hawake => exact fun hasleep => absurd hasleep hawake
  | heard task worker htask hworker =>
    intro _
    have hbefore := h (List.mem_of_getElem? hworker)
    have hcount := count_ready_moveTo hworker .ready
    have hlength := List.length_erase_of_mem htask
    have hpos := List.length_pos_of_mem htask
    simp only [List.count_singleton_self] at hcount
    simp only [show [WorkerPhase.asleep].count (WorkerPhase.ready : WorkerPhase τ) = 0 from rfl]
      at hcount
    show p.pdmTasks.length ≤
      (p.moveTo worker .ready).workers.count .ready + (p.notifying.erase task).length
    omega
  | taken worker task rest hworker htasks =>
    intro hasleep
    have hbefore := h (Parties.mem_of_mem_set (by simp) hasleep)
    have hcount := count_ready_moveTo hworker (.running task)
    rw [htasks, List.length_cons] at hbefore
    simp only [List.count_singleton_self] at hcount
    show rest.length ≤ (p.moveTo worker (.running task)).workers.count .ready + p.notifying.length
    omega
  | returned worker _ htasks _ =>
    intro _
    show p.pdmTasks.length ≤ _
    rw [htasks]
    exact Nat.zero_le _
  | fellAsleep worker _ htasks _ =>
    intro _
    show p.pdmTasks.length ≤ _
    rw [htasks]
    exact Nat.zero_le _
  | wokeUp worker hworker =>
    intro _
    have hbefore := h (List.mem_of_getElem? hworker)
    have hcount := count_ready_moveTo hworker .ready
    simp only [show [WorkerPhase.asleep].count (WorkerPhase.ready : WorkerPhase τ) = 0 from rfl]
      at hcount
    show p.pdmTasks.length ≤ (p.moveTo worker .ready).workers.count .ready + p.notifying.length
    omega
  | finished worker task hworker =>
    intro hasleep
    have hbefore := h (Parties.mem_of_mem_set (by simp) hasleep)
    have hcount := count_ready_moveTo hworker .ready
    have hrunning : [WorkerPhase.running task].count (WorkerPhase.ready : WorkerPhase τ) = 0 := rfl
    rw [hrunning] at hcount
    show p.pdmTasks.length ≤ (p.moveTo worker .ready).workers.count .ready + p.notifying.length
    omega
  | terminated _ => exact h
  | notifiedAll _ =>
    intro hasleep
    obtain ⟨phase, -, hphase⟩ := List.mem_map.mp hasleep
    cases phase <;> simp [WorkerPhase.woken] at hphase
  | joined joined _ _ => exact h

/-! ### Every task is run once -/

/-- What has become of the tasks. -/
structure Accounted (p : PdmThreadPool τ) : Prop where
  fifo : p.accepted = p.started ++ p.pdmTasks
  fresh : p.created.Nodup
  called : (p.accepted ++ p.refused).Perm p.created
  run : (p.finished ++ p.workers.flatMap (·.task)).Perm p.started

omit [DecidableEq τ] in
theorem create_accounted (threads : Nat) : (create τ threads).Accounted := by
  refine ⟨rfl, List.nodup_nil, List.Perm.refl _, ?_⟩
  have hnone : (create τ threads).workers.flatMap (·.task) = [] := by
    refine List.flatMap_eq_nil_iff.mpr fun phase hphase => ?_
    rw [List.eq_of_mem_replicate hphase]
    rfl
  rw [hnone]
  exact List.Perm.refl _

omit [DecidableEq τ] in
theorem Accounted.fresh_concat {p : PdmThreadPool τ} (h : p.Accounted) {task : τ}
    (hnew : task ∉ p.created) : (p.created ++ [task]).Nodup :=
  List.nodup_append'.mpr ⟨h.fresh, List.nodup_singleton task, by simpa using hnew⟩

omit [DecidableEq τ] in
/-- A worker moves that has no task in hand before or after. -/
theorem Accounted.moveTo {p : PdmThreadPool τ} (h : p.Accounted) {worker : Nat}
    {old : WorkerPhase τ} (hworker : p.workers[worker]? = some old) (new : WorkerPhase τ)
    (hold : old.task = []) (hnew : new.task = []) : (p.moveTo worker new).Accounted := by
  refine ⟨h.fifo, h.fresh, h.called, ?_⟩
  have hhands := Parties.flatMap_set hworker (·.task) new
  rw [hold, hnew, List.append_nil, List.append_nil] at hhands
  exact (hhands.append_left p.finished).trans h.run

theorem step_accounted {p q : PdmThreadPool τ} {i : ThreadPoolStep τ} (h : p.Accounted)
    (hstep : p.step i = some q) : q.Accounted := by
  cases step_cases hstep with
  | refused task outOfMemory hnew _ =>
    refine ⟨h.fifo, h.fresh_concat hnew, ?_, h.run⟩
    show (p.accepted ++ (p.refused ++ [task])).Perm (p.created ++ [task])
    rw [← List.append_assoc]
    exact h.called.append_right [task]
  | accepted task hnew _ =>
    refine ⟨?_, h.fresh_concat hnew, ?_, h.run⟩
    · show p.accepted ++ [task] = p.started ++ (p.pdmTasks ++ [task])
      rw [h.fifo, List.append_assoc]
    · have hmove :
          (p.accepted ++ [task] ++ p.refused).Perm (p.accepted ++ p.refused ++ [task]) := by
        rw [List.append_assoc, List.append_assoc]
        exact List.perm_append_comm.append_left p.accepted
      exact hmove.trans (h.called.append_right [task])
  | unheard task _ _ => exact ⟨h.fifo, h.fresh, h.called, h.run⟩
  | heard task worker _ hworker =>
    have hmoved := h.moveTo hworker .ready rfl rfl
    exact ⟨hmoved.fifo, hmoved.fresh, hmoved.called, hmoved.run⟩
  | taken worker task rest hworker htasks =>
    refine ⟨?_, h.fresh, h.called, ?_⟩
    · show p.accepted = p.started ++ [task] ++ rest
      rw [h.fifo, htasks, List.append_assoc]
      rfl
    · have hhands := Parties.flatMap_set hworker (·.task) (.running task)
      rw [show (WorkerPhase.ready : WorkerPhase τ).task = [] from rfl, List.append_nil] at hhands
      refine (hhands.append_left p.finished).trans ?_
      rw [← List.append_assoc]
      exact h.run.append_right [task]
  | returned worker hworker _ _ => exact h.moveTo hworker _ rfl rfl
  | fellAsleep worker hworker _ _ => exact h.moveTo hworker _ rfl rfl
  | wokeUp worker hworker => exact h.moveTo hworker _ rfl rfl
  | finished worker task hworker =>
    refine ⟨h.fifo, h.fresh, h.called, ?_⟩
    have hhands := Parties.flatMap_set hworker (·.task) .ready
    rw [show (WorkerPhase.ready : WorkerPhase τ).task = [] from rfl, List.append_nil] at hhands
    -- The task goes from the worker's hand behind those that are finished.
    show (p.finished ++ [task] ++ (p.workers.set worker .ready).flatMap (·.task)).Perm p.started
    rw [List.append_assoc]
    exact ((List.perm_append_comm.trans hhands).append_left p.finished).trans h.run
  | terminated _ => exact ⟨h.fifo, h.fresh, h.called, h.run⟩
  | notifiedAll _ =>
    refine ⟨h.fifo, h.fresh, h.called, ?_⟩
    have hhands : (p.workers.map (·.woken)).flatMap (·.task) = p.workers.flatMap (·.task) := by
      rw [List.flatMap_map]
      refine List.flatMap_congr fun phase _ => ?_
      cases phase <;> rfl
    show (p.finished ++ (p.workers.map (·.woken)).flatMap (·.task)).Perm p.started
    rw [hhands]
    exact h.run
  | joined joined _ _ => exact ⟨h.fifo, h.fresh, h.called, h.run⟩

theorem step_length {p q : PdmThreadPool τ} {i : ThreadPoolStep τ} (hstep : p.step i = some q) :
    q.workers.length = p.workers.length := by
  cases step_cases hstep <;> simp

/-! ### All that is known of a pool -/

/-- What holds after every schedule. -/
structure Sound (threads : Nat) (p : PdmThreadPool τ) : Prop where
  length : p.workers.length = threads
  shutdown : p.Shutdown
  attended : p.Attended
  accounted : p.Accounted

theorem create_sound (threads : Nat) : (create τ threads).Sound threads :=
  ⟨by simp [create], create_shutdown threads, create_attended threads, create_accounted threads⟩

theorem step_sound {threads : Nat} {p q : PdmThreadPool τ} {i : ThreadPoolStep τ}
    (h : p.Sound threads) (hstep : p.step i = some q) : q.Sound threads :=
  ⟨(step_length hstep).trans h.length, step_shutdown h.shutdown hstep,
    step_attended h.attended hstep, step_accounted h.accounted hstep⟩

theorem run_sound {threads : Nat} {steps : List (ThreadPoolStep τ)} {p : PdmThreadPool τ}
    (hrun : Schedules.run step (create τ threads) steps = some p) : p.Sound threads :=
  Schedules.run_keeps (create_sound threads) (fun _ _ _ h hstep => step_sound h hstep) hrun

/-- **No wake-up is lost: while a worker sleeps, every task in the queue has a worker on its
way to it or a call of `notify_one` that is still to come.** -/
theorem no_wakeup_lost {threads : Nat} {steps : List (ThreadPoolStep τ)} {p : PdmThreadPool τ}
    (hrun : Schedules.run step (create τ threads) steps = some p)
    (hasleep : .asleep ∈ p.workers) :
    p.pdmTasks.length ≤ p.workers.count .ready + p.notifying.length :=
  (run_sound hrun).attended hasleep

/-- A worker sleeps while the one that was woken is on its way to the task. -/
theorem no_wakeup_lost_two_workers :
    ([7] : List Nat).length ≤
      [WorkerPhase.ready, (WorkerPhase.asleep : WorkerPhase Nat)].count .ready + 0 :=
  @no_wakeup_lost Nat _ 2 [.turn 0, .turn 1, .enqueue 7 false, .notifyOne 7 (some 0)]
    { workers := [.ready, .asleep], pdmTasks := [7], created := [7], accepted := [7] } rfl
    (by decide)

/-! ### The end of the pool's own steps -/

/-- How many steps a worker still has before it sleeps. -/
def phaseWork : WorkerPhase τ → Nat
  | .ready => 1
  | .running _ => 2
  | .asleep => 0
  | .returned => 0

/-- How many steps the destructor still has, `notify_all` counting for the workers it wakes. -/
def destructorWork (threads : Nat) : DestructorPhase → Nat
  | .notCalled => 0
  | .terminating => 2 * threads + 1
  | .joining joined => threads - joined

/-- A bound on the steps that the pool takes of its own. -/
def todo (p : PdmThreadPool τ) : Nat :=
  2 * p.pdmTasks.length + 2 * p.notifying.length + (p.workers.map phaseWork).sum +
    destructorWork p.workers.length p.destructor

omit [DecidableEq τ] in
theorem woken_work (workers : List (WorkerPhase τ)) :
    ((workers.map (·.woken)).map phaseWork).sum ≤ (workers.map phaseWork).sum + workers.length := by
  induction workers with
  | nil => simp
  | cons phase workers ih =>
    have hphase : phaseWork phase.woken ≤ phaseWork phase + 1 := by
      cases phase <;> simp [WorkerPhase.woken, phaseWork]
    simp only [List.map_cons, List.sum_cons, List.length_cons]
    omega

theorem own_step_todo {p q : PdmThreadPool τ} {i : ThreadPoolStep τ} (hown : i.own = true)
    (hstep : p.step i = some q) : q.todo < p.todo := by
  cases step_cases hstep with
  | refused => cases hown
  | accepted => cases hown
  | wokeUp => cases hown
  | terminated => cases hown
  | unheard task htask _ =>
    have hlength := List.length_erase_of_mem htask
    have hpos := List.length_pos_of_mem htask
    simp only [todo]
    omega
  | heard task worker htask hworker =>
    have hlength := List.length_erase_of_mem htask
    have hpos := List.length_pos_of_mem htask
    have hsum := Parties.sum_set hworker phaseWork .ready
    simp only [todo, moveTo_workers, moveTo_pdmTasks, moveTo_destructor, List.length_set]
    simp only [phaseWork] at hsum
    omega
  | taken worker task rest hworker htasks =>
    have hsum := Parties.sum_set hworker phaseWork (.running task)
    simp only [todo, moveTo_workers, moveTo_notifying, moveTo_destructor, List.length_set, htasks,
      List.length_cons]
    simp only [phaseWork] at hsum
    omega
  | returned worker hworker _ _ =>
    have hsum := Parties.sum_set hworker phaseWork .returned
    simp only [todo, moveTo_workers, moveTo_pdmTasks, moveTo_notifying, moveTo_destructor,
      List.length_set]
    simp only [phaseWork] at hsum
    omega
  | fellAsleep worker hworker _ _ =>
    have hsum := Parties.sum_set hworker phaseWork .asleep
    simp only [todo, moveTo_workers, moveTo_pdmTasks, moveTo_notifying, moveTo_destructor,
      List.length_set]
    simp only [phaseWork] at hsum
    omega
  | finished worker task hworker =>
    have hsum := Parties.sum_set hworker phaseWork .ready
    simp only [todo, moveTo_workers, moveTo_pdmTasks, moveTo_notifying, moveTo_destructor,
      List.length_set]
    simp only [phaseWork] at hsum
    omega
  | notifiedAll hnext =>
    have hwoken := woken_work p.workers
    simp only [todo, hnext, destructorWork, List.length_map]
    omega
  | joined joined hnext hworker =>
    have hlt := (List.getElem?_eq_some_iff.mp hworker).1
    simp only [todo, hnext, destructorWork]
    omega

/-- Nothing is left to do. -/
structure Drained (p : PdmThreadPool τ) : Prop where
  tasks : p.pdmTasks = []
  notifying : p.notifying = []
  finished : p.finished.Perm p.accepted
  asleep : p.terminate = false → ∀ phase ∈ p.workers, phase = .asleep
  destroyed : p.terminate = true → p.Destroyed

/-- A pool with a worker that has no step of its own to take has nothing left to do. -/
theorem Sound.drained {threads : Nat} {p : PdmThreadPool τ} (h : p.Sound threads)
    (hthreads : 0 < threads) (hidle : ∀ i : ThreadPoolStep τ, i.own = true → p.step i = none) :
    p.Drained := by
  have hnotifying : p.notifying = [] := by
    refine List.eq_nil_iff_forall_not_mem.mpr fun task htask => ?_
    by_cases hasleep : .asleep ∈ p.workers
    · obtain ⟨worker, hworker⟩ := List.mem_iff_getElem?.mp hasleep
      have hstuck := hidle (.notifyOne task (some worker)) rfl
      simp [step, htask, hworker] at hstuck
    · have hstuck := hidle (.notifyOne task none) rfl
      simp [step, htask, hasleep] at hstuck
  have hphases : ∀ phase ∈ p.workers, phase = .asleep ∨ phase = .returned := by
    intro phase hphase
    obtain ⟨worker, hworker⟩ := List.mem_iff_getElem?.mp hphase
    cases phase with
    | asleep => exact Or.inl rfl
    | returned => exact Or.inr rfl
    | ready =>
      have hstuck := hidle (.turn worker) rfl
      cases htasks : p.pdmTasks <;> simp [step, hworker, htasks] at hstuck
    | running task =>
      have hstuck := hidle (.taskReturns worker) rfl
      simp [step, hworker] at hstuck
  have htasks : p.pdmTasks = [] := by
    by_cases hasleep : .asleep ∈ p.workers
    · have hbound := h.attended hasleep
      have hnone : p.workers.count .ready = 0 := by
        refine List.count_eq_zero.mpr fun hready => ?_
        rcases hphases _ hready with heq | heq <;> cases heq
      rw [hnone, hnotifying, List.length_nil] at hbound
      exact List.eq_nil_of_length_eq_zero (Nat.le_zero.mp hbound)
    · -- Somebody has returned then, which a worker does only when the queue is empty.
      obtain ⟨phase, hphase⟩ := List.exists_mem_of_length_pos (h.length ▸ hthreads)
      rcases hphases phase hphase with rfl | rfl
      · exact absurd hphase hasleep
      · exact (h.shutdown.returned hphase).2
  have hhands : p.workers.flatMap (·.task) = [] := by
    refine List.flatMap_eq_nil_iff.mpr fun phase hphase => ?_
    rcases hphases phase hphase with rfl | rfl <;> rfl
  refine ⟨htasks, hnotifying, ?_, ?_, ?_⟩
  · have hrun := h.accounted.run
    rw [hhands, List.append_nil] at hrun
    rwa [h.accounted.fifo, htasks, List.append_nil]
  · intro hopen phase hphase
    rcases hphases phase hphase with heq | rfl
    · exact heq
    · rw [(h.shutdown.returned hphase).1] at hopen
      exact absurd hopen (by simp)
  · intro hterminate
    cases hdestructor : p.destructor with
    | notCalled => exact absurd hdestructor (h.shutdown.terminate.mp hterminate)
    | terminating =>
      have hstuck := hidle .notifyAll rfl
      simp [step, hdestructor] at hstuck
    | joining joined =>
      obtain ⟨hle, -⟩ := h.shutdown.joined joined hdestructor
      rcases Nat.lt_or_eq_of_le hle with hlt | rfl
      · have hworker : p.workers[joined]? = some .returned := by
          rw [List.getElem?_eq_getElem hlt]
          rcases hphases _ (List.getElem_mem hlt) with heq | heq
          · exact absurd (heq ▸ List.getElem_mem hlt) (h.shutdown.awake joined hdestructor)
          · rw [heq]
        have hstuck := hidle .join rfl
        simp [step, hdestructor, hworker] at hstuck
      · exact hdestructor

/-- **Where tasks return, the pool neither deadlocks nor runs on: whatever has happened, its own
steps come to an end, and when none is left to take, all that was accepted has been run, and
every worker sleeps or, once the destructor has been called, has been joined.** -/
theorem own_steps_end {threads : Nat} {steps more : List (ThreadPoolStep τ)}
    {p q : PdmThreadPool τ} (hthreads : 0 < threads)
    (hrun : Schedules.run step (create τ threads) steps = some p)
    (hown : ∀ i ∈ more, i.own = true) (hmore : Schedules.run step p more = some q) :
    more.length ≤ p.todo ∧
      ((∀ i : ThreadPoolStep τ, i.own = true → q.step i = none) → q.Drained) := by
  refine ⟨?_, ?_⟩
  · have hbound := Schedules.run_bounded (I := fun _ => True) (fun _ _ _ _ _ => trivial)
      (fun _ _ _ _ => own_step_todo) trivial hown hmore
    omega
  · intro hidle
    have hall : Schedules.run step (create τ threads) (steps ++ more) = some q := by
      rw [Schedules.run_append, hrun]
      exact hmore
    exact (run_sound hall).drained hthreads hidle

/-- The destructor is called while the one worker has a task in hand and one in the queue. -/
theorem own_steps_end_one_worker :
    7 ≤ 9 ∧ PdmThreadPool.Drained (τ := Nat)
      { terminate := true, workers := [.returned], destructor := .joining 1, created := [7, 8]
        accepted := [7, 8], started := [7, 8], finished := [7, 8] } := by
  refine (@own_steps_end Nat _ 1
    [.enqueue 7 false, .notifyOne 7 none, .turn 0, .enqueue 8 false, .terminate]
    [.notifyOne 8 none, .notifyAll, .taskReturns 0, .turn 0, .taskReturns 0, .turn 0, .join]
    { terminate := true, workers := [.running 7], pdmTasks := [8], notifying := [8]
      destructor := .terminating, created := [7, 8], accepted := [7, 8], started := [7] }
    _ (by decide) (by decide) (by decide) (by decide)).imp_right fun hdrained => hdrained ?_
  intro i hown
  cases i with
  | enqueue => cases hown
  | wakeUp => cases hown
  | terminate => cases hown
  | turn worker => cases worker <;> rfl
  | taskReturns worker => cases worker <;> rfl
  | notifyOne | notifyAll | join => rfl

/-! ### The tasks -/

/-- What becomes of the tasks that are handed to a pool. -/
structure RunsOnce (p : PdmThreadPool τ) : Prop where
  /-- They are started in the order in which they were accepted. -/
  order : p.started <+: p.accepted
  once : p.started.Nodup
  /-- A task that was started is finished, or it is in the hands of one worker. -/
  inHand : (p.finished ++ p.workers.flatMap (·.task)).Perm p.started
  refused : ∀ task ∈ p.refused, task ∉ p.started
  /-- The destructor returns when all have been run, and nothing is accepted or run after it. -/
  destroyed : p.workers ≠ [] → p.Destroyed → p.finished.Perm p.accepted ∧
    ∀ i q, p.step i = some q → q.accepted = p.accepted ∧ q.finished = p.finished

theorem Sound.allReturned {threads : Nat} {p : PdmThreadPool τ} (h : p.Sound threads)
    (hdestroyed : p.Destroyed) : ∀ phase ∈ p.workers, phase = .returned := by
  intro phase hphase
  obtain ⟨worker, hworker⟩ := List.mem_iff_getElem?.mp hphase
  have hlt := (List.getElem?_eq_some_iff.mp hworker).1
  have hreturned := (h.shutdown.joined _ hdestroyed).2 worker hlt
  rw [hworker] at hreturned
  exact Option.some.inj hreturned

/-- A destroyed pool stays so. -/
theorem Sound.step_destroyed {threads : Nat} {p q : PdmThreadPool τ} {i : ThreadPoolStep τ}
    (h : p.Sound threads) (hdestroyed : p.Destroyed) (hstep : p.step i = some q) :
    q.Destroyed := by
  have hreturned := h.allReturned hdestroyed
  have hdestructor : p.destructor = .joining p.workers.length := hdestroyed
  cases step_cases hstep with
  | refused | accepted | unheard => exact hdestroyed
  | heard task worker _ hworker => cases hreturned _ (List.mem_of_getElem? hworker)
  | taken worker task rest hworker _ => cases hreturned _ (List.mem_of_getElem? hworker)
  | returned worker hworker _ _ => cases hreturned _ (List.mem_of_getElem? hworker)
  | fellAsleep worker hworker _ _ => cases hreturned _ (List.mem_of_getElem? hworker)
  | wokeUp worker hworker => cases hreturned _ (List.mem_of_getElem? hworker)
  | finished worker task hworker => cases hreturned _ (List.mem_of_getElem? hworker)
  | terminated hfirst => rw [hdestructor] at hfirst; cases hfirst
  | notifiedAll hnext => rw [hdestructor] at hnext; cases hnext
  | joined joined hnext hworker =>
    rw [hdestructor] at hnext
    rw [← DestructorPhase.joining.inj hnext] at hworker
    simp at hworker

/-- Only the workers finish tasks, and a terminated pool takes none in. -/
theorem step_closed {p q : PdmThreadPool τ} {i : ThreadPoolStep τ}
    (hreturned : ∀ phase ∈ p.workers, phase = .returned) (hterminate : p.terminate = true)
    (hstep : p.step i = some q) : q.accepted = p.accepted ∧ q.finished = p.finished := by
  cases step_cases hstep with
  | accepted task _ hopen =>
    rw [hterminate] at hopen
    cases hopen
  | finished worker task hworker => cases hreturned _ (List.mem_of_getElem? hworker)
  | _ => exact ⟨rfl, rfl⟩

/-- **Every task that is accepted is run exactly once and in its turn, whatever the workers'
number: none is started twice or out of order, none that was refused is run, and the
destructor returns only when all have been run.** -/
theorem tasks_run_once {threads : Nat} {steps : List (ThreadPoolStep τ)} {p : PdmThreadPool τ}
    (hrun : Schedules.run step (create τ threads) steps = some p) : p.RunsOnce := by
  have h := run_sound hrun
  have hfifo := h.accounted.fifo
  have hcalled : (p.accepted ++ p.refused).Nodup :=
    h.accounted.called.nodup_iff.mpr h.accounted.fresh
  obtain ⟨haccepted, -, hapart⟩ := List.nodup_append'.mp hcalled
  have horder : p.started <+: p.accepted := by
    rw [hfifo]
    exact List.prefix_append _ _
  refine ⟨horder, horder.sublist.nodup haccepted, h.accounted.run, ?_, ?_⟩
  · intro task hrefused hstarted
    exact hapart (horder.subset hstarted) hrefused
  · intro hworkers hdestroyed
    have hreturned := h.allReturned hdestroyed
    have hterminate : p.terminate = true := by
      refine h.shutdown.terminate.mpr ?_
      rw [show p.destructor = .joining p.workers.length from hdestroyed]
      exact DestructorPhase.noConfusion
    refine ⟨?_, fun i q hstep => step_closed hreturned hterminate hstep⟩
    obtain ⟨phase, hphase⟩ := List.exists_mem_of_ne_nil p.workers hworkers
    have htasks := (h.shutdown.returned (hreturned phase hphase ▸ hphase)).2
    have hhands : p.workers.flatMap (·.task) = [] := by
      refine List.flatMap_eq_nil_iff.mpr fun phase hphase => ?_
      rw [hreturned phase hphase]
      rfl
    have hall := h.accounted.run
    rw [hhands, List.append_nil] at hall
    rwa [hfifo, htasks, List.append_nil]

/-- Two workers have a task each, and a third task is refused. -/
theorem tasks_run_once_two_workers :
    PdmThreadPool.RunsOnce (τ := Nat)
      { terminate := true, workers := [.running 7, .running 8], destructor := .terminating
        created := [7, 8, 9], accepted := [7, 8], refused := [9], started := [7, 8] } :=
  @tasks_run_once Nat _ 2
    [.enqueue 7 false, .enqueue 8 false, .turn 0, .notifyOne 7 none, .turn 1, .notifyOne 8 none,
      .terminate, .enqueue 9 false]
    { terminate := true, workers := [.running 7, .running 8], destructor := .terminating
      created := [7, 8, 9], accepted := [7, 8], refused := [9], started := [7, 8] } (by decide)

end PdmThreadPool

end Pdm
