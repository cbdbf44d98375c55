/-
`CommandManager` is its thread pool with the waiting left out.

`CommandManager` hands its commands to a `PdmThreadPool` of one worker.  Seen from the
commands, nothing happens when the worker falls asleep, is woken or wakes up; a call that
`enqueue` has thrown for is over at once, and `execute` and the deletion lie in the one call of
`task()`.  So every run of the pool is a run of the machine that has the commands only, with
the same commands accepted, executed and refused in the same order.
-/
import Pdm.Lib.Simulations
import Pdm.Proofs.CommandQueue
import Pdm.Proofs.ThreadPools

namespace Pdm

namespace CommandManager

/-- Where the worker is, seen from the commands. -/
def workerOf : WorkerPhase Command → PoolWorker
  | .ready => .waiting
  | .asleep => .waiting
  | .running cmd => .running cmd
  | .returned => .returned

/-- The pool `p` has done with the commands what `m` says. -/
structure Refines (p : PdmThreadPool Command) (m : CommandManager) : Prop where
  worker : ∃ phase, p.workers = [phase] ∧ m.worker = workerOf phase
  terminate : m.terminate = p.terminate
  tasks : m.tasks = p.pdmTasks
  calls : m.calls = p.notifying.map (·, true)
  known : ∀ cmd ∈ p.notifying, cmd ∈ p.created
  created : m.created = p.created
  accepted : m.accepted = p.accepted
  executed : m.executed = p.finished
  refused : m.refused = p.refused

theorem create_refines : Refines (PdmThreadPool.create Command 1) {} :=
  ⟨⟨.ready, rfl, rfl⟩, rfl, rfl, rfl, by simp [PdmThreadPool.create], rfl, rfl, rfl, rfl⟩

/-- The one worker is the one that moves. -/
theorem Refines.phase {p : PdmThreadPool Command} {m : CommandManager} (h : Refines p m)
    {worker : Nat} {old : WorkerPhase Command} (hworker : p.workers[worker]? = some old) :
    worker = 0 ∧ p.workers = [old] ∧ m.worker = workerOf old := by
  obtain ⟨phase, hphase, hm⟩ := h.worker
  rw [hphase] at hworker ⊢
  cases worker with
  | zero =>
    obtain rfl : phase = old := by simpa using hworker
    exact ⟨rfl, rfl, hm⟩
  | succ worker => simp at hworker

/-- A worker that moves and means the same to the commands. -/
theorem Refines.moveTo {p : PdmThreadPool Command} {m : CommandManager} (h : Refines p m)
    {worker : Nat} {old : WorkerPhase Command} (hworker : p.workers[worker]? = some old)
    (new : WorkerPhase Command) (hsame : workerOf new = workerOf old) :
    Refines (p.moveTo worker new) m := by
  obtain ⟨rfl, hworkers, hm⟩ := h.phase hworker
  refine ⟨⟨new, ?_, hm.trans hsame.symm⟩, h.terminate, h.tasks, h.calls, h.known, h.created,
    h.accepted, h.executed, h.refused⟩
  rw [PdmThreadPool.moveTo_workers, hworkers]
  rfl

/-- A call of `sendCommand` whose `enqueue` is through returns. -/
theorem Refines.sendReturns {p : PdmThreadPool Command} {m : CommandManager} (h : Refines p m)
    (cmd : Command) :
    Refines { p with notifying := p.notifying.erase cmd } (m.sendReturns cmd true) := by
  refine ⟨h.worker, h.terminate, h.tasks, ?_, fun c hc => h.known c (List.mem_of_mem_erase hc),
    h.created, h.accepted, h.executed, ?_⟩
  · show m.calls.erase (cmd, true) = (p.notifying.erase cmd).map (·, true)
    rw [h.calls, List.map_erase fun _ _ heq => (Prod.mk.inj heq).1]
  · show CommandManager.refused _ = p.refused
    rw [← h.refused]
    simp [CommandManager.refused, CommandManager.sendReturns]

theorem Refines.call_mem {p : PdmThreadPool Command} {m : CommandManager} (h : Refines p m)
    {cmd : Command} (hcmd : cmd ∈ p.notifying) : (cmd, true) ∈ m.calls := by
  rw [h.calls]
  exact List.mem_map_of_mem (f := (·, true)) hcmd

/-- A call that `enqueue` throws for: the command is deleted and the call returns. -/
theorem Refines.refuse {p : PdmThreadPool Command} {m : CommandManager} (h : Refines p m)
    (cmd : Command) :
    Refines { p with created := p.created ++ [cmd], refused := p.refused ++ [cmd] }
      (CommandManager.sendReturns
        { m with created := m.created ++ [cmd], calls := m.calls ++ [(cmd, false)] } cmd false) := by
  refine ⟨h.worker, h.terminate, h.tasks, ?_,
    fun c hc => List.mem_append_left _ (h.known c hc), ?_, h.accepted, h.executed, ?_⟩
  · show (m.calls ++ [(cmd, false)]).erase (cmd, false) = p.notifying.map (·, true)
    have hnew : (cmd, false) ∉ m.calls := by
      rw [h.calls]
      simp
    rw [List.erase_append_right _ hnew, List.erase_cons_head, List.append_nil, h.calls]
  · show m.created ++ [cmd] = p.created ++ [cmd]
    rw [h.created]
  · show CommandManager.refused _ = p.refused ++ [cmd]
    rw [← h.refused]
    simp [CommandManager.refused, CommandManager.sendReturns]

/-- The steps that go with a given account of which commands throw. -/
def Throwing (throws : Command → Bool) : PoolStep → Prop
  | .execute cmd thrown => thrown = throws cmd
  | _ => True

/-- Every step of the pool is none, one or two steps of the commands. -/
theorem step_simulates (throws : Command → Bool) :
    Simulations.Simulates (PdmThreadPool.step (τ := Command)) step Refines (Throwing throws) := by
  intro p i q m h hstep
  cases PdmThreadPool.step_cases hstep with
  | refused cmd outOfMemory hnew hrefused =>
    rw [← h.created] at hnew
    rw [← h.terminate] at hrefused
    refine ⟨[.enqueue cmd outOfMemory, .sendReturns cmd], _, ?_, h.refuse cmd, by simp [Throwing]⟩
    have hcall : (cmd, true) ∉ m.calls := by
      intro hmem
      rw [h.calls] at hmem
      obtain ⟨c, hc, heq⟩ := List.mem_map.mp hmem
      rw [(Prod.mk.inj heq).1] at hc
      exact hnew (h.created ▸ h.known cmd hc)
    simp [step, hnew, hrefused, hcall]
  | accepted cmd hnew hopen =>
    rw [← h.created] at hnew
    rw [← h.terminate] at hopen
    refine ⟨[.enqueue cmd false], { m with
      created := m.created ++ [cmd]
      calls := m.calls ++ [(cmd, true)]
      tasks := m.tasks ++ [cmd]
      accepted := m.accepted ++ [cmd] }, by simp [step, hnew, hopen], ?_, by simp [Throwing]⟩
    refine ⟨h.worker, h.terminate, ?_, ?_, ?_, ?_, ?_, h.executed, h.refused⟩
    · show m.tasks ++ [cmd] = p.pdmTasks ++ [cmd]
      rw [h.tasks]
    · show m.calls ++ [(cmd, true)] = (p.notifying ++ [cmd]).map (·, true)
      rw [h.calls, List.map_append]
      rfl
    · intro c hc
      rcases List.mem_append.mp hc with hc | hc
      · exact List.mem_append_left _ (h.known c hc)
      · exact List.mem_append_right _ hc
    · show m.created ++ [cmd] = p.created ++ [cmd]
      rw [h.created]
    · show m.accepted ++ [cmd] = p.accepted ++ [cmd]
      rw [h.accepted]
  | unheard cmd hcmd _ =>
    refine ⟨[.sendReturns cmd], _, ?_, h.sendReturns cmd, by simp [Throwing]⟩
    simp [step, h.call_mem hcmd]
  | heard cmd worker hcmd hworker =>
    have hmoved := (h.moveTo hworker .ready rfl).sendReturns cmd
    refine ⟨[.sendReturns cmd], m.sendReturns cmd true, ?_, hmoved, by simp [Throwing]⟩
    simp [step, h.call_mem hcmd]
  | taken worker cmd rest hworker htasks =>
    obtain ⟨rfl, hworkers, hm⟩ := h.phase hworker
    rw [← h.tasks] at htasks
    refine ⟨[.take], { m with worker := .running cmd, tasks := rest }, ?_, ?_, by simp [Throwing]⟩
    · simp [step, hm, workerOf, htasks]
    · refine ⟨⟨.running cmd, ?_, rfl⟩, h.terminate, rfl, h.calls, h.known, h.created,
        h.accepted, h.executed, h.refused⟩
      rw [PdmThreadPool.moveTo_workers, hworkers]
      rfl
  | returned worker hworker htasks hterminate =>
    obtain ⟨rfl, hworkers, hm⟩ := h.phase hworker
    rw [← h.tasks] at htasks
    rw [← h.terminate] at hterminate
    refine ⟨[.workerReturns], { m with worker := .returned }, ?_, ?_, by simp [Throwing]⟩
    · simp [step, hm, workerOf, htasks, hterminate]
    · refine ⟨⟨.returned, ?_, rfl⟩, h.terminate, h.tasks, h.calls, h.known, h.created,
        h.accepted, h.executed, h.refused⟩
      rw [PdmThreadPool.moveTo_workers, hworkers]
      rfl
  | fellAsleep worker hworker _ _ => exact ⟨[], m, rfl, h.moveTo hworker _ rfl, by simp⟩
  | wokeUp worker hworker => exact ⟨[], m, rfl, h.moveTo hworker _ rfl, by simp⟩
  | finished worker cmd hworker =>
    obtain ⟨rfl, hworkers, hm⟩ := h.phase hworker
    refine ⟨[.execute cmd (throws cmd), .delete], { m with
      worker := .waiting
      executed := m.executed ++ [cmd]
      completed := if throws cmd then m.completed else m.completed ++ [cmd]
      deleted := m.deleted ++ [cmd] }, ?_, ?_, by simp [Throwing]⟩
    · simp [step, hm, workerOf]
    · refine ⟨⟨.ready, ?_, rfl⟩, h.terminate, h.tasks, h.calls, h.known, h.created,
        h.accepted, ?_, h.refused⟩
      · rw [PdmThreadPool.moveTo_workers, hworkers]
        rfl
      · show m.executed ++ [cmd] = p.finished ++ [cmd]
        rw [h.executed]
  | terminated _ =>
    refine ⟨[.terminate], { m with terminate := true }, rfl, ?_, by simp [Throwing]⟩
    exact ⟨h.worker, rfl, h.tasks, h.calls, h.known, h.created, h.accepted, h.executed, h.refused⟩
  | notifiedAll _ =>
    refine ⟨[], m, rfl, ?_, by simp⟩
    obtain ⟨phase, hphase, hm⟩ := h.worker
    refine ⟨⟨phase.woken, by simp [hphase], ?_⟩, h.terminate, h.tasks, h.calls, h.known,
      h.created, h.accepted, h.executed, h.refused⟩
    rw [hm]
    cases phase <;> rfl
  | joined joined _ _ =>
    exact ⟨[], m, rfl, ⟨h.worker, h.terminate, h.tasks, h.calls, h.known, h.created, h.accepted,
      h.executed, h.refused⟩, by simp⟩

/-- **Every run of the thread pool that `CommandManager` makes is, with the waiting left out, a
run of the commands: the same are accepted, executed and refused, in the same order, whatever
of them throw.** -/
theorem pool_refines (throws : Command → Bool) {steps : List (ThreadPoolStep Command)}
    {p : PdmThreadPool Command}
    (hrun : Schedules.run PdmThreadPool.step (PdmThreadPool.create Command 1) steps = some p) :
    ∃ commandSteps m, Schedules.run step {} commandSteps = some m ∧ Refines p m ∧
      ∀ i ∈ commandSteps, Throwing throws i :=
  (step_simulates throws).run create_refines hrun

/-- The worker takes a command before the call that sent it has woken anybody. -/
theorem pool_refines_early_take :
    ∃ commandSteps m, Schedules.run step {} commandSteps = some m ∧
      Refines
        { workers := [.ready], created := [.pdmCommand 3], accepted := [.pdmCommand 3]
          started := [.pdmCommand 3], finished := [.pdmCommand 3] } m ∧
      ∀ i ∈ commandSteps, Throwing (fun _ => false) i :=
  @pool_refines (fun _ => false)
    [.enqueue (.pdmCommand 3) false, .turn 0, .notifyOne (.pdmCommand 3) none, .taskReturns 0]
    { workers := [.ready], created := [.pdmCommand 3], accepted := [.pdmCommand 3]
      started := [.pdmCommand 3], finished := [.pdmCommand 3] } (by decide)

end CommandManager

end Pdm
