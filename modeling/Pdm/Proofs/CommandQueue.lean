/-
The command queue neither loses, repeats nor reorders.

What has been executed, what the worker holds and what is queued make up, in this order,
the commands that were accepted (`Ordered`); and a command is deleted once for its
execution or once for its refusal (`Owned`).  **So every command that was accepted is
executed and deleted exactly once, in the order of acceptance, as soon as the worker is
through with its queue, which it can always get to; and every command that was refused is
deleted exactly once and never executed.**
-/
import Mathlib.Data.List.Nodup
import Mathlib.Data.List.Perm.Basic
import Pdm.Framework.CommandManager

namespace Pdm

namespace CommandManager

/-! ### What the worker has in hand -/

/-- The command that the worker has taken and not executed. -/
def held (m : CommandManager) : List Command :=
  match m.worker with
  | .running cmd => [cmd]
  | _ => []

/-- The command that the worker has executed and not deleted. -/
def toDelete (m : CommandManager) : List Command :=
  match m.worker with
  | .finishing cmd => [cmd]
  | _ => []

/-! ### What a step does -/

/-- The steps that can be taken, with what each leaves. -/
inductive Stepped (m : CommandManager) : PoolStep → CommandManager → Prop
  | refused (cmd : Command) (outOfMemory : Bool) (hnew : cmd ∉ m.created)
      (hrefused : m.terminate = true ∨ outOfMemory = true) :
      Stepped m (.enqueue cmd outOfMemory)
        { m with created := m.created ++ [cmd], calls := m.calls ++ [(cmd, false)] }
  | accepted (cmd : Command) (hnew : cmd ∉ m.created) (hopen : m.terminate = false) :
      Stepped m (.enqueue cmd false)
        { m with
          created := m.created ++ [cmd]
          calls := m.calls ++ [(cmd, true)]
          tasks := m.tasks ++ [cmd]
          accepted := m.accepted ++ [cmd] }
  | returns (cmd : Command) (queued : Bool) (hcall : (cmd, queued) ∈ m.calls) :
      Stepped m (.sendReturns cmd) (m.sendReturns cmd queued)
  | taken (cmd : Command) (rest : List Command) (hworker : m.worker = .waiting)
      (htasks : m.tasks = cmd :: rest) :
      Stepped m .take { m with worker := .running cmd, tasks := rest }
  | executed (cmd : Command) (throws : Bool) (hworker : m.worker = .running cmd) :
      Stepped m (.execute cmd throws)
        { m with
          worker := .finishing cmd
          executed := m.executed ++ [cmd]
          completed := if throws then m.completed else m.completed ++ [cmd] }
  | deleted (cmd : Command) (hworker : m.worker = .finishing cmd) :
      Stepped m .delete { m with worker := .waiting, deleted := m.deleted ++ [cmd] }
  | returned (hworker : m.worker = .waiting) (hdone : m.terminate = true ∧ m.tasks = []) :
      Stepped m .workerReturns { m with worker := .returned }
  | terminated : Stepped m .terminate { m with terminate := true }

theorem step_cases {m n : CommandManager} {i : PoolStep} (hstep : m.step i = some n) :
    Stepped m i n := by
  cases i with
  | enqueue cmd outOfMemory =>
    simp only [step] at hstep
    split at hstep
    case isTrue => cases hstep
    case isFalse hnew =>
      split at hstep
      case isTrue hrefused =>
        rw [← Option.some.inj hstep]
        exact .refused cmd outOfMemory hnew hrefused
      case isFalse hopen =>
        rw [← Option.some.inj hstep]
        obtain rfl : outOfMemory = false := Bool.eq_false_iff.mpr fun h => hopen (Or.inr h)
        exact .accepted cmd hnew (Bool.eq_false_iff.mpr fun h => hopen (Or.inl h))
  | sendReturns cmd =>
    simp only [step] at hstep
    split at hstep
    case isTrue hcall =>
      rw [← Option.some.inj hstep]
      exact .returns cmd true hcall
    case isFalse =>
      split at hstep
      case isTrue hcall =>
        rw [← Option.some.inj hstep]
        exact .returns cmd false hcall
      case isFalse => cases hstep
  | take =>
    simp only [step] at hstep
    split at hstep
    · rename_i cmd rest hworker htasks
      rw [← Option.some.inj hstep]
      exact .taken cmd rest hworker htasks
    · cases hstep
  | execute cmd throws =>
    simp only [step] at hstep
    split at hstep
    case isTrue hworker =>
      rw [← Option.some.inj hstep]
      exact .executed cmd throws hworker
    case isFalse => cases hstep
  | delete =>
    simp only [step] at hstep
    split at hstep
    · rename_i cmd hworker
      rw [← Option.some.inj hstep]
      exact .deleted cmd hworker
    · cases hstep
  | workerReturns =>
    simp only [step] at hstep
    split at hstep
    case isTrue hok =>
      rw [← Option.some.inj hstep]
      exact .returned hok.1 hok.2
    case isFalse => cases hstep
  | terminate =>
    rw [← Option.some.inj hstep]
    exact .terminated

/-! ### Order -/

/-- Nothing is lost, repeated or reordered on the way through the queue. -/
structure Ordered (m : CommandManager) : Prop where
  fifo : m.accepted = m.executed ++ m.held ++ m.tasks
  accepted : m.accepted.Sublist m.created
  fresh : m.created.Nodup
  returned : m.worker = .returned → m.terminate = true ∧ m.tasks = []

theorem Ordered.fresh_concat {m : CommandManager} (h : m.Ordered) {cmd : Command}
    (hnew : cmd ∉ m.created) : (m.created ++ [cmd]).Nodup :=
  List.nodup_append'.mpr ⟨h.fresh, List.nodup_singleton cmd, by simpa using hnew⟩

theorem init_ordered : ({} : CommandManager).Ordered :=
  ⟨rfl, List.Sublist.refl _, List.nodup_nil, by simp⟩

theorem step_ordered {m n : CommandManager} {i : PoolStep} (h : m.Ordered)
    (hstep : m.step i = some n) : n.Ordered := by
  have hfifo := h.fifo
  unfold held at hfifo
  cases step_cases hstep with
  | refused cmd outOfMemory hnew _ =>
    exact ⟨h.fifo, h.accepted.trans (List.sublist_append_left _ _), h.fresh_concat hnew, h.returned⟩
  | accepted cmd hnew hopen =>
    refine ⟨?_, h.accepted.append (List.Sublist.refl _), h.fresh_concat hnew, fun hret => ?_⟩
    · show m.accepted ++ [cmd] = m.executed ++ m.held ++ (m.tasks ++ [cmd])
      rw [h.fifo, List.append_assoc]
    · rw [(h.returned hret).1] at hopen
      exact absurd hopen (by simp)
  | returns cmd queued _ => exact ⟨h.fifo, h.accepted, h.fresh, h.returned⟩
  | taken cmd rest hworker htasks =>
    refine ⟨?_, h.accepted, h.fresh, fun hret => absurd hret (by simp)⟩
    rw [hworker, htasks] at hfifo
    simpa [held] using hfifo
  | executed cmd throws hworker =>
    refine ⟨?_, h.accepted, h.fresh, fun hret => absurd hret (by simp)⟩
    rw [hworker] at hfifo
    simpa [held] using hfifo
  | deleted cmd hworker =>
    refine ⟨?_, h.accepted, h.fresh, fun hret => absurd hret (by simp)⟩
    rw [hworker] at hfifo
    simpa [held] using hfifo
  | returned hworker hdone =>
    refine ⟨?_, h.accepted, h.fresh, fun _ => hdone⟩
    rw [hworker] at hfifo
    simpa [held] using hfifo
  | terminated => exact ⟨h.fifo, h.accepted, h.fresh, fun hret => ⟨rfl, (h.returned hret).2⟩⟩

/-! ### Ownership -/

/-- The commands whose calls have returned false. -/
def refused (m : CommandManager) : List Command :=
  (m.answers.filter (·.2 = false)).map Prod.fst

/-- Every command has one call, whose answer says whether it was accepted, and is deleted
for its execution or for its refusal. -/
structure Owned (m : CommandManager) : Prop where
  answered : ∀ cmd queued, (cmd, queued) ∈ m.calls ++ m.answers → (queued = true ↔ cmd ∈ m.accepted)
  once : ((m.calls ++ m.answers).map Prod.fst).Perm m.created
  deleted : (m.deleted ++ m.toDelete).Perm (m.executed ++ m.refused)
  finishing : m.toDelete ⊆ m.executed

theorem init_owned : ({} : CommandManager).Owned :=
  ⟨by simp, List.Perm.refl _, List.Perm.refl _, List.Subset.refl _⟩

/-- A call returns. -/
theorem Owned.sendReturns {m : CommandManager} (h : m.Owned) {cmd : Command} {queued : Bool}
    (hcall : (cmd, queued) ∈ m.calls) : (m.sendReturns cmd queued).Owned := by
  have hperm : (m.calls.erase (cmd, queued) ++ (m.answers ++ [(cmd, queued)])).Perm
      (m.calls ++ m.answers) := by
    rw [← List.append_assoc]
    exact (List.perm_append_singleton _ _).trans
      ((List.perm_cons_erase hcall).symm.append_right m.answers)
  refine ⟨fun c q hq => h.answered c q (hperm.mem_iff.mp hq), (hperm.map Prod.fst).trans h.once,
    ?_, h.finishing⟩
  have hrefused : (m.sendReturns cmd queued).refused =
      m.refused ++ if queued then [] else [cmd] := by
    unfold refused CommandManager.sendReturns
    cases queued <;> simp
  rw [hrefused]
  show (_ ++ m.toDelete).Perm (m.executed ++ _)
  unfold CommandManager.sendReturns
  cases queued with
  | true => simpa using h.deleted
  | false =>
    have hmove : (m.deleted ++ [cmd] ++ m.toDelete).Perm (m.deleted ++ m.toDelete ++ [cmd]) := by
      rw [List.append_assoc, List.append_assoc]
      exact List.perm_append_comm.append_left m.deleted
    have hend : (m.deleted ++ m.toDelete ++ [cmd]).Perm (m.executed ++ m.refused ++ [cmd]) :=
      h.deleted.append_right [cmd]
    rw [List.append_assoc m.executed] at hend
    exact hmove.trans hend

/-- A command comes in, and `enqueue` takes it or does not. -/
theorem Owned.enqueue {m : CommandManager} (h : m.Owned) (ho : m.Ordered) {cmd : Command}
    (hnew : cmd ∉ m.created) (queued : Bool) {tasks accepted : List Command}
    (haccepted : accepted = if queued then m.accepted ++ [cmd] else m.accepted) :
    Owned { m with
      created := m.created ++ [cmd]
      calls := m.calls ++ [(cmd, queued)]
      tasks := tasks
      accepted := accepted } := by
  have hmove : ((m.calls ++ [(cmd, queued)]) ++ m.answers).Perm
      ((m.calls ++ m.answers) ++ [(cmd, queued)]) := by
    rw [List.append_assoc, List.append_assoc]
    exact List.perm_append_comm.append_left m.calls
  refine ⟨fun c q hq => ?_, ?_, h.deleted, h.finishing⟩
  · show q = true ↔ c ∈ accepted
    rcases List.mem_append.mp (hmove.mem_iff.mp hq) with hold | hsame
    · have hne : c ≠ cmd := by
        rintro rfl
        exact hnew (h.once.mem_iff.mp (List.mem_map_of_mem (f := Prod.fst) hold))
      rw [h.answered c q hold, haccepted]
      cases queued <;> simp [hne]
    · obtain ⟨rfl, rfl⟩ := Prod.mk.inj (List.mem_singleton.mp hsame)
      have hnever : c ∉ m.accepted := fun hacc => hnew (ho.accepted.subset hacc)
      rw [haccepted]
      cases q <;> simp [hnever]
  · refine (hmove.map Prod.fst).trans ?_
    rw [List.map_append]
    exact h.once.append_right [cmd]

theorem step_owned {m n : CommandManager} {i : PoolStep} (ho : m.Ordered) (h : m.Owned)
    (hstep : m.step i = some n) : n.Owned := by
  have hdel := h.deleted
  unfold toDelete at hdel
  cases step_cases hstep with
  | refused cmd outOfMemory hnew _ => exact h.enqueue ho hnew false rfl
  | accepted cmd hnew _ => exact h.enqueue ho hnew true rfl
  | returns cmd queued hcall => exact h.sendReturns hcall
  | taken cmd rest hworker _ =>
    rw [hworker] at hdel
    exact ⟨h.answered, h.once, hdel, List.nil_subset _⟩
  | executed cmd throws hworker =>
    rw [hworker, List.append_nil] at hdel
    refine ⟨h.answered, h.once, ?_, by simp [toDelete]⟩
    show (m.deleted ++ [cmd]).Perm (m.executed ++ [cmd] ++ m.refused)
    have hmove : (m.executed ++ m.refused ++ [cmd]).Perm (m.executed ++ [cmd] ++ m.refused) := by
      rw [List.append_assoc, List.append_assoc]
      exact List.perm_append_comm.append_left m.executed
    exact (hdel.append_right [cmd]).trans hmove
  | deleted cmd hworker =>
    rw [hworker] at hdel
    refine ⟨h.answered, h.once, ?_, List.nil_subset _⟩
    show (m.deleted ++ [cmd] ++ []).Perm (m.executed ++ m.refused)
    rw [List.append_nil]
    exact hdel
  | returned hworker _ =>
    rw [hworker] at hdel
    exact ⟨h.answered, h.once, hdel, List.nil_subset _⟩
  | terminated => exact ⟨h.answered, h.once, h.deleted, h.finishing⟩

/-! ### The queue drains -/

/-- The worker is through with its queue. -/
def Drained (m : CommandManager) : Prop :=
  m.tasks = [] ∧ (m.worker = .waiting ∨ m.worker = .returned)

/-- The worker's steps for one command. -/
def work (cmd : Command) : List PoolStep := [.take, .execute cmd false, .delete]

/-- A waiting worker gets through the queue. -/
theorem drains_waiting {m : CommandManager} (hworker : m.worker = .waiting) :
    ∃ n, Schedules.run step m (m.tasks.flatMap work) = some n ∧ n.Drained := by
  generalize htasks : m.tasks = tasks
  induction tasks generalizing m with
  | nil => exact ⟨m, rfl, htasks, Or.inl hworker⟩
  | cons cmd rest ih =>
    obtain ⟨n, hn, hdrained⟩ := ih
      (m := { m with
        tasks := rest
        worker := .waiting
        executed := m.executed ++ [cmd]
        completed := m.completed ++ [cmd]
        deleted := m.deleted ++ [cmd] }) rfl rfl
    refine ⟨n, ?_, hdrained⟩
    rw [List.flatMap_cons, Schedules.run_append]
    have hwork : Schedules.run step m (work cmd) = some { m with
        tasks := rest
        worker := .waiting
        executed := m.executed ++ [cmd]
        completed := m.completed ++ [cmd]
        deleted := m.deleted ++ [cmd] } := by
      simp [work, step, hworker, htasks]
    rw [hwork]
    exact hn

/-- The worker can always get through with its queue. -/
theorem drains {m : CommandManager} (h : m.Ordered) :
    ∃ more, (∀ i ∈ more, i.byWorker = true) ∧
      ∃ n, Schedules.run step m more = some n ∧ n.Drained := by
  have hwork : ∀ tasks : List Command, ∀ i ∈ tasks.flatMap work, i.byWorker = true := by
    intro tasks i hi
    obtain ⟨cmd, -, hi⟩ := List.mem_flatMap.mp hi
    simp only [work, List.mem_cons, List.not_mem_nil, or_false] at hi
    rcases hi with rfl | rfl | rfl <;> rfl
  cases hworker : m.worker with
  | waiting =>
    obtain ⟨n, hn, hdrained⟩ := drains_waiting hworker
    exact ⟨_, hwork m.tasks, n, hn, hdrained⟩
  | running cmd =>
    obtain ⟨n, hn, hdrained⟩ := drains_waiting (m := { m with
      worker := .waiting
      executed := m.executed ++ [cmd]
      completed := m.completed ++ [cmd]
      deleted := m.deleted ++ [cmd] }) rfl
    refine ⟨.execute cmd false :: .delete :: m.tasks.flatMap work, ?_, n, ?_, hdrained⟩
    · simpa [PoolStep.byWorker] using hwork m.tasks
    · simpa [step, hworker] using hn
  | finishing cmd =>
    obtain ⟨n, hn, hdrained⟩ := drains_waiting (m := { m with
      worker := .waiting
      deleted := m.deleted ++ [cmd] }) rfl
    refine ⟨.delete :: m.tasks.flatMap work, ?_, n, ?_, hdrained⟩
    · simpa [PoolStep.byWorker] using hwork m.tasks
    · simpa [step, hworker] using hn
  | returned => exact ⟨[], by simp, m, rfl, (h.returned hworker).2, Or.inr hworker⟩

/-- A worker with nothing to do is through with its queue. -/
theorem idle_drained {m : CommandManager} (h : m.Ordered)
    (hidle : ∀ i : PoolStep, i.byWorker = true → m.step i = none) : m.Drained := by
  cases hworker : m.worker with
  | waiting =>
    cases htasks : m.tasks with
    | nil => exact ⟨htasks, Or.inl hworker⟩
    | cons cmd rest =>
      have htake := hidle .take rfl
      simp [step, hworker, htasks] at htake
  | running cmd =>
    have hexecute := hidle (.execute cmd false) rfl
    simp [step, hworker] at hexecute
  | finishing cmd =>
    have hdelete := hidle .delete rfl
    simp [step, hworker] at hdelete
  | returned => exact ⟨(h.returned hworker).2, Or.inr hworker⟩

/-! ### The result -/

theorem Ordered.executed_prefix {m : CommandManager} (h : m.Ordered) :
    m.executed <+: m.accepted := by
  rw [h.fifo, List.append_assoc]
  exact List.prefix_append _ _

/-- No command is executed twice. -/
theorem Ordered.executed_nodup {m : CommandManager} (h : m.Ordered) : m.executed.Nodup :=
  h.executed_prefix.sublist.nodup (h.accepted.nodup h.fresh)

/-- When the queue is worked off, every command in it has been executed. -/
theorem Ordered.all_executed {m : CommandManager} (h : m.Ordered) (hdrained : m.Drained) :
    m.executed = m.accepted := by
  obtain ⟨htasks, hworker⟩ := hdrained
  have hheld : m.held = [] := by
    unfold held
    rcases hworker with hw | hw <;> rw [hw]
  rw [h.fifo, hheld, htasks, List.append_nil, List.append_nil]

/-- What has become of the commands whose calls have returned. -/
structure ExactlyOnce (m : CommandManager) : Prop where
  /-- Accepted commands are executed in their order. -/
  order : m.executed <+: m.accepted
  /-- None is executed twice, and none is deleted before it is executed. -/
  accepted : ∀ cmd, (cmd, true) ∈ m.answers →
    m.executed.count cmd ≤ 1 ∧ m.deleted.count cmd ≤ m.executed.count cmd
  /-- When the queue is worked off, all have been executed and deleted. -/
  drained : m.Drained → m.executed = m.accepted ∧ ∀ cmd, (cmd, true) ∈ m.answers →
    m.executed.count cmd = 1 ∧ m.deleted.count cmd = 1
  refused : ∀ cmd, (cmd, false) ∈ m.answers →
    m.executed.count cmd = 0 ∧ m.deleted.count cmd = 1

theorem run_consistent {steps : List PoolStep} {m : CommandManager}
    (hrun : Schedules.run step {} steps = some m) : m.Ordered ∧ m.Owned :=
  Schedules.run_keeps (I := fun m : CommandManager => m.Ordered ∧ m.Owned)
    ⟨init_ordered, init_owned⟩
    (fun _ _ _ h hstep => ⟨step_ordered h.1 hstep, step_owned h.1 h.2 hstep⟩) hrun

theorem exactlyOnce {m : CommandManager} (ho : m.Ordered) (h : m.Owned) : m.ExactlyOnce := by
  have hnodup : m.accepted.Nodup := ho.accepted.nodup ho.fresh
  have hcount : ∀ cmd, m.deleted.count cmd + m.toDelete.count cmd =
      m.executed.count cmd + m.refused.count cmd := by
    intro cmd
    rw [← List.count_append, ← List.count_append]
    exact h.deleted.count_eq cmd
  have hanswered : ∀ cmd queued, (cmd, queued) ∈ m.answers → (queued = true ↔ cmd ∈ m.accepted) :=
    fun cmd queued hmem => h.answered cmd queued (List.mem_append_right _ hmem)
  have hrefused : ∀ cmd, (cmd, true) ∈ m.answers → m.refused.count cmd = 0 := by
    intro cmd hmem
    refine List.count_eq_zero.mpr fun hin => ?_
    obtain ⟨⟨c, queued⟩, hfilter, rfl⟩ := List.mem_map.mp hin
    obtain ⟨hfalse, hqueued⟩ := List.mem_filter.mp hfilter
    have hno := (hanswered c queued hfalse).mpr ((hanswered c true hmem).mp rfl)
    rw [hno] at hqueued
    exact absurd hqueued (by simp)
  refine ⟨ho.executed_prefix, fun cmd hmem => ?_, fun hdrained => ?_, fun cmd hmem => ?_⟩
  · have hc := hcount cmd
    rw [hrefused cmd hmem] at hc
    exact ⟨List.nodup_iff_count_le_one.mp ho.executed_nodup cmd, by omega⟩
  · have htoDelete : m.toDelete = [] := by
      unfold toDelete
      rcases hdrained.2 with hw | hw <;> rw [hw]
    have hall : m.executed = m.accepted := ho.all_executed hdrained
    refine ⟨hall, fun cmd hmem => ?_⟩
    have hone : m.executed.count cmd = 1 := by
      rw [hall]
      exact List.count_eq_one_of_mem hnodup ((hanswered cmd true hmem).mp rfl)
    have hc := hcount cmd
    rw [hrefused cmd hmem, htoDelete, List.count_nil] at hc
    exact ⟨hone, by omega⟩
  · have hnot : cmd ∉ m.accepted := fun hin =>
      absurd ((hanswered cmd false hmem).mpr hin) (by simp)
    have hnever : cmd ∉ m.executed := fun hin => hnot (ho.executed_prefix.subset hin)
    have hcalls : (m.answers.map Prod.fst).Nodup := by
      have hall := h.once.nodup_iff.mpr ho.fresh
      rw [List.map_append] at hall
      exact (List.nodup_append'.mp hall).2.1
    have hsub : m.refused.Sublist (m.answers.map Prod.fst) := List.filter_sublist.map Prod.fst
    have hin : cmd ∈ m.refused := by
      unfold CommandManager.refused
      exact List.mem_map.mpr ⟨(cmd, false), List.mem_filter.mpr ⟨hmem, by simp⟩, rfl⟩
    have hone : m.refused.count cmd = 1 := List.count_eq_one_of_mem (hsub.nodup hcalls) hin
    have htoDelete : m.toDelete.count cmd = 0 :=
      List.count_eq_zero.mpr fun hd => hnever (h.finishing hd)
    have hexec : m.executed.count cmd = 0 := List.count_eq_zero.mpr hnever
    have hc := hcount cmd
    exact ⟨hexec, by omega⟩

/-- **After every schedule of senders, worker and shutdown, commands have been executed and
deleted exactly once or not yet, in the order of acceptance; the worker stops only when
none is left, and it can always get there.** -/
theorem commands_exactly_once {steps : List PoolStep} {m : CommandManager}
    (hrun : Schedules.run step {} steps = some m) :
    m.ExactlyOnce ∧ ((∀ i : PoolStep, i.byWorker = true → m.step i = none) → m.Drained) ∧
      ∃ more, (∀ i ∈ more, i.byWorker = true) ∧
        ∃ n, Schedules.run step m more = some n ∧ n.Drained := by
  obtain ⟨ho, h⟩ := run_consistent hrun
  exact ⟨exactlyOnce ho h, idle_drained ho, drains ho⟩

/-- Two commands are queued, the pool is told to terminate, a third one is refused. -/
def shutDownBusy : List PoolStep :=
  [.enqueue (.pdmCommand 1) false, .enqueue (.deviceClassCommand 2) false, .take, .terminate,
    .enqueue (.pdmCommand 3) false, .sendReturns (.pdmCommand 3),
    .execute (.pdmCommand 1) true, .sendReturns (.pdmCommand 1)]

theorem commands_exactly_once_busy :
    ∃ m, Schedules.run step {} shutDownBusy = some m ∧ m.ExactlyOnce ∧
      ((∀ i : PoolStep, i.byWorker = true → m.step i = none) → m.Drained) ∧
      ∃ more, (∀ i ∈ more, i.byWorker = true) ∧
        ∃ n, Schedules.run step m more = some n ∧ n.Drained := by
  have hrun : (Schedules.run step {} shutDownBusy).isSome = true := by decide
  obtain ⟨m, hm⟩ := Option.isSome_iff_exists.mp hrun
  exact ⟨m, hm, commands_exactly_once hm⟩

end CommandManager

end Pdm
