/-
The order in which the commands are taken.

**Whatever the threads do in between, the commands are taken one after the other, in the order
in which they were queued, and the uevents among them are those of the kernel, in its order,
without a gap and without a repetition.**  Leave aside what was refused for want of memory:
what has been announced is then at any time what has been executed, what the worker has in
hand, what the pool has queued and what the monitor has queued, in this order.
-/
import Pdm.Proofs.DaemonSteps

namespace Pdm

namespace Daemon

/-! ### Uevents -/

/-- What has become of the uevents before they are in the pool. -/
structure Announced (d : Daemon) : Prop where
  order : d.announced = d.handled ++ d.monitor
  fresh : d.announced.Nodup
  handled : d.pool.created.filterMap Command.event = d.handled

theorem start_announced : ({} : Daemon).Announced := ⟨rfl, List.nodup_nil, rfl⟩

/-- A call of `enqueue` that gets the lock has a new task. -/
theorem enqueue_created {p q : PdmThreadPool Command} {cmd : Command} {outOfMemory : Bool}
    (hstep : p.step (.enqueue cmd outOfMemory) = some q) :
    cmd ∉ p.created ∧ q.created = p.created ++ [cmd] := by
  cases PdmThreadPool.step_cases hstep with
  | refused _ _ hnew _ => exact ⟨hnew, rfl⟩
  | accepted _ hnew _ => exact ⟨hnew, rfl⟩

/-- No other step has one. -/
theorem other_created {p q : PdmThreadPool Command} {i : ThreadPoolStep Command}
    (hother : ∀ cmd outOfMemory, i ≠ .enqueue cmd outOfMemory) (hstep : p.step i = some q) :
    q.created = p.created := by
  cases PdmThreadPool.step_cases hstep with
  | refused cmd outOfMemory => exact absurd rfl (hother cmd outOfMemory)
  | accepted cmd => exact absurd rfl (hother cmd false)
  | _ => rfl

/-- The pool takes a step of its own. -/
theorem Announced.pool {d : Daemon} (h : d.Announced) {pool : PdmThreadPool Command}
    {i : ThreadPoolStep Command} (hother : ∀ cmd outOfMemory, i ≠ .enqueue cmd outOfMemory)
    (hpool : d.pool.step i = some pool) : Announced { d with pool := pool } :=
  ⟨h.order, h.fresh, (congrArg _ (other_created hother hpool)).trans h.handled⟩

/-- An event for which a command was new has not been handed over before. -/
theorem Announced.not_handled {d : Daemon} (h : d.Announced) {event : Nat}
    (hnew : Command.deviceClassCommand event ∉ d.pool.created) : event ∉ d.handled := by
  rw [← h.handled, List.mem_filterMap]
  intro hin
  obtain ⟨cmd, hcmd, hevent⟩ := hin
  cases cmd with
  | deviceClassCommand other =>
    obtain rfl : other = event := Option.some.inj hevent
    exact hnew hcmd
  | pdmCommand message => cases hevent

theorem step_announced {d e : Daemon} {i : DaemonStep} (hphases : d.Phases) (h : d.Announced)
    (hstep : d.step i = some e) : e.Announced := by
  cases step_cases hstep with
  | enumerated event outOfMemory pool hmain _ hpool =>
    obtain ⟨hnew, hcreated⟩ := enqueue_created hpool
    have hmonitor := (hphases.quiet hmain).2
    have horder : d.announced = d.handled := by simpa [hmonitor] using h.order
    refine ⟨?_, ?_, ?_⟩
    · show d.announced ++ [event] = d.handled ++ [event] ++ d.monitor
      rw [hmonitor, horder, List.append_nil]
    · refine List.nodup_append'.mpr ⟨h.fresh, List.nodup_singleton event, ?_⟩
      simpa [horder] using h.not_handled hnew
    · show pool.created.filterMap Command.event = d.handled ++ [event]
      rw [hcreated, List.filterMap_append, h.handled]
      rfl
  | emitted event _ hnew =>
    refine ⟨?_, ?_, h.handled⟩
    · show d.announced ++ [event] = d.handled ++ (d.monitor ++ [event])
      rw [h.order, List.append_assoc]
    · exact List.nodup_append'.mpr ⟨h.fresh, List.nodup_singleton event, by simpa using hnew⟩
  | received outOfMemory ready event rest pool _ _ hmonitor hpool =>
    refine ⟨?_, h.fresh, ?_⟩
    · show d.announced = d.handled ++ [event] ++ rest
      rw [h.order, hmonitor, List.append_assoc]
      rfl
    · show pool.created.filterMap Command.event = d.handled ++ [event]
      rw [(enqueue_created hpool).2, List.filterMap_append, h.handled]
      rfl
  | requested message outOfMemory pool _ _ hpool =>
    refine ⟨h.order, h.fresh, ?_⟩
    show pool.created.filterMap Command.event = d.handled
    rw [(enqueue_created hpool).2, List.filterMap_append, h.handled]
    exact List.append_nil _
  | listenerNotified _ _ _ _ hpool =>
    have hpooled := h.pool (by simp) hpool
    exact ⟨hpooled.order, hpooled.fresh, hpooled.handled⟩
  | mainNotified _ _ _ _ hpool =>
    have hpooled := h.pool (by simp) hpool
    exact ⟨hpooled.order, hpooled.fresh, hpooled.handled⟩
  | turned _ hpool => exact h.pool (by simp) hpool
  | wokeUp _ hpool => exact h.pool (by simp) hpool
  | executed _ _ _ hpool =>
    have hpooled := h.pool (by simp) hpool
    exact ⟨hpooled.order, hpooled.fresh, hpooled.handled⟩
  | terminated _ _ hpool =>
    have hpooled := h.pool (by simp) hpool
    exact ⟨hpooled.order, hpooled.fresh, hpooled.handled⟩
  | notifiedAll _ _ hpool => exact h.pool (by simp) hpool
  | workerJoined _ _ hpool => exact h.pool (by simp) hpool
  | _ => exact ⟨h.order, h.fresh, h.handled⟩

/-- The events that were not refused are those of the commands that were not. -/
theorem filter_events (commands refused : List Command) :
    (commands.filterMap Command.event).filter (Command.deviceClassCommand · ∉ refused) =
      (commands.filter (· ∉ refused)).filterMap Command.event := by
  induction commands with
  | nil => rfl
  | cons cmd commands ih =>
    cases cmd with
    | deviceClassCommand event =>
      by_cases hrefused : Command.deviceClassCommand event ∈ refused
      · simpa [Command.event, List.filter_cons, List.filterMap_cons, hrefused] using ih
      · simpa [Command.event, List.filter_cons, List.filterMap_cons, hrefused] using ih
    | pdmCommand message =>
      by_cases hrefused : Command.pdmCommand message ∈ refused
      · simpa [Command.event, List.filter_cons, List.filterMap_cons, hrefused] using ih
      · simpa [Command.event, List.filter_cons, List.filterMap_cons, hrefused] using ih

/-! ### The whole -/

/-- All that is known of the daemon. -/
structure Known (d : Daemon) : Prop where
  pooled : d.Pooled
  phases : d.Phases
  announced : d.Announced

theorem start_known : ({} : Daemon).Known := ⟨start_pooled, start_phases, start_announced⟩

theorem step_known {d e : Daemon} {i : DaemonStep} (h : d.Known)
    (hstep : d.step i = some e) : e.Known :=
  ⟨step_pooled h.pooled hstep, step_phases h.pooled h.phases hstep,
    step_announced h.phases h.announced hstep⟩

theorem run_known {steps : List DaemonStep} {d : Daemon}
    (hrun : Schedules.run (step) {} steps = some d) : d.Known :=
  Schedules.run_keeps start_known (fun _ _ _ h hstep => step_known h hstep) hrun

/-- The commands and the uevents are in one row each, in the order in which they came. -/
structure InRow (d : Daemon) : Prop where
  commands : d.pool.accepted =
    d.pool.finished ++ d.pool.workers.flatMap (·.task) ++ d.pool.pdmTasks
  uevents : d.announced.filter (Command.deviceClassCommand · ∉ d.pool.refused) =
    d.pool.finished.filterMap Command.event ++
      (d.pool.workers.flatMap (·.task)).filterMap Command.event ++
      d.pool.pdmTasks.filterMap Command.event ++ d.monitor
  once : d.announced.Nodup

/-- There is no command yet for what the monitor has queued. -/
theorem Known.monitor_uncreated {d : Daemon} (h : d.Known) {event : Nat}
    (hevent : event ∈ d.monitor) : Command.deviceClassCommand event ∉ d.pool.created := by
  intro hcreated
  have hhandled : event ∈ d.handled := by
    rw [← h.announced.handled]
    exact List.mem_filterMap.mpr ⟨_, hcreated, rfl⟩
  have hfresh := h.announced.fresh
  rw [h.announced.order] at hfresh
  exact (List.nodup_append'.mp hfresh).2.2 hhandled hevent

theorem Known.monitor_accepted {d : Daemon} (h : d.Known) {event : Nat}
    (hevent : event ∈ d.monitor) : Command.deviceClassCommand event ∉ d.pool.refused :=
  fun hrefused => h.monitor_uncreated hevent
    (h.pooled.sound.accounted.called.subset (List.mem_append_right _ hrefused))

/-- **Whatever the threads do in between, the commands are taken one after the other in the
order in which they were queued, and the uevents among them are the kernel's, in its order,
none lost but for want of memory and none repeated.** -/
theorem commands_in_row {steps : List DaemonStep} {d : Daemon}
    (hrun : Schedules.run step {} steps = some d) : d.InRow := by
  have h := run_known hrun
  refine ⟨h.pooled.row, ?_, h.announced.fresh⟩
  have hmonitor : d.monitor.filter (Command.deviceClassCommand · ∉ d.pool.refused) = d.monitor :=
    List.filter_eq_self.mpr fun event hevent => decide_eq_true (h.monitor_accepted hevent)
  have haccepted : (d.pool.created.filter (· ∉ d.pool.refused)).filterMap Command.event =
      d.pool.finished.filterMap Command.event ++
        (d.pool.workers.flatMap (·.task)).filterMap Command.event ++
        d.pool.pdmTasks.filterMap Command.event := by
    rw [← h.pooled.queued, h.pooled.row, List.filterMap_append, List.filterMap_append]
  rw [h.announced.order, List.filter_append, hmonitor, ← h.announced.handled, filter_events,
    haccepted]

/-- A uevent and a request come at the same time, and the worker is faster than the calls that
wake it. -/
def eventAndRequest : List DaemonStep :=
  [.runListner, .enableReceiving true, .emit 1, .epollWait [.udev], .serve false,
    .request 5 false, .turn, .listenerNotifies none, .taskReturns, .mainNotifies none, .turn,
    .emit 2, .commandReply, .taskReturns]

theorem commands_in_row_event :
    ∃ d, Schedules.run step {} eventAndRequest = some d ∧ d.InRow := by
  have hsome : (Schedules.run step {} eventAndRequest).isSome = true := by decide
  obtain ⟨d, hrun⟩ := Option.isSome_iff_exists.mp hsome
  exact ⟨d, hrun, commands_in_row hrun⟩

end Daemon

end Pdm
