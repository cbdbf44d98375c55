/-
What each step of the daemon does.

Every step of the daemon that is one for the pool is a step of the pool (`Stepped` keeps it as
such), so what is known of a pool's runs holds of the daemon's pool (`run_pool`).
-/
import Pdm.Framework.PdmMain
import Pdm.Proofs.PoolRefinement

namespace Pdm

namespace Daemon

/-- The steps that can be taken, with what each leaves. -/
inductive Stepped (d : Daemon) : DaemonStep → Daemon → Prop
  | initFailed (hmain : d.main = .enumerating) (hnone : d.announced = []) :
      Stepped d .initFails { d with main := .mainLoop }
  | enumerated (event : Nat) (outOfMemory : Bool) (pool : PdmThreadPool Command)
      (hmain : d.main = .enumerating) (hfree : d.mainSends = none)
      (hpool : d.pool.step (.enqueue (.deviceClassCommand event) outOfMemory) = some pool) :
      Stepped d (.enumerated event outOfMemory)
        { d with
          pool := pool
          mainSends := toWake pool (.deviceClassCommand event)
          announced := d.announced ++ [event]
          handled := d.handled ++ [event] }
  | started (hmain : d.main = .enumerating) (hfree : d.mainSends = none) :
      Stepped d .runListner
        { d with main := .mainLoop, listener := .starting }
  | enabled (enabled : Bool) (hlistener : d.listener = .starting) :
      Stepped d (.enableReceiving enabled)
        { d with listener := if enabled then .polling else .returned }
  | emitted (event : Nat) (hreceiving : d.receiving = true) (hnew : event ∉ d.announced) :
      Stepped d (.emit event)
        { d with monitor := d.monitor ++ [event], announced := d.announced ++ [event] }
  | polled (ready : List PollFd) (hlistener : d.listener = .polling) (hready : ready ≠ [])
      (hnodup : ready.Nodup) (hudev : .udev ∈ ready ↔ d.monitor ≠ [])
      (hstop : .stop ∈ ready ↔ d.stopFd = true) :
      Stepped d (.epollWait ready) { d with listener := .serving ready }
  | pollFailed (hlistener : d.listener = .polling) :
      Stepped d .epollFails { d with listener := .returned }
  | served (outOfMemory : Bool) (hfree : d.listenerSends = none)
      (hlistener : d.listener = .serving []) :
      Stepped d (.serve outOfMemory) { d with listener := .polling }
  | stopped (outOfMemory : Bool) (ready : List PollFd) (hfree : d.listenerSends = none)
      (hlistener : d.listener = .serving (.stop :: ready)) :
      Stepped d (.serve outOfMemory) { d with listener := .returned }
  | missed (outOfMemory : Bool) (ready : List PollFd) (hfree : d.listenerSends = none)
      (hlistener : d.listener = .serving (.udev :: ready)) (hmonitor : d.monitor = []) :
      Stepped d (.serve outOfMemory)
        { d with listener := .serving ready }
  | received (outOfMemory : Bool) (ready : List PollFd) (event : Nat) (rest : List Nat)
      (pool : PdmThreadPool Command) (hfree : d.listenerSends = none)
      (hlistener : d.listener = .serving (.udev :: ready)) (hmonitor : d.monitor = event :: rest)
      (hpool : d.pool.step (.enqueue (.deviceClassCommand event) outOfMemory) = some pool) :
      Stepped d (.serve outOfMemory)
        { d with
          pool := pool
          listenerSends := toWake pool (.deviceClassCommand event)
          listener := .serving ready
          monitor := rest
          handled := d.handled ++ [event] }
  | listenerNotified (cmd : Command) (woken : Option Nat) (pool : PdmThreadPool Command)
      (hsends : d.listenerSends = some cmd)
      (hpool : d.pool.step (.notifyOne cmd woken) = some pool) :
      Stepped d (.listenerNotifies woken)
        { d with pool := pool, listenerSends := none }
  | requested (message : Nat) (outOfMemory : Bool) (pool : PdmThreadPool Command)
      (hmain : d.main = .mainLoop) (hfree : d.mainSends = none)
      (hpool : d.pool.step (.enqueue (.pdmCommand message) outOfMemory) = some pool) :
      Stepped d (.request message outOfMemory)
        { d with pool := pool, mainSends := toWake pool (.pdmCommand message) }
  | mainNotified (cmd : Command) (woken : Option Nat) (pool : PdmThreadPool Command)
      (hsends : d.mainSends = some cmd)
      (hpool : d.pool.step (.notifyOne cmd woken) = some pool) :
      Stepped d (.mainNotifies woken)
        { d with pool := pool, mainSends := none }
  | turned (pool : PdmThreadPool Command) (hpool : d.pool.step (.turn 0) = some pool) :
      Stepped d .turn { d with pool := pool }
  | wokeUp (pool : PdmThreadPool Command) (hpool : d.pool.step (.wakeUp 0) = some pool) :
      Stepped d .wakeUp { d with pool := pool }
  | replied (message : Nat) (hworker : d.pool.workers = [.running (.pdmCommand message)])
      (hfirst : d.answered = false) :
      Stepped d .commandReply
        { d with answered := true, replies := d.replies ++ [(message, d.service)] }
  | executed (cmd : Command) (pool : PdmThreadPool Command)
      (hworker : d.pool.workers = [.running cmd])
      (hpool : d.pool.step (.taskReturns 0) = some pool) :
      Stepped d .taskReturns (taskReturned { d with pool := pool } cmd)
  | quit (hmain : d.main = .mainLoop) (hfree : d.mainSends = none) :
      Stepped d .quit { d with main := .loopStopped }
  | deInit (unregistered : Bool) (hmain : d.main = .loopStopped) :
      Stepped d (.deInit unregistered)
        { d with main := .lunaClosed, service := !unregistered }
  | stopping (hmain : d.main = .lunaClosed) :
      Stepped d .stopListener
        { d with main := .joiningListener, stopFd := d.listener ≠ .notStarted }
  | joined (hmain : d.main = .joiningListener)
      (hlistener : d.listener = .notStarted ∨ d.listener = .returned) :
      Stepped d .listenerJoined { d with main := .listenerStopped }
  | terminated (pool : PdmThreadPool Command) (hmain : d.main = .listenerStopped)
      (hpool : d.pool.step .terminate = some pool) :
      Stepped d .terminate
        { d with pool := pool, main := .deletingManager }
  | notifiedAll (pool : PdmThreadPool Command) (hmain : d.main = .deletingManager)
      (hpool : d.pool.step .notifyAll = some pool) :
      Stepped d .notifyAll { d with pool := pool }
  | workerJoined (pool : PdmThreadPool Command) (hmain : d.main = .deletingManager)
      (hpool : d.pool.step .join = some pool) :
      Stepped d .join { d with pool := pool }
  | managerDeleted (hmain : d.main = .deletingManager) (hdestroyed : d.pool.Destroyed) :
      Stepped d .managerDeleted { d with
        main := .deleting [.deviceTracker, .pdmConfig, .pluginAdapter, .notificationManager] }
  | deleted (object : PdmObject) (left : List PdmObject)
      (hmain : d.main = .deleting (object :: left)) :
      Stepped d .delete { d with main := .deleting left }

theorem poolStep_eq_some {d e : Daemon} {i : ThreadPoolStep Command}
    (h : d.poolStep i = some e) :
    ∃ pool, d.pool.step i = some pool ∧ e = { d with pool := pool } := by
  obtain ⟨pool, hpool, he⟩ := Option.map_eq_some_iff.mp h
  exact ⟨pool, hpool, he.symm⟩

theorem step_cases {d e : Daemon} {i : DaemonStep}
    (hstep : d.step i = some e) :
    Stepped d i e := by
  cases i with
  | initFails =>
    obtain ⟨⟨hmain, hnone⟩, he⟩ := Option.ite_none_right_eq_some.mp hstep
    rw [← Option.some.inj he]
    exact .initFailed hmain hnone
  | enumerated event outOfMemory =>
    obtain ⟨⟨hmain, hfree⟩, he⟩ := Option.ite_none_right_eq_some.mp hstep
    obtain ⟨f, hf, he⟩ := Option.map_eq_some_iff.mp he
    obtain ⟨pool, hpool, rfl⟩ := poolStep_eq_some hf
    rw [← he]
    exact .enumerated event outOfMemory pool hmain hfree hpool
  | runListner =>
    obtain ⟨⟨hmain, hfree⟩, he⟩ := Option.ite_none_right_eq_some.mp hstep
    rw [← Option.some.inj he]
    exact .started hmain hfree
  | enableReceiving enabled =>
    obtain ⟨hlistener, he⟩ := Option.ite_none_right_eq_some.mp hstep
    rw [← Option.some.inj he]
    exact .enabled enabled hlistener
  | emit event =>
    obtain ⟨⟨hreceiving, hnew⟩, he⟩ := Option.ite_none_right_eq_some.mp hstep
    rw [← Option.some.inj he]
    exact .emitted event hreceiving hnew
  | epollWait ready =>
    obtain ⟨⟨hlistener, hready, hnodup, hudev, hstop⟩, he⟩ :=
      Option.ite_none_right_eq_some.mp hstep
    rw [← Option.some.inj he]
    exact .polled ready hlistener hready hnodup hudev hstop
  | epollFails =>
    obtain ⟨hlistener, he⟩ := Option.ite_none_right_eq_some.mp hstep
    rw [← Option.some.inj he]
    exact .pollFailed hlistener
  | serve outOfMemory =>
    obtain ⟨hfree, he⟩ := Option.ite_none_right_eq_some.mp hstep
    split at he
    · rename_i hlistener
      rw [← Option.some.inj he]
      exact .served outOfMemory hfree hlistener
    · rename_i ready hlistener
      rw [← Option.some.inj he]
      exact .stopped outOfMemory ready hfree hlistener
    · rename_i ready hlistener hmonitor
      rw [← Option.some.inj he]
      exact .missed outOfMemory ready hfree hlistener hmonitor
    · rename_i ready event rest hlistener hmonitor
      obtain ⟨f, hf, he⟩ := Option.map_eq_some_iff.mp he
      obtain ⟨pool, hpool, rfl⟩ := poolStep_eq_some hf
      rw [← he]
      exact .received outOfMemory ready event rest pool hfree hlistener hmonitor hpool
    · cases he
  | listenerNotifies woken =>
    simp only [step] at hstep
    split at hstep
    · rename_i cmd hsends
      obtain ⟨f, hf, he⟩ := Option.map_eq_some_iff.mp hstep
      obtain ⟨pool, hpool, rfl⟩ := poolStep_eq_some hf
      rw [← he]
      exact .listenerNotified cmd woken pool hsends hpool
    · cases hstep
  | request message outOfMemory =>
    obtain ⟨⟨hmain, hfree⟩, he⟩ := Option.ite_none_right_eq_some.mp hstep
    obtain ⟨f, hf, he⟩ := Option.map_eq_some_iff.mp he
    obtain ⟨pool, hpool, rfl⟩ := poolStep_eq_some hf
    rw [← he]
    exact .requested message outOfMemory pool hmain hfree hpool
  | mainNotifies woken =>
    simp only [step] at hstep
    split at hstep
    · rename_i cmd hsends
      obtain ⟨f, hf, he⟩ := Option.map_eq_some_iff.mp hstep
      obtain ⟨pool, hpool, rfl⟩ := poolStep_eq_some hf
      rw [← he]
      exact .mainNotified cmd woken pool hsends hpool
    · cases hstep
  | turn =>
    obtain ⟨pool, hpool, rfl⟩ := poolStep_eq_some hstep
    exact .turned pool hpool
  | wakeUp =>
    obtain ⟨pool, hpool, rfl⟩ := poolStep_eq_some hstep
    exact .wokeUp pool hpool
  | commandReply =>
    simp only [step] at hstep
    split at hstep
    · rename_i message hworker
      obtain ⟨hfirst, he⟩ := Option.ite_none_left_eq_some.mp hstep
      rw [← Option.some.inj he]
      exact .replied message hworker (Bool.eq_false_iff.mpr hfirst)
    · cases hstep
  | taskReturns =>
    simp only [step] at hstep
    split at hstep
    · rename_i cmd hworker
      obtain ⟨f, hf, he⟩ := Option.map_eq_some_iff.mp hstep
      obtain ⟨pool, hpool, rfl⟩ := poolStep_eq_some hf
      rw [← he]
      exact .executed cmd pool hworker hpool
    · cases hstep
  | quit =>
    obtain ⟨⟨hmain, hfree⟩, he⟩ := Option.ite_none_right_eq_some.mp hstep
    rw [← Option.some.inj he]
    exact .quit hmain hfree
  | deInit unregistered =>
    obtain ⟨hmain, he⟩ := Option.ite_none_right_eq_some.mp hstep
    rw [← Option.some.inj he]
    exact .deInit unregistered hmain
  | stopListener =>
    obtain ⟨hmain, he⟩ := Option.ite_none_right_eq_some.mp hstep
    rw [← Option.some.inj he]
    exact .stopping hmain
  | listenerJoined =>
    obtain ⟨⟨hmain, hlistener⟩, he⟩ := Option.ite_none_right_eq_some.mp hstep
    rw [← Option.some.inj he]
    exact .joined hmain hlistener
  | terminate =>
    obtain ⟨hmain, he⟩ := Option.ite_none_right_eq_some.mp hstep
    obtain ⟨f, hf, he⟩ := Option.map_eq_some_iff.mp he
    obtain ⟨pool, hpool, rfl⟩ := poolStep_eq_some hf
    rw [← he]
    exact .terminated pool hmain hpool
  | notifyAll =>
    obtain ⟨hmain, he⟩ := Option.ite_none_right_eq_some.mp hstep
    obtain ⟨pool, hpool, rfl⟩ := poolStep_eq_some he
    exact .notifiedAll pool hmain hpool
  | join =>
    obtain ⟨hmain, he⟩ := Option.ite_none_right_eq_some.mp hstep
    obtain ⟨pool, hpool, rfl⟩ := poolStep_eq_some he
    exact .workerJoined pool hmain hpool
  | managerDeleted =>
    obtain ⟨⟨hmain, hdestroyed⟩, he⟩ := Option.ite_none_right_eq_some.mp hstep
    rw [← Option.some.inj he]
    exact .managerDeleted hmain hdestroyed
  | delete =>
    simp only [step] at hstep
    split at hstep
    · rename_i object left hmain
      rw [← Option.some.inj hstep]
      exact .deleted object left hmain
    · cases hstep

/-! ### The pool -/

/-- What a step is for the pool. -/
theorem step_pool {d e : Daemon} {i : DaemonStep}
    (hstep : d.step i = some e) :
    e.pool = d.pool ∨ ∃ j, d.pool.step j = some e.pool := by
  cases step_cases hstep with
  | enumerated _ _ _ _ _ hpool => exact Or.inr ⟨_, hpool⟩
  | received _ _ _ _ _ _ _ _ hpool => exact Or.inr ⟨_, hpool⟩
  | listenerNotified _ _ _ _ hpool => exact Or.inr ⟨_, hpool⟩
  | requested _ _ _ _ _ hpool => exact Or.inr ⟨_, hpool⟩
  | mainNotified _ _ _ _ hpool => exact Or.inr ⟨_, hpool⟩
  | turned _ hpool => exact Or.inr ⟨_, hpool⟩
  | wokeUp _ hpool => exact Or.inr ⟨_, hpool⟩
  | executed _ _ _ hpool => exact Or.inr ⟨_, hpool⟩
  | terminated _ _ hpool => exact Or.inr ⟨_, hpool⟩
  | notifiedAll _ _ hpool => exact Or.inr ⟨_, hpool⟩
  | workerJoined _ _ hpool => exact Or.inr ⟨_, hpool⟩
  | _ => exact Or.inl rfl

/-- What is known of the pool: of the waiting in it, and of the commands. -/
structure Pooled (d : Daemon) : Prop where
  sound : d.pool.Sound 1
  commands : ∃ m : CommandManager, m.Ordered ∧ CommandManager.Refines d.pool m

theorem start_pooled : ({} : Daemon).Pooled :=
  ⟨PdmThreadPool.create_sound 1, {}, CommandManager.init_ordered, CommandManager.create_refines⟩

theorem step_pooled {d e : Daemon} {i : DaemonStep} (h : d.Pooled)
    (hstep : d.step i = some e) : e.Pooled := by
  rcases step_pool hstep with hsame | ⟨j, hj⟩
  · exact ⟨hsame ▸ h.sound, hsame ▸ h.commands⟩
  · obtain ⟨m, hordered, hrefines⟩ := h.commands
    obtain ⟨more, n, hmore, hn, -⟩ :=
      CommandManager.step_simulates (fun _ => false) _ j _ m hrefines hj
    refine ⟨PdmThreadPool.step_sound h.sound hj, n, ?_, hn⟩
    exact Schedules.run_keeps hordered (fun _ _ _ => CommandManager.step_ordered) hmore

/-- The commands go through the pool in one row. -/
theorem Pooled.row {d : Daemon} (h : d.Pooled) :
    d.pool.accepted = d.pool.finished ++ d.pool.workers.flatMap (·.task) ++ d.pool.pdmTasks := by
  obtain ⟨m, hordered, hrefines⟩ := h.commands
  obtain ⟨phase, hphase, hworker⟩ := hrefines.worker
  have hheld : m.held = phase.task := by
    unfold CommandManager.held
    rw [hworker]
    cases phase <;> rfl
  rw [← hrefines.accepted, ← hrefines.executed, ← hrefines.tasks, hordered.fifo, hheld, hphase,
    List.flatMap_singleton]

/-- What is left of a list without repetitions when some of it is taken out. -/
theorem eq_filter_of_perm {kept taken all : List Command} (hsublist : kept.Sublist all)
    (hperm : (kept ++ taken).Perm all) (hnodup : all.Nodup) :
    kept = all.filter (· ∉ taken) := by
  obtain ⟨-, -, hapart⟩ := List.nodup_append'.mp (hperm.nodup_iff.mpr hnodup)
  have hkept : kept.filter (· ∉ taken) = kept :=
    List.filter_eq_self.mpr fun cmd hcmd => decide_eq_true fun htaken => hapart hcmd htaken
  have htaken : taken.filter (· ∉ taken) = [] :=
    List.filter_eq_nil_iff.mpr fun cmd hcmd => by simpa using hcmd
  have hlength := (hperm.filter (· ∉ taken)).length_eq
  rw [List.filter_append, hkept, htaken, List.append_nil] at hlength
  have hfiltered := hsublist.filter (· ∉ taken)
  rw [hkept] at hfiltered
  exact hfiltered.eq_of_length hlength

/-- The commands that were queued, in the order in which they were made. -/
theorem Pooled.queued {d : Daemon} (h : d.Pooled) :
    d.pool.accepted = d.pool.created.filter (· ∉ d.pool.refused) := by
  obtain ⟨m, hordered, hrefines⟩ := h.commands
  have hsublist : d.pool.accepted.Sublist d.pool.created := by
    rw [← hrefines.accepted, ← hrefines.created]
    exact hordered.accepted
  exact eq_filter_of_perm hsublist h.sound.accounted.called h.sound.accounted.fresh

/-! ### The threads and `main` -/

end Daemon

namespace MainPhase

/-- The phases in which `main` sends commands. -/
def sends : MainPhase → Bool
  | .enumerating => true
  | .mainLoop => true
  | _ => false

/-- The phases in which there may be a listener. -/
def listens : MainPhase → Bool
  | .mainLoop => true
  | .loopStopped => true
  | .lunaClosed => true
  | .joiningListener => true
  | _ => false

/-- The phases in which the pool has been told to terminate. -/
def terminated : MainPhase → Bool
  | .deletingManager => true
  | .deleting _ => true
  | _ => false

end MainPhase

namespace Daemon

/-- Who is where while `main` is where it is. -/
structure Phases (d : Daemon) : Prop where
  mainSends : d.mainSends ≠ none → d.main.sends = true
  listenerSends : d.listenerSends ≠ none → ∃ ready, d.listener = .serving ready
  quiet : d.main = .enumerating → d.listener = .notStarted ∧ d.monitor = []
  listens : d.main.listens = true ∨ d.listener = .notStarted ∨ d.listener = .returned
  terminated : d.pool.terminate = d.main.terminated
  destroyed : ∀ left, d.main = .deleting left → d.pool.Destroyed

theorem start_phases : ({} : Daemon).Phases := by
  refine ⟨by simp, by simp, ?_, Or.inr (Or.inl rfl), rfl, by simp⟩
  exact fun _ => ⟨rfl, rfl⟩

theorem step_mainSends {d e : Daemon} {i : DaemonStep} (h : d.Phases)
    (hstep : d.step i = some e) :
    e.mainSends ≠ none → e.main.sends = true := by
  have hbefore := h.mainSends
  cases step_cases hstep with
  | initFailed => exact fun _ => rfl
  | enumerated event outOfMemory pool hmain => exact fun _ => by simp [hmain, MainPhase.sends]
  | started => exact fun _ => rfl
  | requested message outOfMemory pool hmain => exact fun _ => by simp [hmain, MainPhase.sends]
  | mainNotified => exact fun hsome => absurd rfl hsome
  | quit _ hfree => exact fun hsome => absurd hfree hsome
  | deInit _ hmain => exact fun hsome => absurd (hbefore hsome) (by simp [hmain, MainPhase.sends])
  | stopping hmain => exact fun hsome => absurd (hbefore hsome) (by simp [hmain, MainPhase.sends])
  | joined hmain => exact fun hsome => absurd (hbefore hsome) (by simp [hmain, MainPhase.sends])
  | terminated _ hmain =>
    exact fun hsome => absurd (hbefore hsome) (by simp [hmain, MainPhase.sends])
  | managerDeleted hmain =>
    exact fun hsome => absurd (hbefore hsome) (by simp [hmain, MainPhase.sends])
  | deleted _ _ hmain =>
    exact fun hsome => absurd (hbefore hsome) (by simp [hmain, MainPhase.sends])
  | _ => exact hbefore

theorem step_listenerSends {d e : Daemon} {i : DaemonStep} (h : d.Phases)
    (hstep : d.step i = some e) :
    e.listenerSends ≠ none → ∃ ready, e.listener = .serving ready := by
  have hbefore := h.listenerSends
  have hidle : (∀ ready, d.listener ≠ .serving ready) → d.listenerSends = none := by
    intro hother
    by_contra hsome
    obtain ⟨ready, hready⟩ := hbefore hsome
    exact hother ready hready
  cases step_cases hstep with
  | started hmain =>
    refine fun hsome => absurd (hidle ?_) hsome
    simp [(h.quiet hmain).1]
  | enabled _ hlistener => exact fun hsome => absurd (hidle (by simp [hlistener])) hsome
  | polled ready => exact fun _ => ⟨ready, rfl⟩
  | pollFailed hlistener => exact fun hsome => absurd (hidle (by simp [hlistener])) hsome
  | served _ hfree => exact fun hsome => absurd hfree hsome
  | stopped _ _ hfree => exact fun hsome => absurd hfree hsome
  | missed _ ready => exact fun _ => ⟨ready, rfl⟩
  | received _ ready => exact fun _ => ⟨ready, rfl⟩
  | listenerNotified => exact fun hsome => absurd rfl hsome
  | _ => exact hbefore

theorem step_quiet {d e : Daemon} {i : DaemonStep} (h : d.Phases)
    (hstep : d.step i = some e) :
    e.main = .enumerating → e.listener = .notStarted ∧ e.monitor = [] := by
  have hbefore := h.quiet
  have hother : d.listener ≠ .notStarted → d.main ≠ .enumerating :=
    fun hstarted hmain => hstarted (hbefore hmain).1
  cases step_cases hstep with
  | enabled _ hlistener => exact fun hmain => absurd hmain (hother (by simp [hlistener]))
  | emitted _ hreceiving =>
    refine fun hmain => absurd hmain (hother ?_)
    intro hlistener
    simp [receiving, hlistener] at hreceiving
  | polled _ hlistener => exact fun hmain => absurd hmain (hother (by simp [hlistener]))
  | pollFailed hlistener => exact fun hmain => absurd hmain (hother (by simp [hlistener]))
  | served _ _ hlistener => exact fun hmain => absurd hmain (hother (by simp [hlistener]))
  | stopped _ _ _ hlistener => exact fun hmain => absurd hmain (hother (by simp [hlistener]))
  | missed _ _ _ hlistener => exact fun hmain => absurd hmain (hother (by simp [hlistener]))
  | received _ _ _ _ _ _ hlistener => exact fun hmain => absurd hmain (hother (by simp [hlistener]))
  | initFailed | started | quit | deInit | stopping | joined | terminated | managerDeleted
  | deleted => exact nofun
  | _ => exact hbefore

theorem step_listens {d e : Daemon} {i : DaemonStep} (h : d.Phases)
    (hstep : d.step i = some e) :
    e.main.listens = true ∨ e.listener = .notStarted ∨ e.listener = .returned := by
  have hbefore := h.listens
  have hover : d.main.listens = false → d.listener = .notStarted ∨ d.listener = .returned := by
    intro hmain
    exact hbefore.resolve_left (by simp [hmain])
  have halive : d.listener ≠ .notStarted → d.listener ≠ .returned → d.main.listens = true := by
    intro hstarted hreturned
    exact hbefore.resolve_right fun hlistener => hlistener.elim hstarted hreturned
  cases step_cases hstep with
  | initFailed => exact Or.inl rfl
  | started => exact Or.inl rfl
  | enabled _ hlistener => exact Or.inl (halive (by simp [hlistener]) (by simp [hlistener]))
  | polled _ hlistener => exact Or.inl (halive (by simp [hlistener]) (by simp [hlistener]))
  | pollFailed => exact Or.inr (Or.inr rfl)
  | served _ _ hlistener => exact Or.inl (halive (by simp [hlistener]) (by simp [hlistener]))
  | stopped => exact Or.inr (Or.inr rfl)
  | missed _ _ _ hlistener => exact Or.inl (halive (by simp [hlistener]) (by simp [hlistener]))
  | received _ _ _ _ _ _ hlistener =>
    exact Or.inl (halive (by simp [hlistener]) (by simp [hlistener]))
  | quit => exact Or.inl rfl
  | deInit => exact Or.inl rfl
  | stopping => exact Or.inl rfl
  | joined _ hlistener => exact Or.inr hlistener
  | terminated _ hmain => exact Or.inr (hover (by rw [hmain]; rfl))
  | managerDeleted hmain => exact Or.inr (hover (by rw [hmain]; rfl))
  | deleted _ _ hmain => exact Or.inr (hover (by rw [hmain]; rfl))
  | _ => exact hbefore

/-- Only its destructor tells a pool to terminate. -/
theorem pool_terminate {p q : PdmThreadPool Command} {i : ThreadPoolStep Command}
    (hother : i ≠ .terminate) (hstep : p.step i = some q) : q.terminate = p.terminate := by
  cases PdmThreadPool.step_cases hstep with
  | terminated => exact absurd rfl hother
  | _ => rfl

theorem step_terminated {d e : Daemon} {i : DaemonStep} (h : d.Phases)
    (hstep : d.step i = some e) :
    e.pool.terminate = e.main.terminated := by
  have hbefore := h.terminated
  cases step_cases hstep with
  | initFailed hmain | started hmain | quit hmain | deInit _ hmain | stopping hmain
  | joined hmain | managerDeleted hmain | deleted _ _ hmain =>
    rw [hmain] at hbefore
    exact hbefore
  | enumerated _ _ _ _ _ hpool => exact (pool_terminate (by simp) hpool).trans hbefore
  | received _ _ _ _ _ _ _ _ hpool => exact (pool_terminate (by simp) hpool).trans hbefore
  | listenerNotified _ _ _ _ hpool => exact (pool_terminate (by simp) hpool).trans hbefore
  | requested _ _ _ _ _ hpool => exact (pool_terminate (by simp) hpool).trans hbefore
  | mainNotified _ _ _ _ hpool => exact (pool_terminate (by simp) hpool).trans hbefore
  | turned _ hpool => exact (pool_terminate (by simp) hpool).trans hbefore
  | wokeUp _ hpool => exact (pool_terminate (by simp) hpool).trans hbefore
  | executed _ _ _ hpool => exact (pool_terminate (by simp) hpool).trans hbefore
  | notifiedAll _ _ hpool => exact (pool_terminate (by simp) hpool).trans hbefore
  | workerJoined _ _ hpool => exact (pool_terminate (by simp) hpool).trans hbefore
  | terminated pool hmain hpool =>
    cases PdmThreadPool.step_cases hpool
    rfl
  | _ => exact hbefore

theorem step_destroyed {d e : Daemon} {i : DaemonStep} (hpooled : d.Pooled) (h : d.Phases)
    (hstep : d.step i = some e) :
    ∀ left, e.main = .deleting left → e.pool.Destroyed := by
  have hkept : ∀ left, d.main = .deleting left → e.pool.Destroyed := by
    intro left hmain
    rcases step_pool hstep with hsame | ⟨j, hj⟩
    · rw [hsame]
      exact h.destroyed left hmain
    · exact hpooled.sound.step_destroyed (h.destroyed left hmain) hj
  cases step_cases hstep with
  | initFailed | started | quit | deInit | stopping | joined | terminated => exact nofun
  | managerDeleted _ hdestroyed => exact fun _ _ => hdestroyed
  | deleted object left hmain => exact fun _ _ => hkept _ hmain
  | _ => exact hkept

theorem step_phases {d e : Daemon} {i : DaemonStep} (hpooled : d.Pooled) (h : d.Phases)
    (hstep : d.step i = some e) : e.Phases :=
  ⟨step_mainSends h hstep, step_listenerSends h hstep, step_quiet h hstep, step_listens h hstep,
    step_terminated h hstep, step_destroyed hpooled h hstep⟩

end Daemon

end Pdm
