/-
How the daemon ends.

`main` takes down what the commands use while there may still be commands.  It is safe for the
four objects that are deleted behind the `CommandManager`: the listener has returned before the
pool is told to terminate, so no call of `sendCommand` finds it terminated, and the pool's
destructor lets the worker run all that was queued before the next object is deleted.  The luna
service goes before that, so the requests that are not answered by then and whose handlers do
not throw reply to a service that is gone (`replies_lost`), and these are all.

The rest is about coming to an end: `join` waits for the listener and for the worker, and both
come to where it waits for them, but for a worker whose command does not return.
-/
import Pdm.Proofs.CommandOrder

namespace Pdm

namespace Daemon

/-! ### The objects -/

/-- The pool is open wherever a command is sent. -/
theorem Phases.sends_open {d e : Daemon} {i : DaemonStep} (h : d.Phases) (hsends : i.sends = true)
    (hstep : d.step i = some e) : d.main.terminated = false := by
  have hlistening : ∀ ready, d.listener = .serving ready → d.main.terminated = false := by
    intro ready hlistener
    have hlistens := h.listens.resolve_right (by simp [hlistener])
    cases hmain : d.main <;> rw [hmain] at hlistens <;> first | rfl | cases hlistens
  cases step_cases hstep with
  | enumerated _ _ _ hmain => rw [hmain]; rfl
  | requested _ _ _ hmain => rw [hmain]; rfl
  | served _ _ hlistener => exact hlistening _ hlistener
  | stopped _ _ _ hlistener => exact hlistening _ hlistener
  | missed _ _ _ hlistener => exact hlistening _ hlistener
  | received _ _ _ _ _ _ hlistener => exact hlistening _ hlistener
  | _ => cases hsends

/-- Once `main` deletes the objects, the worker has returned and everything has been run. -/
theorem Known.all_run {d : Daemon} (h : d.Known) {left : List PdmObject}
    (hmain : d.main = .deleting left) :
    d.pool.workers = [.returned] ∧ d.pool.pdmTasks = [] ∧ d.pool.finished = d.pool.accepted := by
  have hdestroyed := h.phases.destroyed left hmain
  have hreturned := h.pooled.sound.allReturned hdestroyed
  obtain ⟨phase, hworkers⟩ := List.length_eq_one_iff.mp h.pooled.sound.length
  obtain rfl : phase = .returned := hreturned phase (by simp [hworkers])
  have htasks := (h.pooled.sound.shutdown.returned (by simp [hworkers])).2
  refine ⟨hworkers, htasks, ?_⟩
  rw [h.pooled.row, hworkers, htasks]
  simp [WorkerPhase.task]

/-- **No call of `sendCommand` finds the pool terminated, and while a command is queued or being
executed the four objects that `main` deletes behind the `CommandManager` are there.** -/
theorem objects_outlive_commands {steps : List DaemonStep} {d : Daemon}
    (hrun : Schedules.run step {} steps = some d) :
    (∀ i e, i.sends = true → d.step i = some e →
      d.pool.terminate = false ∧ ∀ object, d.Alive object) ∧
    (d.pool.pdmTasks ++ d.pool.workers.flatMap (·.task) ≠ [] → ∀ object, d.Alive object) := by
  have h := run_known hrun
  refine ⟨fun i e hsends hstep => ?_, fun hbusy object left hmain => ?_⟩
  · have hopen := h.phases.sends_open hsends hstep
    refine ⟨h.phases.terminated.trans hopen, fun object left hmain => ?_⟩
    rw [hmain] at hopen
    cases hopen
  · obtain ⟨hworkers, htasks, -⟩ := h.all_run hmain
    rw [hworkers, htasks] at hbusy
    exact absurd rfl hbusy

/-- A request is queued while the worker has another one in hand. -/
theorem objects_outlive_commands_two_requests :
    (∀ i e, i.sends = true →
      step
        { main := .mainLoop
          mainSends := some (.pdmCommand 6)
          pool :=
            { workers := [.running (.pdmCommand 5)], pdmTasks := [.pdmCommand 6]
              notifying := [.pdmCommand 6], created := [.pdmCommand 5, .pdmCommand 6]
              accepted := [.pdmCommand 5, .pdmCommand 6], started := [.pdmCommand 5] } } i =
        some e → false = false ∧ ∀ object, Alive { main := .mainLoop } object) ∧
    ([Command.pdmCommand 6, .pdmCommand 5] ≠ [] →
      ∀ object, Alive { main := .mainLoop } object) :=
  @objects_outlive_commands
    [.initFails, .request 5 false, .turn, .mainNotifies none, .request 6 false]
    { main := .mainLoop
      mainSends := some (.pdmCommand 6)
      pool :=
        { workers := [.running (.pdmCommand 5)], pdmTasks := [.pdmCommand 6]
          notifying := [.pdmCommand 6], created := [.pdmCommand 5, .pdmCommand 6]
          accepted := [.pdmCommand 5, .pdmCommand 6], started := [.pdmCommand 5] } } (by decide)

/-! ### The replies -/

end Daemon

/-- The phases behind `LunaIPC::deInit`. -/
def MainPhase.closed : MainPhase → Bool
  | .enumerating => false
  | .mainLoop => false
  | .loopStopped => false
  | _ => true

namespace Daemon

/-- Up to `LunaIPC::deInit` there is a service for every reply. -/
structure Serving (d : Daemon) : Prop where
  service : d.main.closed = false → d.service = true
  replies : d.service = true → ∀ answer ∈ d.replies, answer.2 = true

theorem start_serving : ({} : Daemon).Serving := ⟨fun _ => rfl, by simp⟩

theorem step_serving {d e : Daemon} {i : DaemonStep} (h : d.Serving)
    (hstep : d.step i = some e) : e.Serving := by
  have hservice := h.service
  have hreplies := h.replies
  cases step_cases hstep with
  | initFailed hmain | started hmain | quit hmain =>
    rw [hmain] at hservice
    exact ⟨fun _ => hservice rfl, hreplies⟩
  | deInit unregistered hmain =>
    rw [hmain] at hservice
    exact ⟨nofun, fun _ => hreplies (hservice rfl)⟩
  | stopping | joined | terminated | managerDeleted | deleted => exact ⟨nofun, hreplies⟩
  | replied message =>
    refine ⟨hservice, fun halive answer hanswer => ?_⟩
    rcases List.mem_append.mp hanswer with hold | hnew
    · exact hreplies halive answer hold
    · rw [List.mem_singleton.mp hnew]
      exact halive
  | _ => exact ⟨hservice, hreplies⟩

/-- Only a task that returns is finished. -/
theorem other_finished {p q : PdmThreadPool Command} {i : ThreadPoolStep Command}
    (hother : ∀ worker, i ≠ .taskReturns worker) (hstep : p.step i = some q) :
    q.finished = p.finished := by
  cases PdmThreadPool.step_cases hstep with
  | finished worker => exact absurd rfl (hother worker)
  | _ => rfl

/-- The one worker's task returns. -/
theorem one_finished {p q : PdmThreadPool Command} {cmd : Command}
    (hworker : p.workers = [.running cmd]) (hstep : p.step (.taskReturns 0) = some q) :
    q.finished = p.finished ++ [cmd] := by
  cases PdmThreadPool.step_cases hstep with
  | finished _ task htask =>
    rw [hworker] at htask
    obtain rfl : cmd = task := by simpa using htask
    rfl

/-- The messages of the commands. -/
def messages (commands : List Command) : List Nat := commands.filterMap Command.message

/-- The request that the worker has in hand and has answered. -/
def answeredInHand (d : Daemon) : List Command :=
  if d.answered then d.pool.workers.flatMap (·.task) else []

/-- The requests that have been answered or whose handlers have thrown, in their order. -/
def settled (d : Daemon) : List Nat := messages (d.pool.finished ++ d.answeredInHand)

/-- The requests that are queued or in hand and have not been answered. -/
def unanswered (d : Daemon) : List Nat :=
  messages ((if d.answered then [] else d.pool.workers.flatMap (·.task)) ++ d.pool.pdmTasks)

/-- Every request that was queued is one or the other. -/
theorem Known.settled_unanswered {d : Daemon} (h : d.Known) :
    messages d.pool.accepted = d.settled ++ d.unanswered := by
  unfold settled unanswered answeredInHand messages
  rw [← List.filterMap_append, h.pooled.row]
  cases d.answered <;> simp

theorem message_injective {a b : Command} {message : Nat} (ha : a.message = some message)
    (hb : b.message = some message) : a = b := by
  cases a with
  | deviceClassCommand => cases ha
  | pdmCommand =>
    cases b with
    | deviceClassCommand => cases hb
    | pdmCommand =>
      rw [Command.message, Option.some.injEq] at ha hb
      rw [ha, hb]

theorem Known.messages_nodup {d : Daemon} (h : d.Known) : (messages d.pool.accepted).Nodup := by
  have hnodup : d.pool.accepted.Nodup := by
    rw [h.pooled.queued]
    exact h.pooled.sound.accounted.fresh.filter _
  exact hnodup.filterMap fun a b message ha hb => message_injective ha hb

/-- What has been answered and not returned is in hand. -/
def InHand (d : Daemon) : Prop :=
  d.answered = true → ∃ message, d.pool.workers = [.running (.pdmCommand message)]

/-- A worker with a task in hand keeps it until it returns. -/
theorem other_workers {p q : PdmThreadPool Command} {i : ThreadPoolStep Command} {cmd : Command}
    (hworker : p.workers = [.running cmd]) (hother : ∀ worker, i ≠ .taskReturns worker)
    (hstep : p.step i = some q) : q.workers = [.running cmd] := by
  have hphase : ∀ {worker : Nat} {phase : WorkerPhase Command},
      p.workers[worker]? = some phase → phase = .running cmd := by
    intro worker phase hget
    have hmem := List.mem_of_getElem? hget
    rw [hworker] at hmem
    exact List.mem_singleton.mp hmem
  cases PdmThreadPool.step_cases hstep with
  | finished worker => exact absurd rfl (hother worker)
  | heard _ _ _ hget => cases hphase hget
  | taken _ _ _ hget => cases hphase hget
  | returned _ hget => cases hphase hget
  | fellAsleep _ hget => cases hphase hget
  | wokeUp _ hget => cases hphase hget
  | notifiedAll _ =>
    show p.workers.map (·.woken) = _
    rw [hworker]
    rfl
  | _ => exact hworker

/-- The pool takes a step of another kind. -/
theorem InHand.pool {d e : Daemon} (h : d.InHand) {i : ThreadPoolStep Command}
    (hanswered : e.answered = d.answered) (hother : ∀ worker, i ≠ .taskReturns worker)
    (hpool : d.pool.step i = some e.pool) : e.InHand ∧ e.settled = d.settled := by
  have hfinished := other_finished hother hpool
  unfold settled answeredInHand
  rw [hanswered, hfinished]
  cases hin : d.answered with
  | false => exact ⟨fun hyes => absurd (hanswered.symm.trans hyes) (by simp [hin]), rfl⟩
  | true =>
    obtain ⟨message, hworker⟩ := h hin
    have hsame := other_workers hworker hother hpool
    refine ⟨fun _ => ⟨message, hsame⟩, ?_⟩
    rw [hsame, hworker]

/-- What a step does to the requests. -/
inductive Asked (d e : Daemon) : Prop
  | nothing (hsettled : e.settled = d.settled) (hreplies : e.replies = d.replies)
      (hthrown : e.thrown = d.thrown)
  | replied (message : Nat) (hsettled : e.settled = d.settled ++ [message])
      (hreplies : e.replies = d.replies ++ [(message, d.service)]) (hthrown : e.thrown = d.thrown)
  | threw (message : Nat) (hsettled : e.settled = d.settled ++ [message])
      (hreplies : e.replies = d.replies) (hthrown : e.thrown = d.thrown ++ [message])

theorem InHand.nothing {d e : Daemon} (h : d.InHand) {i : ThreadPoolStep Command}
    (hpool : d.pool.step i = some e.pool) (hother : ∀ worker, i ≠ .taskReturns worker)
    (hanswered : e.answered = d.answered) (hreplies : e.replies = d.replies)
    (hthrown : e.thrown = d.thrown) : e.InHand ∧ Asked d e :=
  (h.pool hanswered hother hpool).imp_right fun hsettled => .nothing hsettled hreplies hthrown

theorem step_asked {d e : Daemon} {i : DaemonStep} (h : d.InHand) (hstep : d.step i = some e) :
    e.InHand ∧ Asked d e := by
  cases step_cases hstep with
  | enumerated _ _ _ _ _ hpool =>
    exact h.nothing hpool (by simp) rfl rfl rfl
  | received _ _ _ _ _ _ _ _ hpool =>
    exact h.nothing hpool (by simp) rfl rfl rfl
  | listenerNotified _ _ _ _ hpool =>
    exact h.nothing hpool (by simp) rfl rfl rfl
  | requested _ _ _ _ _ hpool =>
    exact h.nothing hpool (by simp) rfl rfl rfl
  | mainNotified _ _ _ _ hpool =>
    exact h.nothing hpool (by simp) rfl rfl rfl
  | turned _ hpool =>
    exact h.nothing hpool (by simp) rfl rfl rfl
  | wokeUp _ hpool =>
    exact h.nothing hpool (by simp) rfl rfl rfl
  | terminated _ _ hpool =>
    exact h.nothing hpool (by simp) rfl rfl rfl
  | notifiedAll _ _ hpool =>
    exact h.nothing hpool (by simp) rfl rfl rfl
  | workerJoined _ _ hpool =>
    exact h.nothing hpool (by simp) rfl rfl rfl
  | replied message hworker hfirst =>
    refine ⟨fun _ => ⟨message, hworker⟩, .replied message ?_ rfl rfl⟩
    simp [settled, answeredInHand, messages, hworker, hfirst, WorkerPhase.task, Command.message]
  | executed cmd pool hworker hpool =>
    have hfinished := one_finished hworker hpool
    refine ⟨nofun, ?_⟩
    cases hanswered : d.answered with
    | true =>
      refine .nothing ?_ rfl ?_
      · simp [settled, answeredInHand, taskReturned, hfinished, hanswered, hworker, WorkerPhase.task]
      · rfl
    | false =>
      cases cmd with
      | deviceClassCommand event =>
        refine .nothing ?_ rfl ?_
        · simp [settled, answeredInHand, taskReturned, hfinished, hanswered, messages,
            Command.message]
        · exact List.append_nil _
      | pdmCommand message =>
        refine .threw message ?_ rfl ?_
        · simp [settled, answeredInHand, taskReturned, hfinished, hanswered, messages,
            Command.message]
        · rfl
  | _ => exact ⟨h, .nothing rfl rfl rfl⟩

/-- What has become of the requests since the service was closed in the state `d`. -/
structure Closed (d e : Daemon) : Prop where
  main : e.main.closed = true
  service : e.service = d.service
  requests : messages e.pool.accepted = messages d.pool.accepted
  done : ∃ done thrown, e.settled = d.settled ++ done ∧ e.thrown = d.thrown ++ thrown ∧
    e.replies = d.replies ++ (done.filter (· ∉ thrown)).map (·, d.service) ∧ thrown ⊆ done

/-- A pool takes nothing in without a call of `enqueue`. -/
theorem other_accepted {p q : PdmThreadPool Command} {i : ThreadPoolStep Command}
    (hother : ∀ cmd outOfMemory, i ≠ .enqueue cmd outOfMemory) (hstep : p.step i = some q) :
    q.accepted = p.accepted := by
  cases PdmThreadPool.step_cases hstep with
  | accepted cmd => exact absurd rfl (hother cmd false)
  | _ => rfl

/-- The commands of the listener are no requests. -/
theorem event_accepted {p q : PdmThreadPool Command} {event : Nat} {outOfMemory : Bool}
    (hstep : p.step (.enqueue (.deviceClassCommand event) outOfMemory) = some q) :
    messages q.accepted = messages p.accepted := by
  cases PdmThreadPool.step_cases hstep with
  | refused => rfl
  | accepted =>
    rw [messages, messages, List.filterMap_append]
    exact List.append_nil _

/-- The messages that the pool takes in after the service is closed: none. -/
theorem step_requests {d e : Daemon} {i : DaemonStep} (hclosed : d.main.closed = true)
    (hstep : d.step i = some e) : e.main.closed = true ∧ e.service = d.service ∧
      messages e.pool.accepted = messages d.pool.accepted := by
  cases step_cases hstep with
  | initFailed hmain | enumerated _ _ _ hmain | started hmain | requested _ _ _ hmain | quit hmain
  | deInit _ hmain =>
    rw [hmain] at hclosed
    cases hclosed
  | received _ _ _ _ _ _ _ _ hpool => exact ⟨hclosed, rfl, event_accepted hpool⟩
  | listenerNotified _ _ _ _ hpool =>
    exact ⟨hclosed, rfl, congrArg messages (other_accepted (by simp) hpool)⟩
  | mainNotified _ _ _ _ hpool =>
    exact ⟨hclosed, rfl, congrArg messages (other_accepted (by simp) hpool)⟩
  | turned _ hpool => exact ⟨hclosed, rfl, congrArg messages (other_accepted (by simp) hpool)⟩
  | wokeUp _ hpool => exact ⟨hclosed, rfl, congrArg messages (other_accepted (by simp) hpool)⟩
  | executed _ _ _ hpool => exact ⟨hclosed, rfl, congrArg messages (other_accepted (by simp) hpool)⟩
  | terminated _ _ hpool => exact ⟨rfl, rfl, congrArg messages (other_accepted (by simp) hpool)⟩
  | notifiedAll _ _ hpool =>
    exact ⟨hclosed, rfl, congrArg messages (other_accepted (by simp) hpool)⟩
  | workerJoined _ _ hpool =>
    exact ⟨hclosed, rfl, congrArg messages (other_accepted (by simp) hpool)⟩
  | stopping | joined | managerDeleted | deleted => exact ⟨rfl, rfl, rfl⟩
  | _ => exact ⟨hclosed, rfl, rfl⟩

/-- A list without repetitions, one longer, without one of the last. -/
theorem filter_concat_new {done thrown : List Nat} {message : Nat} (hnew : message ∉ done) :
    (done ++ [message]).filter (· ∉ thrown ++ [message]) = done.filter (· ∉ thrown) := by
  rw [List.filter_append]
  have hlast : [message].filter (· ∉ thrown ++ [message]) = [] := by simp
  have hrest : done.filter (· ∉ thrown ++ [message]) = done.filter (· ∉ thrown) := by
    refine List.filter_congr fun other hother => ?_
    have hne : other ≠ message := fun heq => hnew (heq ▸ hother)
    simp [hne]
  rw [hlast, hrest, List.append_nil]

theorem step_closed {d e f : Daemon} {i : DaemonStep} (hknown : f.Known) (hin : e.InHand)
    (h : Closed d e) (hstep : e.step i = some f) : Closed d f := by
  obtain ⟨hmain, hservice, hrequests⟩ := step_requests h.main hstep
  obtain ⟨done, thrown, hdone, hthrown, hreplies, hsub⟩ := h.done
  refine ⟨hmain, hservice.trans h.service, hrequests.trans h.requests, ?_⟩
  -- Settled requests are settled once.
  have hnew : ∀ message, f.settled = e.settled ++ [message] → message ∉ done := by
    intro message hsettled
    have hnodup := hknown.messages_nodup
    rw [hknown.settled_unanswered, hsettled, hdone] at hnodup
    have hfirst := (List.nodup_append'.mp (List.nodup_append'.mp hnodup).1).2.2
    exact fun hmem => hfirst (List.mem_append_right _ hmem) (List.mem_singleton_self _)
  cases (step_asked hin hstep).2 with
  | nothing hsettled hreplied hthrew =>
    exact ⟨done, thrown, hsettled.trans hdone, hthrew.trans hthrown, hreplied.trans hreplies, hsub⟩
  | replied message hsettled hreplied hthrew =>
    have hmem : message ∉ thrown := fun hmem => hnew message hsettled (hsub hmem)
    refine ⟨done ++ [message], thrown, ?_, hthrew.trans hthrown, ?_,
      fun _ hm => List.mem_append_left _ (hsub hm)⟩
    · rw [hsettled, hdone, List.append_assoc]
    · rw [hreplied, hreplies, h.service, List.filter_append]
      simp [hmem]
  | threw message hsettled hreplied hthrew =>
    refine ⟨done ++ [message], thrown ++ [message], ?_, ?_, ?_, ?_⟩
    · rw [hsettled, hdone, List.append_assoc]
    · rw [hthrew, hthrown, List.append_assoc]
    · rw [hreplied, hreplies, filter_concat_new (hnew message hsettled)]
    · exact List.append_subset.mpr ⟨fun _ hm => List.mem_append_left _ (hsub hm),
        fun _ hm => List.mem_append_right _ hm⟩

/-- What comes after the service is closed: of the requests not answered by then each is
answered once, in their order, but for those whose handlers throw. -/
structure Rest (d e : Daemon) (service : Bool) : Prop where
  once : d.unanswered.Nodup
  replies : ∃ thrown, e.thrown = d.thrown ++ thrown ∧ thrown ⊆ d.unanswered ∧
    e.replies = d.replies ++ (d.unanswered.filter (· ∉ thrown)).map (·, service)

/-- **The replies that find the luna service deleted are those of the requests that are queued
or in hand and not answered when the service is closed, but for those whose handlers throw, each
of them once and in their order; where the service cannot be unregistered and stays, they are
answered like the others.** -/
theorem replies_lost {steps after : List DaemonStep} {d e : Daemon} {unregistered : Bool}
    {left : List PdmObject} (hrun : Schedules.run step {} steps = some d)
    (hafter : Schedules.run step d (.deInit unregistered :: after) = some e)
    (hmain : e.main = .deleting left) :
    (∀ answer ∈ d.replies, answer.2 = true) ∧ Rest d e (!unregistered) := by
  have hknown := run_known hrun
  have hserving : d.Serving :=
    Schedules.run_keeps start_serving (fun _ _ _ h hstep => step_serving h hstep) hrun
  have hin : d.InHand :=
    Schedules.run_keeps (I := InHand) (fun hyes => absurd hyes (by decide))
      (fun _ _ _ h hstep => (step_asked h hstep).1) hrun
  rw [Schedules.run_cons] at hafter
  obtain ⟨c, hc, hend⟩ := Option.bind_eq_some_iff.mp hafter
  have hcknown := step_known hknown hc
  have hcin := (step_asked hin hc).1
  have hnodup := hknown.messages_nodup
  rw [hknown.settled_unanswered] at hnodup
  cases step_cases hc with
  | deInit _ hstopped =>
    have hservice := hserving.service (by rw [hstopped]; rfl)
    refine ⟨hserving.replies hservice, (List.nodup_append'.mp hnodup).2.1, ?_⟩
    obtain ⟨heknown, -, hclosed⟩ : e.Known ∧ e.InHand ∧
        Closed { d with main := .lunaClosed, service := !unregistered } e :=
      Schedules.run_keeps (I := fun e => e.Known ∧ e.InHand ∧
          Closed { d with main := .lunaClosed, service := !unregistered } e)
        ⟨hcknown, hcin, ⟨rfl, rfl, rfl, [], [], by simp, by simp, by simp, by simp⟩⟩
        (fun _ _ _ h hstep => ⟨step_known h.1 hstep, (step_asked h.2.1 hstep).1,
          step_closed (step_known h.1 hstep) h.2.1 h.2.2 hstep⟩) hend
    obtain ⟨done, thrown, hdone, hthrown, hreplies, hsub⟩ := hclosed.done
    -- In the end every request is settled, so `done` is what was left.
    have hall : e.unanswered = [] := by
      obtain ⟨hworkers, htasks, -⟩ := heknown.all_run hmain
      simp [unanswered, hworkers, htasks, messages, WorkerPhase.task]
    have hrequests := hclosed.requests
    rw [heknown.settled_unanswered, hall, List.append_nil, hdone] at hrequests
    have hrest : d.settled ++ done = d.settled ++ d.unanswered :=
      hrequests.trans hknown.settled_unanswered
    obtain rfl := List.append_cancel_left hrest
    exact ⟨thrown, hthrown, hsub, hreplies⟩

/-- One request is in hand and one is queued when the main loop stops. -/
def twoRequests : Daemon where
  main := .loopStopped
  pool :=
    { workers := [.running (.pdmCommand 5)], pdmTasks := [.pdmCommand 6]
      created := [.pdmCommand 5, .pdmCommand 6], accepted := [.pdmCommand 5, .pdmCommand 6]
      started := [.pdmCommand 5] }

/-- The first one has been answered since, and the handlers of the second one have thrown. -/
def oneReply : Daemon where
  main := .deleting [.deviceTracker, .pdmConfig, .pluginAdapter, .notificationManager]
  pool :=
    { terminate := true, workers := [.returned], destructor := .joining 1
      created := [.pdmCommand 5, .pdmCommand 6], accepted := [.pdmCommand 5, .pdmCommand 6]
      started := [.pdmCommand 5, .pdmCommand 6], finished := [.pdmCommand 5, .pdmCommand 6] }
  service := false
  replies := [(5, false)]
  thrown := [6]

theorem replies_lost_two_requests :
    (∀ answer ∈ twoRequests.replies, answer.2 = true) ∧ Rest twoRequests oneReply false :=
  @replies_lost
    [.initFails, .request 5 false, .turn, .mainNotifies none, .request 6 false,
      .mainNotifies none, .quit]
    [.stopListener, .listenerJoined, .commandReply, .taskReturns, .turn, .terminate, .notifyAll,
      .taskReturns, .turn, .join, .managerDeleted] twoRequests oneReply true
    [.deviceTracker, .pdmConfig, .pluginAdapter, .notificationManager] (by decide)
    (by decide) rfl

/-! ### Nobody waits in vain -/

/-- What the threads are in the middle of. -/
structure Underway (d : Daemon) : Prop where
  /-- The calls of `notify_one` that are to come are those of the two threads that send. -/
  notifying : d.pool.notifying.Perm (d.mainSends.toList ++ d.listenerSends.toList)
  /-- What `epoll_wait` has reported is there until it is served. -/
  ready : ∀ ready, d.listener = .serving ready →
    ready.Nodup ∧ (.udev ∈ ready → d.monitor ≠ [])
  stopFd : d.main = .joiningListener → d.listener ≠ .notStarted → d.stopFd = true
  inHand : d.InHand

theorem start_underway : ({} : Daemon).Underway := ⟨List.Perm.refl _, nofun, nofun, nofun⟩

/-- What a call of `enqueue` leaves to be woken for. -/
theorem enqueue_notifying {d : Daemon} (hpooled : d.Pooled) {pool : PdmThreadPool Command}
    {cmd : Command} {outOfMemory : Bool}
    (hstep : d.pool.step (.enqueue cmd outOfMemory) = some pool) :
    pool.notifying = d.pool.notifying ++ (toWake pool cmd).toList := by
  obtain ⟨m, -, hrefines⟩ := hpooled.commands
  cases PdmThreadPool.step_cases hstep with
  | refused _ _ hnew _ =>
    have hnone : cmd ∉ d.pool.notifying := fun hin => hnew (hrefines.known cmd hin)
    simp [toWake, hnone]
  | accepted => simp [toWake]

theorem notifyOne_notifying {p q : PdmThreadPool Command} {cmd : Command} {woken : Option Nat}
    (hstep : p.step (.notifyOne cmd woken) = some q) :
    cmd ∈ p.notifying ∧ q.notifying = p.notifying.erase cmd := by
  cases PdmThreadPool.step_cases hstep with
  | unheard _ hcmd _ => exact ⟨hcmd, rfl⟩
  | heard _ _ hcmd _ => exact ⟨hcmd, rfl⟩

theorem other_notifying {p q : PdmThreadPool Command} {i : ThreadPoolStep Command}
    (henqueue : ∀ cmd outOfMemory, i ≠ .enqueue cmd outOfMemory)
    (hnotify : ∀ cmd woken, i ≠ .notifyOne cmd woken) (hstep : p.step i = some q) :
    q.notifying = p.notifying := by
  cases PdmThreadPool.step_cases hstep with
  | accepted cmd => exact absurd rfl (henqueue cmd false)
  | unheard cmd => exact absurd rfl (hnotify cmd none)
  | heard cmd worker => exact absurd rfl (hnotify cmd (some worker))
  | _ => rfl

theorem step_notifying {d e : Daemon} {i : DaemonStep} (hpooled : d.Pooled) (h : d.Underway)
    (hstep : d.step i = some e) :
    e.pool.notifying.Perm (e.mainSends.toList ++ e.listenerSends.toList) := by
  have hbefore := h.notifying
  cases step_cases hstep with
  | enumerated event _ pool _ hfree hpool =>
    show pool.notifying.Perm ((toWake pool _).toList ++ d.listenerSends.toList)
    rw [hfree] at hbefore
    rw [enqueue_notifying hpooled hpool]
    exact (hbefore.append_right _).trans List.perm_append_comm
  | requested message _ pool _ hfree hpool =>
    show pool.notifying.Perm ((toWake pool _).toList ++ d.listenerSends.toList)
    rw [hfree] at hbefore
    rw [enqueue_notifying hpooled hpool]
    exact (hbefore.append_right _).trans List.perm_append_comm
  | received _ _ event _ pool hfree _ _ hpool =>
    show pool.notifying.Perm (d.mainSends.toList ++ (toWake pool _).toList)
    rw [hfree, Option.toList_none, List.append_nil] at hbefore
    rw [enqueue_notifying hpooled hpool]
    exact hbefore.append_right _
  | listenerNotified cmd _ pool hsends hpool =>
    show pool.notifying.Perm (d.mainSends.toList ++ [])
    rw [hsends] at hbefore
    rw [(notifyOne_notifying hpool).2]
    have hfirst := (hbefore.trans List.perm_append_comm).erase cmd
    simpa using hfirst
  | mainNotified cmd _ pool hsends hpool =>
    show pool.notifying.Perm ([] ++ d.listenerSends.toList)
    rw [hsends] at hbefore
    rw [(notifyOne_notifying hpool).2]
    have hfirst := hbefore.erase cmd
    simpa using hfirst
  | turned _ hpool => exact other_notifying (by simp) (by simp) hpool ▸ hbefore
  | wokeUp _ hpool => exact other_notifying (by simp) (by simp) hpool ▸ hbefore
  | executed _ _ _ hpool => exact other_notifying (by simp) (by simp) hpool ▸ hbefore
  | terminated _ _ hpool => exact other_notifying (by simp) (by simp) hpool ▸ hbefore
  | notifiedAll _ _ hpool => exact other_notifying (by simp) (by simp) hpool ▸ hbefore
  | workerJoined _ _ hpool => exact other_notifying (by simp) (by simp) hpool ▸ hbefore
  | _ => exact hbefore

theorem step_ready {d e : Daemon} {i : DaemonStep} (h : d.Underway)
    (hstep : d.step i = some e) :
    ∀ ready, e.listener = .serving ready → ready.Nodup ∧ (.udev ∈ ready → e.monitor ≠ []) := by
  have hbefore := h.ready
  cases step_cases hstep with
  | started | pollFailed | served | stopped => exact nofun
  | enabled enabled => cases enabled <;> exact nofun
  | emitted event _ _ => exact fun ready hready => ⟨(hbefore ready hready).1, by simp⟩
  | polled ready _ _ hnodup hudev =>
    intro other hother
    rw [← ListenerThread.serving.inj hother]
    exact ⟨hnodup, hudev.mp⟩
  | missed _ ready _ hlistener =>
    intro other hother
    rw [← ListenerThread.serving.inj hother]
    obtain ⟨hnodup, hudev⟩ := hbefore _ hlistener
    exact ⟨(List.nodup_cons.mp hnodup).2, fun hin => hudev (List.mem_cons_of_mem _ hin)⟩
  | received _ ready _ _ _ _ hlistener =>
    intro other hother
    rw [← ListenerThread.serving.inj hother]
    obtain ⟨hnodup, -⟩ := hbefore _ hlistener
    obtain ⟨hnone, hrest⟩ := List.nodup_cons.mp hnodup
    exact ⟨hrest, fun hin => absurd hin hnone⟩
  | _ => exact hbefore

theorem step_stopFd {d e : Daemon} {i : DaemonStep} (h : d.Underway)
    (hstep : d.step i = some e) :
    e.main = .joiningListener → e.listener ≠ .notStarted → e.stopFd = true := by
  have hbefore := h.stopFd
  cases step_cases hstep with
  | initFailed | started | quit | deInit | joined | terminated | managerDeleted | deleted =>
    exact nofun
  | stopping hmain => exact fun _ hstarted => decide_eq_true hstarted
  | enabled _ hlistener => exact fun hmain _ => hbefore hmain (by simp [hlistener])
  | polled _ hlistener => exact fun hmain _ => hbefore hmain (by simp [hlistener])
  | pollFailed hlistener => exact fun hmain _ => hbefore hmain (by simp [hlistener])
  | served _ _ hlistener => exact fun hmain _ => hbefore hmain (by simp [hlistener])
  | stopped _ _ _ hlistener => exact fun hmain _ => hbefore hmain (by simp [hlistener])
  | missed _ _ _ hlistener => exact fun hmain _ => hbefore hmain (by simp [hlistener])
  | received _ _ _ _ _ _ hlistener => exact fun hmain _ => hbefore hmain (by simp [hlistener])
  | _ => exact hbefore

theorem step_underway {d e : Daemon} {i : DaemonStep} (hknown : d.Known) (h : d.Underway)
    (hstep : d.step i = some e) : e.Underway :=
  ⟨step_notifying hknown.pooled h hstep, step_ready h hstep, step_stopFd h hstep,
    (step_asked h.inHand hstep).1⟩

theorem run_underway {steps : List DaemonStep} {d : Daemon}
    (hrun : Schedules.run step {} steps = some d) :
    d.Known ∧ d.Underway :=
  Schedules.run_keeps (I := fun d => Known d ∧ Underway d) ⟨start_known, start_underway⟩
    (fun _ _ _ h hstep => ⟨step_known h.1 hstep, step_underway h.1 h.2 hstep⟩) hrun

/-! ### The end of the daemon's own steps -/

end Daemon

/-- How many steps `main` still has, where each counts for what it leaves to others. -/
def MainPhase.todo : MainPhase → Nat
  | .enumerating => 24
  | .mainLoop => 13
  | .loopStopped => 12
  | .lunaClosed => 11
  | .joiningListener => 10
  | .listenerStopped => 9
  | .deletingManager => 5
  | .deleting left => left.length

/-- How many steps the listener still has before it needs an event. -/
def ListenerThread.todo : ListenerThread → Nat
  | .notStarted => 0
  | .starting => 10
  | .polling => 8
  | .serving [] => 9
  | .serving (_ :: _) => 7
  | .returned => 0

theorem ListenerThread.serving_todo (ready : List PollFd) :
    (ListenerThread.serving ready).todo ≤ 9 := by
  cases ready <;> simp [ListenerThread.todo]

namespace Daemon

/-- A bound on the steps that the daemon takes by itself. -/
def todo (d : Daemon) : Nat :=
  d.pool.todo + d.unanswered.length + 7 * d.monitor.length + d.listener.todo + d.main.todo

theorem enqueue_todo {p q : PdmThreadPool Command} {cmd : Command} {outOfMemory : Bool}
    (hstep : p.step (.enqueue cmd outOfMemory) = some q) : q.todo ≤ p.todo + 4 := by
  cases PdmThreadPool.step_cases hstep with
  | refused =>
    show p.todo ≤ p.todo + 4
    omega
  | accepted =>
    simp only [PdmThreadPool.todo, List.length_append, List.length_singleton]
    omega

theorem terminate_todo {p q : PdmThreadPool Command} (hsound : p.Sound 1)
    (hstep : p.step .terminate = some q) : q.todo = p.todo + 3 := by
  cases PdmThreadPool.step_cases hstep with
  | terminated hfirst =>
    simp only [PdmThreadPool.todo, hfirst, hsound.length, PdmThreadPool.destructorWork]

/-- No step of the daemon's own makes a request. -/
theorem own_step_messages {d e : Daemon} {i : DaemonStep} (hown : i.own = true)
    (hstep : d.step i = some e) : messages e.pool.accepted = messages d.pool.accepted := by
  cases step_cases hstep with
  | received _ _ _ _ _ _ _ _ hpool => exact event_accepted hpool
  | listenerNotified _ _ _ _ hpool => exact congrArg messages (other_accepted (by simp) hpool)
  | mainNotified _ _ _ _ hpool => exact congrArg messages (other_accepted (by simp) hpool)
  | turned _ hpool => exact congrArg messages (other_accepted (by simp) hpool)
  | executed _ _ _ hpool => exact congrArg messages (other_accepted (by simp) hpool)
  | terminated _ _ hpool => exact congrArg messages (other_accepted (by simp) hpool)
  | notifiedAll _ _ hpool => exact congrArg messages (other_accepted (by simp) hpool)
  | workerJoined _ _ hpool => exact congrArg messages (other_accepted (by simp) hpool)
  | enumerated | emitted | pollFailed | requested | wokeUp | quit => cases hown
  | _ => rfl

/-- So the requests without an answer only get fewer. -/
theorem own_step_unanswered {d e : Daemon} {i : DaemonStep} (hknown : d.Known) (h : d.Underway)
    (hown : i.own = true) (hstep : d.step i = some e) :
    e.unanswered.length + e.settled.length = d.unanswered.length + d.settled.length ∧
      d.settled.length ≤ e.settled.length := by
  have hsame := congrArg List.length (own_step_messages hown hstep)
  rw [(step_known hknown hstep).settled_unanswered, hknown.settled_unanswered,
    List.length_append, List.length_append] at hsame
  refine ⟨by omega, ?_⟩
  cases (step_asked h.inHand hstep).2 with
  | nothing hsettled => exact Nat.le_of_eq (congrArg List.length hsettled.symm)
  | replied message hsettled =>
    rw [hsettled, List.length_append]
    omega
  | threw message hsettled =>
    rw [hsettled, List.length_append]
    omega

theorem own_step_todo {d e : Daemon} {i : DaemonStep} (hknown : d.Known) (h : d.Underway)
    (hown : i.own = true) (hstep : d.step i = some e) :
    e.todo < d.todo := by
  obtain ⟨hrequests, hfewer⟩ := own_step_unanswered hknown h hown hstep
  cases step_cases hstep with
  | initFailed hmain =>
    simp only [todo, hmain, MainPhase.todo]
    omega
  | started hmain =>
    have hquiet := (hknown.phases.quiet hmain).1
    simp only [todo, hmain, hquiet, MainPhase.todo, ListenerThread.todo]
    omega
  | enabled enabled hlistener =>
    have hafter : (if enabled then ListenerThread.polling else .returned).todo ≤ 8 := by
      cases enabled <;> simp [ListenerThread.todo]
    have hbefore : d.listener.todo = 10 := by rw [hlistener]; rfl
    simp only [todo]
    omega
  | polled ready hlistener hready =>
    obtain ⟨fd, rest, rfl⟩ := List.exists_cons_of_ne_nil hready
    simp only [todo, hlistener, ListenerThread.todo]
    omega
  | served _ _ hlistener =>
    simp only [todo, hlistener, ListenerThread.todo]
    omega
  | stopped _ _ _ hlistener =>
    simp only [todo, hlistener, ListenerThread.todo]
    omega
  | missed _ _ _ hlistener hmonitor =>
    exact absurd hmonitor ((h.ready _ hlistener).2 (List.mem_cons_self ..))
  | received _ ready event rest pool _ hlistener hmonitor hpool =>
    have hserving := ListenerThread.serving_todo ready
    have hbefore : d.listener.todo = 7 := by rw [hlistener]; rfl
    have hpooled := enqueue_todo hpool
    simp only [todo, hmonitor, List.length_cons]
    omega
  | listenerNotified _ _ _ _ hpool =>
    have hpooled := PdmThreadPool.own_step_todo rfl hpool
    simp only [todo]
    omega
  | mainNotified _ _ _ _ hpool =>
    have hpooled := PdmThreadPool.own_step_todo rfl hpool
    simp only [todo]
    omega
  | turned _ hpool =>
    have hpooled := PdmThreadPool.own_step_todo rfl hpool
    simp only [todo]
    omega
  | replied message hworker hfirst =>
    have hreplied : (settled { d with answered := true, replies := d.replies ++ [(message, d.service)] })
        = d.settled ++ [message] := by
      simp [settled, answeredInHand, messages, hworker, hfirst, WorkerPhase.task, Command.message]
    rw [hreplied, List.length_append, List.length_singleton] at hrequests
    simp only [todo]
    omega
  | executed cmd pool _ hpool =>
    have hpooled := PdmThreadPool.own_step_todo rfl hpool
    show pool.todo + (taskReturned { d with pool := pool } cmd).unanswered.length +
      7 * d.monitor.length + d.listener.todo + d.main.todo < d.todo
    simp only [todo]
    omega
  | deInit _ hmain =>
    simp only [todo, hmain, MainPhase.todo]
    omega
  | stopping hmain =>
    simp only [todo, hmain, MainPhase.todo]
    omega
  | joined hmain =>
    simp only [todo, hmain, MainPhase.todo]
    omega
  | terminated pool hmain hpool =>
    have hpooled := terminate_todo hknown.pooled.sound hpool
    simp only [todo, hmain, MainPhase.todo]
    omega
  | notifiedAll _ _ hpool =>
    have hpooled := PdmThreadPool.own_step_todo rfl hpool
    simp only [todo]
    omega
  | workerJoined _ _ hpool =>
    have hpooled := PdmThreadPool.own_step_todo rfl hpool
    simp only [todo]
    omega
  | managerDeleted hmain =>
    simp only [todo, hmain, MainPhase.todo, List.length_cons, List.length_nil]
    omega
  | deleted _ _ hmain =>
    simp only [todo, hmain, MainPhase.todo, List.length_cons]
    omega
  | enumerated | emitted | pollFailed | requested | wokeUp | quit => cases hown

/-- Nothing is left to do but what others begin. -/
structure Settled (d : Daemon) : Prop where
  main : d.main = .mainLoop ∨ d.main = .deleting []
  finished : d.pool.finished = d.pool.accepted
  /-- Everything that has been announced has been handled, while there is a listener. -/
  heard : d.receiving = true → d.monitor = []

/-- A thread that is in a call of `notify_one` can end it. -/
theorem notify_possible {p : PdmThreadPool Command} {cmd : Command} (hcmd : cmd ∈ p.notifying) :
    ∃ woken, p.step (.notifyOne cmd woken) ≠ none := by
  by_cases hasleep : .asleep ∈ p.workers
  · obtain ⟨worker, hworker⟩ := List.mem_iff_getElem?.mp hasleep
    exact ⟨some worker, by simp [PdmThreadPool.step, hcmd, hworker]⟩
  · exact ⟨none, by simp [PdmThreadPool.step, hcmd, hasleep]⟩

/-- No step of the daemon's own can be taken but by the command in hand. -/
def Idle (d : Daemon) : Prop :=
  ∀ i : DaemonStep, i.own = true → i.ofTask = false → d.step i = none

theorem Idle.sends {d : Daemon} (hidle : d.Idle) (h : d.Underway) :
    d.mainSends = none ∧ d.listenerSends = none := by
  refine ⟨?_, ?_⟩
  · cases hsends : d.mainSends with
    | none => rfl
    | some cmd =>
      have hcmd : cmd ∈ d.pool.notifying := h.notifying.mem_iff.mpr (by simp [hsends])
      obtain ⟨woken, hwoken⟩ := notify_possible hcmd
      have hstuck := hidle (.mainNotifies woken) rfl rfl
      simp only [step, hsends, poolStep, Option.map_eq_none_iff] at hstuck
      exact absurd hstuck hwoken
  · cases hsends : d.listenerSends with
    | none => rfl
    | some cmd =>
      have hcmd : cmd ∈ d.pool.notifying := h.notifying.mem_iff.mpr (by simp [hsends])
      obtain ⟨woken, hwoken⟩ := notify_possible hcmd
      have hstuck := hidle (.listenerNotifies woken) rfl rfl
      simp only [step, hsends, poolStep, Option.map_eq_none_iff] at hstuck
      exact absurd hstuck hwoken

/-- A pool whose destructor has been called is the one that `main` deletes. -/
theorem Known.deleting {d : Daemon} (h : d.Known) (hcalled : d.pool.destructor ≠ .notCalled) :
    d.main = .deletingManager ∨ d.pool.Destroyed := by
  have hterminate := h.pooled.sound.shutdown.terminate.mpr hcalled
  rw [h.phases.terminated] at hterminate
  cases hmain : d.main with
  | deletingManager => exact Or.inl rfl
  | deleting left => exact Or.inr (h.phases.destroyed left hmain)
  | _ =>
    rw [hmain] at hterminate
    cases hterminate

/-- The pool of an idle daemon is idle. -/
theorem Idle.pool {d : Daemon} (hidle : d.Idle) (hknown : d.Known)
    (h : d.Underway) (hfree : ∀ cmd, d.pool.workers ≠ [.running cmd]) :
    ∀ j : ThreadPoolStep Command, j.own = true → d.pool.step j = none := by
  obtain ⟨hmain, hlistener⟩ := hidle.sends h
  have hnotifying : d.pool.notifying = [] := by
    have hperm := h.notifying
    rw [hmain, hlistener] at hperm
    exact hperm.eq_nil
  obtain ⟨m, -, hrefines⟩ := hknown.pooled.commands
  intro j hown
  cases hj : d.pool.step j with
  | none => rfl
  | some pool =>
    have hpoolStep : d.poolStep j = some { d with pool := pool } := by
      rw [poolStep, hj]
      rfl
    exfalso
    cases PdmThreadPool.step_cases hj with
    | refused | accepted | wokeUp | terminated => cases hown
    | unheard cmd hcmd _ => simp [hnotifying] at hcmd
    | heard cmd _ hcmd _ => simp [hnotifying] at hcmd
    | taken worker cmd rest hworker _ =>
      obtain ⟨rfl, -, -⟩ := hrefines.phase hworker
      exact absurd (hpoolStep.symm.trans (hidle .turn rfl rfl)) (by simp)
    | returned worker hworker _ _ =>
      obtain ⟨rfl, -, -⟩ := hrefines.phase hworker
      exact absurd (hpoolStep.symm.trans (hidle .turn rfl rfl)) (by simp)
    | fellAsleep worker hworker _ _ =>
      obtain ⟨rfl, -, -⟩ := hrefines.phase hworker
      exact absurd (hpoolStep.symm.trans (hidle .turn rfl rfl)) (by simp)
    | finished worker cmd hworker =>
      obtain ⟨-, hworkers, -⟩ := hrefines.phase hworker
      exact hfree cmd hworkers
    | notifiedAll hnext =>
      rcases hknown.deleting (by simp [hnext]) with hdeleting | hdestroyed
      · have hstuck := hidle .notifyAll rfl rfl
        simp [step, hdeleting, hpoolStep] at hstuck
      · exact absurd (hnext.symm.trans hdestroyed) (by simp)
    | joined joined hnext hworker =>
      rcases hknown.deleting (by simp [hnext]) with hdeleting | hdestroyed
      · have hstuck := hidle .join rfl rfl
        simp [step, hdeleting, hpoolStep] at hstuck
      · obtain rfl := DestructorPhase.joining.inj (hnext.symm.trans hdestroyed)
        simp at hworker

/-- The listener of an idle daemon has returned, or it waits for an event or to be stopped. -/
theorem Idle.listener {d : Daemon} (hidle : d.Idle) (hknown : d.Known)
    (h : d.Underway) : d.listener = .notStarted ∨ d.listener = .returned ∨
      d.listener = .polling ∧ d.monitor = [] ∧ d.stopFd = false := by
  obtain ⟨-, hfree⟩ := hidle.sends h
  cases hlistener : d.listener with
  | notStarted => exact Or.inl rfl
  | returned => exact Or.inr (Or.inl rfl)
  | starting =>
    have hstuck := hidle (.enableReceiving true) rfl rfl
    simp [step, hlistener] at hstuck
  | polling =>
    refine Or.inr (Or.inr ⟨rfl, ?_⟩)
    by_cases hmonitor : d.monitor = []
    · refine ⟨hmonitor, ?_⟩
      cases hstop : d.stopFd with
      | false => rfl
      | true =>
        have hstuck := hidle (.epollWait [.stop]) rfl rfl
        simp [step, hlistener, hmonitor, hstop] at hstuck
    · cases hstop : d.stopFd with
      | false =>
        have hstuck := hidle (.epollWait [.udev]) rfl rfl
        simp [step, hlistener, hmonitor, hstop] at hstuck
      | true =>
        have hstuck := hidle (.epollWait [.udev, .stop]) rfl rfl
        simp [step, hlistener, hmonitor, hstop] at hstuck
  | serving ready =>
    have hstuck := hidle (.serve true) rfl rfl
    cases ready with
    | nil => simp [step, hfree, hlistener] at hstuck
    | cons fd ready =>
      cases fd with
      | stop => simp [step, hfree, hlistener] at hstuck
      | udev =>
        cases hmonitor : d.monitor with
        | nil => simp [step, hfree, hlistener, hmonitor] at hstuck
        | cons event rest =>
          have hnew : Command.deviceClassCommand event ∉ d.pool.created :=
            hknown.monitor_uncreated (by simp [hmonitor])
          simp [step, hfree, hlistener, hmonitor, poolStep, PdmThreadPool.step, hnew] at hstuck

/-- `main` is where it waits for others, or at the end. -/
theorem Idle.main {d : Daemon} (hidle : d.Idle) (hknown : d.Known) (h : d.Underway) :
    d.main = .mainLoop ∨ d.main = .deletingManager ∨ d.main = .deleting [] := by
  obtain ⟨hfree, -⟩ := hidle.sends h
  cases hmain : d.main with
  | mainLoop => exact Or.inl rfl
  | enumerating =>
    have hstuck := hidle .runListner rfl rfl
    simp [step, hmain, hfree] at hstuck
  | loopStopped =>
    have hstuck := hidle (.deInit true) rfl rfl
    simp [step, hmain] at hstuck
  | lunaClosed =>
    have hstuck := hidle .stopListener rfl rfl
    simp [step, hmain] at hstuck
  | joiningListener =>
    have hstuck := hidle .listenerJoined rfl rfl
    rcases hidle.listener hknown h with hlistener | hlistener | ⟨hlistener, -, hstop⟩
    · simp [step, hmain, hlistener] at hstuck
    · simp [step, hmain, hlistener] at hstuck
    · have hstopped := h.stopFd hmain (by simp [hlistener])
      rw [hstop] at hstopped
      cases hstopped
  | listenerStopped =>
    have hstuck := hidle .terminate rfl rfl
    have hopen : d.pool.terminate = false := by rw [hknown.phases.terminated, hmain]; rfl
    have hfirst : d.pool.destructor = .notCalled := by
      by_contra hcalled
      rw [hknown.pooled.sound.shutdown.terminate.mpr hcalled] at hopen
      cases hopen
    simp [step, hmain, poolStep, PdmThreadPool.step, hfirst] at hstuck
  | deletingManager => exact Or.inr (Or.inl rfl)
  | deleting left =>
    cases left with
    | nil => exact Or.inr (Or.inr rfl)
    | cons object left =>
      have hstuck := hidle .delete rfl rfl
      simp [step, hmain] at hstuck

/-- A pool that has nothing in hand has been destroyed, where `main` waits for that. -/
theorem Idle.not_deletingManager {d : Daemon} (hidle : d.Idle) (hknown : d.Known)
    (hdrained : d.pool.Drained) : d.main ≠ .deletingManager := by
  intro hmain
  have hstuck := hidle .managerDeleted rfl rfl
  have hterminate : d.pool.terminate = true := by rw [hknown.phases.terminated, hmain]; rfl
  have hdestroyed := hdrained.destroyed hterminate
  simp only [PdmThreadPool.Destroyed] at hdestroyed
  simp [step, hmain, hdestroyed] at hstuck

theorem Idle.settled {d : Daemon} (hidle : d.Idle) (hknown : d.Known) (h : d.Underway)
    (hfree : ∀ cmd, d.pool.workers ≠ [.running cmd]) : d.Settled := by
  have hdrained := hknown.pooled.sound.drained Nat.one_pos (hidle.pool hknown h hfree)
  refine ⟨?_, ?_, fun hreceiving => ?_⟩
  · exact (hidle.main hknown h).imp_right fun hmain =>
      hmain.resolve_left (hidle.not_deletingManager hknown hdrained)
  · have hrow := hknown.pooled.row
    have hlength := hdrained.finished.length_eq
    rw [hrow, hdrained.tasks, List.append_nil, List.length_append] at hlength
    have hhands : d.pool.workers.flatMap (·.task) = [] :=
      List.eq_nil_of_length_eq_zero (by omega)
    rw [hrow, hdrained.tasks, hhands, List.append_nil, List.append_nil]
  · rcases hidle.listener hknown h with hlistener | hlistener | ⟨-, hmonitor, -⟩
    · simp [receiving, hlistener] at hreceiving
    · simp [receiving, hlistener] at hreceiving
    · exact hmonitor

/-- Everybody waits for a command that does not return. -/
structure Held (d : Daemon) (cmd : Command) : Prop where
  worker : d.pool.workers = [.running cmd]
  main : d.main = .mainLoop ∨ d.main = .deletingManager
  heard : d.receiving = true → d.monitor = []

theorem Idle.held {d : Daemon} (hidle : d.Idle) (hknown : d.Known) (h : d.Underway) {cmd : Command}
    (hworker : d.pool.workers = [.running cmd]) : d.Held cmd := by
  refine ⟨hworker, ?_, fun hreceiving => ?_⟩
  · refine (hidle.main hknown h).imp_right fun hmain => hmain.resolve_right fun hover => ?_
    rw [(hknown.all_run hover).1] at hworker
    exact absurd hworker (by simp)
  · rcases hidle.listener hknown h with hlistener | hlistener | ⟨-, hmonitor, -⟩
    · simp [receiving, hlistener] at hreceiving
    · simp [receiving, hlistener] at hreceiving
    · exact hmonitor

/-- A uevent waits in the monitor, and the daemon handles it and goes back to sleep. -/
def oneEvent : Daemon where
  main := .mainLoop
  listener := .polling
  monitor := [1]
  pool := { workers := [.asleep] }
  announced := [1]

def eventHandled : Daemon where
  main := .mainLoop
  listener := .polling
  pool :=
    { workers := [.asleep], created := [.deviceClassCommand 1]
      accepted := [.deviceClassCommand 1], started := [.deviceClassCommand 1]
      finished := [.deviceClassCommand 1] }
  announced := [1]
  handled := [1]

end Daemon

end Pdm
