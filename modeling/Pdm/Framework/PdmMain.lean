/-
`main` and the threads beside it, from `PdmNetlinkManager::start` to the end.

The listener's thread takes uevents from the monitor and queues a command for each; the luna
callbacks, which run in the main loop, queue one for each request.  The worker of the pool
runs the commands.  When the main loop stops, `main` closes the luna service, stops the
listener and deletes what it has made, the `CommandManager` first.

A step is one of those of the pool, or what a thread does outside of the pool up to its next
one.  What a command does to the handlers is left out: it calls `commandReply` at some moment,
where it is for a request and its handlers do not throw, and it returns at some moment, or
never.  The monitor's buffer never overflows.  `announced`, `handled`, `replies` and `thrown`
are a record of what has happened.
-/
import Pdm.Framework.CommandManager
import Pdm.Framework.PdmThreadPool

namespace Pdm

/-- What `main` deletes behind the `CommandManager`. -/
inductive PdmObject where
  | deviceTracker
  | pdmConfig
  | pluginAdapter
  | notificationManager
  deriving DecidableEq, Repr

/-- Where `main` is. -/
inductive MainPhase where
  /-- in `enumerate_devices` -/
  | enumerating
  /-- in `g_main_loop_run` -/
  | mainLoop
  | loopStopped
  /-- behind `LunaIPC::deInit` -/
  | lunaClosed
  /-- in the `join` of `stopListener` -/
  | joiningListener
  | listenerStopped
  /-- in `delete pCommandManager` -/
  | deletingManager
  /-- behind it, with these objects left -/
  | deleting (left : List PdmObject)
  deriving DecidableEq, Repr

/-- What `epoll_wait` watches. -/
inductive PollFd where
  | udev
  | stop
  deriving DecidableEq, Repr

/-- Where the listener's thread is. -/
inductive ListenerThread where
  | notStarted
  /-- in front of `udev_monitor_enable_receiving` -/
  | starting
  /-- in `epoll_wait` -/
  | polling
  /-- in the loop over what `epoll_wait` has reported -/
  | serving (ready : List PollFd)
  | returned
  deriving DecidableEq, Repr

/-- The uevent that a command is for. -/
def Command.event : Command → Option Nat
  | .deviceClassCommand event => some event
  | .pdmCommand _ => none

/-- The message that a command is for. -/
def Command.message : Command → Option Nat
  | .deviceClassCommand _ => none
  | .pdmCommand message => some message

structure Daemon where
  main : MainPhase := .enumerating
  /-- The command for which `main` is in `sendCommand`, between the lock and `notify_one`. -/
  mainSends : Option Command := none
  listener : ListenerThread := .notStarted
  listenerSends : Option Command := none
  /-- `m_stopFd` has been written to. -/
  stopFd : Bool := false
  /-- What the monitor has queued. -/
  monitor : List Nat := []
  pool : PdmThreadPool Command := .create Command 1
  /-- The command that the worker has in hand has called `commandReply`. -/
  answered : Bool := false
  /-- The `PdmLunaService` has not been deleted. -/
  service : Bool := true
  /-- The list entries of the enumeration that have been opened, and the events that the
  monitor has queued. -/
  announced : List Nat := []
  /-- The ones handed to `PdmNetlinkClassAdapter::handleEvent`. -/
  handled : List Nat := []
  /-- The calls of `commandReply`, with whether there still was a service. -/
  replies : List (Nat × Bool) := []
  /-- The requests whose handlers have thrown. -/
  thrown : List Nat := []
  deriving DecidableEq

/-- What happens next. -/
inductive DaemonStep where
  /-- `udev_new` or `eventfd` fails. -/
  | initFails
  | enumerated (event : Nat) (outOfMemory : Bool)
  | runListner
  /-- The thread comes to its loop, or one of its calls fails. -/
  | enableReceiving (enabled : Bool)
  /-- The monitor queues an event. -/
  | emit (event : Nat)
  | epollWait (ready : List PollFd)
  | epollFails
  /-- The next turn of the loop over what is ready. -/
  | serve (outOfMemory : Bool)
  | listenerNotifies (woken : Option Nat)
  /-- A luna callback makes a command of a message. -/
  | request (message : Nat) (outOfMemory : Bool)
  | mainNotifies (woken : Option Nat)
  | turn
  | wakeUp
  /-- The handlers of the request in hand have returned. -/
  | commandReply
  /-- `executeCommand` is over. -/
  | taskReturns
  | quit
  | deInit (unregistered : Bool)
  | stopListener
  | listenerJoined
  /-- The steps of the pool's destructor. -/
  | terminate
  | notifyAll
  | join
  | managerDeleted
  /-- The next `delete`. -/
  | delete

namespace Daemon

/-- The monitor queues events: the thread has enabled it and has not come to `out`. -/
def receiving (d : Daemon) : Bool :=
  match d.listener with
  | .polling => true
  | .serving _ => true
  | _ => false

/-- A step of the pool. -/
def poolStep (d : Daemon) (i : ThreadPoolStep Command) : Option Daemon :=
  (d.pool.step i).map fun pool => { d with pool := pool }

/-- What is left of a call of `sendCommand` that has let go of the lock: for a command that was
queued it wakes a worker. -/
def toWake (pool : PdmThreadPool Command) (cmd : Command) : Option Command :=
  if cmd ∈ pool.notifying then some cmd else none

/-- `executeCommand` is over; a request that has not been answered has thrown. -/
def taskReturned (d : Daemon) (cmd : Command) : Daemon :=
  { d with
    answered := false
    thrown := if d.answered then d.thrown else d.thrown ++ cmd.message.toList }

/-- One step, where it can be taken. -/
def step (d : Daemon) : DaemonStep → Option Daemon
  | .initFails =>
    if d.main = .enumerating ∧ d.announced = [] then some { d with main := .mainLoop } else none
  | .enumerated event outOfMemory =>
    if d.main = .enumerating ∧ d.mainSends = none then
      (d.poolStep (.enqueue (.deviceClassCommand event) outOfMemory)).map fun d =>
        { d with
          mainSends := toWake d.pool (.deviceClassCommand event)
          announced := d.announced ++ [event]
          handled := d.handled ++ [event] }
    else none
  | .runListner =>
    if d.main = .enumerating ∧ d.mainSends = none then
      some { d with main := .mainLoop, listener := .starting }
    else none
  | .enableReceiving enabled =>
    if d.listener = .starting then
      some { d with listener := if enabled then .polling else .returned }
    else none
  | .emit event =>
    if d.receiving ∧ event ∉ d.announced then
      some { d with monitor := d.monitor ++ [event], announced := d.announced ++ [event] }
    else none
  | .epollWait ready =>
    if d.listener = .polling ∧ ready ≠ [] ∧ ready.Nodup ∧ (.udev ∈ ready ↔ d.monitor ≠ []) ∧
        (.stop ∈ ready ↔ d.stopFd) then
      some { d with listener := .serving ready }
    else none
  | .epollFails =>
    if d.listener = .polling then some { d with listener := .returned } else none
  | .serve outOfMemory =>
    if d.listenerSends = none then
      match d.listener, d.monitor with
      | .serving [], _ => some { d with listener := .polling }
      | .serving (.stop :: _), _ => some { d with listener := .returned }
      -- `udev_monitor_receive_device` gives NULL.
      | .serving (.udev :: ready), [] => some { d with listener := .serving ready }
      | .serving (.udev :: ready), event :: rest =>
        (d.poolStep (.enqueue (.deviceClassCommand event) outOfMemory)).map fun d =>
          { d with
            listenerSends := toWake d.pool (.deviceClassCommand event)
            listener := .serving ready
            monitor := rest
            handled := d.handled ++ [event] }
      | _, _ => none
    else none
  | .listenerNotifies woken =>
    match d.listenerSends with
    | some cmd =>
      (d.poolStep (.notifyOne cmd woken)).map fun d => { d with listenerSends := none }
    | none => none
  | .request message outOfMemory =>
    if d.main = .mainLoop ∧ d.mainSends = none then
      (d.poolStep (.enqueue (.pdmCommand message) outOfMemory)).map fun d =>
        { d with mainSends := toWake d.pool (.pdmCommand message) }
    else none
  | .mainNotifies woken =>
    match d.mainSends with
    | some cmd => (d.poolStep (.notifyOne cmd woken)).map fun d => { d with mainSends := none }
    | none => none
  | .turn => d.poolStep (.turn 0)
  | .wakeUp => d.poolStep (.wakeUp 0)
  | .commandReply =>
    match d.pool.workers with
    | [.running (.pdmCommand message)] =>
      if d.answered then none
      else some { d with answered := true, replies := d.replies ++ [(message, d.service)] }
    | _ => none
  | .taskReturns =>
    match d.pool.workers with
    | [.running cmd] => (d.poolStep (.taskReturns 0)).map fun d => d.taskReturned cmd
    | _ => none
  | .quit =>
    if d.main = .mainLoop ∧ d.mainSends = none then some { d with main := .loopStopped } else none
  | .deInit unregistered =>
    if d.main = .loopStopped then
      -- The service is deleted only where `LSUnregister` has succeeded.
      some { d with main := .lunaClosed, service := !unregistered }
    else none
  | .stopListener =>
    if d.main = .lunaClosed then
      -- A thread that was never started is not joinable.
      some { d with main := .joiningListener, stopFd := d.listener ≠ .notStarted }
    else none
  | .listenerJoined =>
    if d.main = .joiningListener ∧ (d.listener = .notStarted ∨ d.listener = .returned) then
      some { d with main := .listenerStopped }
    else none
  | .terminate =>
    if d.main = .listenerStopped then
      (d.poolStep .terminate).map fun d => { d with main := .deletingManager }
    else none
  | .notifyAll => if d.main = .deletingManager then d.poolStep .notifyAll else none
  | .join => if d.main = .deletingManager then d.poolStep .join else none
  | .managerDeleted =>
    if d.main = .deletingManager ∧ d.pool.destructor = .joining d.pool.workers.length then
      some { d with
        main := .deleting [.deviceTracker, .pdmConfig, .pluginAdapter, .notificationManager] }
    else none
  | .delete =>
    match d.main with
    | .deleting (_ :: left) => some { d with main := .deleting left }
    | _ => none

/-- An object that `main` has not deleted. -/
def Alive (d : Daemon) (object : PdmObject) : Prop :=
  ∀ left, d.main = .deleting left → object ∈ left

end Daemon

namespace DaemonStep

/-- The steps in which a command is sent. -/
def sends : DaemonStep → Bool
  | .enumerated _ _ => true
  | .serve _ => true
  | .request _ _ => true
  | _ => false

/-- The steps the daemon takes by itself. -/
def own : DaemonStep → Bool
  | .enumerated _ _ => false
  | .emit _ => false
  | .epollFails => false
  | .request _ _ => false
  | .wakeUp => false
  | .quit => false
  | _ => true

/-- The steps that the command in hand takes. -/
def ofTask : DaemonStep → Bool
  | .commandReply => true
  | .taskReturns => true
  | _ => false

end DaemonStep

end Pdm
