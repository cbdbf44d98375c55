/-
`CommandManager`, its `PdmThreadPool` of one worker, and the commands that go through it.

The netlink listener and the luna service call `sendCommand` from their threads.  A call
has two moments that matter to the others: the one in which `enqueue` holds
`queue_mutex`, and the one in which the call returns; between them the worker may already
have run the command.  The worker takes a task under the lock, runs it outside of it and
deletes the command.  A command is an object with an address, so none is sent twice.

`created`, `accepted`, `executed`, `completed`, `deleted` and `answers` are a record of
what has happened; no step reads them but to see that a command is new.
-/
import Mathlib.Data.List.Basic
import Pdm.Lib.Schedules

namespace Pdm

/-- A command, known by the event or the message it was made for. -/
inductive Command where
  | deviceClassCommand (devClass : Nat)
  | pdmCommand (message : Nat)
  deriving DecidableEq, Repr

/-- Where the worker is in its loop. -/
inductive PoolWorker where
  /-- in front of the lock, or waiting for a task or for `terminate` -/
  | waiting
  /-- in `executeCommand`, before `execute` -/
  | running (cmd : Command)
  /-- in `executeCommand`, after `execute` has returned or thrown -/
  | finishing (cmd : Command)
  | returned
  deriving DecidableEq, Repr

structure CommandManager where
  terminate : Bool := false
  tasks : List Command := []
  worker : PoolWorker := .waiting
  /-- The calls of `sendCommand` that `enqueue` is over for, with whether it queued the
  command or threw. -/
  calls : List (Command × Bool) := []
  created : List Command := []
  /-- The commands that were queued, in the order in which their calls held the lock. -/
  accepted : List Command := []
  executed : List Command := []
  /-- The commands whose `execute` has returned. -/
  completed : List Command := []
  deleted : List Command := []
  /-- What the calls that are over returned. -/
  answers : List (Command × Bool) := []
  deriving DecidableEq, Repr

/-- What happens next. -/
inductive PoolStep where
  /-- A call of `sendCommand` gets through `enqueue`, which throws on a terminated pool
  and where memory runs out. -/
  | enqueue (cmd : Command) (outOfMemory : Bool)
  | sendReturns (cmd : Command)
  | take
  /-- `execute` returns or throws a `std::exception`. -/
  | execute (cmd : Command) (throws : Bool)
  | delete
  | workerReturns
  /-- The destructor of the pool sets `terminate`. -/
  | terminate
  deriving DecidableEq, Repr

namespace CommandManager

/-- `sendCommand` returns; where `enqueue` has thrown it deletes the command first. -/
def sendReturns (m : CommandManager) (cmd : Command) (queued : Bool) : CommandManager :=
  { m with
    calls := m.calls.erase (cmd, queued)
    deleted := if queued then m.deleted else m.deleted ++ [cmd]
    answers := m.answers ++ [(cmd, queued)] }

/-- One step, where it can be taken. -/
def step (m : CommandManager) : PoolStep → Option CommandManager
  | .enqueue cmd outOfMemory =>
    if cmd ∈ m.created then none
    else if m.terminate ∨ outOfMemory then
      some { m with created := m.created ++ [cmd], calls := m.calls ++ [(cmd, false)] }
    else
      some { m with
        created := m.created ++ [cmd]
        calls := m.calls ++ [(cmd, true)]
        tasks := m.tasks ++ [cmd]
        accepted := m.accepted ++ [cmd] }
  | .sendReturns cmd =>
    if (cmd, true) ∈ m.calls then some (m.sendReturns cmd true)
    else if (cmd, false) ∈ m.calls then some (m.sendReturns cmd false)
    else none
  | .take =>
    match m.worker, m.tasks with
    | .waiting, cmd :: rest => some { m with worker := .running cmd, tasks := rest }
    | _, _ => none
  | .execute cmd throws =>
    if m.worker = .running cmd then
      some { m with
        worker := .finishing cmd
        executed := m.executed ++ [cmd]
        completed := if throws then m.completed else m.completed ++ [cmd] }
    else none
  | .delete =>
    match m.worker with
    | .finishing cmd => some { m with worker := .waiting, deleted := m.deleted ++ [cmd] }
    | _ => none
  | .workerReturns =>
    if m.worker = .waiting ∧ m.terminate ∧ m.tasks = [] then some { m with worker := .returned }
    else none
  | .terminate => some { m with terminate := true }

/-- The messages for which `PdmCommand::execute` has come to `PdmLunaService::commandReply`,
which responds and releases the reference: it comes there after `HandlePdmCommand`. -/
def commandReplies (m : CommandManager) : List Nat :=
  m.completed.filterMap fun cmd =>
    match cmd with
    | .pdmCommand message => some message
    | .deviceClassCommand _ => none

/-- The references to a message that are still held: the luna callback takes one with
`LSMessageRef` for the command it makes. -/
def references (m : CommandManager) (message : Nat) : Int :=
  (m.created.count (.pdmCommand message) : Int) - m.commandReplies.count message

end CommandManager

/-- A step that the worker takes. -/
def PoolStep.byWorker : PoolStep → Bool
  | .take => true
  | .execute _ _ => true
  | .delete => true
  | _ => false

end Pdm
