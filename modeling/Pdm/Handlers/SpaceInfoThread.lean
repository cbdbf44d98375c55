/-
The thread that keeps the space of mounted partitions up to date, step by step.

`StorageDeviceHandler::commandNotification` starts `computeSpaceInfoThread` where
`mSpaceInfoThreadStatus` is false and some device is mounted.  Any thread that a storage
device calls back from runs it: the worker of the pool, the threads that check partitions,
and main for a timeout.  The status is raised by the new thread itself, and no lock guards
the status or `mSpaceInfoThread`, so all their reads and writes may alternate.

What ends in `std::terminate` ends the run: a `std::thread` assigned over a joinable one, and
a join of what is not joinable any more.  No handler is ever deleted, so the destructor,
which also stops the thread, is left out.
-/
import Mathlib.Logic.Function.Basic
import Pdm.Handlers.StorageDeviceHandler
import Pdm.Lib.Schedules

namespace Pdm

/-! ### What the thread computes -/

/-- The loop over the partitions of a device. -/
def StorageDevice.computeSpaceInfo (env : Env) (d : StorageDevice) : StorageDevice :=
  d.diskPartitionList.foldl (fun d p => (d.getSpaceInfo env p.driveName true).1) d

/-- The loop over the devices, under `mStorageListMtx`. -/
def computeSpaceInfo (env : Env) (storageList : List StorageDevice) : List StorageDevice :=
  storageList.map fun d => if d.deviceIsMounted then d.computeSpaceInfo env else d

/-! ### The threads -/

/-- Where a thread that runs `computeSpaceInfoThread` is. -/
inductive SpacePhase where
  | unstarted
  /-- in front of `mSpaceInfoThreadStatus = true` -/
  | spawned
  /-- in front of `while(mSpaceInfoThreadStatus)` -/
  | loopTest
  /-- in front of the lock of `mStorageListMtx` -/
  | computing
  /-- in `wait_for` -/
  | sleeping
  /-- in front of `mSpaceInfoThreadStatus = false` -/
  | leaving
  | returned
  deriving DecidableEq, Repr

/-- Where a thread is that calls `commandNotification` every now and then. -/
inductive NotifierPhase where
  | outside
  /-- in front of `if(mSpaceInfoThreadStatus == false)` -/
  | statusTest
  /-- in front of the look at the devices -/
  | mountedTest
  /-- in front of `if(mSpaceInfoThread.joinable())` -/
  | joinableTest
  /-- in front of the call of `join` -/
  | join
  /-- in `join`, for the thread of this number -/
  | joining (t : Nat)
  /-- in front of the start of a thread -/
  | start
  /-- in front of the assignment of the started thread -/
  | assign (t : Nat)
  deriving DecidableEq, Repr

structure SpaceInfoThreads where
  storageList : List StorageDevice := []
  spaceInfoThreadStatus : Bool := false
  /-- The thread `mSpaceInfoThread` stands for while it is joinable. -/
  spaceInfoThread : Option Nat := none
  /-- How many threads have been started; they are numbered in this order. -/
  started : Nat := 0
  thread : Nat → SpacePhase := fun _ => .unstarted
  notifier : Nat → NotifierPhase := fun _ => .outside
  /-- `std::terminate` has been called. -/
  terminated : Bool := false

inductive SpaceStep where
  /-- The thread `i` calls `commandNotification`, and `Notify` is behind it. -/
  | notify (i : Nat)
  /-- The thread `i` does something else, which may change the devices. -/
  | change (i : Nat) (storageList : List StorageDevice)
  /-- The next statement of `commandNotification` on the thread `i`. -/
  | advance (i : Nat)
  /-- The next statement of the thread of number `t`. -/
  | run (t : Nat) (env : Env)

namespace SpaceInfoThreads

/-- Whether `any_of` finds a device that `getIsMounted`. -/
def mounted (s : SpaceInfoThreads) : Bool := s.storageList.any (·.deviceIsMounted)

def moveTo (s : SpaceInfoThreads) (i : Nat) (p : NotifierPhase) : SpaceInfoThreads :=
  { s with notifier := Function.update s.notifier i p }

def runTo (s : SpaceInfoThreads) (t : Nat) (p : SpacePhase) : SpaceInfoThreads :=
  { s with thread := Function.update s.thread t p }

/-- The next statement of `StorageDeviceHandler::commandNotification`, on the thread `i`. -/
def commandNotification (s : SpaceInfoThreads) (i : Nat) : Option SpaceInfoThreads :=
  match s.notifier i with
  | .outside => none
  | .statusTest =>
    some (s.moveTo i (if s.spaceInfoThreadStatus = false then .mountedTest else .outside))
  | .mountedTest => some (s.moveTo i (if s.mounted then .joinableTest else .outside))
  | .joinableTest => some (s.moveTo i (if s.spaceInfoThread.isSome then .join else .start))
  | .join =>
    match s.spaceInfoThread with
    | some t => some (s.moveTo i (.joining t))
    | none => some { s with terminated := true }
  | .joining t =>
    if s.thread t = .returned then
      if s.spaceInfoThread = some t then some { s.moveTo i .start with spaceInfoThread := none }
      -- another thread has joined it meanwhile
      else some { s with terminated := true }
    else none
  | .start =>
    some { (s.runTo s.started .spawned).moveTo i (.assign s.started) with started := s.started + 1 }
  | .assign t =>
    if s.spaceInfoThread = none then some { s.moveTo i .outside with spaceInfoThread := some t }
    else some { s with terminated := true }

/-- The next statement of `StorageDeviceHandler::computeSpaceInfoThread`, on the thread of
number `t`. -/
def computeSpaceInfoThread (s : SpaceInfoThreads) (t : Nat) (env : Env) :
    Option SpaceInfoThreads :=
  match s.thread t with
  | .unstarted => none
  | .spawned => some { s.runTo t .loopTest with spaceInfoThreadStatus := true }
  | .loopTest => some (s.runTo t (if s.spaceInfoThreadStatus then .computing else .leaving))
  | .computing =>
    if s.storageList = [] then some (s.runTo t .leaving)
    else if s.mounted then
      some { s.runTo t .sleeping with storageList := Pdm.computeSpaceInfo env s.storageList }
    else some (s.runTo t .leaving)
  -- after the 20 seconds, or for no reason
  | .sleeping => some (s.runTo t .loopTest)
  | .leaving => some { s.runTo t .returned with spaceInfoThreadStatus := false }
  | .returned => none

/-- One step, where it can be taken. -/
def step (s : SpaceInfoThreads) (x : SpaceStep) : Option SpaceInfoThreads :=
  if s.terminated then none
  else
    match x with
    | .notify i => if s.notifier i = .outside then some (s.moveTo i .statusTest) else none
    | .change i storageList =>
      if s.notifier i = .outside then some { s with storageList := storageList } else none
    | .advance i => s.commandNotification i
    | .run t env => s.computeSpaceInfoThread t env

end SpaceInfoThreads

end Pdm
