/-
One round of file system checks on `n` partitions, step by step.

`StorageDevice::setPartitionInfo` starts a thread for every supported partition, counts it
in `m_fsckThreadCount` behind that, and arms the connecting timer at the end of its loop.
Each thread checks its partition, counts down, looks at the counter and, where it reads
zero, notifies and cancels the timer.  All these steps of `n + 1` threads may alternate.

The timer does not fire in a round; `notified` and `finished` are a record that no step
reads.
-/
import Mathlib.Logic.Function.Basic
import Pdm.Lib.Schedules

namespace Pdm

/-- Where the thread of a partition is. -/
inductive CheckPhase where
  | unstarted
  /-- in `fsckPartition` -/
  | checking
  /-- in front of `m_fsckThreadCount--` -/
  | checked
  /-- in front of the test for zero -/
  | countedDown
  /-- in front of `storageDeviceNotification` -/
  | announcing
  /-- in front of `cancelConnectingTimeout` -/
  | cancelling
  | returned
  deriving DecidableEq, Repr

structure FsckRound where
  /-- How many threads `setPartitionInfo` has started. -/
  started : Nat := 0
  /-- How many of them it has counted. -/
  counted : Nat := 0
  armed : Bool := false
  fsckThreadCount : Int := 0
  /-- `m_timeoutId` is not zero. -/
  connecting : Bool := false
  phase : Nat → CheckPhase := fun _ => .unstarted
  /-- How many checks are over. -/
  finished : Nat := 0
  /-- Which threads have notified, and how many checks were over then. -/
  notified : List (Nat × Nat) := []

inductive RoundStep where
  | start
  | count
  | arm
  | finish (i : Nat)
  | countDown (i : Nat)
  | test (i : Nat)
  | notify (i : Nat)
  | cancel (i : Nat)
  deriving DecidableEq, Repr

namespace FsckRound

def moveTo (s : FsckRound) (i : Nat) (p : CheckPhase) : FsckRound :=
  { s with phase := Function.update s.phase i p }

section moveTo

variable (s : FsckRound) (i : Nat) (p : CheckPhase)

@[simp] theorem moveTo_started : (s.moveTo i p).started = s.started := rfl
@[simp] theorem moveTo_armed : (s.moveTo i p).armed = s.armed := rfl
@[simp] theorem moveTo_fsckThreadCount : (s.moveTo i p).fsckThreadCount = s.fsckThreadCount := rfl
@[simp] theorem moveTo_connecting : (s.moveTo i p).connecting = s.connecting := rfl
@[simp] theorem moveTo_finished : (s.moveTo i p).finished = s.finished := rfl
@[simp] theorem moveTo_notified : (s.moveTo i p).notified = s.notified := rfl

theorem moveTo_phase (j : Nat) : (s.moveTo i p).phase j = if j = i then p else s.phase j :=
  Function.update_apply s.phase i p j

end moveTo

/-- One step, where it can be taken. -/
def step (n : Nat) (s : FsckRound) : RoundStep → Option FsckRound
  | .start =>
    if s.started < n ∧ s.counted = s.started then
      some { s.moveTo s.started .checking with started := s.started + 1 }
    else none
  | .count =>
    if s.counted < s.started then
      some { s with counted := s.counted + 1, fsckThreadCount := s.fsckThreadCount + 1 }
    else none
  | .arm =>
    if s.counted = n ∧ s.armed = false then some { s with armed := true, connecting := true }
    else none
  | .finish i =>
    if s.phase i = .checking then
      some { s.moveTo i .checked with finished := s.finished + 1 }
    else none
  | .countDown i =>
    if s.phase i = .checked then
      some { s.moveTo i .countedDown with fsckThreadCount := s.fsckThreadCount - 1 }
    else none
  | .test i =>
    if s.phase i = .countedDown then
      some (s.moveTo i (if s.fsckThreadCount = 0 then .announcing else .returned))
    else none
  | .notify i =>
    if s.phase i = .announcing then
      some { s.moveTo i .cancelling with notified := s.notified ++ [(i, s.finished)] }
    else none
  | .cancel i =>
    if s.phase i = .cancelling then
      some { s.moveTo i .returned with connecting := false }
    else none

/-- The loop is over and all threads have returned. -/
def Over (n : Nat) (s : FsckRound) : Prop :=
  s.armed = true ∧ ∀ i, i < n → s.phase i = .returned

end FsckRound

namespace RoundStep

def finishes : RoundStep → Bool
  | .finish _ => true
  | _ => false

def countsDown : RoundStep → Bool
  | .countDown _ => true
  | _ => false

end RoundStep

end Pdm
