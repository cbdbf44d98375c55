/-
`PdmNotificationManager::sendAlertInfo` and the event monitor that reads behind it.

A payload is copied to the beginning of the shared memory, and a signal with its length is
queued for the event monitor; the monitor takes the signals in their order and reads that
many bytes.  A payload that does not fit is not sent.  The shared memory is mapped, the
event monitor runs, and no signal is lost on its way.
-/
import Mathlib.Data.List.Basic
import Pdm.Lib.Schedules
import Pdm.Lib.Slots

namespace Pdm

/-- `PDM_SHM_SIZE` -/
def shmSize : Nat := 256

/-- The alerts, each as its payload, on their way to the event monitor. -/
structure AlertChannel where
  /-- The alerts still to be sent. -/
  pending : List (List UInt8)
  sharedMemory : List UInt8 := List.replicate shmSize 0
  /-- The length of the payload that has been written, until its signal is queued. -/
  written : Option Nat := none
  signals : List Nat := []
  /-- What the event monitor has read. -/
  reads : List (List UInt8) := []
  deriving DecidableEq, Repr

inductive AlertStep where
  | write
  /-- `sendAlertInfo` returns for a payload that does not fit. -/
  | refuse
  | sigqueue
  | read
  deriving DecidableEq, Repr

namespace AlertChannel

def fits (payload : List UInt8) : Bool := payload.length ≤ shmSize

/-- One step, where it can be taken. -/
def step (s : AlertChannel) : AlertStep → Option AlertChannel
  | .write =>
    match s.pending, s.written with
    | payload :: rest, none =>
      if fits payload then
        some { s with
          pending := rest
          sharedMemory := Slots.write payload s.sharedMemory
          written := some payload.length }
      else none
    | _, _ => none
  | .refuse =>
    match s.pending, s.written with
    | payload :: rest, none => if fits payload then none else some { s with pending := rest }
    | _, _ => none
  | .sigqueue =>
    match s.written with
    | some length => some { s with written := none, signals := s.signals ++ [length] }
    | none => none
  | .read =>
    match s.signals with
    | length :: rest =>
      some { s with signals := rest, reads := s.reads ++ [s.sharedMemory.take length] }
    | [] => none

/-- All alerts have been sent, and every signal has been handled. -/
def Quiet (s : AlertChannel) : Prop :=
  s.pending = [] ∧ s.written = none ∧ s.signals = []

end AlertChannel

end Pdm
