/-
What is told about a storage device, from its first notice to its last.

A device is opened by an ADD, after FSCK_TIMED_OUT where one of its checks was given up and with
the request to format it where pdm has no file system for its medium.  When it goes it is taken
leave of: with REMOVE if it was ever announced, and before that with the withdrawal of the
request to format it, or with the notice that it was removed before it was mounted.  The notices
of a format name the partition that is formatted.  `Told` runs the storage handler with the log
of all notices that name an object, in the build without `WEBOS_SESSION`.
-/
import Pdm.Framework.DeviceManager
import Pdm.Lib.Logs

namespace Pdm

/-- What opens a device, each time it is announced. -/
inductive Opening : List EventType → Prop
  | nil : Opening []
  | announced {bs : List EventType} (h : Opening bs) : Opening (bs ++ [.add])
  | timedOut {bs : List EventType} (h : Opening bs) : Opening (bs ++ [.fsckTimedOut, .add])
  | unsupported {bs : List EventType} (h : Opening bs) :
    Opening (bs ++ [.add, .unsupportedFsFormatNeeded])

/-- The notices that name a partition. -/
def EventType.formats : List EventType := [.formatStarted, .formatSuccess, .formatFail]

/-- The notice that a call of the storage handler sends, with the address of what it names. -/
def Call.notice : Call → Option (EventType × Nat)
  | .notify .storageDevice event (some device) => some (event, device)
  | _ => none

/-- The leave that is taken of a device that was opened with these notices. -/
def goodbye (opening : List EventType) : List EventType :=
  if .add ∉ opening then [.removeBeforeMount]
  else if .unsupportedFsFormatNeeded ∈ opening then [.removeUnsupportedFs, .remove]
  else [.remove]

/-- The storage handler, the notices that were sent, and the devices that were ever listed. -/
structure Told where
  system : StorageSystem := {}
  log : List (EventType × Nat) := []
  known : List Nat := []

namespace Told

/-- One step, with the notices that are sent in it. -/
def step (cfg : Config) (T : Told) (i : Env × StorageInput) : Told :=
  let system := T.system.step cfg i
  { system
    log := T.log ++ system.sys.calls.filterMap (·.call.notice)
    known := T.known ++ system.storage.storageList.map (·.address) }

/-- What was told about the object at an address. -/
def about (T : Told) (a : Nat) : List EventType := Logs.about a T.log

end Told

end Pdm
