/-
`eject` in the build with `WEBOS_SESSION`: the callback of the device query.

The drives of the device are unmounted one after the other, each with an outcome of its own.
What is replied to the requester, which drives were to be unmounted and what is merged into
the record are one outcome.
-/
import Pdm.Framework.DeviceSessions
import Pdm.Framework.PdmLunaService

namespace Pdm

/-- What db8 answers to the device query. -/
structure FindAnswer where
  returnValue : Bool
  /-- `none` where the answer has no array under this name. -/
  results : Option (List SessionDevice)
  deriving DecidableEq, Repr

/-- The record the answer names: the first one. -/
def FindAnswer.device (answer : FindAnswer) : Option SessionDevice :=
  if answer.returnValue then (answer.results.getD []).head? else none

/-- What the system says while a device is ejected, drive by drive. -/
structure EjectFacts where
  umount : Nat → Bool := fun _ => true
  removeDirRecursive : Nat → Bool := fun _ => true
  userId : String → String := fun _ => ""
  /-- Whether the call of `mergePut` goes out. -/
  mergePut : Bool := true

/-- What it says of one drive. -/
def EjectFacts.of (facts : EjectFacts) (idx : Nat) : SessionFacts where
  umount _ := facts.umount idx
  removeDirRecursive _ := facts.removeDirRecursive idx
  userId := facts.userId

structure EjectOutcome where
  replies : List LunaReply := []
  /-- The mount names that `umount` was called for. -/
  umounts : List String := []
  /-- The properties that are merged into the record. -/
  stored : Option SessionDevice := none
  deriving DecidableEq, Repr

namespace SessionService

/-- The loop over the drives, from drive `idx` on, with `allPartitionUnmounted`: it is reset
for each drive. -/
def ejectDrives (facts : EjectFacts) (deviceSetId : String) (idx : Nat)
    (allPartitionUnmounted : Bool) : List SessionDrive → List SessionDrive × Bool
  | [] => ([], allPartitionUnmounted)
  | drive :: drives =>
    let rest := ejectDrives facts deviceSetId (idx + 1) (facts.umount idx) drives
    (ejectDrive (facts.of idx) deviceSetId drive :: rest.1, rest.2)

/-- `PdmLunaService::ejectDevice`; it replies where the flag is set at the end. -/
def ejectFound (facts : EjectFacts) (d : SessionDevice) : EjectOutcome :=
  if d.errorReason = "Ejected" then
    { replies := [{ returnValue := true, ejectText := some "Already ejected" }] }
  else
    let drives := ejectDrives facts d.deviceSetId 0 false d.storageDriveList
    let props :=
      if d.isStorage then
        { d with
          storageDriveList := drives.1
          errorReason := if drives.2 then "Ejected" else d.errorReason }
      else d
    let allPartitionUnmounted := d.isStorage && drives.2
    let umounts := if d.isStorage then d.storageDriveList.map SessionDrive.mountName else []
    if facts.mergePut = false then { umounts := umounts }
    else if allPartitionUnmounted = false then { umounts := umounts, stored := some props }
    else { replies := [{ returnValue := true }], umounts := umounts, stored := some props }

/-- `PdmLunaService::cbEjectDevice` -/
def cbEjectDevice (payload : Option FindAnswer) (facts : EjectFacts) : EjectOutcome :=
  match payload with
  | none => {}
  | some answer =>
    let notFound : EjectOutcome := { replies := [{ errorText := some "No device found" }] }
    match answer.returnValue, answer.results with
    | false, _ => notFound
    | true, some [] => notFound
    | true, some (d :: _) => ejectFound facts d
    | true, none => {}

end SessionService

end Pdm
