/-
The reply of `setDeviceForSession` in the build with `WEBOS_SESSION`.

Each device of the request comes with what the system makes of it: whether db8 stores its
record and whether each of its drives can be mounted.  The callback keeps the last of these
outcomes in `success`, which it puts into its response at each drive and at each device
without storage.
-/
import Pdm.Framework.DeviceSessions

namespace Pdm

/-- A device of a request, and what the system makes of it. -/
structure DeviceTry where
  device : SessionDevice
  /-- What `storeDeviceInfo` returns. -/
  stored : Bool := true
  /-- What `mountDeviceToSession` returns for the drive of the index. -/
  mounted : Nat → Bool := fun _ => true

structure TriedRequest where
  storageDeviceList : List DeviceTry := []
  nonStorageDeviceList : List DeviceTry := []

/-- `success`, and `returnValue` of the response. -/
structure SessionAnswer where
  success : Bool := false
  returnValue : Option Bool := none
  deriving DecidableEq, Repr

namespace SessionAnswer

/-- A turn of the loop over the drives of a storage device. -/
def mountDrive (t : DeviceTry) (a : SessionAnswer) (drive : SessionDrive × Nat) : SessionAnswer :=
  let success :=
    if SessionService.mountable drive.1.fsType = true ∧ t.device.deviceSetId ≠ "" then
      t.mounted drive.2
    else a.success
  { success := success, returnValue := some success }

/-- A turn of the loop over the storage devices. -/
def setStorageDevice (a : SessionAnswer) (t : DeviceTry) : SessionAnswer :=
  let a := if t.device.deviceSetId ≠ "" then { a with success := t.stored } else a
  if t.device.isStorage then t.device.storageDriveList.zipIdx.foldl (mountDrive t) a else a

/-- A turn of the loop over the other devices. -/
def setNonStorageDevice (a : SessionAnswer) (t : DeviceTry) : SessionAnswer :=
  let success :=
    if t.device.deviceSetId ≠ "" ∧ t.device.deviceSetId ≠ "Select" then t.stored else a.success
  { success := success, returnValue := some success }

end SessionAnswer

/-- The `returnValue` that `cbSetDeviceForSession` replies with, if any. -/
def TriedRequest.response (r : TriedRequest) : Option Bool :=
  (r.nonStorageDeviceList.foldl SessionAnswer.setNonStorageDevice
    (r.storageDeviceList.foldl SessionAnswer.setStorageDevice {})).returnValue

end Pdm
