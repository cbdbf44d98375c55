/-
From a notification to what is posted to the subscribers.

A handler's `Notify` reaches `DeviceTracker::update`, which maps the kind of device and the
event to the device kinds that have changed; for each of these
`PdmLunaService::notifySubscribers` posts to the subscriptions concerned.
-/
import Pdm.Devices.StorageDevice

namespace Pdm

/-- `DeviceTracker::update`: what `notifyDeviceChange` is called with, one after the other.
The calls for video and sound devices come first; the event is looked at after them. -/
def DeviceTracker.update (eventDeviceType : DeviceEventType) (eventID : EventType) :
    List DeviceEventType :=
  let first :=
    if eventDeviceType = .videoDevice then [DeviceEventType.videoDevice]
    else if eventDeviceType = .soundDevice then [DeviceEventType.soundDevice]
    else []
  let eventType :=
    if eventDeviceType = .storageDevice ∨ eventDeviceType = .mtpDevice
        ∨ eventDeviceType = .ptpDevice then DeviceEventType.storageDevice
    else if eventDeviceType = .allDevice then .allDevice
    else .nonStorageDevice
  match eventID with
  | .add | .remove | .mount | .umount | .mountAll | .unmountAll | .formatStarted
  | .formatSuccess => first ++ [eventType]
  | _ => first

/-- The subscriptions a change may be posted to. -/
inductive Subscription where
  | storageDevices
  | nonStorageDevices
  | allAttachedDevices
  | videoDevices
  | videoSubDevices
  | audioDevices
  | audioSubDevices
  deriving DecidableEq, Repr

/-- `PdmLunaService::notifySubscribers`: the subscriptions that are posted to.  Its table of
keys is indexed by the kind of device; the kinds beyond those that `update` hands over are
read as other devices. -/
def PdmLunaService.notifySubscribers : DeviceEventType → List Subscription
  | .storageDevice => [.storageDevices, .allAttachedDevices]
  | .videoDevice => [.videoSubDevices, .videoDevices, .allAttachedDevices]
  | .soundDevice => [.audioSubDevices, .audioDevices, .allAttachedDevices]
  | .allDevice => [.allAttachedDevices]
  | _ => [.nonStorageDevices, .allAttachedDevices]

/-- A notification posts the list of storage devices. -/
def postsStorageList (deviceType : DeviceEventType) (event : EventType) : Bool :=
  ((DeviceTracker.update deviceType event).flatMap PdmLunaService.notifySubscribers).contains
    .storageDevices

/-- The event and the device of a notification that posts the list of storage devices. -/
def Call.post : Call → Option (EventType × Option Nat)
  | .notify deviceType event device =>
    if postsStorageList deviceType event then some (event, device) else none
  | _ => none

/-- The posts of the step in progress, oldest first. -/
def Sys.posts (s : Sys) : List (EventType × Option Nat) := s.calls.filterMap (·.call.post)

/-- Mounting and unmounting a drive post no list; the two that end a format in success do,
one that fails does not. -/
example : postsStorageList .allDevice .mount = false ∧
    postsStorageList .storageDevice .formatSuccess = true ∧
    postsStorageList .storageDevice .formatFail = false := by decide

end Pdm
