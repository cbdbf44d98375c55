/-
`StorageDeviceHandler`: which device an event or a command goes to.
-/
import Pdm.Devices.StorageDevice
import Pdm.Handlers.DeviceHandler

namespace Pdm

open Visit (visit)

/-- `StorageDeviceHandler`, of which only the device list is state. -/
structure StorageDeviceHandler where
  storageList : List StorageDevice := []
  deriving DecidableEq

namespace StorageDeviceHandler

variable (cfg : Config) (env : Env)

/-- `iClass`, the interface class of mass storage. -/
def iClass : String := ":08"

/-- Let a device of the list show its new state. -/
def setDevice (h : StorageDeviceHandler) (d : StorageDevice) : StorageDeviceHandler :=
  { h with storageList := writeBack h.storageList d }

/-! ### Uevents -/

/-- `StorageDeviceHandler::isStorageDevice` -/
def isStorageDevice (devClass : DeviceClass) : Bool :=
  contains devClass.interfaceClass iClass || devClass.hardDisk = "1"

/-- `StorageDeviceHandler::createStorageDevice`; `device` is the card reader a further
slot is created for. -/
def createStorageDevice (s : Sys) (h : StorageDeviceHandler) (devClass : DeviceClass)
    (device : Option StorageDevice) : Out StorageDeviceHandler Unit :=
  if h.storageList.length ≥ cfg.maxUsbStorageDevices then
    ⟨s.notify .storageDevice .maxCountReached none, h, ()⟩
  else
    let storageDev := StorageDevice.new s.next devClass.devPath cfg.rootPath
    let storageDev :=
      match device with
      | none => storageDev
      | some device =>
        { storageDev with isExtraSdCard := true }.setExtraSdCardDetails device.toDevice
    let r := storageDev.setDeviceInfo env s.alloc devClass
    ⟨r.state, { h with storageList := h.storageList ++ [r.obj] }, ()⟩

/-- Hand an event to a device of the list. -/
def updateStorageDevice (s : Sys) (h : StorageDeviceHandler) (devClass : DeviceClass)
    (d : StorageDevice) : Out StorageDeviceHandler Unit :=
  let r := d.setDeviceInfo env s devClass
  ⟨r.state, h.setDevice r.obj, ()⟩

/-- `StorageDeviceHandler::checkStorageDevice` -/
def checkStorageDevice (s : Sys) (h : StorageDeviceHandler) (devClass : DeviceClass) :
    Out StorageDeviceHandler Unit :=
  match getDeviceWithPath h.storageList devClass.devPath with
  | none =>
    -- With no path match the later branches all fail, whatever the name finds.
    if devClass.devType = USB_DEVICE then createStorageDevice cfg env s h devClass none
    else ⟨s, h, ()⟩
  | some storageDevPath =>
    if storageDevPath.deviceName = "" then updateStorageDevice env s h devClass storageDevPath
    else
      match getDeviceWithName h.storageList devClass.devName with
      | some storageDevName => updateStorageDevice env s h devClass storageDevName
      | none => createStorageDevice cfg env s h devClass (some storageDevPath)

/-- `StorageDeviceHandler::ProcessStorageDevice` -/
def ProcessStorageDevice (s : Sys) (h : StorageDeviceHandler) (devClass : DeviceClass) :
    Out StorageDeviceHandler Unit :=
  match sMapDeviceActions devClass.action with
  | some .usbDevAdd => checkStorageDevice cfg env s h devClass
  | some .usbDevChange => checkStorageDevice cfg env s h devClass
  | _ => ⟨s, h, ()⟩

/-- `StorageDeviceHandler::removeDevice` -/
def removeDevice (s : Sys) (h : StorageDeviceHandler) (d : StorageDevice) :
    Out StorageDeviceHandler Unit :=
  let h := { h with storageList := removePointer h.storageList d }
  if d.isDevAddEventNotified then ⟨s.notify .storageDevice .remove (some d.address), h, ()⟩
  else ⟨s, h, ()⟩

/-- The end of `deleteStorageDevice`, for the device that goes. -/
def dropStorageDevice (s : Sys) (h : StorageDeviceHandler) (d : StorageDevice) :
    Out StorageDeviceHandler Unit :=
  let r := d.onDeviceRemove env s
  removeDevice r.state (h.setDevice r.obj) r.obj

/-- The device a remove event makes `deleteStorageDevice` drop: the whole device by its
path, and of the disks only a further card slot, by its name. -/
def removedDevice (h : StorageDeviceHandler) (devClass : DeviceClass) : Option StorageDevice :=
  if devClass.devType = USB_DEVICE then getDeviceWithPath h.storageList devClass.devPath
  else if devClass.devType = DISK then
    match getDeviceWithName h.storageList devClass.devName with
    | some d => if d.isExtraSdCard then some d else none
    | none => none
  else none

/-- `StorageDeviceHandler::deleteStorageDevice` -/
def deleteStorageDevice (s : Sys) (h : StorageDeviceHandler) (devClass : DeviceClass) :
    Out StorageDeviceHandler Bool :=
  match removedDevice h devClass with
  | none => ⟨s, h, false⟩
  | some storageDev =>
    let r := dropStorageDevice env s h storageDev
    ⟨r.state, r.obj, devClass.devType = USB_DEVICE⟩

/-- `StorageDeviceHandler::HandlerEvent` -/
def HandlerEvent (s : Sys) (h : StorageDeviceHandler) (devClass : DeviceClass) :
    Out StorageDeviceHandler Bool :=
  if devClass.action = "remove" then deleteStorageDevice env s h devClass
  else if isStorageDevice devClass = false then ⟨s, h, false⟩
  else if devClass.devType = USB_DEVICE then
    let r := ProcessStorageDevice cfg env s h devClass
    ⟨r.state, r.obj, false⟩
  else if devClass.subsystemName = "block" then
    let r := ProcessStorageDevice cfg env s h devClass
    ⟨r.state, r.obj, true⟩
  else ⟨s, h, false⟩

/-- The thread of a partition, or a pending timeout, of the device at `address`. -/
def deviceTask (s : Sys) (h : StorageDeviceHandler) (address : Nat)
    (task : Sys → StorageDevice → Out StorageDevice Unit) : Out StorageDeviceHandler Unit :=
  match h.storageList.find? (·.address = address) with
  | none => ⟨s, h, ()⟩
  | some d =>
    let r := task s d
    ⟨r.state, h.setDevice r.obj, ()⟩

/-- A thread started for a partition runs. -/
def runFsckThread (s : Sys) (h : StorageDeviceHandler) (address partition : Nat) :
    Out StorageDeviceHandler Unit :=
  deviceTask s h address fun s d =>
    if partition ∈ d.fsckThreadArray then
      StorageDevice.fsckOnDeviceAddThread env s
        { d with fsckThreadArray := d.fsckThreadArray.erase partition } partition
    else ⟨s, d, ()⟩

/-- A device's connecting timeout fires. -/
def runTimeout (s : Sys) (h : StorageDeviceHandler) (address : Nat) :
    Out StorageDeviceHandler Unit :=
  deviceTask s h address fun s d =>
    if d.timeoutPending then StorageDevice.notifyStorageConnecting s d else ⟨s, d, ()⟩

/-! ### Commands

Each answers with whether the handler took the command and with its reply.
-/

/-- What a command leaves in the handler, with its answer. -/
abbrev Reply := Out StorageDeviceHandler (Bool × CommandResponse)

/-- Run a method that answers with a status on the device found, or answer with what
stands for no device. -/
def onDevice (s : Sys) (h : StorageDeviceHandler) (found : Option StorageDevice)
    (method : Sys → StorageDevice → Out StorageDevice PdmDevStatus) (notFound : PdmDevStatus) :
    Reply :=
  match found with
  | none => ⟨s, h, (false, { result := notFound })⟩
  | some d =>
    let r := method s d
    ⟨r.state, h.setDevice r.obj, (true, { result := r.ret })⟩

/-- `StorageDeviceHandler::format` -/
def format (s : Sys) (h : StorageDeviceHandler) (driveName fsType volumeLabel : String) : Reply :=
  onDevice s h (getDeviceWithName h.storageList driveName)
    (fun s d => d.formatDiskStart env s driveName fsType volumeLabel) .driveNotFound

/-- `StorageDeviceHandler::eject` -/
def eject (s : Sys) (h : StorageDeviceHandler) (deviceNumber : Int) : Reply :=
  onDevice s h (getDeviceWithNum h.storageList deviceNumber)
    (fun s d =>
      let r := d.eject env s
      ⟨r.state.notify .storageDevice .unmountAll none, r.obj, r.ret⟩) .deviceNotFound

/-- `StorageDeviceHandler::fsck`, which drops the blanks of the name. -/
def fsck (s : Sys) (h : StorageDeviceHandler) (driveName : String) : Reply :=
  onDevice s h (getDeviceWithName h.storageList (removeBlanks driveName))
    (fun s d => d.fsck env s (removeBlanks driveName)) .driveNotFound

/-- `StorageDeviceHandler::setVolumeLabel` -/
def setVolumeLabel (s : Sys) (h : StorageDeviceHandler) (driveName volumeLabel : String) : Reply :=
  onDevice s h (getDeviceWithName h.storageList driveName)
    (fun s d => d.setPartitionVolumeLabel env s driveName volumeLabel) .driveNotFound

/-- `StorageDeviceHandler::mountFsck` -/
def mountFsck (s : Sys) (h : StorageDeviceHandler) (needFsck : Bool) (mountName : String) : Reply :=
  onDevice s h (getDeviceWithName h.storageList mountName)
    (fun s d => d.enforceFsckAndMount env s needFsck) .error

/-- The answer of `umountAllDrive`: the last failure, or success. -/
def lastFailure (rets : List PdmDevStatus) : PdmDevStatus :=
  rets.foldl (fun result ret => if ret ≠ .success then ret else result) .success

/-- `StorageDeviceHandler::umountAllDrive(CommandResponse*)` -/
def umountAllDrive (s : Sys) (h : StorageDeviceHandler) : Reply :=
  if h.storageList = [] then ⟨s, h, (false, { result := .success })⟩
  else
    let r := visit (fun s d => d.umountAllPartition env s false) s h.storageList
    ⟨r.state.notify .storageDevice .unmountAll none, { h with storageList := r.obj },
      (true, { result := lastFailure r.ret })⟩

/-- The reply about whether a drive is writable, which only success says. -/
def writableResponse (r : PdmDevStatus × Bool) : CommandResponse :=
  { result := r.1, isWritable := if r.1 = .success then some r.2 else none }

/-- `StorageDeviceHandler::isWritableDrive` -/
def isWritableDrive (s : Sys) (h : StorageDeviceHandler) (driveName : String) : Reply :=
  match getDeviceWithName h.storageList driveName with
  | none => ⟨s, h, (false, { result := .error })⟩
  | some d =>
    let r := d.isWritable env s driveName
    ⟨r.2, h, (true, writableResponse r.1)⟩

/-- The reply about the space of a partition: only a mounted one has any. -/
def spaceResponse (diskInfo : DiskPartitionInfo) : CommandResponse :=
  if diskInfo.mounted then { result := .success, spaceInfo := some (.ofSpace diskInfo.space) }
  else { result := .driveNotMounted }

/-- `StorageDeviceHandler::getSpaceInfo` -/
def getSpaceInfo (s : Sys) (h : StorageDeviceHandler) (directCheck : Bool) (driveName : String) :
    Reply :=
  match getDeviceWithName h.storageList driveName with
  | none => ⟨s, h, (false, { result := .driveNotFound })⟩
  | some d =>
    let r := d.getSpaceInfo env driveName directCheck
    let h := h.setDevice r.1
    match r.2 with
    | some diskInfo => ⟨s, h, (true, spaceResponse diskInfo)⟩
    | none => ⟨s, h, (true, { result := .driveNotMounted })⟩

/-- `StorageDeviceHandler::HandlerCommand` -/
def HandlerCommand (s : Sys) (h : StorageDeviceHandler) (cmdtypes : CommandType) :
    Out StorageDeviceHandler (Bool × Option CommandResponse) :=
  let done (r : Reply) : Out StorageDeviceHandler (Bool × Option CommandResponse) :=
    ⟨r.state, r.obj, (r.ret.1, some r.ret.2)⟩
  match cmdtypes with
  | .format driveName fsType volumeLabel => done (format env s h driveName fsType volumeLabel)
  | .eject deviceNumber => done (eject env s h deviceNumber)
  | .fsck driveName => done (fsck env s h driveName)
  | .setVolumeLabel driveName volumeLabel => done (setVolumeLabel env s h driveName volumeLabel)
  | .isWritableDrive driveName => done (isWritableDrive env s h driveName)
  | .mountFsck needFsck mountName => done (mountFsck env s h needFsck mountName)
  | .spaceInfo directCheck driveName => done (getSpaceInfo env s h directCheck driveName)
  | .umountAllDrive => done (umountAllDrive env s h)
  | .other => ⟨s, h, (false, none)⟩

/-! ### Plugin events -/

/-- The loop of `umountAllDrive(bool)`. -/
def umountAllDriveLoop (lazyUnmount : Bool) : Sys → Bool → List StorageDevice → Bool × Sys
  | s, retVal, [] => (retVal, s)
  | s, retVal, storageDevice :: rest =>
    let r := storageDevice.suspendUmountAllPartitions env s lazyUnmount
    umountAllDriveLoop lazyUnmount r.2 (if r.1 = false then false else retVal) rest

/-- `StorageDeviceHandler::suspendRequest` -/
def suspendRequest (h : StorageDeviceHandler) : StorageDeviceHandler :=
  { h with storageList := h.storageList.map (·.suspendRequest) }

/-- `StorageDeviceHandler::resumeRequest` -/
def resumeRequest (s : Sys) (h : StorageDeviceHandler) : Out StorageDeviceHandler Unit :=
  let r := visit (fun s d => d.resumeRequest env s) s h.storageList
  ⟨r.state.notify .storageDevice .add none, { h with storageList := r.obj }, ()⟩

/-- `StorageDeviceHandler::HandlePluginEvent` -/
def HandlePluginEvent (s : Sys) (h : StorageDeviceHandler) (eventType : PluginEvent) :
    Out StorageDeviceHandler Bool :=
  match eventType with
  | .powerProcessRequestSuspend => ⟨s, h.suspendRequest, false⟩
  | .powerProcessPrepareResume =>
    let r := resumeRequest env s h
    ⟨r.state, r.obj, false⟩
  | .powerProcessRequestUmountAll =>
    let r := umountAllDriveLoop env false s true h.storageList
    ⟨r.2, h, r.1⟩
  | .powerProcessPrepareSuspend =>
    let r := umountAllDriveLoop env true s true h.storageList
    ⟨r.2, h, r.1⟩
  | _ => ⟨s, h, false⟩

end StorageDeviceHandler

end Pdm
