/-
`StorageDevice`, a USB stick, disk or card reader slot with its partitions.

A method is a function from the system and the device to what it leaves of both.
The callback every device is registered with is `StorageDeviceHandler::
commandNotification`, which only sends a notification on, so `handlerCb` puts that
notification on record.

A thread the device starts for a partition runs `fsckOnDeviceAddThread` once, at any
later moment.  Here it runs without interruption; `StorageThreads` runs it in pieces,
beside the events and the commands.  `m_fsckThreadArray` holds the partitions whose
thread has not run yet: a thread that has run is only ever joined.  The S.M.A.R.T. logger
and the partition lock are left out, the one writes nothing but the log and the other
orders threads.
-/
import Pdm.Utils.DiskPartitionInfo

namespace Pdm

open Visit (visit)

structure StorageDevice extends Storage where
  deviceIsMounted : Bool := false
  hasUnsupportedFs : Bool := false
  isDevAddEventNotified : Bool := false
  isSdCardRemoved : Bool := false
  isExtraSdCard : Bool := false
  partitionCount : Int := 0
  /-- Whether `m_timeoutId` is the id of a pending timeout. -/
  timeoutPending : Bool := false
  fsckThreadCount : Int := 0
  diskPartitionList : List DiskPartitionInfo := []
  /-- The addresses of the partitions whose thread has yet to run. -/
  fsckThreadArray : List Nat := []
  deriving DecidableEq, Repr

/-- `StorageDeviceHandler::commandNotification` -/
def handlerCb (s : Sys) (event : EventType) (device : Option Nat) : Sys :=
  if event = .mount ∨ event = .umount then s.notify .allDevice event device
  else s.notify .storageDevice event device

namespace StorageDevice

/-- The constructor, for an event with the given `DEVPATH`. -/
def new (address : Nat) (node configRootPath : String) : StorageDevice where
  address := address
  node := node
  deviceType := "USB_STORAGE"
  errorReason := .noMounted
  configRootPath := configRootPath
  storageType := .usbUndefined

/-! ### Mounting, unmounting and checking one partition -/

/-- `lazyUnmount == false && isDriveBusy(partition)`: a lazy unmount does not look. -/
def driveInTheWay (env : Env) (s : Sys) (partition : DiskPartitionInfo) (lazyUnmount : Bool) :
    Bool × Sys :=
  if lazyUnmount then (false, s) else PdmFs.isDriveBusy env s partition

/-- `StorageDevice::umountPartition` -/
def umountPartition (env : Env) (s : Sys) (partition : DiskPartitionInfo) (lazyUnmount : Bool) :
    Out DiskPartitionInfo PdmDevStatus :=
  if partition.mounted = false then ⟨s, partition, .success⟩
  else
    let busy := driveInTheWay env s partition lazyUnmount
    if busy.1 then ⟨busy.2, partition, .busy⟩
    else
      let s := handlerCb busy.2 .umount none
      let r := PdmFs.umount env s partition lazyUnmount
      if r.1 then
        ⟨handlerCb r.2 .umount none,
          (partition.setDriveStatus .isUnmounting).setDriveStatus .umountOk, .success⟩
      else
        ⟨handlerCb r.2 .mount none,
          (partition.setDriveStatus .isUnmounting).setDriveStatus .umountNotOk, .umountFail⟩

/-- `StorageDevice::mountPartition` -/
def mountPartition (env : Env) (s : Sys) (partition : DiskPartitionInfo) (readOnly : Bool) :
    Out DiskPartitionInfo PdmDevStatus :=
  let s := handlerCb s .mount none
  let r := PdmFs.mountPartition env s (partition.setDriveStatus .isMounting) readOnly
  if r.ret then ⟨handlerCb r.state .mount none, r.obj.setDriveStatus .mountOk, .success⟩
  else ⟨handlerCb r.state .umount none, r.obj.setDriveStatus .mountNotOk, .umountFail⟩

/-- `StorageDevice::fsckPartition` -/
def fsckPartition (env : Env) (s : Sys) (partition : DiskPartitionInfo) (fsckMode : String) :
    Out DiskPartitionInfo PdmDevStatus :=
  let s := handlerCb s .fsckStarted none
  let f := PdmFs.fsck env s partition fsckMode
  let r := if f.ret = .success then mountPartition env f.state f.obj false else f
  ⟨handlerCb r.state .fsckFinished none, r.obj, r.ret⟩

/-! ### All partitions -/

/-- The answer of a loop that turns any failure into one of its own. -/
def worst (rets : List PdmDevStatus) (failure : PdmDevStatus) : PdmDevStatus :=
  if rets.any (· ≠ .success) then failure else .success

/-- Put the partitions and the answer of a loop over them into the device. -/
def afterLoop (d : StorageDevice) (r : Out (List DiskPartitionInfo) (List PdmDevStatus))
    (failure : PdmDevStatus) : Out StorageDevice PdmDevStatus :=
  ⟨r.state, { d with diskPartitionList := r.obj }, worst r.ret failure⟩

/-- `StorageDevice::umountAllPartition` -/
def umountAllPartition (env : Env) (s : Sys) (d : StorageDevice) (lazyUnmount : Bool) :
    Out StorageDevice PdmDevStatus :=
  d.afterLoop
    (visit (fun s p => umountPartition env s p lazyUnmount) s d.diskPartitionList) .umountAllFail

/-- One turn of `mountAllPartition`: a file system pdm does not support is left alone. -/
def mountSupported (env : Env) (readOnly : Bool) (s : Sys) (partition : DiskPartitionInfo) :
    Out DiskPartitionInfo PdmDevStatus :=
  if partition.isSupportedFs then mountPartition env s partition readOnly
  else ⟨s, partition, .success⟩

/-- `StorageDevice::mountAllPartition` -/
def mountAllPartition (env : Env) (s : Sys) (d : StorageDevice) :
    Out StorageDevice PdmDevStatus :=
  d.afterLoop (visit (mountSupported env d.isReadOnly) s d.diskPartitionList) .mountAllFail

/-- `StorageDevice::deletePartitionData` -/
def deletePartitionData (env : Env) (s : Sys) (d : StorageDevice) : Out StorageDevice Unit :=
  let r := umountAllPartition env s d true
  ⟨r.state, { r.obj with diskPartitionList := [], partitionCount := 0 }, ()⟩

/-- `StorageDevice::findPartition` -/
def findPartition (d : StorageDevice) (driveName : String) : Option DiskPartitionInfo :=
  if driveName = "" then none
  else d.diskPartitionList.find? fun p => driveName = p.driveName

/-- Put a partition back where the device holds it. -/
def setPartition (d : StorageDevice) (p : DiskPartitionInfo) : StorageDevice :=
  { d with
    diskPartitionList := d.diskPartitionList.map fun q => if q.address = p.address then p else q }

/-! ### Notifications -/

/-- `StorageDevice::cancelConnectingTimeout` -/
def cancelConnectingTimeout (d : StorageDevice) : StorageDevice := { d with timeoutPending := false }

/-- `StorageDevice::storageDeviceNotification` -/
def storageDeviceNotification (s : Sys) (d : StorageDevice) : Out StorageDevice Unit :=
  if d.diskPartitionList.any (fun p => p.fsckStatus = PdmDevStatus.fsckTimeout.code) then
    let s := handlerCb s .fsckTimedOut (some d.address)
    let s := handlerCb s .add (some d.address)
    ⟨s, { d with errorReason := .needFsck, isDevAddEventNotified := true }, ()⟩
  else if d.diskPartitionList.any (·.mounted) then
    ⟨handlerCb s .add (some d.address),
      { d with errorReason := .nothing, deviceIsMounted := true, isDevAddEventNotified := true }, ()⟩
  else ⟨s, d, ()⟩

/-- `StorageDevice::storageDeviceFsckNotification` -/
def storageDeviceFsckNotification (s : Sys) (d : StorageDevice) : Out StorageDevice Unit :=
  let d := { d with fsckThreadCount := d.fsckThreadCount - 1 }
  if d.fsckThreadCount = 0 then
    let r := storageDeviceNotification s d
    ⟨r.state, r.obj.cancelConnectingTimeout, ()⟩
  else ⟨s, d, ()⟩

/-- The check of `fsckOnDeviceAddThread`, through the bare pointer that the thread holds.
Where the partition is gone, what is checked and mounted is undefined and left out. -/
def fsckPartitionAt (env : Env) (s : Sys) (d : StorageDevice) (partition : Nat) :
    Out StorageDevice Unit :=
  match d.diskPartitionList.find? (·.address = partition) with
  | none => ⟨handlerCb (handlerCb s .fsckStarted none) .fsckFinished none, d, ()⟩
  | some p =>
    let r := fsckPartition env s p PdmFsck.AUTO
    ⟨r.state, d.setPartition r.obj, ()⟩

/-- `StorageDevice::fsckOnDeviceAddThread` -/
def fsckOnDeviceAddThread (env : Env) (s : Sys) (d : StorageDevice) (partition : Nat) :
    Out StorageDevice Unit :=
  let r := fsckPartitionAt env s d partition
  storageDeviceFsckNotification r.state r.obj

/-- `StorageDevice::notifyStorageConnecting` -/
def notifyStorageConnecting (s : Sys) (d : StorageDevice) : Out StorageDevice Unit :=
  ⟨handlerCb s .connecting none, { d with timeoutPending := false }, ()⟩

/-! ### Uevents -/

/-- `StorageDevice::countPartitions` -/
def countPartitions (env : Env) (s : Sys) (devName : String) : Int × Sys :=
  if devName = "" then (0, s)
  else
    let partitions := s.execShellCmd env ("lsblk -n /dev/" ++ devName ++ " | grep -c part")
    (if partitions.1 ≠ "" then toInt partitions.1 else 0, partitions.2)

/-- `StorageDevice::setStorageInterfaceType` -/
def setStorageInterfaceType (d : StorageDevice) (devClass : DeviceClass) : StorageDevice :=
  { d with
    storageType :=
      if devClass.isCardReader = YES then .usbCardReader
      else if devClass.isHardDisk = YES then .usbHdd
      else .usbStick }

/-- The end of `setPartitionInfo`: every partition of the medium is listed, so mount
them, or start their checks, or announce a medium pdm has no file system for. -/
def startPartitions (env : Env) (s : Sys) (d : StorageDevice) : Out StorageDevice Unit :=
  if d.diskPartitionList.any (·.isSupportedFs) then
    if d.isReadOnly then
      let r := mountAllPartition env s d
      storageDeviceNotification r.state r.obj
    else
      let started := (d.diskPartitionList.filter (·.isSupportedFs)).map (·.address)
      ⟨s, { d with
        fsckThreadArray := d.fsckThreadArray ++ started
        fsckThreadCount := d.fsckThreadCount + started.length
        timeoutPending := true }, ()⟩
  else
    let s := handlerCb s .add (some d.address)
    let s := handlerCb s .unsupportedFsFormatNeeded (some d.address)
    ⟨s, { d with
      errorReason := .unsupportFs
      hasUnsupportedFs := true
      isDevAddEventNotified := true }, ()⟩

/-- `StorageDevice::setPartitionInfo`, up to the moment the partition is listed. -/
def addPartition (env : Env) (s : Sys) (d : StorageDevice) (devClass : DeviceClass) :
    Out StorageDevice Unit :=
  let p := DiskPartitionInfo.new s.next devClass.devPath d.configRootPath
  let p := { p with storageType := d.storageType, productName := d.productName }
  let r := PdmFs.checkFileSystem env s.alloc (p.setPartitionInfo devClass d.rootPath)
  ⟨r.state, { d with diskPartitionList := d.diskPartitionList ++ [r.obj] }, ()⟩

/-- `StorageDevice::setPartitionInfo` -/
def setPartitionInfo (env : Env) (s : Sys) (d : StorageDevice) (devClass : DeviceClass) :
    Out StorageDevice Unit :=
  if (d.findPartition devClass.devName).isSome then ⟨s, d, ()⟩
  else
    let r := addPartition env s d devClass
    if r.obj.partitionCount = 0 ∨ (r.obj.diskPartitionList.length : Int) = r.obj.partitionCount then
      startPartitions env r.state r.obj
    else r

/-- `StorageDevice::updateDeviceInfo` -/
def updateDeviceInfo (env : Env) (d : StorageDevice) (devClass : DeviceClass) : StorageDevice :=
  let d := { d with toDevice := (d.toDevice.setDeviceInfo env devClass).setSpeed devClass }
  if devClass.idBlackListedSuperSpeedDev = YES then { d with errorReason := .usb30BlackDevice }
  else d

/-- `StorageDevice::handleCardReaderDeviceChange` -/
def handleCardReaderDeviceChange (env : Env) (s : Sys) (d : StorageDevice) :
    Out StorageDevice Unit :=
  let temp := countPartitions env s d.deviceName
  if temp.1 ≠ d.partitionCount then
    if d.partitionCount ≠ 0 then
      let r := deletePartitionData env temp.2 d
      ⟨handlerCb r.state .remove none, r.obj, ()⟩
    else ⟨temp.2, { d with partitionCount := temp.1 }, ()⟩
  else ⟨temp.2, d, ()⟩

/-- `updateDiskInfo` for an add, up to the count: the disk's name and kind, and a root
path of its own for the device that has none yet. -/
def nameDisk (d : StorageDevice) (devClass : DeviceClass) : StorageDevice :=
  let d := { d with
    deviceName := devClass.devName
    isReadOnly := if devClass.isReadOnly = YES then true else d.isReadOnly }
  let d := d.setStorageInterfaceType devClass
  { d with
    rootPath :=
      if d.rootPath ≠ "" ∧ d.readRootPath = d.rootPath then d.rootPath ++ baseName d.deviceName
      else d.rootPath }

/-- `StorageDevice::updateDiskInfo` -/
def updateDiskInfo (env : Env) (s : Sys) (d : StorageDevice) (devClass : DeviceClass) :
    Out StorageDevice Unit :=
  match getDeviceAction devClass.action with
  | .usbDevAdd =>
    let d := d.nameDisk devClass
    let count := countPartitions env s d.deviceName
    let d := { d with partitionCount := count.1 }
    if d.partitionCount = 0 ∧ d.storageType ≠ .usbCardReader then
      setPartitionInfo env count.2 d devClass
    else ⟨count.2, d, ()⟩
  | .usbDevChange =>
    if d.storageType = .usbCardReader then handleCardReaderDeviceChange env s d
    else
      let count := countPartitions env s d.deviceName
      if count.1 = 0 ∧ devClass.isCardReader ≠ YES then setPartitionInfo env count.2 d devClass
      else ⟨count.2, d, ()⟩
  | _ => ⟨s, d, ()⟩

/-- What follows the first `:` of an `ID_INSTANCE`, or all of it when there is none. -/
def instanceNumber (idInstance : String) : String :=
  match idInstance.toList.dropWhile (· ≠ ':') with
  | [] => idInstance
  | _ :: rest => String.ofList rest

/-- `StorageDevice::updateMultiSdCard` -/
def updateMultiSdCard (env : Env) (d : StorageDevice) (devClass : DeviceClass) : StorageDevice :=
  if d.devicePath = "" then
    { d with
      devicePath := devClass.devPath
      serialNumber := devClass.idSerilShort
      deviceSubType := devClass.usbDriver
      productName := devClass.idModel
      isPowerOnConnect :=
        if !env.powerState || devClass.isPowerOnConnect == "true" then true else d.isPowerOnConnect
      vendorName := Device.vendorOf devClass
      deviceNum :=
        if devClass.idInstance ≠ "" ∧ instanceNumber devClass.idInstance ≠ "" then
          d.deviceNum + toInt (instanceNumber devClass.idInstance)
        else d.deviceNum }
  else d

/-- `StorageDevice::checkSdCardAddRemove`.  The loop that removes the mount
directories runs over the list `deletePartitionData` has just emptied. -/
def checkSdCardAddRemove (env : Env) (s : Sys) (d : StorageDevice) (devClass : DeviceClass) :
    Out StorageDevice Unit :=
  if d.storageType ≠ .usbStick then ⟨s, d, ()⟩
  else if devClass.isDiskMediaChange ≠ YES then ⟨s, d, ()⟩
  else if devClass.isCardReader ≠ YES then ⟨s, d, ()⟩
  else
    let count := countPartitions env s d.deviceName
    if count.1 = 0 then
      let r := deletePartitionData env count.2 d
      let s := r.obj.diskPartitionList.foldl (fun s p => s.removeDirRecursive p.mountName) r.state
      ⟨handlerCb s .remove none, { r.obj with isSdCardRemoved := true }, ()⟩
    else ⟨count.2, d, ()⟩

/-- `StorageDevice::triggerUevent` -/
def triggerUevent (env : Env) (s : Sys) (d : StorageDevice) : Out StorageDevice Bool :=
  if d.isSdCardRemoved = false then ⟨s, d, false⟩
  else
    let r := s.execShellCmd env ("udevadm trigger --name-match=/dev/" ++ d.deviceName)
    ⟨r.2, { d with isSdCardRemoved := false }, true⟩

/-- `StorageDevice::setDeviceInfo` -/
def setDeviceInfo (env : Env) (s : Sys) (d : StorageDevice) (devClass : DeviceClass) :
    Out StorageDevice Unit :=
  let t := triggerUevent env s d
  if t.ret then ⟨t.state, t.obj, ()⟩
  else
    match sMapUsbDeviceType devClass.devType with
    | .typeDevUsb => ⟨s, updateDeviceInfo env d devClass, ()⟩
    | .typeDevDisk =>
      let r := updateDiskInfo env s d devClass
      checkSdCardAddRemove env r.state (updateMultiSdCard env r.obj devClass) devClass
    | .typeDevPartition => setPartitionInfo env s d devClass

/-- `StorageDevice::setExtraSdCardDetails`; `m_deviceNum` is an `int` and the product
is taken to stay one. -/
def setExtraSdCardDetails (d : StorageDevice) (device : Device) : StorageDevice :=
  { d with
    usbPortNum := device.usbPortNum
    devSpeed := device.devSpeed
    deviceNum := device.deviceNum * 10 }

/-! ### Removal -/

/-- The threads `onDeviceRemove` joins, each run to its end. -/
def joinThreads (env : Env) : Sys → StorageDevice → List Nat → Out StorageDevice Unit
  | s, d, [] => ⟨s, { d with fsckThreadArray := [], fsckThreadCount := 0 }, ()⟩
  | s, d, t :: ts =>
    let r := fsckOnDeviceAddThread env s d t
    joinThreads env r.state r.obj ts

/-- `StorageDevice::removeRootDir` -/
def removeRootDir (s : Sys) (d : StorageDevice) : Out StorageDevice Unit :=
  if d.rootPath ≠ "" then ⟨s.removeDirRecursive d.rootPath, { d with rootPath := "" }, ()⟩
  else ⟨s, d, ()⟩

/-- `StorageDevice::checkRemovalNotifications` -/
def checkRemovalNotifications (s : Sys) (d : StorageDevice) : Sys :=
  if d.isDevAddEventNotified = false then handlerCb s .removeBeforeMount (some d.address)
  else if d.hasUnsupportedFs then handlerCb s .removeUnsupportedFs (some d.address)
  else s

/-- `StorageDevice::onDeviceRemove` -/
def onDeviceRemove (env : Env) (s : Sys) (d : StorageDevice) : Out StorageDevice Unit :=
  let j := joinThreads env s d d.fsckThreadArray
  let p := deletePartitionData env j.state j.obj
  let r := removeRootDir p.state p.obj
  ⟨checkRemovalNotifications r.state r.obj, r.obj, ()⟩

/-! ### Commands -/

/-- `setPartitionVolumeLabel` on the partition it finds. -/
def setVolumeLabelOn (env : Env) (s : Sys) (d : StorageDevice) (partition : DiskPartitionInfo)
    (volumeLabel : String) : Out StorageDevice PdmDevStatus :=
  let r := PdmFs.setVolumeLabel env s partition volumeLabel
  ⟨r.state, d.setPartition r.obj, r.ret⟩

/-- `StorageDevice::setPartitionVolumeLabel` -/
def setPartitionVolumeLabel (env : Env) (s : Sys) (d : StorageDevice)
    (driveName volumeLabel : String) : Out StorageDevice PdmDevStatus :=
  match d.findPartition driveName with
  | none => ⟨s, d, .partitionNotFound⟩
  | some partition => setVolumeLabelOn env s d partition volumeLabel

/-- `StorageDevice::isWritable` -/
def isWritable (env : Env) (s : Sys) (d : StorageDevice) (driveName : String) :
    (PdmDevStatus × Bool) × Sys :=
  match d.findPartition driveName with
  | none => ((.partitionNotFound, false), s)
  | some partition => PdmFs.isWritable env s partition

/-- `formatDiskStart` on the partition it finds. -/
def formatOn (env : Env) (s : Sys) (d : StorageDevice) (partition : DiskPartitionInfo)
    (fsType volumeLabel : String) : Out StorageDevice PdmDevStatus :=
  if d.isReadOnly then ⟨s, d, .formatFail⟩
  else
    let u := umountPartition env s partition false
    if u.ret ≠ .success then ⟨u.state, d.setPartition u.obj, .umountFail⟩
    else
      let s := handlerCb u.state .formatStarted (some partition.address)
      let f := PdmFs.format env s u.obj fsType volumeLabel
      let m := if f.ret = .success then mountPartition env f.state f.obj false else f
      let d := d.setPartition m.obj
      if m.ret = .success then
        ⟨handlerCb m.state .formatSuccess (some partition.address),
          { d with errorReason := .nothing }, .success⟩
      else ⟨handlerCb m.state .formatFail (some partition.address), d, .formatFail⟩

/-- `StorageDevice::formatDiskStart` -/
def formatDiskStart (env : Env) (s : Sys) (d : StorageDevice)
    (driveName fsType volumeLabel : String) : Out StorageDevice PdmDevStatus :=
  match d.findPartition driveName with
  | none => ⟨s, d, .partitionNotFound⟩
  | some partition => formatOn env s d partition fsType volumeLabel

/-- `fsck` on the partition it finds. -/
def fsckOn (env : Env) (s : Sys) (d : StorageDevice) (partition : DiskPartitionInfo) :
    Out StorageDevice PdmDevStatus :=
  if d.isReadOnly then ⟨s, d, .fsckFail⟩
  else
    let u := umountPartition env s partition false
    if u.ret ≠ .success then ⟨u.state, d.setPartition u.obj, .umountFail⟩
    else
      let f := fsckPartition env u.state u.obj PdmFsck.AUTO
      ⟨f.state, d.setPartition f.obj, if f.ret = .success then .success else .fsckFail⟩

/-- `StorageDevice::fsck` -/
def fsck (env : Env) (s : Sys) (d : StorageDevice) (driveName : String) :
    Out StorageDevice PdmDevStatus :=
  match d.findPartition driveName with
  | none => ⟨s, d, .partitionNotFound⟩
  | some partition => fsckOn env s d partition

/-- `StorageDevice::eject` -/
def eject (env : Env) (s : Sys) (d : StorageDevice) : Out StorageDevice PdmDevStatus :=
  let r := umountAllPartition env s d false
  if r.ret = .success then
    ⟨r.state, { r.obj with errorReason := .ejected, deviceStatus := .ejected }, .success⟩
  else ⟨r.state, r.obj, .ejectFail⟩

/-- One turn of `enforceFsckAndMount`. -/
def enforcePartition (env : Env) (needFsck : Bool) (s : Sys) (partition : DiskPartitionInfo) :
    Out DiskPartitionInfo PdmDevStatus :=
  if needFsck = false ∧ partition.mounted = false then mountPartition env s partition false
  else if partition.fsckStatus = PdmDevStatus.fsckTimeout.code then
    fsckPartition env s partition PdmFsck.FORCE
  else ⟨s, partition, .success⟩

/-- `StorageDevice::enforceFsckAndMount` -/
def enforceFsckAndMount (env : Env) (s : Sys) (d : StorageDevice) (needFsck : Bool) :
    Out StorageDevice PdmDevStatus :=
  let r := d.afterLoop (visit (enforcePartition env needFsck) s d.diskPartitionList) .error
  if r.ret = .success then
    ⟨r.state, { r.obj with errorReason := .nothing, deviceIsMounted := true }, r.ret⟩
  else r

/-- `getSpaceInfo` on the partition it finds: a mounted one is measured anew. -/
def getSpaceInfoOn (env : Env) (d : StorageDevice) (partition : DiskPartitionInfo)
    (directCheck : Bool) : StorageDevice × DiskPartitionInfo :=
  if partition.mounted && directCheck then
    match PdmFs.calculateSpaceInfo env partition.mountName with
    | none => (d, partition)
    | some spaceData => (d.setPartition (partition.setSpace spaceData), partition.setSpace spaceData)
  else (d, partition)

/-- `StorageDevice::getSpaceInfo` -/
def getSpaceInfo (env : Env) (d : StorageDevice) (driveName : String) (directCheck : Bool) :
    StorageDevice × Option DiskPartitionInfo :=
  match d.findPartition driveName with
  | none => (d, none)
  | some partition =>
    let r := getSpaceInfoOn env d partition directCheck
    (r.1, some r.2)

/-! ### Suspend and resume -/

/-- `StorageDevice::suspendRequest` -/
def suspendRequest (d : StorageDevice) : StorageDevice :=
  { d with diskPartitionList := d.diskPartitionList.map (·.setPowerStatus false) }

/-- The loop of `suspendUmountAllPartitions`: the answer so far is `retValue`, and a
busy drive ends the loop.  No partition is written to. -/
def suspendUmountLoop (env : Env) (lazyUnmount : Bool) :
    Sys → Bool → List DiskPartitionInfo → Bool × Sys
  | s, retValue, [] => (retValue, s)
  | s, retValue, partition :: rest =>
    let busy := driveInTheWay env s partition lazyUnmount
    if busy.1 then (false, busy.2)
    else
      let r := PdmFs.umount env busy.2 partition lazyUnmount
      suspendUmountLoop env lazyUnmount r.2 (if r.1 then retValue else false) rest

/-- `StorageDevice::suspendUmountAllPartitions` -/
def suspendUmountAllPartitions (env : Env) (s : Sys) (d : StorageDevice) (lazyUnmount : Bool) :
    Bool × Sys :=
  suspendUmountLoop env lazyUnmount s true d.diskPartitionList

/-- `StorageDevice::resumeRequest` -/
def resumeRequest (env : Env) (s : Sys) (d : StorageDevice) : Out StorageDevice Unit :=
  let d := { d with
    diskPartitionList := d.diskPartitionList.map (·.setPowerStatus true)
    isPowerOnConnect := true }
  if d.storageType = .usbHdd ∧ d.errorReason ≠ .ejected then ⟨s, d, ()⟩
  else
    let r := mountAllPartition env s d
    if r.obj.diskPartitionList.any (·.mounted) then
      ⟨r.state, { r.obj with errorReason := .nothing, deviceIsMounted := true }, ()⟩
    else ⟨r.state, r.obj, ()⟩

end StorageDevice

instance : IDevice StorageDevice := ⟨fun d => d.toDevice⟩

end Pdm
