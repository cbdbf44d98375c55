/-
The list of storage devices as it is posted to the subscribers.

`getAttachedUsbStorageDeviceList` reads the list off the devices, in the build without
sessions.  It is posted in the middle of an operation, with the devices as they are at that
moment: the definitions here say, for each operation that posts, what the device looks like
when it posts last.  `Subscribed` runs the storage handler with the list posted last: it is
posted in the steps that have a notification on their record which posts it.
-/
import Pdm.Framework.DeviceTracker
import Pdm.Proofs.Routing

namespace Pdm

open Visit (visit)

/-! ### The list -/

/-- An entry of `storageDriveList`. -/
structure DriveInfo where
  isMounted : Bool
  mountName : String
  driveSize : Int
  volumeLabel : String
  uuid : String
  driveName : String
  fsType : String
  deriving DecidableEq, Repr

/-- An entry of `storageDeviceList`. -/
structure StorageDeviceInfo where
  storageDriveList : List DriveInfo
  deviceNum : Int
  usbPortNum : Int
  vendorName : String
  productName : String
  serialNumber : String
  deviceType : String
  storageType : String
  rootPath : String
  errorReason : ErrorReason
  isPowerOnConnect : Bool
  devSpeed : String
  deriving DecidableEq, Repr

/-- What the list says of a partition; one without power is shown as not mounted. -/
def DiskPartitionInfo.driveInfo (p : DiskPartitionInfo) : DriveInfo where
  isMounted := if p.powerStatus then p.mounted else false
  mountName := p.mountName
  driveSize := toInt32 p.space.driveSize
  volumeLabel := p.volumeLabel
  uuid := p.uuid
  driveName := p.driveName
  fsType := p.fsType

namespace StorageDevice

/-- What the list says of a device that is listed. -/
def deviceInfo (d : StorageDevice) : StorageDeviceInfo where
  storageDriveList := d.diskPartitionList.map (·.driveInfo)
  deviceNum := d.deviceNum
  usbPortNum := d.usbPortNum
  vendorName := d.vendorName
  productName := d.productName
  serialNumber := d.serialNumber
  deviceType := d.deviceType
  storageType := sMapStorageType d.storageType
  rootPath := d.rootPath
  errorReason := d.errorReason
  isPowerOnConnect := d.isPowerOnConnect
  devSpeed := d.devSpeed

/-- A device without partitions is not listed. -/
def shown (d : StorageDevice) : Option StorageDeviceInfo :=
  if d.diskPartitionList = [] then none else some d.deviceInfo

end StorageDevice

/-- `getAttachedUsbStorageDeviceList` -/
def getAttachedUsbStorageDeviceList (sList : List StorageDevice) : List StorageDeviceInfo :=
  sList.filterMap (·.shown)

/-! ### The device that is posted

Each of these follows the method it is named after to its last post.
-/

namespace StorageDevice

variable (env : Env)

/-- In `storageDeviceNotification`, at `ADD`. -/
def storageDeviceNotificationPosts (d : StorageDevice) : Option StorageDevice :=
  if d.diskPartitionList.any (fun p => p.fsckStatus = PdmDevStatus.fsckTimeout.code) then
    some { d with errorReason := .needFsck }
  else if d.diskPartitionList.any (·.mounted) then
    some { d with errorReason := .nothing, deviceIsMounted := true }
  else none

/-- In `fsckOnDeviceAddThread`. -/
def fsckOnDeviceAddThreadPosts (s : Sys) (d : StorageDevice) (partition : Nat) :
    Option StorageDevice :=
  let d := (fsckPartitionAt env s d partition).obj
  let d : StorageDevice := { d with fsckThreadCount := d.fsckThreadCount - 1 }
  if d.fsckThreadCount = 0 then d.storageDeviceNotificationPosts else none

/-- At the end of `setPartitionInfo`. -/
def startPartitionsPosts (s : Sys) (d : StorageDevice) : Option StorageDevice :=
  if d.diskPartitionList.any (·.isSupportedFs) then
    if d.isReadOnly then (mountAllPartition env s d).obj.storageDeviceNotificationPosts else none
  else some { d with errorReason := .unsupportFs, hasUnsupportedFs := true }

/-- In `setPartitionInfo`. -/
def setPartitionInfoPosts (s : Sys) (d : StorageDevice) (devClass : DeviceClass) :
    Option StorageDevice :=
  if (d.findPartition devClass.devName).isSome then none
  else
    let r := addPartition env s d devClass
    if r.obj.partitionCount = 0 ∨ (r.obj.diskPartitionList.length : Int) = r.obj.partitionCount then
      startPartitionsPosts env r.state r.obj
    else none

/-- In `handleCardReaderDeviceChange`, at `REMOVE`. -/
def handleCardReaderDeviceChangePosts (s : Sys) (d : StorageDevice) : Option StorageDevice :=
  let temp := countPartitions env s d.deviceName
  if temp.1 ≠ d.partitionCount then
    if d.partitionCount ≠ 0 then some (deletePartitionData env temp.2 d).obj else none
  else none

/-- In `updateDiskInfo`. -/
def updateDiskInfoPosts (s : Sys) (d : StorageDevice) (devClass : DeviceClass) :
    Option StorageDevice :=
  match getDeviceAction devClass.action with
  | .usbDevAdd =>
    let d := d.nameDisk devClass
    let count := countPartitions env s d.deviceName
    let d := { d with partitionCount := count.1 }
    if d.partitionCount = 0 ∧ d.storageType ≠ .usbCardReader then
      setPartitionInfoPosts env count.2 d devClass
    else none
  | .usbDevChange =>
    if d.storageType = .usbCardReader then handleCardReaderDeviceChangePosts env s d
    else
      let count := countPartitions env s d.deviceName
      if count.1 = 0 ∧ devClass.isCardReader ≠ YES then setPartitionInfoPosts env count.2 d devClass
      else none
  | _ => none

/-- In `checkSdCardAddRemove`, at `REMOVE`. -/
def checkSdCardAddRemovePosts (s : Sys) (d : StorageDevice) (devClass : DeviceClass) :
    Option StorageDevice :=
  if d.storageType ≠ .usbStick then none
  else if devClass.isDiskMediaChange ≠ YES then none
  else if devClass.isCardReader ≠ YES then none
  else
    let count := countPartitions env s d.deviceName
    if count.1 = 0 then some (deletePartitionData env count.2 d).obj else none

/-- In `setDeviceInfo`: of a disk's two posts, the later one. -/
def setDeviceInfoPosts (s : Sys) (d : StorageDevice) (devClass : DeviceClass) :
    Option StorageDevice :=
  if (triggerUevent env s d).ret then none
  else
    match sMapUsbDeviceType devClass.devType with
    | .typeDevUsb => none
    | .typeDevDisk =>
      let r := updateDiskInfo env s d devClass
      (checkSdCardAddRemovePosts env r.state (updateMultiSdCard env r.obj devClass) devClass).or
        (updateDiskInfoPosts env s d devClass)
    | .typeDevPartition => setPartitionInfoPosts env s d devClass

/-- In `formatDiskStart`, at `FORMAT_SUCCESS` or, when it fails, at `FORMAT_STARTED`. -/
def formatOnPosts (s : Sys) (d : StorageDevice) (partition : DiskPartitionInfo)
    (fsType volumeLabel : String) : Option StorageDevice :=
  if d.isReadOnly then none
  else
    let u := umountPartition env s partition false
    if u.ret ≠ .success then none
    else
      let s := handlerCb u.state .formatStarted (some partition.address)
      let f := PdmFs.format env s u.obj fsType volumeLabel
      let m := if f.ret = .success then mountPartition env f.state f.obj false else f
      if m.ret = .success then some { d.setPartition m.obj with errorReason := .nothing }
      else some (d.setPartition u.obj)

/-- In `formatDiskStart`. -/
def formatDiskStartPosts (s : Sys) (d : StorageDevice) (driveName fsType volumeLabel : String) :
    Option StorageDevice :=
  match d.findPartition driveName with
  | none => none
  | some partition => formatOnPosts env s d partition fsType volumeLabel

end StorageDevice

/-! ### The list that is posted -/

namespace StorageDeviceHandler

variable (cfg : Config) (env : Env)

/-- In `HandlerEvent`.  A new device is not in the list yet when it posts, a device that goes
not any more. -/
def HandlerEventPosts (s : Sys) (h : StorageDeviceHandler) (devClass : DeviceClass) :
    Option (List StorageDevice) :=
  if devClass.action = "remove" then
    match removedDevice h devClass with
    | none => none
    | some d =>
      if (d.onDeviceRemove env s).obj.isDevAddEventNotified then some (removePointer h.storageList d)
      else none
  else
    match target cfg s.next h devClass with
    | .nobody => none
    | .listed d => (d.setDeviceInfoPosts env s devClass).map (writeBack h.storageList)
    | .new d => (d.setDeviceInfoPosts env s.alloc devClass).map fun _ => h.storageList

/-- In `HandlerCommand`. -/
def HandlerCommandPosts (s : Sys) (h : StorageDeviceHandler) :
    CommandType → Option (List StorageDevice)
  | .format driveName fsType volumeLabel =>
    (getDeviceWithName h.storageList driveName).bind fun d =>
      (d.formatDiskStartPosts env s driveName fsType volumeLabel).map (writeBack h.storageList)
  | .eject deviceNumber =>
    (getDeviceWithNum h.storageList deviceNumber).bind fun d =>
      (some (d.eject env s).obj).map (writeBack h.storageList)
  | .umountAllDrive =>
    if h.storageList = [] then none
    else some (visit (fun s d => d.umountAllPartition env s false) s h.storageList).obj
  | _ => none

/-- In `runFsckThread`. -/
def runFsckThreadPosts (s : Sys) (h : StorageDeviceHandler) (address partition : Nat) :
    Option (List StorageDevice) :=
  match h.storageList.find? (·.address = address) with
  | none => none
  | some d =>
    if partition ∈ d.fsckThreadArray then
      (StorageDevice.fsckOnDeviceAddThreadPosts env s
        { d with fsckThreadArray := d.fsckThreadArray.erase partition } partition).map
          (writeBack h.storageList)
    else none

/-- In `HandlePluginEvent`, at the end of `resumeRequest`. -/
def HandlePluginEventPosts (s : Sys) (h : StorageDeviceHandler) :
    PluginEvent → Option (List StorageDevice)
  | .powerProcessPrepareResume => some (visit (fun s d => d.resumeRequest env s) s h.storageList).obj
  | _ => none

end StorageDeviceHandler

/-- The devices of the list that a step posts last. -/
def StorageSystem.posts (cfg : Config) (w : StorageSystem) (i : Env × StorageInput) :
    Option (List StorageDevice) :=
  match i.2 with
  | .uevent devClass => w.storage.HandlerEventPosts cfg i.1 w.clear.sys devClass
  | .command cmdtypes => w.storage.HandlerCommandPosts i.1 w.clear.sys cmdtypes
  | .pluginEvent eventType => w.storage.HandlePluginEventPosts i.1 w.clear.sys eventType
  | .fsckThread device partition => w.storage.runFsckThreadPosts i.1 w.clear.sys device partition
  | .timeout _ => none

/-- What the subscribers know after a step that may have posted. -/
def publish (published : List StorageDeviceInfo) (posts : Option (List StorageDevice)) :
    List StorageDeviceInfo :=
  (posts.map getAttachedUsbStorageDeviceList).getD published

/-- The storage handler, and the list that its subscribers were sent last. -/
structure Subscribed where
  system : StorageSystem := {}
  published : List StorageDeviceInfo := []
  deriving DecidableEq

/-- What happens between two looks at the subscribers. -/
inductive SubscribedInput where
  | storage (env : Env) (input : StorageInput)
  /-- The MTP or the PTP handler notifies of its own, which posts the same list. -/
  | otherHandler

namespace Subscribed

/-- One step, with what is posted in it. -/
def step (cfg : Config) (W : Subscribed) : SubscribedInput → Subscribed
  | .storage env input =>
    let system := W.system.step cfg (env, input)
    { system
      published :=
        if system.sys.posts = [] then W.published
        else publish W.published (W.system.posts cfg (env, input)) }
  | .otherHandler =>
    { W with published := getAttachedUsbStorageDeviceList W.system.storage.storageList }

/-- The subscribers know the list as it is. -/
def UpToDate (W : Subscribed) : Prop :=
  W.published = getAttachedUsbStorageDeviceList W.system.storage.storageList

instance (W : Subscribed) : Decidable W.UpToDate := inferInstanceAs (Decidable (_ = _))

end Subscribed

end Pdm
