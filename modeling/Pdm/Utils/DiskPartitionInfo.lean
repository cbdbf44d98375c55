/-
`DiskPartitionInfo`, one partition of a storage device, and the operations of
`PdmFs` on it.
-/
import Pdm.Device
import Pdm.Utils.FileSystems

namespace Pdm

/-- `DiskPartitionInfo`.  `mounted` is `m_isMounted`; `node` of the base holds the
`DEVPATH` of the event the partition was created from. -/
structure DiskPartitionInfo extends Storage where
  mounted : Bool := false
  fsckStatus : Nat := PARTITION_FSCK_NONE
  isSupportedFs : Bool := false
  driveStatus : DriveStatus := .mountNotOk
  deriving DecidableEq, Repr

namespace DiskPartitionInfo

/-- The constructor, for an event with the given `DEVPATH`. -/
def new (address : Nat) (node configRootPath : String) : DiskPartitionInfo where
  address := address
  node := node
  deviceType := "USB_STORAGE"
  errorReason := .noMounted
  configRootPath := configRootPath
  storageType := .usbUndefined

/-- `DiskPartitionInfo::setPartitionInfo` -/
def setPartitionInfo (p : DiskPartitionInfo) (devClass : DeviceClass)
    (deviceRootPath : String) : DiskPartitionInfo :=
  let driveName := devClass.devName
  { p with
    driveName := driveName
    rootPath := if driveName ≠ "" ∧ deviceRootPath ≠ "" then deviceRootPath else p.rootPath
    mountName :=
      if driveName ≠ "" ∧ deviceRootPath ≠ "" then deviceRootPath ++ "/" ++ driveName
      else p.mountName
    fsType := if devClass.fsType ≠ "" then devClass.fsType else p.fsType
    uuid := if devClass.fsUuid ≠ "" then devClass.fsUuid else p.uuid
    volumeLabel := if devClass.fsLabelEnc ≠ "" then devClass.fsLabelEnc else p.volumeLabel }

/-- `DiskPartitionInfo::setDriveStatus` -/
def setDriveStatus (p : DiskPartitionInfo) (dStatus : DriveStatus) : DiskPartitionInfo :=
  { p with mounted := dStatus = .mountOk, driveStatus := dStatus }

/-- `DiskPartitionInfo::setFsType` -/
def setFsType (p : DiskPartitionInfo) (type : String) : DiskPartitionInfo :=
  if type = "" then p else { p with fsType := type }

/-- `DiskPartitionInfo::setVolumeLabel` -/
def setVolumeLabel (p : DiskPartitionInfo) (label : String) : DiskPartitionInfo :=
  if label = "" then p else { p with volumeLabel := label }

/-- `DiskPartitionInfo::setFsckStatus` -/
def setFsckStatus (p : DiskPartitionInfo) (fsckStatus : Nat) : DiskPartitionInfo :=
  { p with fsckStatus := fsckStatus }

/-- The four size setters, as they are always called together. -/
def setSpace (p : DiskPartitionInfo) (space : SpaceInfo) : DiskPartitionInfo :=
  { p with space := space }

/-- `Storage::setPowerStatus` -/
def setPowerStatus (p : DiskPartitionInfo) (status : Bool) : DiskPartitionInfo :=
  { p with powerStatus := status }

end DiskPartitionInfo

/-! ### `PdmFs` -/

namespace PdmFs

/-- `PdmFs::calculateSpaceInfo`, on a zeroed `SpaceInfo` and in 64-bit arithmetic. -/
def calculateSpaceInfo (env : Env) (mountName : String) : Option SpaceInfo :=
  (env.statfs mountName).map fun fsInfo =>
    let driveSize := fsInfo.blocks * fsInfo.bsize % 2 ^ 64 / 1024
    let freeSize := fsInfo.bavail * fsInfo.bsize % 2 ^ 64 / 1024
    let usedSize := if driveSize > freeSize then driveSize - freeSize else 0
    { driveSize := driveSize
      freeSize := freeSize
      usedSize := usedSize
      usedRate := if driveSize ≠ 0 then usedSize * 100 % 2 ^ 64 / driveSize else 0 }

/-- `PdmFs::setDefaultFsForFormat`: the file system that stands in for `fileSysType`. -/
def setDefaultFsForFormat (partition : DiskPartitionInfo) : String :=
  let storageType := sMapStorageType partition.storageType
  if storageType = "FLASH" then "vfat"
  else if storageType = "HDD" then "ntfs"
  else if storageType = "EMMC" then "ext4"
  else if partition.fsType = "" then "vfat" else partition.fsType

/-- `PdmFs::format` -/
def format (env : Env) (s : Sys) (partition : DiskPartitionInfo) (fileSysType label : String) :
    Out DiskPartitionInfo PdmDevStatus :=
  let fileSysType :=
    if isSupportedFileSystem fileSysType (sMapStorageType partition.storageType) then fileSysType
    else setDefaultFsForFormat partition
  let s := s.record (.formatDrive partition.driveName partition.mountName)
  let result := DiskFormat.formatDrive env s partition.driveName fileSysType label
  if result.1 = .success then
    ⟨result.2, (partition.setFsType fileSysType).setVolumeLabel label, result.1⟩
  else ⟨result.2, partition, result.1⟩

/-- `PdmFs::fsck` -/
def fsck (env : Env) (s : Sys) (partition : DiskPartitionInfo) (fsckMode : String) :
    Out DiskPartitionInfo PdmDevStatus :=
  let partition := partition.setFsckStatus PARTITION_FSCK_STARTED
  let s := s.record (.fsck partition.driveName partition.mountName)
  let result := PdmFsck.fsck env s fsckMode partition.fsType partition.driveName
  let partition := partition.setFsckStatus result.1.code
  if result.1 = .fsckTimeout then
    ⟨result.2, partition.setDriveStatus .needFsck, result.1⟩
  else ⟨result.2, partition, result.1⟩

/-- `EACCES` and `EROFS`, on which `mountPartition` tries again read-only. -/
def EACCES : Nat := 13

@[inherit_doc EACCES]
def EROFS : Nat := 30

/-- The `mount` of `mountPartition` and, where that is refused, the second one. -/
def mountRetry (env : Env) (s : Sys) (call : MountCall) : Nat × Sys :=
  let ret := s.mount env call
  if ret.1 = EACCES ∨ ret.1 = EROFS then
    ret.2.mount env { call with flags := call.flags ||| MS_RDONLY }
  else ret

/-- The arguments `mountPartition` first calls `mount` with. -/
def mountCall (partition : DiskPartitionInfo) (readOnly : Bool) : MountCall where
  source := "/dev/" ++ partition.driveName
  target := partition.mountName
  fsType := partition.fsType
  flags := mountflags partition.fsType readOnly
  data := mountData partition.fsType

/-- `PdmFs::mountPartition` -/
def mountPartition (env : Env) (s : Sys) (partition : DiskPartitionInfo) (readOnly : Bool) :
    Out DiskPartitionInfo Bool :=
  if partition.mountName = "" ∨ env.isDirectory partition.mountName = false then
    ⟨s, partition, false⟩
  else
    let ret := mountRetry env s (mountCall partition readOnly)
    if ret.1 = 0 then
      match calculateSpaceInfo env partition.mountName with
      | some spaceData => ⟨ret.2, partition.setSpace spaceData, true⟩
      | none => ⟨ret.2, partition, true⟩
    else ⟨ret.2, partition, false⟩

/-- `PdmFs::umount` -/
def umount (env : Env) (s : Sys) (partition : DiskPartitionInfo) (lazyUnmount : Bool) :
    Bool × Sys :=
  s.umount2 env partition.mountName
    (if lazyUnmount then MNT_FORCE ||| MNT_DETACH else MNT_FORCE)

/-- `PdmFs::isDriveBusy` -/
def isDriveBusy (env : Env) (s : Sys) (partition : DiskPartitionInfo) : Bool × Sys :=
  let result := s.execShellCmd env ("lsof +D " ++ partition.mountName)
  (result.1 ≠ "", result.2)

/-- `PdmFs::setVolumeLabel` -/
def setVolumeLabel (env : Env) (s : Sys) (partition : DiskPartitionInfo) (volLabel : String) :
    Out DiskPartitionInfo PdmDevStatus :=
  if volLabel = "" then ⟨s, partition, .volumeLabelEmpty⟩
  else
    let sysCommand := volumeLabelCommand partition.fsType partition.driveName volLabel
    if sysCommand = [] then ⟨s, partition, .unsupportedFs⟩
    else
      let ret := s.runCommand env sysCommand
      if ret.1 ≠ 0 then ⟨ret.2, partition, .setVolumeLabelFail⟩
      else ⟨ret.2, partition.setVolumeLabel volLabel, .success⟩

/-- `PdmFs::isWritable`: the answer, and whether an entry of `/etc/mtab` for the drive
lacks the option `ro`. -/
def isWritable (env : Env) (s : Sys) (partition : DiskPartitionInfo) :
    (PdmDevStatus × Bool) × Sys :=
  let busy := isDriveBusy env s partition
  if busy.1 then ((.busy, false), busy.2)
  else
    ((.success,
      env.mtab.any fun mnt => mnt.fsname = "/dev/" ++ partition.driveName && !mnt.readOnly), busy.2)

/-- `PdmFs::checkFileSystem` -/
def checkFileSystem (env : Env) (s : Sys) (partition : DiskPartitionInfo) :
    Out DiskPartitionInfo Unit :=
  let result := isSupportedFileSystem partition.fsType (sMapStorageType partition.storageType)
  let dir := s.createDir env partition.mountName
  ⟨dir.2, { partition with isSupportedFs := result }, ()⟩

end PdmFs

end Pdm
