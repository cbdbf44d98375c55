/-
The list of storage devices that the `getExample` method answers with.

It is the list of `StorageList` with the space of each mounted partition, measured while
the list is built.
-/
import Pdm.Framework.StorageList

namespace Pdm

/-- An entry of the example's `storageDriveList`. -/
structure ExampleDriveInfo extends DriveInfo where
  spaceInfo : Option SpaceInfoReply
  deriving DecidableEq, Repr

/-- An entry of the example's list: the drives, and the other members, which are those of
`storageDeviceList`. -/
structure ExampleDeviceInfo where
  storageDriveList : List ExampleDriveInfo
  device : StorageDeviceInfo
  deriving DecidableEq, Repr

namespace StorageDevice

variable (env : Env)

/-- The partition behind a pointer, as it is now. -/
def current (d : StorageDevice) (disk : DiskPartitionInfo) : DiskPartitionInfo :=
  (d.diskPartitionList.find? (·.address = disk.address)).getD disk

/-- One turn of the inner loop of `getExampleAttachedUsbStorageDeviceList`.  The call of
`getSpaceInfo` in it writes sizes alone. -/
def exampleDriveInfo (d : StorageDevice) (disk : DiskPartitionInfo) :
    StorageDevice × ExampleDriveInfo :=
  let diskInfo := d.getSpaceInfo env disk.driveName true
  (diskInfo.1,
    { disk.driveInfo with
      driveSize := toInt32 (diskInfo.1.current disk).space.driveSize
      spaceInfo := diskInfo.2.bind fun q => if q.mounted then some (.ofSpace q.space) else none })

/-- The inner loop, over the partitions of the device. -/
def exampleDrives : StorageDevice → List DiskPartitionInfo → StorageDevice × List ExampleDriveInfo
  | d, [] => (d, [])
  | d, disk :: rest =>
    let turn := exampleDriveInfo env d disk
    let drives := exampleDrives turn.1 rest
    (drives.1, turn.2 :: drives.2)

/-- A turn of the outer loop; a device without partitions is not listed. -/
def exampleShown (d : StorageDevice) : StorageDevice × Option ExampleDeviceInfo :=
  if d.diskPartitionList = [] then (d, none)
  else
    let drives := exampleDrives env d d.diskPartitionList
    (drives.1, some { storageDriveList := drives.2, device := drives.1.deviceInfo })

end StorageDevice

/-- `getExampleAttachedUsbStorageDeviceList`, with the devices as it leaves them. -/
def getExampleAttachedUsbStorageDeviceList (env : Env) (sList : List StorageDevice) :
    List StorageDevice × List ExampleDeviceInfo :=
  (sList.map fun d => (d.exampleShown env).1, sList.filterMap fun d => (d.exampleShown env).2)

end Pdm
