/-
What all handlers share: the configuration, commands and their replies, and lists of
pointers to devices.
-/
import Pdm.Device

namespace Pdm

/-- The two settings the modelled code reads: `Common/RootPath` and
`Storage/MaxUsbStorageDevices`. -/
structure Config where
  rootPath : String
  maxUsbStorageDevices : Nat
  deriving DecidableEq, Repr

/-- A configuration with the directory the source's comments name. -/
def Config.tmpUsb : Config where
  rootPath := "/tmp/usb/"
  maxUsbStorageDevices := 10

/-! ### Commands -/

/-- The commands of `CommandTypes.h` with their arguments; `other` is a command no
handler has a case for. -/
inductive CommandType where
  | format (driveName fsType volumeLabel : String)
  | eject (deviceNumber : Int)
  | fsck (driveName : String)
  | setVolumeLabel (driveName volumeLabel : String)
  | umountAllDrive
  | isWritableDrive (driveName : String)
  | mountFsck (needFsck : Bool) (mountName : String)
  | spaceInfo (directCheck : Bool) (driveName : String)
  | other
  deriving DecidableEq, Repr

/-- `mPdmErrorTextTable` -/
def mPdmErrorTextTable : PdmDevStatus → String
  | .success => "Device operation successful"
  | .mountFail => "Failed to mount drive"
  | .mountAllFail => "Failed to mount all drives"
  | .umountFail => "Failed to un-mount drive"
  | .umountAllFail => "Failed to un-mount all drives"
  | .ejectFail => "Failed to eject device"
  | .formatFail => "Failed to format drive"
  | .fsckTimeout => "Fsck command has timed out"
  | .fsckFail => "Failed to file system check for drive"
  | .ioPerfFail => "Failed to test IO performance"
  | .setVolumeLabelFail => "Failed to set volume label for drive"
  | .volumeLabelEmpty => "Volume label is empty"
  | .unsupportedFs => "Device has unsupported file system"
  | .busy => "Device is busy"
  | .notBusy => "Device is free"
  | .isWritable => "Drive is writable"
  | .readOnly => "Drive is read only"
  | .driveNameEmpty => "Drive name is empty"
  | .partitionNotFound => "Partition not found in device"
  | .rootPathEmpty => "Device root path is empty"
  | .deviceNotFound => "Device not found"
  | .driveNotFound => "Drive not found in device"
  | .driveNotMounted => "Drive not mounted"
  | .error => "Device error unknown"

/-- The value `(int32_t) n` of a size. -/
def toInt32 (n : Nat) : Int := (BitVec.ofNat 32 n).toInt

/-- The `spaceInfo` object of a reply. -/
structure SpaceInfoReply where
  totalSize : Int
  freeSize : Int
  usedSize : Int
  usedRate : Int
  deriving DecidableEq, Repr

/-- The sizes of a partition as the reply carries them. -/
def SpaceInfoReply.ofSpace (space : SpaceInfo) : SpaceInfoReply where
  totalSize := toInt32 space.driveSize
  freeSize := toInt32 space.freeSize
  usedSize := toInt32 space.usedSize
  usedRate := toInt32 space.usedRate

/-- The reply of a command. -/
structure CommandResponse where
  result : PdmDevStatus
  isWritable : Option Bool := none
  spaceInfo : Option SpaceInfoReply := none
  deriving DecidableEq, Repr

namespace CommandResponse

/-- `returnValue` of `DeviceHandler::commandResponse` -/
def returnValue (r : CommandResponse) : Bool := r.result = .success

/-- `errorCode` and `errorText`, which only a failure carries. -/
def errorCode (r : CommandResponse) : Option (Nat × String) :=
  if r.result = .success then none else some (r.result.code, mPdmErrorTextTable r.result)

end CommandResponse

/-! ### Lists of pointers -/

section PointerLists

variable {α : Type} [IDevice α]

/-- What a write through the pointer `d` makes of a list: every entry that is this
pointer shows the object's new state. -/
def writeBack (sList : List α) (d : α) : List α :=
  sList.map fun x => if (base x).address = (base d).address then d else x

/-- `std::list::remove(d)`: every entry that is this pointer goes. -/
def removePointer (sList : List α) (d : α) : List α :=
  sList.filter fun x => (base x).address ≠ (base d).address

end PointerLists

end Pdm
