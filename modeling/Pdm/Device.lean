/-
The base of every device class: `Device`, the subclass `Storage` with what a file
system adds to it, and the three lookups of `DeviceHandler.h`.

Two fields are not in the source.  `address` is the pointer the object is known
by: the handlers' lists hold pointers, `std::list::remove` compares them, and one
list may hold the same pointer twice.  `node` is the sysfs path of the device the
object was created for (the `DEVPATH` of the event that made the handler create
it); no modelled function reads it.
-/
import Pdm.DeviceClass
import Pdm.System

namespace Pdm

/-! ### `Device` -/

structure Device where
  /-- The pointer to the object. -/
  address : Nat
  /-- The sysfs path of the device the object was created for. -/
  node : String
  isPowerOnConnect : Bool := false
  isToastRequired : Bool := true
  deviceNum : Int := 0
  usbPortNum : Int := 0
  busNum : Int := 0
  deviceStatus : ErrorReason := .nothing
  deviceType : String
  errorReason : ErrorReason
  deviceName : String := ""
  devicePath : String := ""
  serialNumber : String := ""
  vendorName : String := ""
  productName : String := ""
  devSpeed : String := ""
  deviceSubType : String := ""
  deriving DecidableEq, Repr

/-- `Device::getDeviceSpeed` -/
def getDeviceSpeed (speed : Int) : String :=
  if speed = 5000 then "SUPER"
  else if speed = 480 then "HIGH"
  else if speed = 12 then "FULL"
  else "LOW"

namespace Device

/-- The vendor a uevent names: the database's before the device's own. -/
def vendorOf (devClass : DeviceClass) : String :=
  if devClass.idVendorFromDataBase ≠ "" then devClass.idVendorFromDataBase
  else devClass.idVendor

/-- `Device::setDeviceInfo` -/
def setDeviceInfo (env : Env) (d : Device) (devClass : DeviceClass) : Device :=
  { d with
    serialNumber := devClass.idSerilShort
    devicePath := devClass.devPath
    deviceSubType := devClass.usbDriver
    productName := devClass.idModel
    isPowerOnConnect :=
      if !env.powerState || devClass.isPowerOnConnect == "true" then true
      else d.isPowerOnConnect
    vendorName := vendorOf devClass
    deviceNum := if devClass.devNumber ≠ "" then toInt devClass.devNumber else d.deviceNum }

/-- `if(!getSpeed().empty()) m_devSpeed = getDeviceSpeed(toInt(getSpeed()))` -/
def setSpeed (d : Device) (devClass : DeviceClass) : Device :=
  if devClass.speed ≠ "" then { d with devSpeed := getDeviceSpeed (toInt devClass.speed) } else d

variable (env : Env) (d : Device) (devClass : DeviceClass)

@[simp] theorem setDeviceInfo_address : (setDeviceInfo env d devClass).address = d.address := rfl
@[simp] theorem setDeviceInfo_node : (setDeviceInfo env d devClass).node = d.node := rfl
@[simp] theorem setDeviceInfo_devicePath :
    (setDeviceInfo env d devClass).devicePath = devClass.devPath := rfl
@[simp] theorem setDeviceInfo_deviceName :
    (setDeviceInfo env d devClass).deviceName = d.deviceName := rfl
@[simp] theorem setDeviceInfo_busNum : (setDeviceInfo env d devClass).busNum = d.busNum := rfl

@[simp] theorem setSpeed_address : (setSpeed d devClass).address = d.address := by
  unfold setSpeed; split <;> rfl

@[simp] theorem setSpeed_node : (setSpeed d devClass).node = d.node := by
  unfold setSpeed; split <;> rfl

@[simp] theorem setSpeed_devicePath : (setSpeed d devClass).devicePath = d.devicePath := by
  unfold setSpeed; split <;> rfl

@[simp] theorem setSpeed_deviceName : (setSpeed d devClass).deviceName = d.deviceName := by
  unfold setSpeed; split <;> rfl

end Device

/-! ### `Storage` -/

/-- `struct SpaceInfo`, in kilobytes and per cent. -/
structure SpaceInfo where
  driveSize : Nat := 0
  usedSize : Nat := 0
  freeSize : Nat := 0
  usedRate : Nat := 0
  deriving DecidableEq, Repr

/-- `Storage`: a device with a file system.  `rootPath` starts out as the directory
all mount points are under (`Common/RootPath`), which `readRootPath` reads anew from
the configuration; `configRootPath` is what it reads. -/
structure Storage extends Device where
  configRootPath : String
  isMounted : Bool := false
  isReadOnly : Bool := false
  powerStatus : Bool := true
  space : SpaceInfo := {}
  volumeLabel : String := ""
  uuid : String := ""
  driveName : String := ""
  fsType : String := ""
  mountName : String := ""
  rootPath : String := configRootPath
  storageType : StorageInterfaceTypes
  deriving DecidableEq, Repr

/-- `Storage::readRootPath` -/
def Storage.readRootPath (s : Storage) : String := s.configRootPath

/-! ### The lookups of `DeviceHandler.h` -/

/-- What a handler's list may hold: objects of a subclass of `Device`. -/
class IDevice (α : Type) where
  toDevice : α → Device

/-- The base object of a device. -/
def base {α : Type} [IDevice α] (d : α) : Device := IDevice.toDevice d

variable {α : Type} [IDevice α]

/-- `getDeviceWithNum`: the first device with the number. -/
def getDeviceWithNum (sList : List α) (devNum : Int) : Option α :=
  sList.find? fun d => (base d).deviceNum = devNum

/-- `getDeviceWithPath`: the first device whose stored path the event's path starts
with, as strings. -/
def getDeviceWithPath (sList : List α) (devPath : String) : Option α :=
  sList.find? fun d => startsWith devPath (base d).devicePath

/-- `getDeviceWithName`: the first device whose stored name the given name starts
with, as strings. -/
def getDeviceWithName (sList : List α) (devName : String) : Option α :=
  sList.find? fun d => startsWith devName (base d).deviceName

end Pdm
