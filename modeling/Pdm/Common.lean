/-
The vocabulary the daemon's classes share: device actions and types, the codes
its operations answer with, the events it announces, and the few pure helpers of
`PdmUtils` the device classes read udev properties with.

Everything here is for the build without `WEBOS_SESSION`.
-/
import Mathlib.Algebra.Group.Int.Defs
import Mathlib.Algebra.Group.Nat.Defs
import Mathlib.Data.List.Basic

namespace Pdm

/-! ### Actions and types of a uevent -/

/-- `enum DeviceActions` of `Device.h`. -/
inductive DeviceActions where
  | usbDevAdd
  | usbDevRemove
  | usbDevChange
  | usbDevBind
  | usbDevUnknown
  deriving DecidableEq, Repr

/-- `sMapDeviceActions.at`: an action the map does not hold throws, which every
handler catches and drops, so `none` stands for the exception. -/
def sMapDeviceActions (action : String) : Option DeviceActions :=
  if action = "add" then some .usbDevAdd
  else if action = "remove" then some .usbDevRemove
  else if action = "change" then some .usbDevChange
  else if action = "bind" then some .usbDevBind
  else none

/-- `getDeviceAction`, the lookup that does not throw. -/
def getDeviceAction (action : String) : DeviceActions :=
  (sMapDeviceActions action).getD .usbDevUnknown

/-- `enum UsbDeviceTypes` of `Device.h`. -/
inductive UsbDeviceTypes where
  | typeDevUsb
  | typeDevDisk
  | typeDevPartition
  deriving DecidableEq, Repr

/-- `sMapUsbDeviceType[devType]`.  The map is read with `operator[]`, which inserts
a missing key with the enumeration's zero, so an unknown type is `typeDevUsb`. -/
def sMapUsbDeviceType (devType : String) : UsbDeviceTypes :=
  if devType = "disk" then .typeDevDisk
  else if devType = "partition" then .typeDevPartition
  else .typeDevUsb

/-- `DEVTYPE` of a whole USB device. -/
def USB_DEVICE : String := "usb_device"

/-- `DEVTYPE` of a block device that is a disk. -/
def DISK : String := "disk"

/-- The value udev rules set a flag property to. -/
def YES : String := "1"

/-! ### Kinds of storage -/

/-- `enum StorageInterfaceTypes` of `Storage.h`. -/
inductive StorageInterfaceTypes where
  | usbStick
  | usbHdd
  | usbCardReader
  | usbMtp
  | usbPtp
  | emmc
  | usbUndefined
  deriving DecidableEq, Repr

/-- `sMapStorageType`. -/
def sMapStorageType : StorageInterfaceTypes → String
  | .usbStick => "FLASH"
  | .usbHdd => "HDD"
  | .usbCardReader => "FLASH"
  | .usbMtp => "STREAMING"
  | .usbPtp => "STREAMING"
  | .emmc => "EMMC"
  | .usbUndefined => "UNKNOWN"

/-! ### Answers and states -/

/-- `enum PdmDeviceErrors` of `PdmErrors.h`, in its order. -/
inductive PdmDevStatus where
  | success
  | mountFail
  | mountAllFail
  | umountFail
  | umountAllFail
  | ejectFail
  | formatFail
  | fsckFail
  | ioPerfFail
  | fsckTimeout
  | setVolumeLabelFail
  | volumeLabelEmpty
  | unsupportedFs
  | busy
  | notBusy
  | isWritable
  | readOnly
  | driveNameEmpty
  | partitionNotFound
  | rootPathEmpty
  | deviceNotFound
  | driveNotFound
  | driveNotMounted
  | error
  deriving DecidableEq, Repr

/-- The number an answer goes out under: the enumeration starts at 1000. -/
def PdmDevStatus.code (status : PdmDevStatus) : Nat := 1000 + status.ctorIdx

/-- `PARTITION_FSCK_NONE` and `PARTITION_FSCK_STARTED`: a partition's fsck status is
one of these until a check ends, and then the code of the check's answer. -/
def PARTITION_FSCK_NONE : Nat := 0

@[inherit_doc PARTITION_FSCK_NONE]
def PARTITION_FSCK_STARTED : Nat := 1

/-- The drive status strings a partition goes through (`Common.h`); `needFsck` is
`PDM_ERR_NEED_FSCK`, which a check that times out writes there too. -/
inductive DriveStatus where
  | mountOk
  | mountNotOk
  | isMounting
  | umountNotOk
  | umountOk
  | isUnmounting
  | needFsck
  | unset
  deriving DecidableEq, Repr

/-- The error reasons of `Common.h`, and `USB30_BLACKDEVICE` of `StorageDevice.cpp`. -/
inductive ErrorReason where
  | nothing
  | noMounted
  | unsupportFs
  | ejected
  | needFsck
  | usb30BlackDevice
  deriving DecidableEq, Repr

/-- `enum DeviceEventType` of `Common.h`, the first argument of `Notify`. -/
inductive DeviceEventType where
  | storageDevice
  | nonStorageDevice
  | allDevice
  | soundDevice
  | hidDevice
  | videoDevice
  | gamepadDevice
  | mtpDevice
  | ptpDevice
  | bluetoothDevice
  | cdcDevice
  | nfcDevice
  | unknownDevice
  deriving DecidableEq, Repr

/-- `enum EventType` of `Plugin-Api.h`, the second argument of `Notify`. -/
inductive EventType where
  | unknown
  | add
  | remove
  | change
  | mount
  | umount
  | mountAll
  | unmountAll
  | connecting
  | removeBeforeMount
  | maxCountReached
  | unsupportedFsFormatNeeded
  | fsckStarted
  | fsckTimedOut
  | fsckFinished
  | formatStarted
  | formatSuccess
  | formatFail
  | removeUnsupportedFs
  | umountAllSuccess
  | umountAllFail
  deriving DecidableEq, Repr

/-- The plugin events a handler answers to (`enum PowerProcessing`, `enum CameraState`
and `enum ModemDongleSupport`); every other number is `other`. -/
inductive PluginEvent where
  | powerProcessPrepareSuspend
  | powerProcessPrepareResume
  | powerProcessRequestSuspend
  | powerProcessRequestUmountAll
  | camNone
  | camReady
  | camBuiltin
  | modemDongleSupported
  | modemDongleNotSupported
  | other
  deriving DecidableEq, Repr

/-! ### `PdmUtils` -/

/-- The blanks of the C locale. -/
def isSpace (c : Char) : Bool :=
  c = ' ' || c = '\t' || c = '\n' || c = '\x0b' || c = '\x0c' || c = '\r'

/-- The number that the leading digits of `cs` spell, after `acc`. -/
def digitsValue (acc : Nat) : List Char → Nat
  | [] => acc
  | c :: cs => if c.isDigit then digitsValue (acc * 10 + (c.toNat - '0'.toNat)) cs else acc

/-- `std::stoi`: blanks, a sign, digits, and anything after them.  `none` is the
exception, for no digit at all and for a number outside `int`. -/
def stoi (s : String) : Option Int :=
  let cs := s.toList.dropWhile isSpace
  let neg := cs.head? = some '-'
  let ds := if cs.head? = some '-' ∨ cs.head? = some '+' then cs.tail else cs
  if ds.head?.any Char.isDigit then
    let n : Int := if neg then -(digitsValue 0 ds : Int) else digitsValue 0 ds
    if -2147483648 ≤ n ∧ n ≤ 2147483647 then some n else none
  else none

/-- `PdmUtils::toInt` with its default of 0. -/
def toInt (s : String) : Int := (stoi s).getD 0

/-- The words of `cs` under the current word `word`, both in order. -/
def words (word : List Char) : List Char → List String
  | [] => if word = [] then [] else [String.ofList word]
  | c :: cs =>
    if isSpace c then
      if word = [] then words [] cs else String.ofList word :: words [] cs
    else words (word ++ [c]) cs

/-- `PdmUtils::splitArgs`: the words between blanks. -/
def splitArgs (s : String) : List String := words [] s.toList

example : toInt "12\n" = 12 := by decide
example : toInt "no" = 0 := by decide
example : splitArgs " mkfs.vfat -F  32 " = ["mkfs.vfat", "-F", "32"] := by decide

/-- What follows the last `/` of a path: `s.substr(s.find_last_of("/") + 1)`. -/
def baseName (s : String) : String :=
  String.ofList ((s.toList.reverse.takeWhile (· ≠ '/')).reverse)

/-- `hay.find(needle) != npos`. -/
def contains (hay needle : String) : Bool :=
  hay.toList.tails.any (needle.toList.isPrefixOf ·)

/-- `s.compare(0, p.length(), p) == 0`: the string `s` starts with `p`. -/
def startsWith (s p : String) : Bool := p.toList.isPrefixOf s.toList

/-- `std::remove(s.begin(), s.end(), ' ')` followed by `erase`. -/
def removeBlanks (s : String) : String := String.ofList (s.toList.filter (· ≠ ' '))

/-- `s.erase(0, n)`. -/
def eraseFront (n : Nat) (s : String) : String := String.ofList (s.toList.drop n)

end Pdm
