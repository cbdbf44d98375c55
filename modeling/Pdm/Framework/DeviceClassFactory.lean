/-
`DeviceClassFactory`: the object a uevent is wrapped in.

Each subclass of `DeviceClass` registers a creator under its name, and `create` asks them in
the order in which a hash table happens to hold them.  That order is the argument `mDevMap`
here, a list of the subclasses that have registered themselves.  `default` takes every
device and is asked last.
-/
import Pdm.DeviceClass

namespace Pdm

/-- The properties of a device.  `operator[]` reads one that is missing as the empty
string. -/
abbrev PropMap := String → String

/-- The subclasses of `DeviceClass`. -/
inductive Subsystem where
  | storage
  | mtp
  | ptp
  | hid
  | nfc
  | sound
  | video
  | gamepad
  | bluetooth
  | cdc
  | default
  deriving DecidableEq, Repr

/-! ### Properties -/

/-- An object of any subclass, as far as its getters go. -/
def DeviceClass.ofProps (devPropMap : PropMap) : DeviceClass where
  action := devPropMap "ACTION"
  devType := devPropMap "DEVTYPE"
  subsystemName := devPropMap "SUBSYSTEM"
  devPath := devPropMap "DEVPATH"
  devName := devPropMap "DEVNAME"
  devNumber := devPropMap "DEVNUM"
  busNum := devPropMap "BUSNUM"
  interfaceClass := devPropMap "ID_USB_INTERFACES"
  usbDriver := devPropMap "ID_USB_DRIVER"
  idSerilShort := devPropMap "ID_SERIAL_SHORT"
  idModel := devPropMap "ID_MODEL"
  idVendor := devPropMap "ID_VENDOR"
  idVendorFromDataBase := devPropMap "ID_VENDOR_FROM_DATABASE"
  isPowerOnConnect := devPropMap "isPowerOnConnect"
  speed := devPropMap "SPEED"
  idBlackList := devPropMap "ID_BLACKLIST"
  fsType := devPropMap "ID_FS_TYPE"
  fsUuid := devPropMap "ID_FS_UUID"
  fsLabelEnc := devPropMap "ID_FS_LABEL_ENC"
  hardDisk := devPropMap "ID_ATA"
  isHardDisk := devPropMap "HARD_DISK"
  isCardReader := devPropMap "CARD_READER"
  isReadOnly := devPropMap "READ_ONLY"
  isDiskMediaChange := devPropMap "DISK_MEDIA_CHANGE"
  idInstance := devPropMap "ID_INSTANCE"
  idBlackListedSuperSpeedDev := devPropMap "ID_BLACK_LISTED_SUPER_SPEED_DEVICE"
  mediaPlayerId := devPropMap "ID_MEDIA_PLAYER"
  devLinks := devPropMap "DEVLINKS"
  processed := devPropMap "PROCESSED"
  gamepadId := devPropMap "ID_GAMEPAD"
  bluetoothId := devPropMap "ID_BLUETOOTH"
  usbSerialId := devPropMap "ID_USB_SERIAL"
  usbSerialSubType := devPropMap "USB_SERIAL_SUB_TYPE"
  usbModemId := devPropMap "ID_USB_MODEM_DONGLE"
  netIfIndex := devPropMap "NET_IFIINDEX"
  netLinkMode := devPropMap "NET_LINK_MODE"
  netDuplex := devPropMap "NET_DUPLEX"
  netAddress := devPropMap "NET_ADDRESS"
  netOperState := devPropMap "NET_OPERSTATE"
  cardId := devPropMap "CARD_ID"
  cardName := devPropMap "CARD_NAME"
  cardNumber := devPropMap "CARD_NUMBER"
  capabilities := devPropMap "ID_V4L_CAPABILITIES"
  v4lProductName := devPropMap "ID_V4L_PRODUCT"
  v4lVersion := devPropMap "ID_V4L_VERSION"

/-- `mDevProMap[name] = value` -/
def PropMap.set (mDevProMap : PropMap) (name value : String) : PropMap :=
  fun key => if key = name then value else mDevProMap key

/-- The value `parseDevProps` stores for an entry of udev's list. -/
def propValue (name value : String) : String :=
  if name = "ID_MODEL" then value.map fun c => if c = '_' then ' ' else c
  else if name = "DEVNAME" then if startsWith value "/dev/" then eraseFront 5 value else value
  else value

/-- `DeviceClassFactory::parseDevProps` -/
def parseDevProps (device : List (String × String)) (isPowerOnConnect : Bool) : PropMap :=
  let mDevProMap : PropMap :=
    device.foldl (fun mDevProMap entry => mDevProMap.set entry.1 (propValue entry.1 entry.2))
      fun _ => ""
  if isPowerOnConnect then (mDevProMap.set "ACTION" "add").set "isPowerOnConnect" "true"
  else mDevProMap.set "isPowerOnConnect" "false"

/-! ### `canProcessEvent` -/

/-- `ID_USB_INTERFACES` names the interface class. -/
def hasInterface (devPropMap : PropMap) (iClass : String) : Bool :=
  contains (devPropMap "ID_USB_INTERFACES") iClass

/-- `StorageSubsystem::canProcessEvent` -/
def StorageSubsystem.canProcessEvent (p : PropMap) : Bool := hasInterface p ":08" || p "ID_ATA" = "1"

/-- `MTPSubsystem::canProcessEvent` -/
def MTPSubsystem.canProcessEvent (_ : PropMap) : Bool := false

/-- `PTPSubsystem::canProcessEvent` -/
def PTPSubsystem.canProcessEvent (p : PropMap) : Bool := hasInterface p ":06"

/-- `HIDSubsystem::canProcessEvent` -/
def HIDSubsystem.canProcessEvent (p : PropMap) : Bool := hasInterface p ":03"

/-- `NfcSubsystem::canProcessEvent` -/
def NfcSubsystem.canProcessEvent (p : PropMap) : Bool := hasInterface p ":0b"

/-- `SoundSubsystem::canProcessEvent` -/
def SoundSubsystem.canProcessEvent (p : PropMap) : Bool :=
  hasInterface p ":01" || p "SUBSYSTEM" = "sound"

/-- `VideoSubsystem::canProcessEvent` -/
def VideoSubsystem.canProcessEvent (p : PropMap) : Bool :=
  !(!hasInterface p ":0e" && p "SUBSYSTEM" ≠ "video4linux")

/-- `GamepadSubSystem::canProcessEvent` -/
def GamepadSubSystem.canProcessEvent (p : PropMap) : Bool := p "ID_GAMEPAD" = "1"

/-- `BluetoothSubSystem::canProcessEvent` -/
def BluetoothSubSystem.canProcessEvent (p : PropMap) : Bool := p "ID_BLUETOOTH" = "1"

/-- `CdcSubSystem::canProcessEvent` -/
def CdcSubSystem.canProcessEvent (p : PropMap) : Bool :=
  hasInterface p ":02" || p "ID_USB_MODEM_DONGLE" = YES || hasInterface p ":0206"
    || p "ID_USB_MODEM_DONGLE" = YES

namespace Subsystem

/-- The `canProcessEvent` of a subclass; `DefaultSubSystem` has none. -/
def canProcessEvent : Subsystem → PropMap → Bool
  | storage => StorageSubsystem.canProcessEvent
  | mtp => MTPSubsystem.canProcessEvent
  | ptp => PTPSubsystem.canProcessEvent
  | hid => HIDSubsystem.canProcessEvent
  | nfc => NfcSubsystem.canProcessEvent
  | sound => SoundSubsystem.canProcessEvent
  | video => VideoSubsystem.canProcessEvent
  | gamepad => GamepadSubSystem.canProcessEvent
  | bluetooth => BluetoothSubSystem.canProcessEvent
  | cdc => CdcSubSystem.canProcessEvent
  | default => fun _ => true

/-- The `create` of a subclass: an object of it, or a null pointer. -/
def create (subsystem : Subsystem) (devProMap : PropMap) : Option Subsystem :=
  if subsystem.canProcessEvent devProMap then some subsystem else none

end Subsystem

/-! ### `create` -/

namespace DeviceClassFactory

/-- The loop of `create`. -/
def createLoop (mDevProMap : PropMap) : List Subsystem → Option Subsystem
  | [] => none
  | dev :: rest =>
    if dev = .default then createLoop mDevProMap rest
    else
      match dev.create mDevProMap with
      | some subDevClas => some subDevClas
      | none => createLoop mDevProMap rest

/-- `DeviceClassFactory::create`, for the properties that have been parsed. -/
def create (mDevMap : List Subsystem) (mDevProMap : PropMap) : Option Subsystem :=
  match createLoop mDevProMap mDevMap with
  | some subDevClas => some subDevClas
  | none => if .default ∈ mDevMap then Subsystem.create .default mDevProMap else none

end DeviceClassFactory

end Pdm
