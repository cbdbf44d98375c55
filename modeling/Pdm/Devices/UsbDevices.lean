/-
The devices without a file system.  HID, NFC, gamepad and Bluetooth devices add no
data of their own to `Device`; sound, video and CDC devices do.
-/
import Pdm.Device

namespace Pdm

instance : IDevice Device := ⟨fun d => d⟩

/-! ### `HIDDevice`, `NfcDevice`, `GamepadDevice`, `BluetoothDevice` -/

/-- A `Device` as its constructor leaves it. -/
def Device.new (address : Nat) (node deviceType : String) : Device where
  address := address
  node := node
  deviceType := deviceType
  errorReason := .nothing

/-- `HIDDevice::setDeviceInfo`; the answer is whether the callback is called. -/
def HIDDevice.setDeviceInfo (env : Env) (d : Device) (devClass : DeviceClass) : Device × Bool :=
  if devClass.action = "add" then
    let d := d.setDeviceInfo env devClass
    if devClass.devType = USB_DEVICE then (d.setSpeed devClass, false)
    else (d, devClass.processed = YES)
  else (d, false)

/-- `NfcDevice::setDeviceInfo` -/
def NfcDevice.setDeviceInfo (env : Env) (d : Device) (devClass : DeviceClass) : Device :=
  if devClass.action = "add" then (d.setSpeed devClass).setDeviceInfo env devClass else d

/-- `GamepadDevice::setDeviceInfo` -/
def GamepadDevice.setDeviceInfo (env : Env) (d : Device) (devClass : DeviceClass) : Device :=
  if devClass.action = "add" then
    { (d.setSpeed devClass).setDeviceInfo env devClass with deviceSubType := devClass.idModel }
  else d

/-- `BluetoothDevice::setDeviceInfo` -/
def BluetoothDevice.setDeviceInfo (env : Env) (d : Device) (devClass : DeviceClass) : Device :=
  if devClass.action = "add" then
    { (d.setSpeed devClass).setDeviceInfo env devClass with deviceSubType := devClass.idModel }
  else d

/-! ### `SoundDevice` -/

structure SoundSubDevice where
  devPath : String
  devType : String
  deriving DecidableEq, Repr

structure SoundDevice extends Device where
  builtIn : Bool := true
  soundDeviceName : String := ""
  cardNumber : Int := 0
  cardId : String := ""
  subDeviceList : List SoundSubDevice := []
  deriving DecidableEq, Repr

instance : IDevice SoundDevice := ⟨fun d => d.toDevice⟩

/-- `SoundSubsystem::getCardNumber`: the property, or the digits after the last `/card`
of the path. -/
def getCardNumber (devClass : DeviceClass) : String :=
  if devClass.cardNumber ≠ "" then devClass.cardNumber
  else
    match devClass.devPath.toList.tails.filter ("/card".toList.isPrefixOf ·) with
    | [] => ""
    | tails => String.ofList (((tails.getLastD []).drop 5).takeWhile Char.isDigit)

namespace SoundDevice

/-- The constructor, for an event with the given `DEVPATH`. -/
def new (address : Nat) (node : String) : SoundDevice :=
  { Device.new address node "SOUND" with }

/-- `SoundDevice::setDeviceInfo` -/
def setDeviceInfo (env : Env) (d : SoundDevice) (devClass : DeviceClass) : SoundDevice :=
  { d with toDevice := (d.toDevice.setSpeed devClass).setDeviceInfo env devClass }

/-- `SoundDevice::findDeviceType` -/
def findDeviceType (devicePath : String) : String :=
  if contains devicePath "pcm" then
    match devicePath.toList.getLast? with
    | some 'c' => "capture"
    | some 'p' => "playback"
    | _ => "misc"
  else if contains devicePath "control" then "control"
  else "misc"

/-- The part of `SoundDevice::updateDeviceInfo` on the sub-device of the event. -/
def updateSubDevice (subDeviceList : List SoundSubDevice) (devClass : DeviceClass) :
    List SoundSubDevice :=
  let devPath := "/dev/" ++ devClass.devName
  let subDevice : SoundSubDevice := ⟨devPath, findDeviceType devClass.devPath⟩
  match getDeviceAction devClass.action with
  | .usbDevAdd =>
    if devClass.devName = "" then subDeviceList
    else if subDeviceList.any (·.devPath = devPath) then
      -- The first sub-device with the path is the one that is updated.
      subDeviceList.takeWhile (·.devPath ≠ devPath) ++ subDevice ::
        (subDeviceList.dropWhile (·.devPath ≠ devPath)).tail
    else subDeviceList ++ [subDevice]
  | .usbDevRemove => subDeviceList.eraseP (·.devPath = devPath)
  | _ => subDeviceList

/-- `SoundDevice::updateDeviceInfo` -/
def updateDeviceInfo (d : SoundDevice) (devClass : DeviceClass) : SoundDevice :=
  if devClass.subsystemName = "sound" then
    { d with
      deviceSubType := if devClass.usbDriver ≠ "" then devClass.usbDriver else d.deviceSubType
      builtIn := if contains devClass.devPath "usb" then false else d.builtIn
      soundDeviceName := if devClass.cardName ≠ "" then devClass.cardName else d.soundDeviceName
      cardNumber :=
        if getCardNumber devClass ≠ "" then toInt (getCardNumber devClass) else d.cardNumber
      cardId := if devClass.cardId ≠ "" then devClass.cardId else d.cardId
      subDeviceList := updateSubDevice d.subDeviceList devClass }
  else d

end SoundDevice

/-! ### `VideoDevice` -/

structure VideoSubDevice where
  devPath : String
  capabilities : String
  productName : String
  version : String
  deriving DecidableEq, Repr

structure VideoDevice extends Device where
  subSystem : String := ""
  kernel : String := ""
  subDeviceList : List VideoSubDevice := []
  deriving DecidableEq, Repr

instance : IDevice VideoDevice := ⟨fun d => d.toDevice⟩

namespace VideoDevice

/-- The constructor, for an event with the given `DEVPATH`. -/
def new (address : Nat) (node : String) : VideoDevice :=
  { Device.new address node "CAM" with }

/-- `VideoDevice::setDeviceInfo` -/
def setDeviceInfo (env : Env) (d : VideoDevice) (devClass : DeviceClass) (isCameraReady : Bool) :
    VideoDevice :=
  if devClass.action = "add" then
    let base := d.toDevice.setSpeed devClass
    let base := if isCameraReady then base else { base with deviceType := "UNKNOWN" }
    { d with toDevice := base.setDeviceInfo env devClass }
  else d

/-- The part of `VideoDevice::updateDeviceInfo` on the sub-device of the event. -/
def updateSubDevice (subDeviceList : List VideoSubDevice) (devClass : DeviceClass) :
    List VideoSubDevice :=
  let devPath := "/dev/" ++ devClass.devName
  let subDevice : VideoSubDevice :=
    ⟨devPath, devClass.capabilities, devClass.v4lProductName, devClass.v4lVersion⟩
  match getDeviceAction devClass.action with
  | .usbDevAdd =>
    if devClass.devName = "" then subDeviceList
    else if subDeviceList.any (·.devPath = devPath) then
      subDeviceList.takeWhile (·.devPath ≠ devPath) ++ subDevice ::
        (subDeviceList.dropWhile (·.devPath ≠ devPath)).tail
    else subDeviceList ++ [subDevice]
  | .usbDevRemove => subDeviceList.eraseP (·.devPath = devPath)
  | _ => subDeviceList

/-- `VideoDevice::updateDeviceInfo` -/
def updateDeviceInfo (d : VideoDevice) (devClass : DeviceClass) : VideoDevice :=
  if devClass.subsystemName = "video4linux" ∧ contains devClass.capabilities ":capture:" then
    { d with
      subSystem := devClass.subsystemName
      deviceSubType := if devClass.usbDriver ≠ "" then devClass.usbDriver else d.deviceSubType
      kernel := if devClass.devName ≠ "" then "/dev/" ++ devClass.devName else d.kernel
      subDeviceList := updateSubDevice d.subDeviceList devClass }
  else d

end VideoDevice

/-! ### `CdcDevice` -/

structure CdcDevice extends Device where
  ifindex : String := ""
  linkMode : String := ""
  duplex : String := ""
  netAddress : String := ""
  operstate : String := ""
  deriving DecidableEq, Repr

instance : IDevice CdcDevice := ⟨fun d => d.toDevice⟩

namespace CdcDevice

/-- `MODEM_DONGLE` -/
def MODEM_DONGLE : String := "USBMODEM"

/-- The constructor, for an event with the given `DEVPATH`. -/
def new (address : Nat) (node : String) : CdcDevice :=
  { Device.new address node "CDC" with }

/-- `CdcDevice::setDeviceInfo`: only a whole USB device and a modem dongle are told their
path. -/
def setDeviceInfo (env : Env) (d : CdcDevice) (devClass : DeviceClass) : CdcDevice :=
  if devClass.devType = USB_DEVICE ∨ devClass.usbModemId = YES then
    let base := (d.toDevice.setSpeed devClass).setDeviceInfo env devClass
    let base :=
      if devClass.usbSerialId = "1" then
        { base with deviceType := "USB2SERIAL", deviceSubType := devClass.usbSerialSubType }
      else base
    let base :=
      if devClass.usbModemId = YES then { base with deviceType := MODEM_DONGLE, devSpeed := "HIGH" }
      else base
    { d with toDevice := base }
  else d

/-- `CdcDevice::updateDeviceInfo` -/
def updateDeviceInfo (d : CdcDevice) (devClass : DeviceClass) : CdcDevice :=
  if devClass.subsystemName = "net" ∧ d.deviceType ≠ MODEM_DONGLE then
    { d with
      deviceSubType := if devClass.usbDriver ≠ "" then devClass.usbDriver else d.deviceSubType
      ifindex := if devClass.netIfIndex ≠ "" then devClass.netIfIndex else d.ifindex
      linkMode := if devClass.netLinkMode ≠ "" then devClass.netLinkMode else d.linkMode
      duplex := if devClass.netDuplex ≠ "" then devClass.netDuplex else d.duplex
      netAddress := if devClass.netAddress ≠ "" then devClass.netAddress else d.netAddress
      operstate := if devClass.netOperState ≠ "" then devClass.netOperState else d.operstate
      isToastRequired := false }
  else d

end CdcDevice

end Pdm
