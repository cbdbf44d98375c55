/-
The getters of its own subclass that a handler calls.

A handler is given a `DeviceClass*` and casts it to the subclass it expects.  Most of what it
reads then is a virtual getter of `DeviceClass` and the same for every object; a getter that
only the subclass has is not.  For every function that reaches one of these, `...Reads` is the
list of those it calls, in the order of the calls; a getter that a statement calls twice over
is named once.
-/
import Pdm.Framework.DeviceClassFactory
import Pdm.Framework.DeviceManager

namespace Pdm

/-- The getters that `DeviceClass` does not have. -/
inductive Getter where
  | getHardDisk
  | isCardReader
  | isHardDisk
  | getIdInstance
  | getIdBlackListedSuperSpeedDev
  | isReadOnly
  | isDiskMediaChange
  | getDevLinks
  | getBusNum
  | getProcessed
  | getCardId
  | getCardName
  | getCardNumber
  | getCapabilities
  | getProductName
  | getVersion
  | getGamepadId
  | getUsbModemId
  | getUsbSerialId
  | getUsbSerialSubType
  | getIdUsbSerial
  | getNetIfIndex
  | getNetLinkMode
  | getNetDuplex
  | getNetAddress
  | getNetOperState
  deriving DecidableEq, Repr

/-- The subclass that has the getter. -/
def Getter.subsystem : Getter → Subsystem
  | getHardDisk => .storage
  | isCardReader => .storage
  | isHardDisk => .storage
  | getIdInstance => .storage
  | getIdBlackListedSuperSpeedDev => .storage
  | isReadOnly => .storage
  | isDiskMediaChange => .storage
  | getDevLinks => .mtp
  | getBusNum => .ptp
  | getProcessed => .hid
  | getCardId => .sound
  | getCardName => .sound
  | getCardNumber => .sound
  | getCapabilities => .video
  | getProductName => .video
  | getVersion => .video
  | getGamepadId => .gamepad
  | getUsbModemId => .cdc
  | getUsbSerialId => .cdc
  | getUsbSerialSubType => .cdc
  | getIdUsbSerial => .cdc
  | getNetIfIndex => .cdc
  | getNetLinkMode => .cdc
  | getNetDuplex => .cdc
  | getNetAddress => .cdc
  | getNetOperState => .cdc

variable (cfg : Config) (env : Env) (s : Sys) (devClass : DeviceClass)

/-! ### Storage -/

namespace StorageDevice

/-- Of `StorageDevice::setStorageInterfaceType`. -/
def setStorageInterfaceTypeReads : List Getter :=
  if devClass.isCardReader = YES then [.isCardReader] else [.isCardReader, .isHardDisk]

/-- Of `StorageDevice::updateDeviceInfo`. -/
def updateDeviceInfoReads : List Getter := [.getIdBlackListedSuperSpeedDev]

/-- Of `StorageDevice::updateDiskInfo`. -/
def updateDiskInfoReads (d : StorageDevice) : List Getter :=
  match getDeviceAction devClass.action with
  | .usbDevAdd => .isReadOnly :: setStorageInterfaceTypeReads devClass
  | .usbDevChange =>
    if d.storageType = .usbCardReader then []
    else if (countPartitions env s d.deviceName).1 = 0 then [.isCardReader]
    else []
  | _ => []

/-- Of `StorageDevice::updateMultiSdCard`. -/
def updateMultiSdCardReads (d : StorageDevice) : List Getter :=
  if d.devicePath = "" then [.getIdInstance] else []

/-- Of `StorageDevice::checkSdCardAddRemove`. -/
def checkSdCardAddRemoveReads (d : StorageDevice) : List Getter :=
  if d.storageType ≠ .usbStick then []
  else if devClass.isDiskMediaChange ≠ YES then [.isDiskMediaChange]
  else [.isDiskMediaChange, .isCardReader]

/-- Of `StorageDevice::setDeviceInfo`. -/
def setDeviceInfoReads (d : StorageDevice) : List Getter :=
  if (triggerUevent env s d).ret then []
  else
    match sMapUsbDeviceType devClass.devType with
    | .typeDevUsb => updateDeviceInfoReads
    | .typeDevDisk =>
      let r := updateDiskInfo env s d devClass
      updateDiskInfoReads env s devClass d ++ updateMultiSdCardReads r.obj ++
        checkSdCardAddRemoveReads devClass (updateMultiSdCard env r.obj devClass)
    | .typeDevPartition => []

end StorageDevice

namespace StorageDeviceHandler

/-- Of `StorageDeviceHandler::isStorageDevice`. -/
def isStorageDeviceReads : List Getter :=
  if contains devClass.interfaceClass iClass then [] else [.getHardDisk]

/-- Of `StorageDeviceHandler::createStorageDevice`. -/
def createStorageDeviceReads (h : StorageDeviceHandler) (device : Option StorageDevice) :
    List Getter :=
  if h.storageList.length ≥ cfg.maxUsbStorageDevices then []
  else
    let storageDev := StorageDevice.new s.next devClass.devPath cfg.rootPath
    let storageDev :=
      match device with
      | none => storageDev
      | some device =>
        { storageDev with isExtraSdCard := true }.setExtraSdCardDetails device.toDevice
    storageDev.setDeviceInfoReads env s.alloc devClass

/-- Of `StorageDeviceHandler::checkStorageDevice`. -/
def checkStorageDeviceReads (h : StorageDeviceHandler) : List Getter :=
  match getDeviceWithPath h.storageList devClass.devPath with
  | none =>
    if devClass.devType = USB_DEVICE then createStorageDeviceReads cfg env s devClass h none else []
  | some storageDevPath =>
    if storageDevPath.deviceName = "" then storageDevPath.setDeviceInfoReads env s devClass
    else
      match getDeviceWithName h.storageList devClass.devName with
      | some storageDevName => storageDevName.setDeviceInfoReads env s devClass
      | none => createStorageDeviceReads cfg env s devClass h (some storageDevPath)

/-- Of `StorageDeviceHandler::ProcessStorageDevice`. -/
def ProcessStorageDeviceReads (h : StorageDeviceHandler) : List Getter :=
  match sMapDeviceActions devClass.action with
  | some .usbDevAdd => checkStorageDeviceReads cfg env s devClass h
  | some .usbDevChange => checkStorageDeviceReads cfg env s devClass h
  | _ => []

/-- Of `StorageDeviceHandler::HandlerEvent`. -/
def HandlerEventReads (h : StorageDeviceHandler) : List Getter :=
  if devClass.action = "remove" then []
  else
    isStorageDeviceReads devClass ++
      if isStorageDevice devClass = false then []
      else if devClass.devType = USB_DEVICE ∨ devClass.subsystemName = "block" then
        ProcessStorageDeviceReads cfg env s devClass h
      else []

end StorageDeviceHandler

/-! ### Media players and cameras -/

/-- Of `MTPDevice::setDeviceInfo`. -/
def MTPDevice.setDeviceInfoReads : List Getter :=
  if devClass.devType = USB_DEVICE then [.getDevLinks] else []

/-- Of `MTPDeviceHandler::HandlerEvent`: a removal reads nothing, an add describes a new
device. -/
def MTPDeviceHandler.HandlerEventReads : List Getter :=
  if devClass.action = "remove" ∨ devClass.mediaPlayerId = YES then
    match sMapDeviceActions devClass.action with
    | some .usbDevAdd => if devClass.devName = "" then [] else MTPDevice.setDeviceInfoReads devClass
    | _ => []
  else []

/-- Of `PTPDevice::setDeviceInfo`. -/
def PTPDevice.setDeviceInfoReads : List Getter :=
  if devClass.devType = USB_DEVICE then [.getBusNum] else []

/-- Of `PTPDeviceHandler::ProcessPTPDevice`. -/
def PTPDeviceHandler.ProcessPTPDeviceReads : List Getter :=
  match sMapDeviceActions devClass.action with
  | some .usbDevAdd => PTPDevice.setDeviceInfoReads devClass
  | _ => []

/-- Of `PTPDeviceHandler::HandlerEvent`. -/
def PTPDeviceHandler.HandlerEventReads : List Getter :=
  if devClass.action = "remove" then ProcessPTPDeviceReads devClass
  else if contains devClass.interfaceClass iClass = false then []
  else if devClass.devType = USB_DEVICE ∧ devClass.mediaPlayerId ≠ "1" then
    ProcessPTPDeviceReads devClass
  else if devClass.subsystemName = "usb" ∧ devClass.mediaPlayerId ≠ "1" then
    ProcessPTPDeviceReads devClass
  else []

/-! ### The devices without a file system -/

/-- Of `HIDDevice::setDeviceInfo`. -/
def HIDDevice.setDeviceInfoReads : List Getter :=
  if devClass.action = "add" then
    if devClass.devType = USB_DEVICE then [] else [.getProcessed]
  else []

/-- Of `HIDDeviceHandler::ProcessHIDDevice`: an add sets the info of a device that is found
and of a new one. -/
def HIDDeviceHandler.ProcessHIDDeviceReads : List Getter :=
  match sMapDeviceActions devClass.action with
  | some .usbDevAdd => HIDDevice.setDeviceInfoReads devClass
  | _ => []

/-- Of `HIDDeviceHandler::HandlerEvent`. -/
def HIDDeviceHandler.HandlerEventReads (h : DeviceList Device) : List Getter :=
  let r : Out (DeviceList Device) Unit :=
    if devClass.action = "remove" then
      ProcessHIDDevice env devClass s { h with deviceRemoved := false }
    else ⟨s, h, ()⟩
  (if devClass.action = "remove" then ProcessHIDDeviceReads devClass else []) ++
    if devClass.action = "remove" ∧ r.obj.deviceRemoved then []
    else if contains devClass.interfaceClass iClass = false then []
    else if devClass.devType = USB_DEVICE then ProcessHIDDeviceReads devClass
    else if devClass.subsystemName = "input" then ProcessHIDDeviceReads devClass
    else []

/-- Of `GamepadDeviceHandler::HandlerEvent`. -/
def GamepadDeviceHandler.HandlerEventReads (h : DeviceList Device) : List Getter :=
  let r : Out (DeviceList Device) Unit :=
    if devClass.action = "remove" then
      ProcessGamepadDevice env devClass s { h with deviceRemoved := false }
    else ⟨s, h, ()⟩
  if devClass.action = "remove" ∧ r.obj.deviceRemoved then [] else [.getGamepadId]

/-- Of `SoundDevice::updateDeviceInfo`. -/
def SoundDevice.updateDeviceInfoReads : List Getter :=
  if devClass.subsystemName = "sound" then [.getCardName, .getCardNumber, .getCardId] else []

/-- Of `SoundDeviceHandler::ProcessSoundDevice`. -/
def SoundDeviceHandler.ProcessSoundDeviceReads (h : DeviceList SoundDevice) : List Getter :=
  match sMapDeviceActions devClass.action with
  | some .usbDevAdd =>
    match getDeviceWithPath h.sList devClass.devPath with
    | none => []
    | some _ => SoundDevice.updateDeviceInfoReads devClass
  | some .usbDevChange =>
    match getDeviceWithPath h.sList devClass.devPath with
    | none => []
    | some _ => SoundDevice.updateDeviceInfoReads devClass
  | _ => []

/-- Of `SoundDeviceHandler::HandlerEvent`. -/
def SoundDeviceHandler.HandlerEventReads (h : DeviceList SoundDevice) : List Getter :=
  if devClass.action ≠ "remove" ∧ isSoundDevice devClass = false then []
  else if devClass.devType = USB_DEVICE then ProcessSoundDeviceReads devClass h
  else if devClass.subsystemName = "sound" then ProcessSoundDeviceReads devClass h
  else []

/-- Of `VideoDevice::updateDeviceInfo`. -/
def VideoDevice.updateDeviceInfoReads : List Getter :=
  if devClass.subsystemName = "video4linux" then
    if contains devClass.capabilities ":capture:" ∧ getDeviceAction devClass.action = .usbDevAdd
        ∧ devClass.devName ≠ "" then [.getCapabilities, .getProductName, .getVersion]
    else [.getCapabilities]
  else []

/-- Of `VideoDeviceHandler::ProcessVideoDevice`. -/
def VideoDeviceHandler.ProcessVideoDeviceReads (h : VideoDeviceHandler) : List Getter :=
  match sMapDeviceActions devClass.action with
  | some .usbDevAdd =>
    match getDeviceWithPath h.sList devClass.devPath with
    | none => []
    | some _ =>
      VideoDevice.updateDeviceInfoReads devClass ++
        if h.isCameraReady = true ∧ devClass.subsystemName = "video4linux" then [.getCapabilities]
        else []
  | _ => []

/-- Of `VideoDeviceHandler::HandlerEvent`. -/
def VideoDeviceHandler.HandlerEventReads (h : VideoDeviceHandler) : List Getter :=
  if contains devClass.interfaceClass iClass = false ∧ devClass.action ≠ "remove" then []
  else if devClass.devType = USB_DEVICE then ProcessVideoDeviceReads devClass h
  else if devClass.subsystemName = "video4linux" then ProcessVideoDeviceReads devClass h
  else []

namespace CdcDevice

/-- Of `CdcDevice::setDeviceInfo`. -/
def setDeviceInfoReads : List Getter :=
  (if devClass.devType = USB_DEVICE then [] else [.getUsbModemId]) ++
    if devClass.devType = USB_DEVICE ∨ devClass.usbModemId = YES then
      if devClass.usbSerialId = "1" then [.getIdUsbSerial, .getUsbSerialSubType, .getUsbModemId]
      else [.getIdUsbSerial, .getUsbModemId]
    else []

/-- Of `CdcDevice::updateDeviceInfo`. -/
def updateDeviceInfoReads (d : CdcDevice) : List Getter :=
  if devClass.subsystemName = "net" ∧ d.deviceType ≠ MODEM_DONGLE then
    [.getNetIfIndex, .getNetLinkMode, .getNetDuplex, .getNetAddress, .getNetOperState]
  else []

end CdcDevice

namespace CdcDeviceHandler

/-- Of `CdcDeviceHandler::identifyCdcDevice`. -/
def identifyCdcDeviceReads : List Getter :=
  if contains devClass.interfaceClass iClass then []
  else if devClass.usbSerialId = YES then [.getUsbSerialId]
  else if contains devClass.interfaceClass ethernetInterfaceClass then [.getUsbSerialId]
  else [.getUsbSerialId, .getUsbModemId]

/-- Of `CdcDeviceHandler::ProcessCdcDevice`. -/
def ProcessCdcDeviceReads (h : DeviceList CdcDevice) : List Getter :=
  match sMapDeviceActions devClass.action with
  | some .usbDevAdd =>
    match getDeviceWithPath h.sList devClass.devPath with
    | none => CdcDevice.setDeviceInfoReads devClass ++ [.getUsbModemId]
    | some cdcDevice => cdcDevice.updateDeviceInfoReads devClass
  | _ => []

/-- Of `CdcDeviceHandler::HandlerEvent`. -/
def HandlerEventReads (h : CdcDeviceHandler) : List Getter :=
  let r : Out CdcDeviceHandler Unit :=
    if devClass.action = "remove" then
      ProcessCdcDevice env devClass s { h with deviceRemoved := false }
    else ⟨s, h, ()⟩
  (if devClass.action = "remove" then ProcessCdcDeviceReads devClass h.toDeviceList else []) ++
    if devClass.action = "remove" ∧ r.obj.deviceRemoved then []
    else
      identifyCdcDeviceReads devClass ++
        if identifyCdcDevice devClass r.obj = false then []
        else if devClass.devType = USB_DEVICE then ProcessCdcDeviceReads devClass r.obj.toDeviceList
        else if devClass.subsystemName = "net" ∨ devClass.subsystemName = "tty" then
          ProcessCdcDeviceReads devClass r.obj.toDeviceList
        else []

end CdcDeviceHandler

namespace World

/-- The subclass a handler casts to. -/
def castTo : HandlerKind → Subsystem
  | .storage => .storage
  | .mtp => .mtp
  | .ptp => .ptp
  | .hid => .hid
  | .nfc => .nfc
  | .sound => .sound
  | .video => .video
  | .gamepad => .gamepad
  | .bluetooth => .bluetooth
  | .cdc => .cdc

/-- Of the `HandlerEvent` of a handler.  The NFC handler casts nothing, and the Bluetooth
handler calls a getter of `DeviceClass` on what it casts. -/
def HandlerEventReads (w : World) : HandlerKind → List Getter
  | .storage => w.storage.HandlerEventReads cfg env w.sys devClass
  | .mtp => MTPDeviceHandler.HandlerEventReads devClass
  | .ptp => PTPDeviceHandler.HandlerEventReads devClass
  | .hid => HIDDeviceHandler.HandlerEventReads env w.sys devClass w.hid
  | .nfc => []
  | .sound => SoundDeviceHandler.HandlerEventReads devClass w.sound
  | .video => w.video.HandlerEventReads devClass
  | .gamepad => GamepadDeviceHandler.HandlerEventReads env w.sys devClass w.gamepad
  | .bluetooth => []
  | .cdc => w.cdc.HandlerEventReads env w.sys devClass

end World

end Pdm
