/-
The handlers of the devices without a file system.

They all look a device up by its path and differ in three things: which events they
take, what an add does with a device that is found, and what it does when none is.
The lookup and the removal are stated once, over a list that a handler keeps of its
own kind of device.
-/
import Pdm.Devices.UsbDevices
import Pdm.Handlers.DeviceHandler

namespace Pdm

/-- A handler's list, and the `m_deviceRemoved` that a removal sets.  The Bluetooth
handler has no such member; nothing reads it there. -/
structure DeviceList (α : Type) where
  sList : List α := []
  deviceRemoved : Bool := false
  deriving DecidableEq

/-! ### What the handlers share -/

section Shared

variable {α : Type} [IDevice α]

/-- `removeDevice` on the device a remove event finds. -/
def removeByPath (deviceType : DeviceEventType) (s : Sys) (h : DeviceList α) (devPath : String) :
    Out (DeviceList α) Unit :=
  match getDeviceWithPath h.sList devPath with
  | none => ⟨s, h, ()⟩
  | some d =>
    ⟨s.notify deviceType .remove (some (base d).address),
      { sList := removePointer h.sList d, deviceRemoved := true }, ()⟩

/-- What an add event makes of a device: a new one at an address, or one that is found. -/
structure AddRule (α : Type) where
  create : Nat → Sys → Out α Unit
  update : Sys → α → Out α Unit

/-- List a device the handler has just created. -/
def pushNew (s : Sys) (h : DeviceList α) (create : Nat → Sys → Out α Unit) :
    Out (DeviceList α) Unit :=
  let r := create s.next s.alloc
  ⟨r.state, { h with sList := h.sList ++ [r.obj] }, ()⟩

/-- Let the list show what was written to a device of it. -/
def writeFound (h : DeviceList α) (r : Out α Unit) : Out (DeviceList α) Unit :=
  ⟨r.state, { h with sList := writeBack h.sList r.obj }, ()⟩

/-- An add event: update the device its path finds, or list a new one. -/
def addByPath (rule : AddRule α) (s : Sys) (h : DeviceList α) (devPath : String) :
    Out (DeviceList α) Unit :=
  match getDeviceWithPath h.sList devPath with
  | none => pushNew s h rule.create
  | some d => writeFound h (rule.update s d)

end Shared

/-- The device of a rule whose info is set without a callback, with what is announced
for it. -/
def quietly {α : Type} (d : α) (s : Sys) : Out α Unit := ⟨s, d, ()⟩

/-! ### `HIDDeviceHandler` -/

namespace HIDDeviceHandler

/-- `iClass`, the interface class of HID devices. -/
def iClass : String := ":03"

variable (env : Env) (devClass : DeviceClass)

/-- `setDeviceInfo`, with the callback's notification. -/
def setInfo (s : Sys) (d : Device) : Out Device Unit :=
  let r := HIDDevice.setDeviceInfo env d devClass
  ⟨if r.2 then s.notify .hidDevice .add none else s, r.1, ()⟩

/-- An add: a device that is found is told the event's path too. -/
def addRule : AddRule Device where
  create address s := setInfo env devClass s (Device.new address devClass.devPath "HID")
  update s d := setInfo env devClass s d

/-- `HIDDeviceHandler::ProcessHIDDevice` -/
def ProcessHIDDevice (s : Sys) (h : DeviceList Device) : Out (DeviceList Device) Unit :=
  match sMapDeviceActions devClass.action with
  | some .usbDevAdd => addByPath (addRule env devClass) s h devClass.devPath
  | some .usbDevRemove => removeByPath .hidDevice s h devClass.devPath
  | _ => ⟨s, h, ()⟩

/-- `HIDDeviceHandler::HandlerEvent` -/
def HandlerEvent (s : Sys) (h : DeviceList Device) : Out (DeviceList Device) Bool :=
  let r : Out (DeviceList Device) Unit :=
    if devClass.action = "remove" then
      ProcessHIDDevice env devClass s { h with deviceRemoved := false }
    else ⟨s, h, ()⟩
  if devClass.action = "remove" ∧ r.obj.deviceRemoved then ⟨r.state, r.obj, true⟩
  else if contains devClass.interfaceClass iClass = false then ⟨r.state, r.obj, false⟩
  else if devClass.devType = USB_DEVICE then
    let r := ProcessHIDDevice env devClass r.state r.obj
    ⟨r.state, r.obj, false⟩
  else if devClass.subsystemName = "input" then
    let r := ProcessHIDDevice env devClass r.state r.obj
    ⟨r.state, r.obj, true⟩
  else ⟨r.state, r.obj, false⟩

end HIDDeviceHandler

/-! ### `NfcDeviceHandler` -/

namespace NfcDeviceHandler

/-- `iClass`, the interface class of smart cards. -/
def iClass : String := ":0b"

variable (env : Env) (devClass : DeviceClass)

/-- An add: a device that is found is told the event's path too. -/
def addRule : AddRule Device where
  create address s :=
    let d := NfcDevice.setDeviceInfo env (Device.new address devClass.devPath "NFC") devClass
    quietly d (s.notify .nfcDevice .add (some address))
  update s d := quietly (NfcDevice.setDeviceInfo env d devClass) s

/-- `NfcDeviceHandler::ProcessNfcDevice` -/
def ProcessNfcDevice (s : Sys) (h : DeviceList Device) : Out (DeviceList Device) Unit :=
  match sMapDeviceActions devClass.action with
  | some .usbDevAdd => addByPath (addRule env devClass) s h devClass.devPath
  | some .usbDevRemove => removeByPath .nfcDevice s h devClass.devPath
  | _ => ⟨s, h, ()⟩

/-- `NfcDeviceHandler::HandlerEvent`; `m_deviceRemoved` is never reset here. -/
def HandlerEvent (s : Sys) (h : DeviceList Device) : Out (DeviceList Device) Bool :=
  let r : Out (DeviceList Device) Unit :=
    if devClass.action = "remove" then ProcessNfcDevice env devClass s h else ⟨s, h, ()⟩
  if devClass.action = "remove" ∧ r.obj.deviceRemoved then ⟨r.state, r.obj, true⟩
  else if contains devClass.interfaceClass iClass then
    let r := ProcessNfcDevice env devClass r.state r.obj
    ⟨r.state, r.obj, true⟩
  else ⟨r.state, r.obj, false⟩

end NfcDeviceHandler

/-! ### `GamepadDeviceHandler` -/

namespace GamepadDeviceHandler

variable (env : Env) (devClass : DeviceClass)

/-- An add: a device that is found is left as it is. -/
def addRule : AddRule Device where
  create address s :=
    let d := GamepadDevice.setDeviceInfo env (Device.new address devClass.devPath "XPAD") devClass
    quietly d (s.notify .gamepadDevice .add none)
  update s d := quietly d s

/-- `GamepadDeviceHandler::ProcessGamepadDevice` -/
def ProcessGamepadDevice (s : Sys) (h : DeviceList Device) : Out (DeviceList Device) Unit :=
  match sMapDeviceActions devClass.action with
  | some .usbDevAdd => addByPath (addRule env devClass) s h devClass.devPath
  | some .usbDevRemove => removeByPath .gamepadDevice s h devClass.devPath
  | _ => ⟨s, h, ()⟩

/-- `GamepadDeviceHandler::HandlerEvent` -/
def HandlerEvent (s : Sys) (h : DeviceList Device) : Out (DeviceList Device) Bool :=
  let r : Out (DeviceList Device) Unit :=
    if devClass.action = "remove" then
      ProcessGamepadDevice env devClass s { h with deviceRemoved := false }
    else ⟨s, h, ()⟩
  if devClass.action = "remove" ∧ r.obj.deviceRemoved then ⟨r.state, r.obj, true⟩
  else if devClass.gamepadId = "1" then
    let r := ProcessGamepadDevice env devClass r.state r.obj
    ⟨r.state, r.obj, true⟩
  else ⟨r.state, r.obj, false⟩

end GamepadDeviceHandler

/-! ### `BluetoothDeviceHandler` -/

namespace BluetoothDeviceHandler

variable (env : Env) (devClass : DeviceClass)

/-- An add: a device that is found is told the event's path too. -/
def addRule : AddRule Device where
  create address s :=
    let d :=
      BluetoothDevice.setDeviceInfo env (Device.new address devClass.devPath "BLUETOOTH") devClass
    quietly d (s.notify .bluetoothDevice .add none)
  update s d := quietly (BluetoothDevice.setDeviceInfo env d devClass) s

/-- `BluetoothDeviceHandler::ProcessBluetoothDevice` -/
def ProcessBluetoothDevice (s : Sys) (h : DeviceList Device) : Out (DeviceList Device) Unit :=
  match sMapDeviceActions devClass.action with
  | some .usbDevAdd => addByPath (addRule env devClass) s h devClass.devPath
  | some .usbDevRemove => removeByPath .bluetoothDevice s h devClass.devPath
  | _ => ⟨s, h, ()⟩

/-- `BluetoothDeviceHandler::HandlerEvent` -/
def HandlerEvent (s : Sys) (h : DeviceList Device) : Out (DeviceList Device) Bool :=
  if devClass.action = "remove" then
    let r := ProcessBluetoothDevice env devClass s h
    ⟨r.state, r.obj, false⟩
  else if devClass.bluetoothId = "1" then
    let r := ProcessBluetoothDevice env devClass s h
    ⟨r.state, r.obj, true⟩
  else ⟨s, h, false⟩

end BluetoothDeviceHandler

/-! ### `SoundDeviceHandler` -/

namespace SoundDeviceHandler

/-- `iClass`, the interface class of audio devices. -/
def iClass : String := ":01"

variable (env : Env) (devClass : DeviceClass)

/-- `SoundDeviceHandler::isSoundDevice` -/
def isSoundDevice : Bool :=
  contains devClass.interfaceClass iClass || devClass.subsystemName = "sound"

/-- An add on a device that is found; a built-in one is announced. -/
def update (s : Sys) (d : SoundDevice) : Out SoundDevice Unit :=
  let d := d.updateDeviceInfo devClass
  quietly d (if d.builtIn then s.notify .soundDevice .add none else s)

/-- An add: no device is listed for the timer. -/
def addSoundDevice (s : Sys) (h : DeviceList SoundDevice) : Out (DeviceList SoundDevice) Unit :=
  match getDeviceWithPath h.sList devClass.devPath with
  | none =>
    if contains devClass.devName "timer" then ⟨s, h, ()⟩
    else
      pushNew s h fun address s =>
        quietly ((SoundDevice.new address devClass.devPath).setDeviceInfo env devClass) s
  | some d => writeFound h (update devClass s d)

/-- `SoundDeviceHandler::ProcessSoundDevice` -/
def ProcessSoundDevice (s : Sys) (h : DeviceList SoundDevice) :
    Out (DeviceList SoundDevice) Unit :=
  match sMapDeviceActions devClass.action with
  | some .usbDevAdd => addSoundDevice env devClass s h
  | some .usbDevRemove => removeByPath .soundDevice s h devClass.devPath
  | some .usbDevChange =>
    match getDeviceWithPath h.sList devClass.devPath with
    | none => ⟨s, h, ()⟩
    | some d => writeFound h (quietly (d.updateDeviceInfo devClass) (s.notify .soundDevice .add none))
  | _ => ⟨s, h, ()⟩

/-- `SoundDeviceHandler::HandlerEvent` -/
def HandlerEvent (s : Sys) (h : DeviceList SoundDevice) : Out (DeviceList SoundDevice) Bool :=
  if devClass.action ≠ "remove" ∧ isSoundDevice devClass = false then ⟨s, h, false⟩
  else if devClass.devType = USB_DEVICE then
    let r := ProcessSoundDevice env devClass s h
    ⟨r.state, r.obj, false⟩
  else if devClass.subsystemName = "sound" then
    let r := ProcessSoundDevice env devClass s h
    ⟨r.state, r.obj, true⟩
  else ⟨s, h, false⟩

end SoundDeviceHandler

/-! ### `VideoDeviceHandler` -/

/-- `VideoDeviceHandler`: its list and whether a camera is ready. -/
structure VideoDeviceHandler extends DeviceList VideoDevice where
  isCameraReady : Bool := true
  deriving DecidableEq

namespace VideoDeviceHandler

/-- `iClass`, the interface class of video devices. -/
def iClass : String := ":0e"

variable (env : Env) (devClass : DeviceClass)

/-- The device type a camera is announced under. -/
def deviceType (h : VideoDeviceHandler) : DeviceEventType :=
  if h.isCameraReady then .videoDevice else .unknownDevice

/-- What an add on a device that is found announces. -/
def announce (s : Sys) (h : VideoDeviceHandler) : Sys :=
  if h.isCameraReady = false then s.notify .unknownDevice .add none
  else if devClass.subsystemName = "video4linux" ∧ devClass.capabilities = ":capture:" then
    s.notify .videoDevice .add none
  else s

/-- An add on this handler. -/
def addRule (h : VideoDeviceHandler) : AddRule VideoDevice where
  create address s :=
    quietly ((VideoDevice.new address devClass.devPath).setDeviceInfo env devClass h.isCameraReady) s
  update s d := quietly (d.updateDeviceInfo devClass) (announce devClass s h)

/-- `VideoDeviceHandler::ProcessVideoDevice` -/
def ProcessVideoDevice (s : Sys) (h : VideoDeviceHandler) : Out VideoDeviceHandler Unit :=
  let r : Out (DeviceList VideoDevice) Unit :=
    match sMapDeviceActions devClass.action with
    | some .usbDevAdd => addByPath (addRule env devClass h) s h.toDeviceList devClass.devPath
    | some .usbDevRemove => removeByPath h.deviceType s h.toDeviceList devClass.devPath
    | _ => ⟨s, h.toDeviceList, ()⟩
  ⟨r.state, { h with toDeviceList := r.obj }, ()⟩

/-- `VideoDeviceHandler::HandlerEvent` -/
def HandlerEvent (s : Sys) (h : VideoDeviceHandler) : Out VideoDeviceHandler Bool :=
  if contains devClass.interfaceClass iClass = false ∧ devClass.action ≠ "remove" then ⟨s, h, false⟩
  else if devClass.devType = USB_DEVICE then
    let r := ProcessVideoDevice env devClass s h
    ⟨r.state, r.obj, false⟩
  else if devClass.subsystemName = "video4linux" then
    let r := ProcessVideoDevice env devClass s h
    ⟨r.state, r.obj, true⟩
  else ⟨s, h, false⟩

/-- `VideoDeviceHandler::HandlePluginEvent` -/
def HandlePluginEvent (h : VideoDeviceHandler) (eventType : PluginEvent) :
    VideoDeviceHandler × Bool :=
  match eventType with
  | .camNone => ({ h with isCameraReady := false }, false)
  | .camReady => ({ h with isCameraReady := true }, false)
  | .camBuiltin => ({ h with isCameraReady := true }, false)
  | _ => (h, false)

end VideoDeviceHandler

/-! ### `CdcDeviceHandler` -/

/-- `CdcDeviceHandler`: its list and whether modem dongles are supported. -/
structure CdcDeviceHandler extends DeviceList CdcDevice where
  is3g4gDongleSupported : Bool := true
  deriving DecidableEq

namespace CdcDeviceHandler

/-- `iClass`, the interface class of communication devices. -/
def iClass : String := ":02"

/-- `ethernetInterfaceClass` -/
def ethernetInterfaceClass : String := ":0206"

variable (env : Env) (devClass : DeviceClass)

/-- `CdcDeviceHandler::identifyCdcDevice` -/
def identifyCdcDevice (h : CdcDeviceHandler) : Bool :=
  contains devClass.interfaceClass iClass || devClass.usbSerialId = YES
    || contains devClass.interfaceClass ethernetInterfaceClass
    || (devClass.usbModemId = YES && h.is3g4gDongleSupported)

/-- An add.  A modem dongle is listed twice, and a device that is found is listed once
more. -/
def addCdcDevice (s : Sys) (h : DeviceList CdcDevice) : Out (DeviceList CdcDevice) Unit :=
  match getDeviceWithPath h.sList devClass.devPath with
  | none =>
    let cdcDevice := (CdcDevice.new s.next devClass.devPath).setDeviceInfo env devClass
    let s := s.alloc
    if devClass.usbModemId = YES then
      ⟨s.notify .cdcDevice .add none, { h with sList := h.sList ++ [cdcDevice, cdcDevice] }, ()⟩
    else ⟨s, { h with sList := h.sList ++ [cdcDevice] }, ()⟩
  | some cdcDevice =>
    let updated := cdcDevice.updateDeviceInfo devClass
    ⟨s.notify .cdcDevice .add (some cdcDevice.address),
      { h with sList := writeBack (h.sList ++ [cdcDevice]) updated }, ()⟩

/-- `CdcDeviceHandler::ProcessCdcDevice` -/
def ProcessCdcDevice (s : Sys) (h : CdcDeviceHandler) : Out CdcDeviceHandler Unit :=
  let r : Out (DeviceList CdcDevice) Unit :=
    match sMapDeviceActions devClass.action with
    | some .usbDevAdd => addCdcDevice env devClass s h.toDeviceList
    | some .usbDevRemove => removeByPath .cdcDevice s h.toDeviceList devClass.devPath
    | _ => ⟨s, h.toDeviceList, ()⟩
  ⟨r.state, { h with toDeviceList := r.obj }, ()⟩

/-- `CdcDeviceHandler::HandlerEvent` -/
def HandlerEvent (s : Sys) (h : CdcDeviceHandler) : Out CdcDeviceHandler Bool :=
  let r : Out CdcDeviceHandler Unit :=
    if devClass.action = "remove" then
      ProcessCdcDevice env devClass s { h with deviceRemoved := false }
    else ⟨s, h, ()⟩
  if devClass.action = "remove" ∧ r.obj.deviceRemoved then ⟨r.state, r.obj, true⟩
  else if identifyCdcDevice devClass r.obj = false then ⟨r.state, r.obj, false⟩
  else if devClass.devType = USB_DEVICE then
    let r := ProcessCdcDevice env devClass r.state r.obj
    ⟨r.state, r.obj, false⟩
  else if devClass.subsystemName = "net" ∨ devClass.subsystemName = "tty" then
    let r := ProcessCdcDevice env devClass r.state r.obj
    ⟨r.state, r.obj, true⟩
  else ⟨r.state, r.obj, false⟩

/-- `CdcDeviceHandler::HandlePluginEvent` -/
def HandlePluginEvent (h : CdcDeviceHandler) (eventType : PluginEvent) : CdcDeviceHandler × Bool :=
  match eventType with
  | .modemDongleSupported => ({ h with is3g4gDongleSupported := true }, false)
  | .modemDongleNotSupported => ({ h with is3g4gDongleSupported := false }, false)
  | _ => (h, false)

end CdcDeviceHandler

end Pdm
