/-
`MTPDeviceHandler` and `PTPDeviceHandler`.  Both create a device for every add event
that passes their test, whether or not one is listed for its path, and list it only
once it is mounted.
-/
import Pdm.Devices.StreamingDevices
import Pdm.Handlers.DeviceHandler

namespace Pdm

open Visit (visit)

/-- The reply to a command a streaming handler has looked a device up for. -/
def streamingReply {α : Type} [IDevice α] (s : Sys) (sList : List α) (deviceNumber : Int)
    (deviceType : DeviceEventType) (eject : Sys → α → Out α PdmDevStatus) :
    Out (List α) (Bool × CommandResponse) :=
  match getDeviceWithNum sList deviceNumber with
  | none => ⟨s, sList, (false, { result := .deviceNotFound })⟩
  | some d =>
    let r := eject s d
    ⟨r.state.notify deviceType .umount none, writeBack sList r.obj, (true, { result := r.ret })⟩

/-! ### `MTPDeviceHandler` -/

structure MTPDeviceHandler where
  mtpList : List MTPDevice := []
  deriving DecidableEq

namespace MTPDeviceHandler

variable (cfg : Config) (env : Env)

/-- `MTPDeviceHandler::removeDevice` -/
def removeDevice (s : Sys) (h : MTPDeviceHandler) (d : MTPDevice) : Out MTPDeviceHandler Unit :=
  ⟨s.notify .mtpDevice .remove (some d.address), { mtpList := removePointer h.mtpList d }, ()⟩

/-- `ProcessMTPDevice` for an add. -/
def addMTPDevice (s : Sys) (h : MTPDeviceHandler) (devClass : DeviceClass) :
    Out MTPDeviceHandler Unit :=
  if devClass.devName = "" then ⟨s, h, ()⟩
  else
    let mtpDevice :=
      (MTPDevice.new s.next devClass.devPath cfg.rootPath).setDeviceInfo env devClass
    let m := mtpDevice.mtpMount env s.alloc devClass.devName
    if m.ret = .success then
      ⟨m.state.notify .mtpDevice .add none, { mtpList := h.mtpList ++ [m.obj] }, ()⟩
    else
      let r := m.obj.onDeviceRemove env m.state
      ⟨r.state, h, ()⟩

/-- `MTPDeviceHandler::ProcessMTPDevice` -/
def ProcessMTPDevice (s : Sys) (h : MTPDeviceHandler) (devClass : DeviceClass) :
    Out MTPDeviceHandler Unit :=
  match sMapDeviceActions devClass.action with
  | some .usbDevAdd => addMTPDevice cfg env s h devClass
  | some .usbDevRemove =>
    match getDeviceWithPath h.mtpList devClass.devPath with
    | none => ⟨s, h, ()⟩
    | some mtpDevice =>
      let r := mtpDevice.onDeviceRemove env s
      removeDevice r.state h r.obj
  | _ => ⟨s, h, ()⟩

/-- `MTPDeviceHandler::HandlerEvent` -/
def HandlerEvent (s : Sys) (h : MTPDeviceHandler) (devClass : DeviceClass) :
    Out MTPDeviceHandler Bool :=
  if devClass.action = "remove" ∨ devClass.mediaPlayerId = YES then
    let r := ProcessMTPDevice cfg env s h devClass
    ⟨r.state, r.obj, false⟩
  else ⟨s, h, false⟩

/-- `MTPDeviceHandler::HandlerCommand` -/
def HandlerCommand (s : Sys) (h : MTPDeviceHandler) (cmdtypes : CommandType) :
    Out MTPDeviceHandler (Bool × Option CommandResponse) :=
  match cmdtypes with
  | .eject deviceNumber =>
    let r := streamingReply s h.mtpList deviceNumber .mtpDevice (fun s d => d.eject env s)
    ⟨r.state, { mtpList := r.obj }, (r.ret.1, some r.ret.2)⟩
  | _ => ⟨s, h, (false, none)⟩

/-- `MTPDeviceHandler::umountAllDrive` -/
def umountAllDrive (s : Sys) (h : MTPDeviceHandler) : Out MTPDeviceHandler Bool :=
  let r := visit (fun s d => d.mtpUmount env s) s h.mtpList
  ⟨r.state, { mtpList := r.obj }, r.ret.all (· ≠ .umountFail)⟩

/-- `MTPDeviceHandler::HandlePluginEvent` -/
def HandlePluginEvent (s : Sys) (h : MTPDeviceHandler) (eventType : PluginEvent) :
    Out MTPDeviceHandler Bool :=
  match eventType with
  | .powerProcessRequestSuspend =>
    ⟨s, { mtpList := h.mtpList.map fun d => { d with powerStatus := false } }, false⟩
  | .powerProcessPrepareResume => ⟨s, { mtpList := h.mtpList.map (·.resumeRequest) }, false⟩
  | .powerProcessRequestUmountAll => umountAllDrive env s h
  | .powerProcessPrepareSuspend => umountAllDrive env s h
  | _ => ⟨s, h, false⟩

end MTPDeviceHandler

/-! ### `PTPDeviceHandler` -/

structure PTPDeviceHandler where
  sList : List PTPDevice := []
  deriving DecidableEq

namespace PTPDeviceHandler

variable (cfg : Config) (env : Env)

/-- `iClass`, the interface class of still cameras. -/
def iClass : String := ":06"

/-- `PTPDeviceHandler::removeDevice` -/
def removeDevice (s : Sys) (h : PTPDeviceHandler) (d : PTPDevice) : Out PTPDeviceHandler Unit :=
  ⟨s.notify .ptpDevice .remove (some d.address), { sList := removePointer h.sList d }, ()⟩

/-- `ProcessPTPDevice` for an add. -/
def addPTPDevice (s : Sys) (h : PTPDeviceHandler) (devClass : DeviceClass) :
    Out PTPDeviceHandler Unit :=
  let ptpDevice :=
    (PTPDevice.new s.next devClass.devPath cfg.rootPath).setDeviceInfo env s.alloc devClass
  if ptpDevice.obj.isMounted then
    ⟨ptpDevice.state.notify .ptpDevice .add none, { sList := h.sList ++ [ptpDevice.obj] }, ()⟩
  else
    let r := ptpDevice.obj.onDeviceRemove env ptpDevice.state
    ⟨r.state, h, ()⟩

/-- `PTPDeviceHandler::ProcessPTPDevice` -/
def ProcessPTPDevice (s : Sys) (h : PTPDeviceHandler) (devClass : DeviceClass) :
    Out PTPDeviceHandler Unit :=
  match sMapDeviceActions devClass.action with
  | some .usbDevAdd => addPTPDevice cfg env s h devClass
  | some .usbDevRemove =>
    match getDeviceWithPath h.sList devClass.devPath with
    | none => ⟨s, h, ()⟩
    | some ptpDevice =>
      let r := ptpDevice.onDeviceRemove env s
      removeDevice r.state h r.obj
  | _ => ⟨s, h, ()⟩

/-- `PTPDeviceHandler::HandlerEvent` -/
def HandlerEvent (s : Sys) (h : PTPDeviceHandler) (devClass : DeviceClass) :
    Out PTPDeviceHandler Bool :=
  if devClass.action = "remove" then
    let r := ProcessPTPDevice cfg env s h devClass
    ⟨r.state, r.obj, false⟩
  else if contains devClass.interfaceClass iClass = false then ⟨s, h, false⟩
  else if devClass.devType = USB_DEVICE ∧ devClass.mediaPlayerId ≠ "1" then
    let r := ProcessPTPDevice cfg env s h devClass
    ⟨r.state, r.obj, false⟩
  else if devClass.subsystemName = "usb" ∧ devClass.mediaPlayerId ≠ "1" then
    let r := ProcessPTPDevice cfg env s h devClass
    ⟨r.state, r.obj, true⟩
  else ⟨s, h, false⟩

/-- `PTPDeviceHandler::HandlerCommand` -/
def HandlerCommand (s : Sys) (h : PTPDeviceHandler) (cmdtypes : CommandType) :
    Out PTPDeviceHandler (Bool × Option CommandResponse) :=
  match cmdtypes with
  | .eject deviceNumber =>
    let r := streamingReply s h.sList deviceNumber .ptpDevice (fun s d => d.eject env s)
    ⟨r.state, { sList := r.obj }, (r.ret.1, some r.ret.2)⟩
  | _ => ⟨s, h, (false, none)⟩

/-- One turn of `umountAllDrive`, which writes nothing to the device. -/
def umountDrive (s : Sys) (d : PTPDevice) : Out PTPDevice Bool :=
  let u := d.unmountDevice env s
  ⟨u.2, d, u.1⟩

/-- `PTPDeviceHandler::umountAllDrive` -/
def umountAllDrive (s : Sys) (h : PTPDeviceHandler) : Out PTPDeviceHandler Bool :=
  let r := visit (umountDrive env) s h.sList
  ⟨r.state, { sList := r.obj }, r.ret.all id⟩

/-- `PTPDeviceHandler::HandlePluginEvent` -/
def HandlePluginEvent (s : Sys) (h : PTPDeviceHandler) (eventType : PluginEvent) :
    Out PTPDeviceHandler Bool :=
  match eventType with
  | .powerProcessRequestSuspend =>
    ⟨s, { sList := h.sList.map fun d => { d with powerStatus := false } }, false⟩
  | .powerProcessPrepareResume => ⟨s, { sList := h.sList.map (·.resumeRequest) }, false⟩
  | .powerProcessRequestUmountAll => umountAllDrive env s h
  | .powerProcessPrepareSuspend => umountAllDrive env s h
  | _ => ⟨s, h, false⟩

end PTPDeviceHandler

end Pdm
