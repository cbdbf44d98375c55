/-
`DeviceManager` and its handlers as one state machine.

The storage handler with the system is a machine of its own, `StorageSystem`; the
other handlers come on top of it in `World`.  A run is a sequence of steps, each with
the answers the system gives during it.  A step delivers one thing to one handler: a
uevent, a command or a plugin event, or it lets a thread or a timeout of a storage
device run.  `HandlePdmDevice`, `HandlePdmCommand` and `HandlePluginEvent` deliver to
the configured handlers one after the other.
-/
import Pdm.Handlers.StorageDeviceHandler
import Pdm.Handlers.StreamingDeviceHandlers
import Pdm.Handlers.UsbDeviceHandlers

namespace Pdm

/-! ### The storage handler -/

/-- The storage handler and the system. -/
structure StorageSystem where
  sys : Sys := {}
  storage : StorageDeviceHandler := {}
  deriving DecidableEq

/-- What happens to the storage handler in a step. -/
inductive StorageInput where
  | uevent (devClass : DeviceClass)
  | command (cmdtypes : CommandType)
  | pluginEvent (eventType : PluginEvent)
  /-- A thread that `device` started for `partition` runs. -/
  | fsckThread (device partition : Nat)
  /-- The connecting timeout of `device` fires. -/
  | timeout (device : Nat)
  deriving DecidableEq, Repr

namespace StorageSystem

/-- Take over what a method of the handler leaves. -/
def after {ρ : Type} (r : Out StorageDeviceHandler ρ) : StorageSystem := ⟨r.state, r.obj⟩

/-- Start a step: no call is on record yet. -/
def clear (w : StorageSystem) : StorageSystem := { w with sys := { w.sys with calls := [] } }

/-- Deliver an input. -/
def deliver (cfg : Config) (env : Env) (w : StorageSystem) : StorageInput → StorageSystem
  | .uevent devClass => after (w.storage.HandlerEvent cfg env w.sys devClass)
  | .command cmdtypes => after (w.storage.HandlerCommand env w.sys cmdtypes)
  | .pluginEvent eventType => after (w.storage.HandlePluginEvent env w.sys eventType)
  | .fsckThread device partition => after (w.storage.runFsckThread env w.sys device partition)
  | .timeout device => after (w.storage.runTimeout w.sys device)

/-- One step of the storage handler. -/
def step (cfg : Config) (w : StorageSystem) (i : Env × StorageInput) : StorageSystem :=
  w.clear.deliver cfg i.1 i.2

/-- The add event of a whole USB stick. -/
def stickEvent (devPath : String) : DeviceClass where
  action := "add"
  devType := "usb_device"
  interfaceClass := ":080650:"
  devPath := devPath

/-- The add event of a stick's disk. -/
def diskEvent (devPath devName : String) : DeviceClass :=
  { stickEvent devPath with devType := "disk", subsystemName := "block", devName := devName }

/-- The add event of a partition. -/
def partitionEvent (devPath devName : String) : DeviceClass :=
  { diskEvent devPath devName with devType := "partition", fsType := "vfat" }

/-- What the system answers when a disk has one partition. -/
def onePartition : Env := { execShellCmd := fun _ => "1" }

/-- A stick is plugged: the device, its disk, its one partition, and the partition's
thread. -/
def plugStick : List (Env × StorageInput) :=
  [({}, .uevent (stickEvent "/devices/usb1/1-1")),
    (onePartition, .uevent (diskEvent "/devices/usb1/1-1/block/sda" "sda")),
    ({}, .uevent (partitionEvent "/devices/usb1/1-1/block/sda/sda1" "sda1")),
    ({}, .fsckThread 0 1)]

example :
    (plugStick.foldl (step .tmpUsb) {}).sys.mounted = {"/tmp/usb/sda/sda1"} := by decide

end StorageSystem

/-! ### All handlers -/

/-- The handlers that `SupportedDevices` may name. -/
inductive HandlerKind where
  | storage
  | mtp
  | ptp
  | hid
  | nfc
  | sound
  | video
  | gamepad
  | bluetooth
  | cdc
  deriving DecidableEq, Repr

/-- Every handler and the system.  A handler that is not configured is never delivered
anything. -/
structure World extends StorageSystem where
  mtp : MTPDeviceHandler := {}
  ptp : PTPDeviceHandler := {}
  hid : DeviceList Device := {}
  nfc : DeviceList Device := {}
  sound : DeviceList SoundDevice := {}
  video : VideoDeviceHandler := {}
  gamepad : DeviceList Device := {}
  bluetooth : DeviceList Device := {}
  cdc : CdcDeviceHandler := {}
  deriving DecidableEq

/-- What happens in a step. -/
inductive Input where
  | uevent (handler : HandlerKind) (devClass : DeviceClass)
  | command (handler : HandlerKind) (cmdtypes : CommandType)
  | pluginEvent (handler : HandlerKind) (eventType : PluginEvent)
  | fsckThread (device partition : Nat)
  | timeout (device : Nat)
  deriving DecidableEq, Repr

namespace World

variable (cfg : Config) (env : Env)

/-- `HandlerEvent` of one handler. -/
def HandlerEvent (w : World) (kind : HandlerKind) (devClass : DeviceClass) : World × Bool :=
  match kind with
  | .storage =>
    let r := w.storage.HandlerEvent cfg env w.sys devClass
    ({ w with sys := r.state, storage := r.obj }, r.ret)
  | .mtp =>
    let r := w.mtp.HandlerEvent cfg env w.sys devClass
    ({ w with sys := r.state, mtp := r.obj }, r.ret)
  | .ptp =>
    let r := w.ptp.HandlerEvent cfg env w.sys devClass
    ({ w with sys := r.state, ptp := r.obj }, r.ret)
  | .hid =>
    let r := HIDDeviceHandler.HandlerEvent env devClass w.sys w.hid
    ({ w with sys := r.state, hid := r.obj }, r.ret)
  | .nfc =>
    let r := NfcDeviceHandler.HandlerEvent env devClass w.sys w.nfc
    ({ w with sys := r.state, nfc := r.obj }, r.ret)
  | .sound =>
    let r := SoundDeviceHandler.HandlerEvent env devClass w.sys w.sound
    ({ w with sys := r.state, sound := r.obj }, r.ret)
  | .video =>
    let r := w.video.HandlerEvent env devClass w.sys
    ({ w with sys := r.state, video := r.obj }, r.ret)
  | .gamepad =>
    let r := GamepadDeviceHandler.HandlerEvent env devClass w.sys w.gamepad
    ({ w with sys := r.state, gamepad := r.obj }, r.ret)
  | .bluetooth =>
    let r := BluetoothDeviceHandler.HandlerEvent env devClass w.sys w.bluetooth
    ({ w with sys := r.state, bluetooth := r.obj }, r.ret)
  | .cdc =>
    let r := w.cdc.HandlerEvent env devClass w.sys
    ({ w with sys := r.state, cdc := r.obj }, r.ret)

/-- `HandlerCommand` of one handler; only these three have commands. -/
def HandlerCommand (w : World) (kind : HandlerKind) (cmdtypes : CommandType) :
    World × Bool × Option CommandResponse :=
  match kind with
  | .storage =>
    let r := w.storage.HandlerCommand env w.sys cmdtypes
    ({ w with sys := r.state, storage := r.obj }, r.ret)
  | .mtp =>
    let r := w.mtp.HandlerCommand env w.sys cmdtypes
    ({ w with sys := r.state, mtp := r.obj }, r.ret)
  | .ptp =>
    let r := w.ptp.HandlerCommand env w.sys cmdtypes
    ({ w with sys := r.state, ptp := r.obj }, r.ret)
  | _ => (w, false, none)

/-- `HandlePluginEvent` of one handler.  Gamepad and Bluetooth inherit the base class's
answer, NFC gives the same one itself. -/
def handlerPluginEvent (w : World) (kind : HandlerKind) (eventType : PluginEvent) : World × Bool :=
  match kind with
  | .storage =>
    let r := w.storage.HandlePluginEvent env w.sys eventType
    ({ w with sys := r.state, storage := r.obj }, r.ret)
  | .mtp =>
    let r := w.mtp.HandlePluginEvent env w.sys eventType
    ({ w with sys := r.state, mtp := r.obj }, r.ret)
  | .ptp =>
    let r := w.ptp.HandlePluginEvent env w.sys eventType
    ({ w with sys := r.state, ptp := r.obj }, r.ret)
  | .hid => (w, false)
  | .nfc => (w, true)
  | .sound => (w, false)
  | .video =>
    let r := w.video.HandlePluginEvent eventType
    ({ w with video := r.1 }, r.2)
  | .gamepad => (w, true)
  | .bluetooth => (w, true)
  | .cdc =>
    let r := w.cdc.HandlePluginEvent eventType
    ({ w with cdc := r.1 }, r.2)

/-! ### The dispatch of `DeviceManager` -/

/-- The loop of `HandlePdmDevice`: the first handler that takes an event ends it, except
for a whole USB device, which every handler sees. -/
def deviceLoop (devClass : DeviceClass) (w : World) : List HandlerKind → World × Bool
  | [] => (w, false)
  | kind :: rest =>
    let r := w.HandlerEvent cfg env kind devClass
    if devClass.devType = USB_DEVICE then deviceLoop devClass r.1 rest
    else if r.2 then (r.1, true)
    else deviceLoop devClass r.1 rest

/-- `DeviceManager::HandlePdmDevice` -/
def HandlePdmDevice (handlerList : List HandlerKind) (w : World) (devClass : DeviceClass) :
    World × Bool :=
  if toInt devClass.idBlackList ≠ 0 then (w, true) else deviceLoop cfg env devClass w handlerList

/-- `DeviceManager::HandlePdmCommand` -/
def HandlePdmCommand (cmdtypes : CommandType) (w : World) :
    List HandlerKind → World × Bool × Option CommandResponse
  | [] => (w, false, none)
  | kind :: rest =>
    let r := w.HandlerCommand env kind cmdtypes
    if r.2.1 then r else HandlePdmCommand cmdtypes r.1 rest

/-- The loop of `HandlePluginEvent`: every handler is asked. -/
def pluginLoop (eventType : PluginEvent) : World → Bool → List HandlerKind → World × Bool
  | w, result, [] => (w, result)
  | w, result, kind :: rest =>
    let r := w.handlerPluginEvent env kind eventType
    pluginLoop eventType r.1 (if r.2 = false then false else result) rest

/-- `DeviceManager::HandlePluginEvent` -/
def HandlePluginEvent (handlerList : List HandlerKind) (w : World) (eventType : PluginEvent) :
    World × Bool :=
  pluginLoop env eventType w true handlerList

/-! ### Steps -/

/-- Start a step: no call is on record yet. -/
def clear (w : World) : World := { w with toStorageSystem := w.toStorageSystem.clear }

/-- Deliver an input. -/
def deliver (w : World) : Input → World
  | .uevent kind devClass => (w.HandlerEvent cfg env kind devClass).1
  | .command kind cmdtypes => (w.HandlerCommand env kind cmdtypes).1
  | .pluginEvent kind eventType => (w.handlerPluginEvent env kind eventType).1
  | .fsckThread device partition =>
    { w with
      toStorageSystem := w.toStorageSystem.deliver cfg env (.fsckThread device partition) }
  | .timeout device =>
    { w with toStorageSystem := w.toStorageSystem.deliver cfg env (.timeout device) }

/-- One step of the daemon. -/
def step (w : World) (i : Env × Input) : World := w.clear.deliver cfg i.1 i.2

end World

/-- What `DeviceManager` is handed, and what the devices have left to run. -/
inductive ManagerInput where
  | uevent (devClass : DeviceClass)
  | command (cmdtypes : CommandType)
  | pluginEvent (eventType : PluginEvent)
  | fsckThread (device partition : Nat)
  | timeout (device : Nat)
  deriving DecidableEq, Repr

namespace World

variable (cfg : Config) (handlerList : List HandlerKind)

/-- Hand an input to `DeviceManager` or let it run. -/
def manage (env : Env) (w : World) : ManagerInput → World
  | .uevent devClass => (w.HandlePdmDevice cfg env handlerList devClass).1
  | .command cmdtypes => (HandlePdmCommand env cmdtypes w handlerList).1
  | .pluginEvent eventType => (HandlePluginEvent env handlerList w eventType).1
  | .fsckThread device partition => w.deliver cfg env (.fsckThread device partition)
  | .timeout device => w.deliver cfg env (.timeout device)

/-- One step of the daemon with the configured handlers. -/
def managerStep (w : World) (i : Env × ManagerInput) : World :=
  w.clear.manage cfg handlerList i.1 i.2

end World

end Pdm
