/-
The lists of the devices without a file system as they are posted to the subscribers.

`PdmLunaHandler` puts each of them together from what the handlers list; the list of the
cameras leaves out those without a speed.  This is the build without `WEBOS_SESSION`, which
leaves more out of the list of all devices.  A list is posted whenever a notification leads to
its key, with the devices that are listed at that moment; a HID device that is new calls back
before it is listed.  `PostedDevices` runs all handlers with the addresses of the devices that
one list named when it was posted last, and keeps account of what has joined the handlers'
lists or left them since without a post.
-/
import Pdm.Framework.DeviceTracker
import Pdm.Lib.Boards
import Pdm.Proofs.Additions

namespace Pdm

open Boards (Board)

/-! ### What is posted -/

/-- The lists of `PdmLunaHandler` that hold devices without a file system. -/
inductive UsbList where
  | nonStorageDevices
  | audioDevices
  | videoDevices
  deriving DecidableEq, Repr

/-- The key that a list is posted under. -/
def UsbList.subscription : UsbList → Subscription
  | .nonStorageDevices => .nonStorageDevices
  | .audioDevices => .audioDevices
  | .videoDevices => .videoDevices

/-- The handlers that have registered a callback for a list, in the order in which
`DeviceManager` makes them. -/
def UsbList.handlers : UsbList → List HandlerKind
  | .nonStorageDevices => [.bluetooth, .cdc, .gamepad, .hid, .nfc, .sound, .video]
  | .audioDevices => [.sound]
  | .videoDevices => [.video]

/-- The devices of its handlers that a list names: `getAttachedVideoDeviceList` appends a camera
only `if (!device->getDevSpeed().empty())`. -/
def UsbList.names : UsbList → Device → Bool
  | .videoDevices, d => d.devSpeed ≠ ""
  | _, _ => true

/-- A list names the device that is created for an event. -/
def UsbList.namesNew : UsbList → DeviceClass → Bool
  | .videoDevices, devClass => devClass.speed ≠ ""
  | _, _ => true

/-- A call posts to a key. -/
def Call.postsTo (key : Subscription) : Call → Bool
  | .notify deviceType event _ =>
    ((DeviceTracker.update deviceType event).flatMap PdmLunaService.notifySubscribers).contains key
  | _ => false

/-- The step in progress has posted to a key. -/
def Sys.postsTo (s : Sys) (key : Subscription) : Bool := s.calls.any (·.call.postsTo key)

namespace World

variable (w : World)

/-- The devices of a list. -/
def listed (list : UsbList) : List Nat :=
  ((list.handlers.flatMap w.entries).filter fun e => list.names (base e)).map fun e =>
    (base e).address

/-! ### What joins and leaves without a post -/

/-- A handler takes the event as one that adds a device. -/
def takesAdd (devClass : DeviceClass) : HandlerKind → Bool
  | .hid => HIDDeviceHandler.adds devClass
  | .nfc => NfcDeviceHandler.adds devClass
  | .gamepad => GamepadDeviceHandler.adds devClass
  | .bluetooth => BluetoothDeviceHandler.adds devClass
  | .sound => SoundDeviceHandler.adds devClass
  | .video => VideoDeviceHandler.adds devClass
  | .cdc => w.cdc.adds devClass
  | _ => false

/-- A handler creates a device for the event: it takes it, and no stored path leads to a
device. -/
def creates (devClass : DeviceClass) (kind : HandlerKind) : Bool :=
  w.takesAdd devClass kind && (getDeviceWithPath (w.entries kind) devClass.devPath).isNone

/-- A handler notifies of a device that it has created and listed. -/
def announcesNew (devClass : DeviceClass) : HandlerKind → Bool
  | .nfc => true
  | .gamepad => true
  | .bluetooth => true
  | .cdc => devClass.usbModemId = YES
  | _ => false

/-- The device that joins a list in a step without being announced. -/
def joinsUnseen (list : UsbList) : Input → List Nat
  | .uevent kind devClass =>
    if kind ∈ list.handlers ∧ w.creates devClass kind ∧ announcesNew devClass kind = false ∧
        list.namesNew devClass then
      [w.sys.next]
    else []
  | _ => []

/-- The device that joins a list in a step right after the list was posted. -/
def late (list : UsbList) : Input → List Nat
  | .uevent .hid devClass =>
    if .hid ∈ list.handlers ∧ w.creates devClass .hid then [w.sys.next] else []
  | _ => []

/-- The device that leaves a list in a step without a post: a camera, while no camera is
ready, is notified of as an unknown device. -/
def leavesUnseen (list : UsbList) : Input → List Nat
  | .uevent .video devClass =>
    if list = .videoDevices ∧ devClass.action = "remove" ∧ w.video.isCameraReady = false then
      ((w.removes .video devClass).filter fun e => list.names (base e)).toList.map fun e =>
        (base e).address
    else []
  | _ => []

end World

/-! ### Runs -/

/-- All handlers, and what was posted last. -/
structure PostedDevices where
  world : World := {}
  board : Board Nat := {}
  deriving DecidableEq

/-- One step, with what is posted in it. -/
def PostedDevices.step (cfg : Config) (list : UsbList) (P : PostedDevices) (i : Env × Input) :
    PostedDevices :=
  let world := P.world.step cfg i
  let late := P.world.late list i.2
  { world
    board :=
      if world.sys.postsTo list.subscription then
        .post ((if late = [] then world else P.world).listed list) late
      else (P.board.join (P.world.joinsUnseen list i.2)).leave (P.world.leavesUnseen list i.2) }

end Pdm
