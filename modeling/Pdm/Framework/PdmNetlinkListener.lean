/-
`PdmNetlinkListener` at start-up, with the kernel and udev beside it.

`startListener` enumerates the devices and then starts the thread that enables the
monitor and drains it.  The enumeration has two moments for each device: the scan finds
its directory, and later its path is opened.  The scan is a walk through sysfs, which
other things happen in the middle of; all that is certain is that it finds a device that
is there all along.  The kernel emits an event for each plug and unplug, and the monitor
queues it when it is enabled and its filter lets it through.

The calls to udev succeed; where one fails there is no enumeration or no thread.
-/
import Mathlib.Data.Finset.Basic
import Pdm.Lib.Schedules

namespace Pdm

/-- A device of sysfs, with what enumerations and monitors select it by. -/
structure UdevDevice where
  syspath : String
  subsystem : String
  devtype : String
  deriving DecidableEq, Repr

/-- The subsystems `enumerate_devices` matches. -/
def enumerateSubsystems : List String :=
  ["usb", "block", "input", "sound", "video4linux", "net", "tty", "rfkill"]

/-- The filters of the monitor; `none` stands for any `devtype`. -/
def monitorFilters : List (String × Option String) :=
  [("block", none), ("input", none), ("usb", some "usb_device"), ("sound", none),
    ("video4linux", none), ("net", none), ("tty", none), ("rfkill", none)]

namespace UdevDevice

/-- The enumeration lists the device. -/
def enumerated (d : UdevDevice) : Bool := d.subsystem ∈ enumerateSubsystems

/-- The monitor's filter lets the device's events through. -/
def monitored (d : UdevDevice) : Bool :=
  monitorFilters.any fun f => f.1 = d.subsystem && f.2.all (· = d.devtype)

end UdevDevice

/-- An event: `ACTION` is `add` for an arrival and `remove` otherwise. -/
structure UdevEvent where
  device : UdevDevice
  arrival : Bool
  deriving DecidableEq, Repr

/-- How far `startListener` and the thread it starts have come. -/
inductive ListenerPhase where
  /-- in `udev_enumerate_scan_devices` -/
  | scanning
  /-- in the loop over the list entries -/
  | reading
  /-- the thread is started and has not enabled the monitor -/
  | threadStart
  /-- in the loop of the thread -/
  | listening
  deriving DecidableEq, Repr

structure PdmNetlinkListener where
  attached : Finset UdevDevice
  /-- The devices that have been attached since the scan began. -/
  steady : Finset UdevDevice
  phase : ListenerPhase := .scanning
  /-- The list entries of the enumeration that have not been read. -/
  entries : List UdevDevice := []
  /-- What the monitor has queued. -/
  queue : List UdevEvent := []
  /-- The events handed to `PdmNetlinkClassAdapter::handleEvent`, oldest first. -/
  handled : List UdevEvent := []
  deriving DecidableEq

/-- What happens next. -/
inductive ListenerStep where
  | plug (d : UdevDevice)
  | unplug (d : UdevDevice)
  /-- The scan comes by the directory of the device. -/
  | scan (d : UdevDevice)
  | scanned
  /-- The next list entry, which is the device's, is opened. -/
  | read (d : UdevDevice)
  | runListner
  | enableReceiving
  | receive
  deriving DecidableEq, Repr

namespace PdmNetlinkListener

/-- `startListener` begins with these devices attached. -/
def start (attached : Finset UdevDevice) : PdmNetlinkListener where
  attached := attached
  steady := attached

/-- The kernel emits an event. -/
def emit (l : PdmNetlinkListener) (e : UdevEvent) : PdmNetlinkListener :=
  if l.phase = .listening ∧ e.device.monitored then { l with queue := l.queue ++ [e] } else l

/-- `PdmNetlinkClassAdapter::handleEvent`; what is read in the enumeration is an `add`. -/
def handleEvent (l : PdmNetlinkListener) (e : UdevEvent) : PdmNetlinkListener :=
  { l with handled := l.handled ++ [e] }

/-- One step, where it can be taken. -/
def step (l : PdmNetlinkListener) : ListenerStep → Option PdmNetlinkListener
  | .plug d =>
    if d ∈ l.attached then none
    else some ({ l with attached := insert d l.attached }.emit ⟨d, true⟩)
  | .unplug d =>
    if d ∈ l.attached then
      some ({ l with attached := l.attached.erase d, steady := l.steady.erase d }.emit ⟨d, false⟩)
    else none
  | .scan d =>
    if l.phase = .scanning ∧ d ∉ l.entries then
      some (if d ∈ l.attached ∧ d.enumerated then { l with entries := l.entries ++ [d] } else l)
    else none
  | .scanned =>
    if l.phase = .scanning ∧ ∀ d ∈ l.steady, d.enumerated → d ∈ l.entries then
      some { l with phase := .reading }
    else none
  | .read d =>
    if l.phase = .reading ∧ l.entries.head? = some d then
      let l := { l with entries := l.entries.tail }
      -- `udev_device_new_from_syspath` gives NULL for a device that is gone.
      some (if d ∈ l.attached then l.handleEvent ⟨d, true⟩ else l)
    else none
  | .runListner =>
    if l.phase = .reading ∧ l.entries = [] then some { l with phase := .threadStart } else none
  | .enableReceiving =>
    if l.phase = .threadStart then some { l with phase := .listening } else none
  | .receive =>
    match l.queue with
    | [] => none
    | e :: rest =>
      if l.phase = .listening then some ({ l with queue := rest }.handleEvent e) else none

end PdmNetlinkListener

end Pdm
