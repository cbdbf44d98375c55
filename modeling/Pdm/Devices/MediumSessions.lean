/-
Media that are put into one disk, one after the other.

A session begins with the event that reports the medium, the add of the disk or, in a card
reader, a change; then the medium's partitions are announced, in some order and maybe more
than once, and the threads that the announcements start run.  Before a card is replaced,
another change event may have reported that it was taken out.

`submitted` is a record of the drives that were handed to a check, or on a read-only disk
to a mount.  The checks are read off the threads that the device has after an event; the mounts
of a read-only disk are those that `setPartitionInfo` makes with `startPartitions`.
-/
import Pdm.Proofs.Calls
import Pdm.Lib.Runs

namespace Pdm

namespace StorageDevice

/-- The drives for which `e` has threads that `d` has not. -/
def started (d e : StorageDevice) : List String :=
  (e.diskPartitionList.filter fun p =>
    p.address ∈ e.fsckThreadArray.drop d.fsckThreadArray.length).map (·.driveName)

/-- The drives that `setPartitionInfo` hands on when it calls `startPartitions`. -/
def submissions (env : Env) (s : Sys) (d : StorageDevice) (devClass : DeviceClass) : List String :=
  if (d.findPartition devClass.devName).isSome then []
  else
    let r := (addPartition env s d devClass).obj
    if r.partitionCount = 0 ∨ (r.diskPartitionList.length : Int) = r.partitionCount then
      (r.diskPartitionList.filter (·.isSupportedFs)).map (·.driveName)
    else []

end StorageDevice

/-- A medium in the disk. -/
structure SessionState where
  sys : Sys
  device : StorageDevice
  submitted : List String := []

inductive MediumEvent where
  /-- the add event of a partition -/
  | announce (part : DeviceClass)
  /-- a thread that was started for a partition runs -/
  | check (partition : Nat)
  deriving DecidableEq

structure MediumSession where
  /-- The change event that reports the card before as taken out, if there is one. -/
  takenOut : Option (Env × DeviceClass) := none
  env : Env := {}
  /-- The event that reports the medium. -/
  start : DeviceClass
  parts : List DeviceClass
  events : List MediumEvent

namespace MediumSession

/-- The partitions that are announced, in the order of their first announcements. -/
def arrive (known : List DeviceClass) : MediumEvent → List DeviceClass
  | .announce part =>
    if part.devName ∈ known.map (·.devName) then known else known ++ [part]
  | .check _ => known

@[inherit_doc arrive]
def arrivals (m : MediumSession) : List DeviceClass := Runs.run arrive [] m.events

/-- A session of a medium: its partitions have names of their own, each of them is
announced, and nothing else is. -/
structure Proper (m : MediumSession) : Prop where
  nonempty : m.parts ≠ []
  distinct : (m.parts.map (·.devName)).Nodup
  named : ∀ part ∈ m.parts, part.devName ≠ ""
  partition : ∀ part ∈ m.parts, sMapUsbDeviceType part.devType = .typeDevPartition
  announced : ∀ part, .announce part ∈ m.events ↔ part ∈ m.parts

/-- The event that reports a medium, or that one was taken out, in a card reader. -/
def Changes (devClass : DeviceClass) : Prop :=
  sMapUsbDeviceType devClass.devType = .typeDevDisk ∧
    getDeviceAction devClass.action = .usbDevChange

/-- The session of a card that is put into the reader with this name. -/
structure Inserted (name : String) (m : MediumSession) : Prop where
  start : Changes m.start
  counted : m.env.partitionCount name = m.parts.length
  takenOut : ∀ env devClass, m.takenOut = some (env, devClass) →
    Changes devClass ∧ env.partitionCount name = 0

/-- The first session on a disk: the disk is added with a medium in it, or the first card
is put into a reader that was added without one. -/
structure Opens (d : StorageDevice) (m : MediumSession) : Prop where
  takenOut : m.takenOut = none
  start : (sMapUsbDeviceType m.start.devType = .typeDevDisk ∧
      getDeviceAction m.start.action = .usbDevAdd ∧
      m.env.partitionCount m.start.devName = m.parts.length) ∨
    (d.storageType = .usbCardReader ∧ d.partitionCount = 0 ∧ m.Inserted d.deviceName)

/-- The name of the disk, once its first session has begun. -/
def diskName (d : StorageDevice) (m : MediumSession) : String :=
  if getDeviceAction m.start.action = .usbDevAdd then m.start.devName else d.deviceName

/-- Whether the disk is a card reader then. -/
def IsReader (d : StorageDevice) (m : MediumSession) : Prop :=
  if getDeviceAction m.start.action = .usbDevAdd then m.start.isCardReader = YES
  else d.storageType = .usbCardReader

/-- The sessions on one disk, from the beginning; only a card reader has more than one. -/
structure OneDisk (d : StorageDevice) (first : MediumSession) (later : List MediumSession) :
    Prop where
  empty : d.diskPartitionList = []
  idle : d.fsckThreadArray = []
  removed : d.isSdCardRemoved = false
  opens : first.Opens d
  proper : ∀ m ∈ first :: later, m.Proper
  inserted : ∀ m ∈ later, m.Inserted (first.diskName d)
  reader : later ≠ [] → first.IsReader d

end MediumSession

namespace SessionState

/-- An event of a session. -/
def step (env : Env) (t : SessionState) : MediumEvent → SessionState
  | .announce part =>
    let r := t.device.setDeviceInfo env t.sys part
    { sys := r.state
      device := r.obj
      submitted := t.submitted ++
        if t.device.isReadOnly = false then t.device.started r.obj
        else if t.device.isSdCardRemoved then []
        else t.device.submissions env t.sys part }
  | .check partition =>
    if partition ∈ t.device.fsckThreadArray then
      let r := StorageDevice.fsckOnDeviceAddThread env t.sys
        { t.device with fsckThreadArray := t.device.fsckThreadArray.erase partition } partition
      { t with sys := r.state, device := r.obj }
    else t

/-- The disk handles an event of its own. -/
def disk (env : Env) (t : SessionState) (devClass : DeviceClass) : SessionState :=
  let r := t.device.setDeviceInfo env t.sys devClass
  { t with sys := r.state, device := r.obj }

/-- A session begins. -/
def begin (t : SessionState) (m : MediumSession) : SessionState :=
  let t := { t with submitted := [] }
  match m.takenOut with
  | none => t.disk m.env m.start
  | some (env, devClass) => (t.disk env devClass).disk m.env m.start

/-- A session from its beginning to its end. -/
def play (t : SessionState) (m : MediumSession) : SessionState :=
  Runs.run (step m.env) (t.begin m) m.events

end SessionState

end Pdm
