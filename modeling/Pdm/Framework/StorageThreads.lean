/-
The storage handler and its check threads, which take time.

Events and commands are worked on one after the other.  The threads that an event starts
for partitions run beside them: a thread calls the checker at one moment and goes on with
the answer at a later one.  FORMAT and FSCK unmount their partition at one moment and
call their tool at a later one, and threads may begin and end in between.  Any other event
or command is one step here: what it does to a partition it decides by the flag, which a
thread sets last of all it does there.

A removal joins the threads of its device, so it is taken when the last of them has ended.
A thread keeps a bare pointer to its partition; of one that is gone it reads whatever is
left in its place.
-/
import Pdm.Framework.DeviceManager
import Pdm.Lib.Schedules

namespace Pdm

/-! ### Checks in two halves -/

namespace PdmFs

/-- `PdmFs::fsck` up to the call of `PdmFsck::fsck`, which goes on record. -/
def fsckCall (s : Sys) (partition : DiskPartitionInfo) : Sys × DiskPartitionInfo :=
  (s.record (.fsck partition.driveName partition.mountName),
    partition.setFsckStatus PARTITION_FSCK_STARTED)

/-- `PdmFs::fsck` from there on. -/
def fsckAnswer (env : Env) (s : Sys) (partition : DiskPartitionInfo) (fsckMode : String) :
    Out DiskPartitionInfo PdmDevStatus :=
  let result := PdmFsck.fsck env s fsckMode partition.fsType partition.driveName
  let partition := partition.setFsckStatus result.1.code
  if result.1 = .fsckTimeout then
    ⟨result.2, partition.setDriveStatus .needFsck, result.1⟩
  else ⟨result.2, partition, result.1⟩

end PdmFs

/-- What FORMAT and FSCK call when their partition is unmounted. -/
inductive Tool where
  | format (fsType volumeLabel : String)
  | fsck
  deriving DecidableEq, Repr

namespace StorageDevice

/-- What a thread's pointer leads to: a partition of the device, or what is left of it. -/
def partitionAt (d : StorageDevice) (partition : Nat) (freed : DiskPartitionInfo) :
    DiskPartitionInfo :=
  (d.diskPartitionList.find? (·.address = partition)).getD { freed with address := partition }

/-- `fsckOnDeviceAddThread` up to the call of `PdmFsck::fsck`. -/
def checkBegins (s : Sys) (d : StorageDevice) (partition : Nat) (freed : DiskPartitionInfo) :
    Sys × StorageDevice :=
  let r := PdmFs.fsckCall (handlerCb s .fsckStarted none) (d.partitionAt partition freed)
  (r.1, d.setPartition r.2)

/-- `fsckOnDeviceAddThread` from there on. -/
def checkEnds (env : Env) (s : Sys) (d : StorageDevice) (partition : Nat)
    (freed : DiskPartitionInfo) : Out StorageDevice Unit :=
  let f := PdmFs.fsckAnswer env s (d.partitionAt partition freed) PdmFsck.AUTO
  let r := if f.ret = .success then mountPartition env f.state f.obj false else f
  storageDeviceFsckNotification (handlerCb r.state .fsckFinished none) (d.setPartition r.obj)

/-- `formatDiskStart` behind its unmount. -/
def formatUnmounted (env : Env) (s : Sys) (d : StorageDevice) (partition : DiskPartitionInfo)
    (fsType volumeLabel : String) : Out StorageDevice PdmDevStatus :=
  let s := handlerCb s .formatStarted (some partition.address)
  let f := PdmFs.format env s partition fsType volumeLabel
  let m := if f.ret = .success then mountPartition env f.state f.obj false else f
  let d := d.setPartition m.obj
  if m.ret = .success then
    ⟨handlerCb m.state .formatSuccess (some partition.address),
      { d with errorReason := .nothing }, .success⟩
  else ⟨handlerCb m.state .formatFail (some partition.address), d, .formatFail⟩

/-- `fsck` behind its unmount. -/
def fsckUnmounted (env : Env) (s : Sys) (d : StorageDevice) (partition : DiskPartitionInfo) :
    Out StorageDevice PdmDevStatus :=
  let f := fsckPartition env s partition PdmFsck.AUTO
  ⟨f.state, d.setPartition f.obj, if f.ret = .success then .success else .fsckFail⟩

def runTool (env : Env) (s : Sys) (d : StorageDevice) (partition : DiskPartitionInfo) :
    Tool → Out StorageDevice PdmDevStatus
  | .format fsType volumeLabel => formatUnmounted env s d partition fsType volumeLabel
  | .fsck => fsckUnmounted env s d partition

/-- No check of the device is outstanding, of those under way. -/
def Free (checking : List (Nat × Nat)) (d : StorageDevice) : Prop :=
  d.fsckThreadArray = [] ∧ ∀ c ∈ checking, c.1 ≠ d.address

instance (checking : List (Nat × Nat)) (d : StorageDevice) : Decidable (d.Free checking) :=
  inferInstanceAs (Decidable (_ ∧ _))

end StorageDevice

namespace StorageDeviceHandler

/-- The partition of that name, of a device that can be written to. -/
def writableDrive (h : StorageDeviceHandler) (driveName : String) :
    Option (StorageDevice × DiskPartitionInfo) :=
  (getDeviceWithName h.storageList driveName).bind fun d =>
    (d.findPartition driveName).bind fun p => if d.isReadOnly then none else some (d, p)

/-- The partition that FORMAT or FSCK unmounts, and what it calls then. -/
def toolOf (h : StorageDeviceHandler) :
    CommandType → Option ((StorageDevice × DiskPartitionInfo) × Tool)
  | .format driveName fsType volumeLabel =>
    (h.writableDrive driveName).map fun drive => (drive, .format fsType volumeLabel)
  | .fsck driveName => (h.writableDrive (removeBlanks driveName)).map fun drive => (drive, .fsck)
  | _ => none

end StorageDeviceHandler

/-! ### Steps -/

/-- FORMAT or FSCK, between its unmount and its tool. -/
structure Work where
  device : Nat
  partition : Nat
  tool : Tool
  deriving DecidableEq, Repr

/-- The handler, the checks under way (device and partition) and the command that is
between its unmount and its tool. -/
structure StorageThreads where
  system : StorageSystem := {}
  checking : List (Nat × Nat) := []
  work : Option Work := none

inductive ThreadInput where
  | uevent (devClass : DeviceClass)
  | command (cmdtypes : CommandType)
  /-- FORMAT or FSCK calls its tool. -/
  | tool
  /-- A thread that `device` started for `partition` calls the checker. -/
  | checkBegins (device partition : Nat) (freed : DiskPartitionInfo)
  /-- The checker has answered it. -/
  | checkEnds (device partition : Nat) (freed : DiskPartitionInfo)
  /-- The connecting timeout of `device` fires. -/
  | timeout (device : Nat)
  deriving DecidableEq, Repr

namespace StorageThreads

open StorageDeviceHandler

variable (t : StorageThreads)

def devices : List StorageDevice := t.system.storage.storageList

/-- The event removes a device whose threads have not all ended. -/
def Waits (devClass : DeviceClass) : Prop :=
  devClass.action = "remove" ∧
    ∃ d ∈ removedDevice t.system.storage devClass, ¬ d.Free t.checking

instance (devClass : DeviceClass) : Decidable (t.Waits devClass) :=
  inferInstanceAs (Decidable (_ ∧ ∃ d ∈ _, _))

/-- The handler with one of its devices as a method leaves it. -/
def acted {ρ : Type} (r : Out StorageDevice ρ) : StorageSystem :=
  ⟨r.state, t.system.storage.setDevice r.obj⟩

/-- Deliver an input, where it can come. -/
def deliver (cfg : Config) (env : Env) : ThreadInput → Option StorageThreads
  | .uevent devClass =>
    if t.work.isSome ∨ t.Waits devClass then none
    else some { t with system := t.system.deliver cfg env (.uevent devClass) }
  | .command cmdtypes =>
    if t.work.isSome then none
    else
      match t.system.storage.toolOf cmdtypes with
      | none => some { t with system := t.system.deliver cfg env (.command cmdtypes) }
      | some ((d, p), tool) =>
        let u := StorageDevice.umountPartition env t.system.sys p false
        some { t with
          system := ⟨u.state, t.system.storage.setDevice (d.setPartition u.obj)⟩
          work := if u.ret = .success then some ⟨d.address, p.address, tool⟩ else none }
  | .tool =>
    t.work.bind fun k =>
      (t.devices.find? (·.address = k.device)).bind fun d =>
        (d.diskPartitionList.find? (·.address = k.partition)).map fun p =>
          { t with system := t.acted (d.runTool env t.system.sys p k.tool), work := none }
  | .checkBegins device partition freed =>
    (t.devices.find? (·.address = device)).bind fun d =>
      if partition ∈ d.fsckThreadArray then
        let r := StorageDevice.checkBegins t.system.sys
          { d with fsckThreadArray := d.fsckThreadArray.erase partition } partition freed
        some { t with
          system := ⟨r.1, t.system.storage.setDevice r.2⟩
          checking := t.checking ++ [(device, partition)] }
      else none
  | .checkEnds device partition freed =>
    if (device, partition) ∈ t.checking then
      (t.devices.find? (·.address = device)).map fun d =>
        { t with
          system := t.acted (d.checkEnds env t.system.sys partition freed)
          checking := t.checking.erase (device, partition) }
    else none
  | .timeout device => some { t with system := t.system.deliver cfg env (.timeout device) }

def clear : StorageThreads := { t with system := t.system.clear }

/-- One step, with its own calls on record. -/
def step (cfg : Config) (t : StorageThreads) (i : Env × ThreadInput) : Option StorageThreads :=
  t.clear.deliver cfg i.1 i.2

end StorageThreads

end Pdm
