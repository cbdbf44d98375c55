/-
The functions that take the lock of a partition, step by step.

They are the ones of `StorageDevice` and `PdmFs`, here as code of a thread: every access to the
partition and every call is a step of its own, so that other threads can go in between.
`partitionLock` is a `try_lock`, and no caller looks at what it returns.
-/
import Pdm.Devices.StorageDevice
import Pdm.Lib.TryLocks

namespace Pdm.PartitionLock

open TryLocks

/-- What the threads share. -/
structure Shared where
  sys : Sys
  partition : DiskPartitionInfo

abbrev Steps := Code Shared

/-- `DiskPartitionInfo::partitionLock` -/
def partitionLock : Steps Bool := .tryLock pure

/-- `DiskPartitionInfo::partitionUnLock` -/
def partitionUnLock : Steps Unit := .unlock (pure ())

/-- A getter of the partition. -/
def read {α : Type} (getter : DiskPartitionInfo → α) : Steps α :=
  .modifyGet fun s => (getter s.partition, s)

/-- A setter of the partition. -/
def write (setter : DiskPartitionInfo → DiskPartitionInfo) : Steps Unit :=
  .modifyGet fun s => ((), { s with partition := setter s.partition })

/-- A call that goes out of the daemon. -/
def call {α : Type} (operation : Sys → DiskPartitionInfo → α × Sys) : Steps α :=
  .modifyGet fun s =>
    let r := operation s.sys s.partition
    (r.1, { s with sys := r.2 })

/-- `m_storageDeviceHandlerCb(event, nullptr)` -/
def storageDeviceHandlerCb (event : EventType) : Steps Unit :=
  call fun s _ => ((), handlerCb s event none)

/-- `StorageDevice::umountPartition` -/
def umountPartition (env : Env) (lazyUnmount : Bool) : Steps PdmDevStatus := do
  let isMounted ← read (·.mounted)
  if isMounted = false then pure .success
  else
    let busy ← call fun s p => StorageDevice.driveInTheWay env s p lazyUnmount
    if busy then pure .busy
    else
      discard partitionLock
      write (·.setDriveStatus .isUnmounting)
      storageDeviceHandlerCb .umount
      let umounted ← call fun s p => PdmFs.umount env s p lazyUnmount
      if umounted then
        write (·.setDriveStatus .umountOk)
        storageDeviceHandlerCb .umount
        partitionUnLock
        pure .success
      else
        write (·.setDriveStatus .umountNotOk)
        storageDeviceHandlerCb .mount
        partitionUnLock
        pure .umountFail

/-- `PdmFs::setVolumeLabel` -/
def setVolumeLabel (env : Env) (volLabel : String) : Steps PdmDevStatus := do
  let driveName ← read (·.driveName)
  discard partitionLock
  if volLabel = "" then
    partitionUnLock
    pure .volumeLabelEmpty
  else
    let fsType ← read (·.fsType)
    let sysCommand := PdmFs.volumeLabelCommand fsType driveName volLabel
    if sysCommand = [] then
      partitionUnLock
      pure .unsupportedFs
    else
      let ret ← call fun s _ => s.runCommand env sysCommand
      if ret ≠ 0 then
        partitionUnLock
        pure .setVolumeLabelFail
      else
        write (·.setVolumeLabel volLabel)
        partitionUnLock
        pure .success

/-- The four setters of `getSpaceInfo`. -/
def writeSpace (spaceData : SpaceInfo) : Steps Unit := do
  write fun p => p.setSpace { p.space with driveSize := spaceData.driveSize }
  write fun p => p.setSpace { p.space with usedSize := spaceData.usedSize }
  write fun p => p.setSpace { p.space with freeSize := spaceData.freeSize }
  write fun p => p.setSpace { p.space with usedRate := spaceData.usedRate }

/-- `StorageDevice::getSpaceInfo`, on the partition it has found. -/
def getSpaceInfo (env : Env) (directCheck : Bool) : Steps Unit := do
  let isMounted ← read (·.mounted)
  if isMounted && directCheck then
    let mountName ← read (·.mountName)
    match PdmFs.calculateSpaceInfo env mountName with
    | none => pure ()
    | some spaceData =>
      discard partitionLock
      writeSpace spaceData
      partitionUnLock
  else pure ()

/-! ### The threads -/

/-- A call of one of the three functions. -/
inductive Section where
  | umountPartition (lazyUnmount : Bool)
  | setVolumeLabel (volLabel : String)
  | getSpaceInfo (directCheck : Bool)
  deriving DecidableEq, Repr

def Section.code (env : Env) : Section → Steps Unit
  | .umountPartition lazyUnmount => discard (PartitionLock.umountPartition env lazyUnmount)
  | .setVolumeLabel volLabel => discard (PartitionLock.setVolumeLabel env volLabel)
  | .getSpaceInfo directCheck => PartitionLock.getSpaceInfo env directCheck

def sections (env : Env) : List Section → Steps Unit
  | [] => pure ()
  | c :: rest => do
    c.code env
    sections env rest

/-- The thread of the commands, the one that takes the uevents, and
`computeSpaceInfoThread`. -/
inductive Thread where
  | command
  | removal
  | spaceInfo
  deriving DecidableEq, Repr

/-- The threads before their first step, each with the calls it makes. -/
def start (env : Env) (calls : Thread → List Section) (shared : Shared) :
    Threads Thread Shared where
  code thread := sections env (calls thread)
  shared := shared

end Pdm.PartitionLock
