/-
What a method of a storage device leaves as it was.

A device is described by three things a method may or may not change: its `core` (what
is known of the device itself), its `idents` (which partitions it lists) and the
allocations made meanwhile.  Most methods change none of them; the few that do are the
ones a uevent runs, and each is described here by what it does to the three.
-/
import Pdm.Lib.Keyed
import Pdm.Proofs.Partitions

namespace Pdm

open Visit (visit)

namespace StorageDevice

/-- What is known of the device itself: everything but its partitions and the state
that mounting and announcing them sets. -/
def core (d : StorageDevice) : StorageDevice :=
  { d with
    diskPartitionList := []
    errorReason := .nothing
    deviceStatus := .nothing
    deviceIsMounted := false
    hasUnsupportedFs := false
    isDevAddEventNotified := false
    isSdCardRemoved := false
    isPowerOnConnect := false
    partitionCount := 0
    timeoutPending := false
    fsckThreadCount := 0
    fsckThreadArray := [] }

/-- The partitions a device lists, as far as no operation on a partition changes them. -/
def idents (d : StorageDevice) : List (Nat × String × String × String × Bool) :=
  d.diskPartitionList.map (·.ident)

section Core

variable {d e : StorageDevice} (h : d.core = e.core)
include h

theorem address_of_core : d.address = e.address := congrArg (·.address) h
theorem node_of_core : d.node = e.node := congrArg (·.node) h
theorem rootPath_of_core : d.rootPath = e.rootPath := congrArg (·.rootPath) h
theorem configRootPath_of_core : d.configRootPath = e.configRootPath :=
  congrArg (·.configRootPath) h
theorem deviceName_of_core : d.deviceName = e.deviceName := congrArg (·.deviceName) h
theorem isReadOnly_of_core : d.isReadOnly = e.isReadOnly := congrArg (·.isReadOnly) h
theorem storageType_of_core : d.storageType = e.storageType := congrArg (·.storageType) h
theorem isExtraSdCard_of_core : d.isExtraSdCard = e.isExtraSdCard :=
  congrArg (·.isExtraSdCard) h

end Core

variable (env : Env) (s : Sys) (d : StorageDevice) (devClass : DeviceClass)

/-! ### Loops over the partitions -/

section Loops

variable (r : Out (List DiskPartitionInfo) (List PdmDevStatus)) (failure : PdmDevStatus)

@[simp] theorem afterLoop_core : (d.afterLoop r failure).obj.core = d.core := rfl

@[simp] theorem afterLoop_list : (d.afterLoop r failure).obj.diskPartitionList = r.obj := rfl

@[simp] theorem afterLoop_state : (d.afterLoop r failure).state = r.state := rfl

end Loops

/-- A loop succeeds when every call does. -/
theorem worst_success {rets : List PdmDevStatus} {failure : PdmDevStatus}
    (h : failure ≠ .success) : worst rets failure = .success ↔ ∀ r ∈ rets, r = .success := by
  unfold worst
  rw [ite_eq_right_iff, List.any_eq_true]
  constructor
  · intro hall r hr
    by_contra hne
    exact h (hall ⟨r, hr, by simpa using hne⟩)
  · rintro hall ⟨r, hr, hne⟩
    exact absurd (hall r hr) (by simpa using hne)

/-- A loop of a method that keeps what a partition is keeps the list of them. -/
theorem visit_idents {f : Sys → DiskPartitionInfo → Out DiskPartitionInfo PdmDevStatus}
    (hf : ∀ s p, (f s p).obj.ident = p.ident) (l : List DiskPartitionInfo) :
    (visit f s l).obj.map (·.ident) = l.map (·.ident) :=
  Visit.visit_map hf l s

theorem visit_next {f : Sys → DiskPartitionInfo → Out DiskPartitionInfo PdmDevStatus}
    (hf : ∀ s p, (f s p).state.next = s.next) (l : List DiskPartitionInfo) :
    (visit f s l).state.next = s.next :=
  Visit.visit_state (P := fun t : Sys => t.next = s.next)
    (fun t p _ h => (hf t p).trans h) rfl

theorem visit_notables {f : Sys → DiskPartitionInfo → Out DiskPartitionInfo PdmDevStatus}
    (hf : ∀ s p, (f s p).state.notables = s.notables) (l : List DiskPartitionInfo) :
    (visit f s l).state.notables = s.notables :=
  Visit.visit_state (P := fun t : Sys => t.notables = s.notables)
    (fun t p _ h => (hf t p).trans h) rfl

@[simp] theorem umountAllPartition_core (lazyUnmount : Bool) :
    (umountAllPartition env s d lazyUnmount).obj.core = d.core := rfl

@[simp] theorem umountAllPartition_idents (lazyUnmount : Bool) :
    (umountAllPartition env s d lazyUnmount).obj.idents = d.idents :=
  visit_idents s (fun s p => umountPartition_ident env s p lazyUnmount) d.diskPartitionList

@[simp] theorem umountAllPartition_next (lazyUnmount : Bool) :
    (umountAllPartition env s d lazyUnmount).state.next = s.next :=
  visit_next s (fun s p => umountPartition_next env s p lazyUnmount) d.diskPartitionList

@[simp] theorem umountAllPartition_notables (lazyUnmount : Bool) :
    (umountAllPartition env s d lazyUnmount).state.notables = s.notables :=
  visit_notables s (fun s p => umountPartition_notables env s p lazyUnmount) d.diskPartitionList

@[simp] theorem mountSupported_ident (readOnly : Bool) (p : DiskPartitionInfo) :
    (mountSupported env readOnly s p).obj.ident = p.ident := by
  unfold mountSupported; split <;> simp

@[simp] theorem mountSupported_next (readOnly : Bool) (p : DiskPartitionInfo) :
    (mountSupported env readOnly s p).state.next = s.next := by
  unfold mountSupported; split <;> simp

@[simp] theorem mountSupported_notables (readOnly : Bool) (p : DiskPartitionInfo) :
    (mountSupported env readOnly s p).state.notables = s.notables := by
  unfold mountSupported; split <;> simp

@[simp] theorem mountAllPartition_core : (mountAllPartition env s d).obj.core = d.core := rfl

@[simp] theorem mountAllPartition_idents : (mountAllPartition env s d).obj.idents = d.idents :=
  visit_idents s (fun s p => mountSupported_ident env s d.isReadOnly p) d.diskPartitionList

@[simp] theorem mountAllPartition_next : (mountAllPartition env s d).state.next = s.next :=
  visit_next s (fun s p => mountSupported_next env s d.isReadOnly p) d.diskPartitionList

@[simp] theorem mountAllPartition_notables :
    (mountAllPartition env s d).state.notables = s.notables :=
  visit_notables s (fun s p => mountSupported_notables env s d.isReadOnly p) d.diskPartitionList

@[simp] theorem deletePartitionData_core : (deletePartitionData env s d).obj.core = d.core := rfl

@[simp] theorem deletePartitionData_list :
    (deletePartitionData env s d).obj.diskPartitionList = [] := rfl

@[simp] theorem deletePartitionData_idents : (deletePartitionData env s d).obj.idents = [] := rfl

@[simp] theorem deletePartitionData_next : (deletePartitionData env s d).state.next = s.next :=
  umountAllPartition_next env s d true

@[simp] theorem deletePartitionData_notables :
    (deletePartitionData env s d).state.notables = s.notables :=
  umountAllPartition_notables env s d true

@[simp] theorem enforcePartition_ident (needFsck : Bool) (p : DiskPartitionInfo) :
    (enforcePartition env needFsck s p).obj.ident = p.ident := by
  unfold enforcePartition
  split
  · simp
  · split <;> simp

@[simp] theorem enforcePartition_next (needFsck : Bool) (p : DiskPartitionInfo) :
    (enforcePartition env needFsck s p).state.next = s.next := by
  unfold enforcePartition
  split
  · simp
  · split <;> simp

@[simp] theorem enforceFsckAndMount_core (needFsck : Bool) :
    (enforceFsckAndMount env s d needFsck).obj.core = d.core := by
  unfold enforceFsckAndMount; dsimp only; split <;> rfl

theorem enforceFsckAndMount_list (needFsck : Bool) :
    (enforceFsckAndMount env s d needFsck).obj.diskPartitionList =
      (visit (enforcePartition env needFsck) s d.diskPartitionList).obj := by
  unfold enforceFsckAndMount; dsimp only; split <;> rfl

@[simp] theorem enforceFsckAndMount_state (needFsck : Bool) :
    (enforceFsckAndMount env s d needFsck).state =
      (visit (enforcePartition env needFsck) s d.diskPartitionList).state := by
  unfold enforceFsckAndMount; dsimp only; split <;> rfl

@[simp] theorem enforceFsckAndMount_idents (needFsck : Bool) :
    (enforceFsckAndMount env s d needFsck).obj.idents = d.idents := by
  unfold idents
  rw [enforceFsckAndMount_list]
  exact visit_idents s (fun s p => enforcePartition_ident env s needFsck p) d.diskPartitionList

/-! ### One partition of the device -/

theorem findPartition_mem {driveName : String} {p : DiskPartitionInfo}
    (h : d.findPartition driveName = some p) :
    p ∈ d.diskPartitionList ∧ p.driveName = driveName := by
  unfold findPartition at h
  split at h
  · exact absurd h (by simp)
  · have hname := List.find?_some h
    exact ⟨List.mem_of_find?_eq_some h, (of_decide_eq_true hname).symm⟩

theorem findPartition_isSome {driveName : String} (hname : driveName ≠ "") :
    (d.findPartition driveName).isSome = true ↔
      driveName ∈ d.diskPartitionList.map (·.driveName) := by
  unfold findPartition
  rw [if_neg hname, List.find?_isSome, List.mem_map]
  simp [eq_comm]

theorem findPartition_empty : d.findPartition "" = none := rfl

@[simp] theorem setPartition_core (p : DiskPartitionInfo) : (d.setPartition p).core = d.core := rfl

@[simp] theorem setPartition_list (p : DiskPartitionInfo) :
    (d.setPartition p).diskPartitionList =
      d.diskPartitionList.map fun q => if q.address = p.address then p else q := rfl

theorem mem_setPartition {p q : DiskPartitionInfo} (h : q ∈ (d.setPartition p).diskPartitionList) :
    q = p ∨ (q ∈ d.diskPartitionList ∧ q.address ≠ p.address) :=
  Keyed.mem_put (fun r : DiskPartitionInfo => r.address) h

/-- Putting a changed partition back keeps the list of partitions, when no two have one
address. -/
theorem setPartition_idents {p q : DiskPartitionInfo} (hp : p ∈ d.diskPartitionList)
    (hq : q.ident = p.ident) (hnodup : (d.diskPartitionList.map (·.address)).Nodup) :
    (d.setPartition q).idents = d.idents :=
  Keyed.map_put (fun r : DiskPartitionInfo => r.address) (·.ident) hnodup hp
    (DiskPartitionInfo.ident_eq_iff.mp hq).1 hq

/-! ### Notifications -/

@[simp] theorem storageDeviceNotification_core :
    (storageDeviceNotification s d).obj.core = d.core := by
  unfold storageDeviceNotification; dsimp only; split
  · rfl
  · split <;> rfl

@[simp] theorem storageDeviceNotification_list :
    (storageDeviceNotification s d).obj.diskPartitionList = d.diskPartitionList := by
  unfold storageDeviceNotification; dsimp only; split
  · rfl
  · split <;> rfl

@[simp] theorem storageDeviceNotification_mounted :
    (storageDeviceNotification s d).state.mounted = s.mounted := by
  unfold storageDeviceNotification; dsimp only; split
  · simp
  · split <;> simp

@[simp] theorem storageDeviceNotification_next :
    (storageDeviceNotification s d).state.next = s.next := by
  unfold storageDeviceNotification; dsimp only; split
  · simp
  · split <;> simp

@[simp] theorem storageDeviceNotification_notables :
    (storageDeviceNotification s d).state.notables = s.notables := by
  unfold storageDeviceNotification; dsimp only; split
  · simp [handlerCb_notables]
  · split <;> simp [handlerCb_notables]

@[simp] theorem storageDeviceFsckNotification_core :
    (storageDeviceFsckNotification s d).obj.core = d.core := by
  unfold storageDeviceFsckNotification; dsimp only; split
  · exact storageDeviceNotification_core ..
  · rfl

@[simp] theorem storageDeviceFsckNotification_list :
    (storageDeviceFsckNotification s d).obj.diskPartitionList = d.diskPartitionList := by
  unfold storageDeviceFsckNotification; dsimp only; split
  · exact storageDeviceNotification_list ..
  · rfl

@[simp] theorem storageDeviceFsckNotification_mounted :
    (storageDeviceFsckNotification s d).state.mounted = s.mounted := by
  unfold storageDeviceFsckNotification; dsimp only; split <;> simp

@[simp] theorem storageDeviceFsckNotification_next :
    (storageDeviceFsckNotification s d).state.next = s.next := by
  unfold storageDeviceFsckNotification; dsimp only; split <;> simp

@[simp] theorem storageDeviceFsckNotification_notables :
    (storageDeviceFsckNotification s d).state.notables = s.notables := by
  unfold storageDeviceFsckNotification; dsimp only; split <;> simp

/-! ### The methods a uevent runs -/

@[simp] theorem countPartitions_mounted (devName : String) :
    (countPartitions env s devName).2.mounted = s.mounted := by
  unfold countPartitions; split <;> rfl

@[simp] theorem countPartitions_next (devName : String) :
    (countPartitions env s devName).2.next = s.next := by
  unfold countPartitions; split <;> rfl

@[simp] theorem countPartitions_notables (devName : String) :
    (countPartitions env s devName).2.notables = s.notables := by
  unfold countPartitions; split <;> simp

@[simp] theorem startPartitions_core : (startPartitions env s d).obj.core = d.core := by
  unfold startPartitions
  split
  · split
    · dsimp only
      rw [storageDeviceNotification_core, mountAllPartition_core]
    · rfl
  · rfl

@[simp] theorem startPartitions_idents : (startPartitions env s d).obj.idents = d.idents := by
  unfold startPartitions
  split
  · split
    · have h := mountAllPartition_idents env s d
      unfold idents at h ⊢
      simpa using h
    · rfl
  · rfl

@[simp] theorem startPartitions_next : (startPartitions env s d).state.next = s.next := by
  unfold startPartitions
  split
  · split <;> simp
  · simp

@[simp] theorem startPartitions_notables :
    (startPartitions env s d).state.notables = s.notables := by
  unfold startPartitions
  split
  · split <;> simp
  · simp [handlerCb_notables]

/-- The partition an event gives a device. -/
def newPartition (d : StorageDevice) (address : Nat) (devClass : DeviceClass) :
    DiskPartitionInfo :=
  { (DiskPartitionInfo.new address devClass.devPath d.configRootPath) with
    storageType := d.storageType, productName := d.productName }.setPartitionInfo devClass d.rootPath

/-- The mount name of that partition. -/
def newMountName (d : StorageDevice) (devClass : DeviceClass) : String :=
  if devClass.devName ≠ "" ∧ d.rootPath ≠ "" then d.rootPath ++ "/" ++ devClass.devName else ""

@[simp] theorem newPartition_mountName (address : Nat) :
    (d.newPartition address devClass).mountName = d.newMountName devClass := rfl

@[simp] theorem newPartition_driveName (address : Nat) :
    (d.newPartition address devClass).driveName = devClass.devName := rfl

@[simp] theorem newPartition_address (address : Nat) :
    (d.newPartition address devClass).address = address := rfl

@[simp] theorem newPartition_node (address : Nat) :
    (d.newPartition address devClass).node = devClass.devPath := rfl

@[simp] theorem newPartition_mounted (address : Nat) :
    (d.newPartition address devClass).mounted = false := rfl

/-- `addPartition` lists the new partition last and unmounted. -/
theorem addPartition_list :
    (addPartition env s d devClass).obj.diskPartitionList =
      d.diskPartitionList ++ [{ d.newPartition s.next devClass with
        isSupportedFs := PdmFs.isSupportedFileSystem (d.newPartition s.next devClass).fsType
          (sMapStorageType d.storageType) }] := rfl

@[simp] theorem addPartition_core : (addPartition env s d devClass).obj.core = d.core := rfl

@[simp] theorem addPartition_mounted :
    (addPartition env s d devClass).state.mounted = s.mounted := by
  unfold addPartition PdmFs.checkFileSystem
  simp

@[simp] theorem addPartition_next :
    (addPartition env s d devClass).state.next = s.next + 1 := by
  unfold addPartition PdmFs.checkFileSystem
  simp

@[simp] theorem addPartition_notables :
    (addPartition env s d devClass).state.notables = s.notables := by
  unfold addPartition PdmFs.checkFileSystem
  simp

@[simp] theorem setPartitionInfo_core : (setPartitionInfo env s d devClass).obj.core = d.core := by
  unfold setPartitionInfo
  split
  · rfl
  · dsimp only
    split
    · exact startPartitions_core ..
    · rfl

@[simp] theorem setPartitionInfo_notables :
    (setPartitionInfo env s d devClass).state.notables = s.notables := by
  unfold setPartitionInfo
  split
  · rfl
  · dsimp only
    split <;> simp

@[simp] theorem handleCardReaderDeviceChange_core :
    (handleCardReaderDeviceChange env s d).obj.core = d.core := by
  unfold handleCardReaderDeviceChange
  dsimp only
  split
  · split <;> rfl
  · rfl

@[simp] theorem handleCardReaderDeviceChange_next :
    (handleCardReaderDeviceChange env s d).state.next = s.next := by
  unfold handleCardReaderDeviceChange
  dsimp only
  split
  · split <;> simp
  · simp

@[simp] theorem handleCardReaderDeviceChange_notables :
    (handleCardReaderDeviceChange env s d).state.notables = s.notables := by
  unfold handleCardReaderDeviceChange
  dsimp only
  split
  · split <;> simp [handlerCb_notables]
  · simp

@[simp] theorem checkSdCardAddRemove_core :
    (checkSdCardAddRemove env s d devClass).obj.core = d.core := by
  unfold checkSdCardAddRemove
  split
  · rfl
  · split
    · rfl
    · split
      · rfl
      · dsimp only
        split <;> rfl

@[simp] theorem triggerUevent_core : (triggerUevent env s d).obj.core = d.core := by
  unfold triggerUevent; split <;> rfl

@[simp] theorem triggerUevent_list :
    (triggerUevent env s d).obj.diskPartitionList = d.diskPartitionList := by
  unfold triggerUevent; split <;> rfl

@[simp] theorem triggerUevent_threads :
    (triggerUevent env s d).obj.fsckThreadArray = d.fsckThreadArray := by
  unfold triggerUevent; split <;> rfl

@[simp] theorem triggerUevent_ret : (triggerUevent env s d).ret = d.isSdCardRemoved := by
  unfold triggerUevent
  split
  · rename_i h; exact h.symm
  · rename_i h; simpa using h

@[simp] theorem triggerUevent_mounted : (triggerUevent env s d).state.mounted = s.mounted := by
  unfold triggerUevent; split <;> rfl

@[simp] theorem triggerUevent_next : (triggerUevent env s d).state.next = s.next := by
  unfold triggerUevent; split <;> rfl

@[simp] theorem triggerUevent_notables :
    (triggerUevent env s d).state.notables = s.notables := by
  unfold triggerUevent; split <;> simp

end StorageDevice

end Pdm
