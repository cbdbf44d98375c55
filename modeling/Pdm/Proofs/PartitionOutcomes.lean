/-
What becomes of a partition that is mounted or checked.

It depends on the partition and on the system's answers, and neither on the mount table
nor on the partition's address.  So `final` can say, for a partition that is announced,
what it comes to.
-/
import Pdm.Proofs.Devices

namespace Pdm

open Visit (visit)

/-- The same partition at another address. -/
def DiskPartitionInfo.moved (p : DiskPartitionInfo) (address : Nat) : DiskPartitionInfo :=
  { p with address := address }

theorem PdmDevStatus.code_injective {a b : PdmDevStatus} (h : a.code = b.code) : a = b := by
  cases a <;> cases b <;> first | rfl | exact absurd h (by decide)

namespace StorageDevice

variable (env : Env) (s : Sys) (p : DiskPartitionInfo) (address : Nat)

/-! ### One partition -/

theorem mountFs_outcome (readOnly : Bool) :
    (PdmFs.mountPartition env s (p.moved address) readOnly).obj =
      (PdmFs.mountPartition env {} p readOnly).obj.moved address := by
  have hr := (mountRetry_eq env s (PdmFs.mountCall (p.moved address) readOnly)).1
  have hr' := (mountRetry_eq env {} (PdmFs.mountCall p readOnly)).1
  have hcall : PdmFs.mountCall (p.moved address) readOnly = PdmFs.mountCall p readOnly := rfl
  have hname : (p.moved address).mountName = p.mountName := rfl
  unfold PdmFs.mountPartition
  dsimp only
  rw [hr, hr', hcall, hname]
  split
  · rfl
  · split
    · cases PdmFs.calculateSpaceInfo env p.mountName <;> rfl
    · rfl

theorem mountPartition_outcome (readOnly : Bool) :
    (mountPartition env s (p.moved address) readOnly).obj =
      (mountPartition env {} p readOnly).obj.moved address := by
  have hobj := mountFs_outcome env (handlerCb s .mount none) (p.setDriveStatus .isMounting)
    address readOnly
  have hobj' := mountFs_outcome env (handlerCb {} .mount none) (p.setDriveStatus .isMounting)
    p.address readOnly
  have hret := (mountFs_eq env (handlerCb s .mount none)
    ((p.moved address).setDriveStatus .isMounting) readOnly).1
  have hret' := (mountFs_eq env (handlerCb {} .mount none) (p.setDriveStatus .isMounting)
    readOnly).1
  have hmoved : (p.moved address).setDriveStatus .isMounting =
      (p.setDriveStatus .isMounting).moved address := rfl
  have hself : (p.setDriveStatus .isMounting).moved p.address = p.setDriveStatus .isMounting := rfl
  have hmounts : env.mounts ((p.setDriveStatus .isMounting).moved address) readOnly =
      env.mounts (p.setDriveStatus .isMounting) readOnly := rfl
  rw [hself] at hobj'
  unfold mountPartition
  dsimp only
  rw [hret, hret', hmoved, hobj, hobj', hmounts]
  split <;> rfl

theorem fsckFs_outcome (fsckMode : String) :
    (PdmFs.fsck env s (p.moved address) fsckMode).obj =
      (PdmFs.fsck env {} p fsckMode).obj.moved address := by
  have hstatus := fsck_status env (s.record (.fsck p.driveName p.mountName)) p fsckMode
  have hstatus' := fsck_status env (Sys.record {} (.fsck p.driveName p.mountName)) p fsckMode
  unfold PdmFs.fsck
  dsimp only [DiskPartitionInfo.setFsckStatus, DiskPartitionInfo.moved] at hstatus hstatus' ⊢
  rw [hstatus, hstatus']
  split <;> rfl

theorem fsckPartition_outcome (fsckMode : String) :
    (fsckPartition env s (p.moved address) fsckMode).obj =
      (fsckPartition env {} p fsckMode).obj.moved address := by
  have hobj := fsckFs_outcome env (handlerCb s .fsckStarted none) p address fsckMode
  have hobj' : (PdmFs.fsck env (handlerCb {} .fsckStarted none) p fsckMode).obj =
      (PdmFs.fsck env {} p fsckMode).obj.moved p.address :=
    fsckFs_outcome env (handlerCb {} .fsckStarted none) p p.address fsckMode
  have hret := (fsckFs_eq env (handlerCb s .fsckStarted none) (p.moved address) fsckMode).1
  have hret' := (fsckFs_eq env (handlerCb {} .fsckStarted none) p fsckMode).1
  have hchecks : env.checkStatus (p.moved address) fsckMode = env.checkStatus p fsckMode := rfl
  unfold fsckPartition
  dsimp only
  rw [hret, hret', hchecks, hobj]
  by_cases hok : env.checkStatus p fsckMode = .success
  · rw [if_pos hok, if_pos hok, mountPartition_outcome, hobj', mountPartition_outcome]
    rfl
  · rw [if_neg hok, if_neg hok, hobj, hobj']
    rfl

/-- Mounting a partition elsewhere comes to the same. -/
theorem mountPartition_moved (readOnly : Bool) :
    (mountPartition env s p readOnly).obj.moved address =
      (mountPartition env {} (p.moved address) readOnly).obj := by
  have hself : (mountPartition env s p readOnly).obj =
      (mountPartition env {} p readOnly).obj.moved p.address :=
    mountPartition_outcome env s p p.address readOnly
  rw [hself, mountPartition_outcome]
  rfl

theorem mountSupported_moved (readOnly : Bool) :
    (mountSupported env readOnly s p).obj.moved address =
      (mountSupported env readOnly {} (p.moved address)).obj := by
  have hsupported : (p.moved address).isSupportedFs = p.isSupportedFs := rfl
  unfold mountSupported
  rw [hsupported]
  split
  · exact mountPartition_moved env s p address readOnly
  · rfl

/-- Checking a partition elsewhere comes to the same. -/
theorem fsckPartition_moved (fsckMode : String) :
    (fsckPartition env s p fsckMode).obj.moved address =
      (fsckPartition env {} (p.moved address) fsckMode).obj := by
  have hself : (fsckPartition env s p fsckMode).obj =
      (fsckPartition env {} p fsckMode).obj.moved p.address :=
    fsckPartition_outcome env s p p.address fsckMode
  rw [hself, fsckPartition_outcome]
  rfl

/-- So the system's state does not matter. -/
theorem fsckPartition_obj (fsckMode : String) :
    (fsckPartition env s p fsckMode).obj = (fsckPartition env {} p fsckMode).obj := by
  have hself : (fsckPartition env s p fsckMode).obj =
      (fsckPartition env {} p fsckMode).obj.moved p.address :=
    fsckPartition_outcome env s p p.address fsckMode
  have haddress : p.address = (fsckPartition env {} p fsckMode).obj.address :=
    (DiskPartitionInfo.ident_eq_iff.mp (fsckPartition_ident env {} p fsckMode)).1.symm
  rw [hself, haddress]
  rfl

theorem mountPartition_obj (readOnly : Bool) :
    (mountPartition env s p readOnly).obj = (mountPartition env {} p readOnly).obj := by
  have hself : (mountPartition env s p readOnly).obj =
      (mountPartition env {} p readOnly).obj.moved p.address :=
    mountPartition_outcome env s p p.address readOnly
  have haddress : p.address = (mountPartition env {} p readOnly).obj.address :=
    (DiskPartitionInfo.ident_eq_iff.mp (mountPartition_ident env {} p readOnly)).1.symm
  rw [hself, haddress]
  rfl

/-! ### What is known of the check -/

theorem mountPartition_fsckStatus (readOnly : Bool) :
    (mountPartition env s p readOnly).obj.fsckStatus = p.fsckStatus := by
  unfold mountPartition PdmFs.mountPartition
  dsimp only
  split
  · rfl
  · split
    · cases PdmFs.calculateSpaceInfo env (p.setDriveStatus .isMounting).mountName <;> rfl
    · rfl

theorem fsckFs_fsckStatus (fsckMode : String) :
    (PdmFs.fsck env s p fsckMode).obj.fsckStatus = (env.checkStatus p fsckMode).code := by
  have hstatus := fsck_status env (s.record (.fsck p.driveName p.mountName)) p fsckMode
  unfold PdmFs.fsck
  dsimp only [DiskPartitionInfo.setFsckStatus] at hstatus ⊢
  rw [hstatus]
  split <;> rfl

/-- The verdict of a check is left in the partition. -/
theorem fsckPartition_fsckStatus (fsckMode : String) :
    (fsckPartition env s p fsckMode).obj.fsckStatus = (env.checkStatus p fsckMode).code := by
  unfold fsckPartition
  dsimp only
  split
  · rw [mountPartition_fsckStatus]
    exact fsckFs_fsckStatus env _ p fsckMode
  · exact fsckFs_fsckStatus env _ p fsckMode

/-! ### All partitions of a device -/

variable (d : StorageDevice) (devClass : DeviceClass)

/-- The partition that `setPartitionInfo` lists. -/
def listed (address : Nat) : DiskPartitionInfo :=
  { d.newPartition address devClass with
    isSupportedFs := PdmFs.isSupportedFileSystem (d.newPartition address devClass).fsType
      (sMapStorageType d.storageType) }

/-- What it comes to. -/
def final : DiskPartitionInfo :=
  if (d.listed devClass 0).isSupportedFs = true then
    if d.isReadOnly then (mountPartition env {} (d.listed devClass 0) true).obj
    else (fsckPartition env {} (d.listed devClass 0) PdmFsck.AUTO).obj
  else d.listed devClass 0

theorem listed_of_core {d e : StorageDevice} (h : d.core = e.core) :
    d.listed devClass address = e.listed devClass address := by
  have hname : d.productName = e.productName := congrArg (·.productName) h
  unfold listed newPartition
  rw [storageType_of_core h, configRootPath_of_core h, rootPath_of_core h, hname]

/-- The partitions after they have all been mounted. -/
theorem mountAllPartition_list :
    (mountAllPartition env s d).obj.diskPartitionList.map (·.moved 0) =
      d.diskPartitionList.map fun p => (mountSupported env d.isReadOnly {} (p.moved 0)).obj :=
  Visit.visit_image (fun s p => mountSupported_moved env s p 0 d.isReadOnly)
    d.diskPartitionList s

end StorageDevice

end Pdm
