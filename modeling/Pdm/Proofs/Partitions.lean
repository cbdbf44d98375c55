/-
What an operation on one partition does: to the mount table, to the partition's flag,
and to the record.

Each operation is described by its effect on these, in terms of the answers the system
will give (`Env.busy`, `Env.letsGo`, `Env.mounts`, `Env.checkStatus`).  Everything
above this file uses the descriptions and never opens an operation again.
-/
import Pdm.Proofs.Calls

namespace Pdm

open Visit (visit)

/-- What no operation on a partition changes. -/
def DiskPartitionInfo.ident (p : DiskPartitionInfo) : Nat × String × String × String × Bool :=
  (p.address, p.node, p.driveName, p.mountName, p.isSupportedFs)

theorem DiskPartitionInfo.ident_eq_iff {p q : DiskPartitionInfo} :
    p.ident = q.ident ↔
      p.address = q.address ∧ p.node = q.node ∧ p.driveName = q.driveName ∧
        p.mountName = q.mountName ∧ p.isSupportedFs = q.isSupportedFs := by
  simp [ident]

/-! ### `setDriveStatus` and the other setters -/

namespace DiskPartitionInfo

variable (p : DiskPartitionInfo)

@[simp] theorem setDriveStatus_ident (status : DriveStatus) :
    (p.setDriveStatus status).ident = p.ident := rfl

@[simp] theorem setDriveStatus_mounted (status : DriveStatus) :
    (p.setDriveStatus status).mounted = decide (status = .mountOk) := rfl

@[simp] theorem setFsckStatus_ident (status : Nat) :
    (p.setFsckStatus status).ident = p.ident := rfl

@[simp] theorem setSpace_ident (space : SpaceInfo) : (p.setSpace space).ident = p.ident := rfl

@[simp] theorem setPowerStatus_ident (status : Bool) :
    (p.setPowerStatus status).ident = p.ident := rfl

@[simp] theorem setFsType_ident (type : String) : (p.setFsType type).ident = p.ident := by
  unfold setFsType; split <;> rfl

@[simp] theorem setVolumeLabel_ident (label : String) :
    (p.setVolumeLabel label).ident = p.ident := by
  unfold setVolumeLabel; split <;> rfl

@[simp] theorem setFsType_mounted (type : String) : (p.setFsType type).mounted = p.mounted := by
  unfold setFsType; split <;> rfl

@[simp] theorem setVolumeLabel_mounted (label : String) :
    (p.setVolumeLabel label).mounted = p.mounted := by
  unfold setVolumeLabel; split <;> rfl

end DiskPartitionInfo

namespace StorageDevice

variable (env : Env) (s : Sys) (p : DiskPartitionInfo)

/-! ### `umountPartition` -/

@[simp] theorem driveInTheWay_fst (lazyUnmount : Bool) :
    (driveInTheWay env s p lazyUnmount).1 = (!lazyUnmount && env.busy p) := by
  cases lazyUnmount <;> rfl

@[simp] theorem driveInTheWay_mounted (lazyUnmount : Bool) :
    (driveInTheWay env s p lazyUnmount).2.mounted = s.mounted := by
  cases lazyUnmount <;> simp [driveInTheWay, PdmFs.isDriveBusy]

@[simp] theorem driveInTheWay_next (lazyUnmount : Bool) :
    (driveInTheWay env s p lazyUnmount).2.next = s.next := by
  cases lazyUnmount <;> simp [driveInTheWay, PdmFs.isDriveBusy]

@[simp] theorem driveInTheWay_notables (lazyUnmount : Bool) :
    (driveInTheWay env s p lazyUnmount).2.notables = s.notables := by
  cases lazyUnmount <;> simp [driveInTheWay, PdmFs.isDriveBusy]

theorem umount_eq (lazyUnmount : Bool) :
    (PdmFs.umount env s p lazyUnmount).1
        = (decide (p.mountName ∈ s.mounted) && env.letsGo p lazyUnmount) ∧
      (PdmFs.umount env s p lazyUnmount).2.mounted =
        (if env.letsGo p lazyUnmount then s.mounted.erase p.mountName else s.mounted) ∧
      (PdmFs.umount env s p lazyUnmount).2.next = s.next ∧
      (PdmFs.umount env s p lazyUnmount).2.notables = s.notables := by
  have h := Sys.umount2_eq env s p.mountName
    (if lazyUnmount then MNT_FORCE ||| MNT_DETACH else MNT_FORCE)
  exact ⟨h.1, h.2, Sys.umount2_next .., Sys.umount2_notables ..⟩

/-- A partition that is not flagged mounted is not unmounted. -/
theorem umountPartition_unflagged {lazyUnmount : Bool} (h : p.mounted = false) :
    umountPartition env s p lazyUnmount = ⟨s, p, .success⟩ := by
  unfold umountPartition
  rw [if_pos h]

/-- A partition in use stays as it is, unless the unmount is lazy. -/
theorem umountPartition_busy (h : p.mounted = true) (hbusy : env.busy p = true) :
    (umountPartition env s p false).state.mounted = s.mounted ∧
      (umountPartition env s p false).obj = p ∧ (umountPartition env s p false).ret = .busy := by
  unfold umountPartition
  simp [h, hbusy]

/-- Otherwise the flag is cleared, whether or not the kernel lets go. -/
theorem umountPartition_try {lazyUnmount : Bool} (h : p.mounted = true)
    (hidle : lazyUnmount = true ∨ env.busy p = false) :
    (umountPartition env s p lazyUnmount).obj.mounted = false ∧
      (umountPartition env s p lazyUnmount).state.mounted =
        (if env.letsGo p lazyUnmount then s.mounted.erase p.mountName else s.mounted) ∧
      ((umountPartition env s p lazyUnmount).ret = .success ↔
        p.mountName ∈ s.mounted ∧ env.letsGo p lazyUnmount = true) := by
  have hb : (driveInTheWay env s p lazyUnmount).1 = false := by
    rcases hidle with hl | hl <;> simp [hl]
  have hu := umount_eq env (handlerCb (driveInTheWay env s p lazyUnmount).2 .umount none) p
    lazyUnmount
  simp only [handlerCb_mounted, driveInTheWay_mounted] at hu
  unfold umountPartition
  simp only [h, hb, Bool.true_eq_false, Bool.false_eq_true, if_false]
  split
  · rename_i hret
    rw [hret] at hu
    refine ⟨by simp, by simp [hu.2.1], ?_⟩
    simpa using hu.1.symm
  · rename_i hret
    rw [Bool.not_eq_true] at hret
    rw [hret] at hu
    refine ⟨by simp, by simp [hu.2.1], ?_⟩
    simpa using hu.1.symm

@[simp] theorem umountPartition_ident (lazyUnmount : Bool) :
    (umountPartition env s p lazyUnmount).obj.ident = p.ident := by
  unfold umountPartition
  split
  · rfl
  · dsimp only
    split
    · rfl
    · split <;> rfl

@[simp] theorem umountPartition_next (lazyUnmount : Bool) :
    (umountPartition env s p lazyUnmount).state.next = s.next := by
  have hu := umount_eq env (handlerCb (driveInTheWay env s p lazyUnmount).2 .umount none) p
    lazyUnmount
  unfold umountPartition
  split
  · rfl
  · dsimp only
    split
    · exact driveInTheWay_next ..
    · split <;> simp [hu.2.2.1]

@[simp] theorem umountPartition_notables (lazyUnmount : Bool) :
    (umountPartition env s p lazyUnmount).state.notables = s.notables := by
  have hu := umount_eq env (handlerCb (driveInTheWay env s p lazyUnmount).2 .umount none) p
    lazyUnmount
  unfold umountPartition
  split
  · rfl
  · dsimp only
    split
    · exact driveInTheWay_notables ..
    · split <;> simp [hu.2.2.2, handlerCb_notables]

/-! ### `mountPartition` -/

theorem mountRetry_eq (call : MountCall) :
    (PdmFs.mountRetry env s call).1 = env.mountErrno call ∧
      (PdmFs.mountRetry env s call).2.mounted =
        (if env.mountErrno call = 0 then insert call.target s.mounted else s.mounted) ∧
      (PdmFs.mountRetry env s call).2.next = s.next ∧
      (PdmFs.mountRetry env s call).2.notables = s.notables := by
  have h1 := Sys.mount_eq env s call
  have h2 := Sys.mount_eq env (s.mount env call).2
    { call with flags := call.flags ||| PdmFs.MS_RDONLY }
  unfold PdmFs.mountRetry Env.mountErrno
  simp only [h1.1]
  by_cases hretry : env.mount call = PdmFs.EACCES ∨ env.mount call = PdmFs.EROFS
  · have hne : env.mount call ≠ 0 := by
      rcases hretry with h | h <;> rw [h] <;> decide
    rw [if_pos hretry, if_pos hretry, h2.1, h2.2.1, h2.2.2.1, h2.2.2.2, h1.2.1, if_neg hne,
      h1.2.2.1, h1.2.2.2]
    exact ⟨rfl, rfl, rfl, rfl⟩
  · rw [if_neg hretry, if_neg hretry, h1.1]
    exact ⟨rfl, h1.2.1, h1.2.2.1, h1.2.2.2⟩

theorem mountFs_eq (readOnly : Bool) :
    (PdmFs.mountPartition env s p readOnly).ret = env.mounts p readOnly ∧
      (PdmFs.mountPartition env s p readOnly).state.mounted =
        (if env.mounts p readOnly then insert p.mountName s.mounted else s.mounted) ∧
      (PdmFs.mountPartition env s p readOnly).state.next = s.next ∧
      (PdmFs.mountPartition env s p readOnly).state.notables = s.notables ∧
      (PdmFs.mountPartition env s p readOnly).obj.ident = p.ident := by
  have hr := mountRetry_eq env s (PdmFs.mountCall p readOnly)
  unfold PdmFs.mountPartition Env.mounts
  by_cases hdir : p.mountName = "" ∨ env.isDirectory p.mountName = false
  · rw [if_pos hdir]
    rcases hdir with h | h <;> simp [h]
  · rw [if_neg hdir]
    rw [not_or, Bool.not_eq_false] at hdir
    simp only [hdir, hr.1]
    by_cases hret : env.mountErrno (PdmFs.mountCall p readOnly) = 0
    · have hm := hr.2.1
      rw [if_pos hret] at hm
      rw [if_pos hret]
      have htarget : (PdmFs.mountCall p readOnly).target = p.mountName := rfl
      cases PdmFs.calculateSpaceInfo env p.mountName with
      | none => simp [hret, hdir.1, hm, hr.2.2, htarget]
      | some space => simp [hret, hdir.1, hm, hr.2.2, htarget]
    · have hm := hr.2.1
      rw [if_neg hret] at hm
      rw [if_neg hret]
      simp [hret, hm, hr.2.2]

/-- The flag says whether the mount just tried succeeded. -/
theorem mountPartition_eq (readOnly : Bool) :
    (mountPartition env s p readOnly).obj.mounted = env.mounts p readOnly ∧
      (mountPartition env s p readOnly).state.mounted =
        (if env.mounts p readOnly then insert p.mountName s.mounted else s.mounted) ∧
      ((mountPartition env s p readOnly).ret = .success ↔ env.mounts p readOnly = true) := by
  have hr := mountFs_eq env (handlerCb s .mount none) (p.setDriveStatus .isMounting) readOnly
  rw [handlerCb_mounted] at hr
  have hm : env.mounts (p.setDriveStatus .isMounting) readOnly = env.mounts p readOnly := rfl
  rw [hm] at hr
  unfold mountPartition
  simp only [hr.1]
  by_cases h : env.mounts p readOnly = true
  · rw [if_pos h, if_pos h]
    rw [if_pos h] at hr
    exact ⟨by simp [h], by rw [handlerCb_mounted, hr.2.1]; rfl, by simp [h]⟩
  · rw [if_neg h, if_neg h]
    rw [if_neg h] at hr
    rw [Bool.not_eq_true] at h
    exact ⟨by simp [h], by rw [handlerCb_mounted, hr.2.1], by simp [h]⟩

@[simp] theorem mountPartition_ident (readOnly : Bool) :
    (mountPartition env s p readOnly).obj.ident = p.ident := by
  have hr := mountFs_eq env (handlerCb s .mount none) (p.setDriveStatus .isMounting) readOnly
  unfold mountPartition
  dsimp only
  split <;> simp [hr.2.2.2.2]

@[simp] theorem mountPartition_next (readOnly : Bool) :
    (mountPartition env s p readOnly).state.next = s.next := by
  have hr := mountFs_eq env (handlerCb s .mount none) (p.setDriveStatus .isMounting) readOnly
  unfold mountPartition
  dsimp only
  split <;> simp [hr.2.2.1]

@[simp] theorem mountPartition_notables (readOnly : Bool) :
    (mountPartition env s p readOnly).state.notables = s.notables := by
  have hr := mountFs_eq env (handlerCb s .mount none) (p.setDriveStatus .isMounting) readOnly
  unfold mountPartition
  dsimp only
  split <;> simp [hr.2.2.2.1, handlerCb_notables]

/-! ### `fsckPartition` -/

theorem fsck_status (fsckMode : String) :
    (PdmFsck.fsck env s fsckMode p.fsType p.driveName).1 = env.checkStatus p fsckMode := by
  unfold Env.checkStatus PdmFsck.fsck
  dsimp only
  split
  · rfl
  · have h : ∀ t : Sys, (t.runCommand env (PdmFsck.fsckCommand fsckMode p.fsType p.driveName)).1
        = (Sys.runCommand env {} (PdmFsck.fsckCommand fsckMode p.fsType p.driveName)).1 := by
      intro t
      unfold Sys.runCommand
      split <;> rfl
    rw [h s]
    split
    · rfl
    · split <;> rfl

theorem fsck_state (fsckMode fsType driveName : String) :
    (PdmFsck.fsck env s fsckMode fsType driveName).2.mounted = s.mounted ∧
      (PdmFsck.fsck env s fsckMode fsType driveName).2.next = s.next ∧
      (PdmFsck.fsck env s fsckMode fsType driveName).2.notables = s.notables := by
  unfold PdmFsck.fsck
  dsimp only
  split
  · exact ⟨rfl, rfl, rfl⟩
  · split
    · simp
    · split <;> simp

/-- A check is put on record under the mount table it ran under. -/
theorem fsckFs_eq (fsckMode : String) :
    (PdmFs.fsck env s p fsckMode).ret = env.checkStatus p fsckMode ∧
      (PdmFs.fsck env s p fsckMode).state.mounted = s.mounted ∧
      (PdmFs.fsck env s p fsckMode).state.next = s.next ∧
      (PdmFs.fsck env s p fsckMode).state.notables =
        s.notables ++ [⟨.fsck p.driveName p.mountName, s.mounted⟩] ∧
      (PdmFs.fsck env s p fsckMode).obj.ident = p.ident ∧
      (PdmFs.fsck env s p fsckMode).obj.mounted =
        (if env.checkStatus p fsckMode = .fsckTimeout then false else p.mounted) ∧
      (PdmFs.fsck env s p fsckMode).obj.fsType = p.fsType := by
  have hstatus := fsck_status env (s.record (.fsck p.driveName p.mountName)) p fsckMode
  have hstate := fsck_state env (s.record (.fsck p.driveName p.mountName)) fsckMode p.fsType
    p.driveName
  have hrec : (s.record (.fsck p.driveName p.mountName)).notables
      = s.notables ++ [⟨.fsck p.driveName p.mountName, s.mounted⟩] := by
    simp [Sys.record_notables, Call.notable]
  unfold PdmFs.fsck
  dsimp only [DiskPartitionInfo.setFsckStatus] at hstatus hstate ⊢
  rw [hstatus]
  split
  · exact ⟨rfl, hstate.1, hstate.2.1, by rw [hstate.2.2, hrec], rfl, rfl, rfl⟩
  · exact ⟨rfl, hstate.1, hstate.2.1, by rw [hstate.2.2, hrec], rfl, rfl, rfl⟩

/-- A check that succeeds mounts; one that times out clears the flag. -/
theorem fsckPartition_eq (fsckMode : String) :
    (fsckPartition env s p fsckMode).obj.mounted =
        (if env.checkStatus p fsckMode = .success then env.mounts p false
          else if env.checkStatus p fsckMode = .fsckTimeout then false else p.mounted) ∧
      (fsckPartition env s p fsckMode).state.mounted =
        (if env.checkStatus p fsckMode = .success ∧ env.mounts p false = true then
          insert p.mountName s.mounted else s.mounted) := by
  have hf := fsckFs_eq env s p fsckMode
  have hf' := fsckFs_eq env (handlerCb s .fsckStarted none) p fsckMode
  have hm := mountPartition_eq env (PdmFs.fsck env (handlerCb s .fsckStarted none) p fsckMode).state
    (PdmFs.fsck env (handlerCb s .fsckStarted none) p fsckMode).obj false
  have hname : (PdmFs.fsck env (handlerCb s .fsckStarted none) p fsckMode).obj.mountName
      = p.mountName := (DiskPartitionInfo.ident_eq_iff.mp hf'.2.2.2.2.1).2.2.2.1
  have hdrive : (PdmFs.fsck env (handlerCb s .fsckStarted none) p fsckMode).obj.driveName
      = p.driveName := (DiskPartitionInfo.ident_eq_iff.mp hf'.2.2.2.2.1).2.2.1
  have hmounts : env.mounts (PdmFs.fsck env (handlerCb s .fsckStarted none) p fsckMode).obj false
      = env.mounts p false := by
    unfold Env.mounts PdmFs.mountCall
    rw [hname, hdrive, hf'.2.2.2.2.2.2]
  rw [hmounts, hname, hf'.2.1, handlerCb_mounted] at hm
  unfold fsckPartition
  simp only [hf'.1]
  by_cases hok : env.checkStatus p fsckMode = .success
  · simp only [if_pos hok, handlerCb_mounted]
    exact ⟨hm.1, by simp [hok, hm.2.1]⟩
  · simp only [if_neg hok, handlerCb_mounted]
    exact ⟨hf'.2.2.2.2.2.1, by simp [hok, hf'.2.1]⟩

@[simp] theorem fsckPartition_ident (fsckMode : String) :
    (fsckPartition env s p fsckMode).obj.ident = p.ident := by
  have hf := fsckFs_eq env (handlerCb s .fsckStarted none) p fsckMode
  unfold fsckPartition
  dsimp only
  split <;> simp [hf.2.2.2.2.1]

@[simp] theorem fsckPartition_next (fsckMode : String) :
    (fsckPartition env s p fsckMode).state.next = s.next := by
  have hf := fsckFs_eq env (handlerCb s .fsckStarted none) p fsckMode
  unfold fsckPartition
  dsimp only
  split <;> simp [hf.2.2.1]

@[simp] theorem fsckPartition_notables (fsckMode : String) :
    (fsckPartition env s p fsckMode).state.notables =
      s.notables ++ [⟨.fsck p.driveName p.mountName, s.mounted⟩] := by
  have hf := fsckFs_eq env (handlerCb s .fsckStarted none) p fsckMode
  unfold fsckPartition
  dsimp only
  split <;> simp [hf.2.2.2.1, handlerCb_notables]

/-! ### `PdmFs::format` -/

theorem formatFs_eq (fsType label : String) :
    (PdmFs.format env s p fsType label).state.mounted = s.mounted ∧
      (PdmFs.format env s p fsType label).state.next = s.next ∧
      (PdmFs.format env s p fsType label).state.notables =
        s.notables ++ [⟨.formatDrive p.driveName p.mountName, s.mounted⟩] ∧
      (PdmFs.format env s p fsType label).obj.ident = p.ident ∧
      (PdmFs.format env s p fsType label).obj.mounted = p.mounted := by
  have hdrive : ∀ (t : Sys) (fs : String),
      (DiskFormat.formatDrive env t p.driveName fs label).2.mounted = t.mounted ∧
        (DiskFormat.formatDrive env t p.driveName fs label).2.next = t.next ∧
        (DiskFormat.formatDrive env t p.driveName fs label).2.notables = t.notables := by
    intro t fs
    unfold DiskFormat.formatDrive
    dsimp only
    split
    · exact ⟨rfl, rfl, rfl⟩
    · split <;> simp
  have hrec : (s.record (.formatDrive p.driveName p.mountName)).notables
      = s.notables ++ [⟨.formatDrive p.driveName p.mountName, s.mounted⟩] := by
    simp [Sys.record_notables, Call.notable]
  unfold PdmFs.format
  dsimp only
  generalize (if PdmFs.isSupportedFileSystem fsType (sMapStorageType p.storageType) = true
    then fsType else PdmFs.setDefaultFsForFormat p) = fs
  have hd := hdrive (s.record (.formatDrive p.driveName p.mountName)) fs
  split
  · exact ⟨hd.1, hd.2.1, by rw [hd.2.2, hrec], by simp, by simp⟩
  · exact ⟨hd.1, hd.2.1, by rw [hd.2.2, hrec], rfl, rfl⟩

end StorageDevice

end Pdm
