/-
What is seen of the calls on record.

A view picks from each call what a property is about: that it posts the list of storage
devices, or that it makes a directory.  Mounting, unmounting, checking, formatting and labelling
a partition make calls that many views see nothing of (`Call.Unseen`), and such a view stays what it
is through all of them, whatever comes of them.
-/
import Pdm.Proofs.Devices

namespace Pdm

open Visit (visit)

universe u

variable {α : Type u}

/-- What is picked from the calls of the step in progress, oldest first. -/
def Sys.view (v : Call → Option α) (s : Sys) : List α := s.calls.filterMap (v ·.call)

/-- The calls that are made for a partition show nothing. -/
structure Call.Unseen (v : Call → Option α) : Prop where
  execShellCmd : ∀ cmd, v (.execShellCmd cmd) = none
  runCommand : ∀ argv, v (.runCommand argv) = none
  mount : ∀ call, v (.mount call) = none
  umount2 : ∀ target flags, v (.umount2 target flags) = none
  formatDrive : ∀ driveName mountName, v (.formatDrive driveName mountName) = none
  fsck : ∀ driveName mountName, v (.fsck driveName mountName) = none
  mounted : v (.notify .allDevice .mount none) = none
  unmounted : v (.notify .allDevice .umount none) = none
  started : v (.notify .storageDevice .fsckStarted none) = none
  finished : v (.notify .storageDevice .fsckFinished none) = none

variable {v : Call → Option α}

/-! ### Calls to the system -/

namespace Sys

variable (env : Env) (s : Sys)

theorem record_view (c : Call) : (s.record c).view v = s.view v ++ (v c).toList := by
  unfold record view
  rw [List.filterMap_append]
  cases h : v c <;> simp [h]

theorem record_unseen {c : Call} (h : v c = none) : (s.record c).view v = s.view v := by
  rw [record_view, h]
  exact List.append_nil _

section Unseen

variable (hv : Call.Unseen v)
include hv

theorem execShellCmd_view (cmd : String) : (s.execShellCmd env cmd).2.view v = s.view v :=
  record_unseen s (hv.execShellCmd cmd)

theorem runCommand_view (argv : List String) : (s.runCommand env argv).2.view v = s.view v := by
  unfold runCommand
  split
  · rfl
  · exact record_unseen s (hv.runCommand argv)

theorem umount2_view (target : String) (flags : Nat) :
    (s.umount2 env target flags).2.view v = s.view v := by
  have h := record_unseen s (hv.umount2 target flags)
  unfold umount2
  dsimp only
  split
  · exact h
  · exact h

theorem mount_view (call : MountCall) : (s.mount env call).2.view v = s.view v := by
  have h := record_unseen s (hv.mount call)
  unfold mount
  dsimp only
  split
  · exact h
  · exact h

end Unseen

end Sys

/-! ### One partition -/

namespace StorageDevice

variable (env : Env) (s : Sys) (p : DiskPartitionInfo) (d : StorageDevice)

theorem visit_view {f : Sys → DiskPartitionInfo → Out DiskPartitionInfo PdmDevStatus}
    (hf : ∀ s p, (f s p).state.view v = s.view v) (l : List DiskPartitionInfo) :
    (visit f s l).state.view v = s.view v :=
  Visit.visit_state (P := fun t : Sys => t.view v = s.view v)
    (fun t p _ h => (hf t p).trans h) rfl

section Unseen

variable (hv : Call.Unseen v)
include hv

theorem driveInTheWay_view (lazyUnmount : Bool) :
    (driveInTheWay env s p lazyUnmount).2.view v = s.view v := by
  cases lazyUnmount with
  | true => rfl
  | false => exact Sys.execShellCmd_view env s hv _

theorem umount_view (lazyUnmount : Bool) :
    (PdmFs.umount env s p lazyUnmount).2.view v = s.view v :=
  Sys.umount2_view env s hv _ _

theorem handlerCb_mount_view : (handlerCb s .mount none).view v = s.view v :=
  Sys.record_unseen s hv.mounted

theorem handlerCb_umount_view : (handlerCb s .umount none).view v = s.view v :=
  Sys.record_unseen s hv.unmounted

theorem umountPartition_view (lazyUnmount : Bool) :
    (umountPartition env s p lazyUnmount).state.view v = s.view v := by
  unfold umountPartition
  split
  · rfl
  · dsimp only
    split
    · exact driveInTheWay_view env s p hv lazyUnmount
    · split
      · rw [handlerCb_umount_view _ hv, umount_view _ _ _ hv, handlerCb_umount_view _ hv,
          driveInTheWay_view _ _ _ hv]
      · rw [handlerCb_mount_view _ hv, umount_view _ _ _ hv, handlerCb_umount_view _ hv,
          driveInTheWay_view _ _ _ hv]

theorem mountFs_view (readOnly : Bool) :
    (PdmFs.mountPartition env s p readOnly).state.view v = s.view v := by
  have hretry : ∀ call, (PdmFs.mountRetry env s call).2.view v = s.view v := by
    intro call
    unfold PdmFs.mountRetry
    dsimp only
    split
    · rw [Sys.mount_view _ _ hv, Sys.mount_view _ _ hv]
    · exact Sys.mount_view env s hv call
  unfold PdmFs.mountPartition
  split
  · rfl
  · dsimp only
    split
    · split <;> exact hretry _
    · exact hretry _

theorem mountPartition_view (readOnly : Bool) :
    (mountPartition env s p readOnly).state.view v = s.view v := by
  unfold mountPartition
  dsimp only
  split
  · rw [handlerCb_mount_view _ hv, mountFs_view _ _ _ hv, handlerCb_mount_view _ hv]
  · rw [handlerCb_umount_view _ hv, mountFs_view _ _ _ hv, handlerCb_mount_view _ hv]

theorem fsckFs_view (fsckMode : String) :
    (PdmFs.fsck env s p fsckMode).state.view v = s.view v := by
  have hfsck : ∀ (t : Sys) (fsType driveName : String),
      (PdmFsck.fsck env t fsckMode fsType driveName).2.view v = t.view v := by
    intro t fsType driveName
    have hrun := fun argv => Sys.runCommand_view env t hv argv
    unfold PdmFsck.fsck
    dsimp only
    split
    · rfl
    · split
      · exact hrun _
      · split <;> exact hrun _
  have hrecord := Sys.record_unseen s (hv.fsck p.driveName p.mountName)
  unfold PdmFs.fsck
  dsimp only
  split
  · exact (hfsck _ _ _).trans hrecord
  · exact (hfsck _ _ _).trans hrecord

theorem fsckPartition_view (fsckMode : String) :
    (fsckPartition env s p fsckMode).state.view v = s.view v := by
  have hstarted : (handlerCb s .fsckStarted none).view v = s.view v :=
    Sys.record_unseen s hv.started
  have hfinished : ∀ t : Sys, (handlerCb t .fsckFinished none).view v = t.view v :=
    fun t => Sys.record_unseen t hv.finished
  unfold fsckPartition
  dsimp only
  split
  · rw [hfinished, mountPartition_view _ _ _ hv, fsckFs_view _ _ _ hv, hstarted]
  · rw [hfinished, fsckFs_view _ _ _ hv, hstarted]

theorem formatFs_view (fsType label : String) :
    (PdmFs.format env s p fsType label).state.view v = s.view v := by
  have hformat : ∀ (t : Sys) (driveName fs : String),
      (DiskFormat.formatDrive env t driveName fs label).2.view v = t.view v := by
    intro t driveName fs
    have hrun := fun argv => Sys.runCommand_view env t hv argv
    unfold DiskFormat.formatDrive
    dsimp only
    split
    · rfl
    · split <;> exact hrun _
  have hrecord := Sys.record_unseen s (hv.formatDrive p.driveName p.mountName)
  unfold PdmFs.format
  dsimp only
  generalize (if PdmFs.isSupportedFileSystem fsType (sMapStorageType p.storageType) = true
    then fsType else PdmFs.setDefaultFsForFormat p) = fs
  split
  · exact (hformat _ _ _).trans hrecord
  · exact (hformat _ _ _).trans hrecord

theorem setVolumeLabelFs_view (volLabel : String) :
    (PdmFs.setVolumeLabel env s p volLabel).state.view v = s.view v := by
  have hrun := fun argv => Sys.runCommand_view env s hv argv
  unfold PdmFs.setVolumeLabel
  split
  · rfl
  · dsimp only
    split
    · rfl
    · split <;> exact hrun _

theorem mountSupported_view (readOnly : Bool) :
    (mountSupported env readOnly s p).state.view v = s.view v := by
  unfold mountSupported
  split
  · exact mountPartition_view env s p hv readOnly
  · rfl

theorem enforcePartition_view (needFsck : Bool) :
    (enforcePartition env needFsck s p).state.view v = s.view v := by
  unfold enforcePartition
  split
  · exact mountPartition_view env s p hv false
  · split
    · exact fsckPartition_view env s p hv _
    · rfl

theorem fsckOn_view : (fsckOn env s d p).state.view v = s.view v := by
  unfold fsckOn
  split
  · rfl
  · dsimp only
    split
    · exact umountPartition_view env s p hv false
    · rw [fsckPartition_view _ _ _ hv, umountPartition_view _ _ _ hv]

/-! ### All partitions of a device -/

theorem umountAllPartition_view (lazyUnmount : Bool) :
    (umountAllPartition env s d lazyUnmount).state.view v = s.view v :=
  visit_view s (fun s p => umountPartition_view env s p hv lazyUnmount) d.diskPartitionList

theorem mountAllPartition_view : (mountAllPartition env s d).state.view v = s.view v :=
  visit_view s (fun s p => mountSupported_view env s p hv d.isReadOnly) d.diskPartitionList

theorem deletePartitionData_view : (deletePartitionData env s d).state.view v = s.view v :=
  umountAllPartition_view env s d hv true

theorem enforceFsckAndMount_view (needFsck : Bool) :
    (enforceFsckAndMount env s d needFsck).state.view v = s.view v := by
  rw [enforceFsckAndMount_state]
  exact visit_view s (fun s p => enforcePartition_view env s p hv needFsck) d.diskPartitionList

theorem countPartitions_view (devName : String) :
    (countPartitions env s devName).2.view v = s.view v := by
  unfold countPartitions
  split
  · rfl
  · exact Sys.execShellCmd_view env s hv _

theorem triggerUevent_view : (triggerUevent env s d).state.view v = s.view v := by
  unfold triggerUevent
  split
  · rfl
  · exact Sys.execShellCmd_view env s hv _

theorem isWritable_view (driveName : String) :
    (isWritable env s d driveName).2.view v = s.view v := by
  unfold isWritable
  cases d.findPartition driveName with
  | none => rfl
  | some p =>
    have hbusy : (PdmFs.isDriveBusy env s p).2.view v = s.view v :=
      driveInTheWay_view env s p hv false
    dsimp only
    unfold PdmFs.isWritable
    dsimp only
    split
    · exact hbusy
    · exact hbusy

theorem suspendUmountLoop_view (lazyUnmount : Bool) : ∀ (l : List DiskPartitionInfo) (s : Sys)
    (ret : Bool), (suspendUmountLoop env lazyUnmount s ret l).2.view v = s.view v := by
  intro l
  induction l with
  | nil => intro s ret; rfl
  | cons p ps ih =>
      intro s ret
      unfold suspendUmountLoop
      dsimp only
      split
      · exact driveInTheWay_view env s p hv lazyUnmount
      · rw [ih, umount_view _ _ _ hv, driveInTheWay_view _ _ _ hv]

end Unseen

end StorageDevice

end Pdm
