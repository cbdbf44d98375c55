/-
Who unlocks a partition.

Each of the three functions that lock a partition unlocks it again on every way out, once, and
locks nothing inside (`sections_brackets`): in one thread alone they do what the functions of
`StorageDevice` and `PdmFs` do, and lock and unlock go together.  Between threads they do not:
`partitionLock` tries, and who does not get the lock goes on, and unlocks what another one holds.

**All goes well in those interleavings only in which every `partitionLock` finds the lock
free.**
-/
import Pdm.Devices.PartitionLock

namespace Pdm.PartitionLock

open TryLocks Code

/-! ### Every exit unlocks -/

section Brackets

variable (env : Env) (inside : Bool)

theorem brackets_partitionLock : (discard partitionLock).Brackets false true :=
  brackets_bind (brackets_tryLock fun got => brackets_pure got true) fun _ => brackets_pure _ true

theorem brackets_partitionUnLock : partitionUnLock.Brackets true false :=
  brackets_unlock (brackets_pure _ false)

theorem brackets_discard {α : Type} {c : Steps α} {after : Bool} (h : c.Brackets inside after) :
    (discard c).Brackets inside after :=
  brackets_bind h fun _ => brackets_pure _ after

/-- What is done last before a `return` inside the section. -/
theorem brackets_exit {α : Type} (a : α) : (partitionUnLock >>= fun _ => pure a).Brackets true false :=
  brackets_bind brackets_partitionUnLock fun _ => brackets_pure a false

theorem umountPartition_brackets (lazyUnmount : Bool) :
    (umountPartition env lazyUnmount).Brackets false false := by
  refine brackets_bind (brackets_modifyGet _ false) fun isMounted => ?_
  refine brackets_ite (brackets_pure _ false) ?_
  refine brackets_bind (brackets_modifyGet _ false) fun busy => ?_
  refine brackets_ite (brackets_pure _ false) ?_
  refine brackets_bind brackets_partitionLock fun _ => ?_
  refine brackets_bind (brackets_modifyGet _ true) fun _ => ?_
  refine brackets_bind (brackets_modifyGet _ true) fun _ => ?_
  refine brackets_bind (brackets_modifyGet _ true) fun umounted => brackets_ite ?_ ?_
  · refine brackets_bind (brackets_modifyGet _ true) fun _ => ?_
    exact brackets_bind (brackets_modifyGet _ true) fun _ => brackets_exit _
  · refine brackets_bind (brackets_modifyGet _ true) fun _ => ?_
    exact brackets_bind (brackets_modifyGet _ true) fun _ => brackets_exit _

theorem setVolumeLabel_brackets (volLabel : String) :
    (setVolumeLabel env volLabel).Brackets false false := by
  refine brackets_bind (brackets_modifyGet _ false) fun driveName => ?_
  refine brackets_bind brackets_partitionLock fun _ => brackets_ite (brackets_exit _) ?_
  refine brackets_bind (brackets_modifyGet _ true) fun fsType => ?_
  refine brackets_ite (brackets_exit _) ?_
  refine brackets_bind (brackets_modifyGet _ true) fun ret => brackets_ite (brackets_exit _) ?_
  exact brackets_bind (brackets_modifyGet _ true) fun _ => brackets_exit _

theorem writeSpace_brackets (spaceData : SpaceInfo) :
    (writeSpace spaceData).Brackets inside inside := by
  refine brackets_bind (brackets_modifyGet _ inside) fun _ => ?_
  refine brackets_bind (brackets_modifyGet _ inside) fun _ => ?_
  exact brackets_bind (brackets_modifyGet _ inside) fun _ => brackets_modifyGet _ inside

theorem getSpaceInfo_brackets (directCheck : Bool) :
    (getSpaceInfo env directCheck).Brackets false false := by
  refine brackets_bind (brackets_modifyGet _ false) fun isMounted => ?_
  refine brackets_ite ?_ (brackets_pure _ false)
  refine brackets_bind (brackets_modifyGet _ false) fun mountName => ?_
  cases PdmFs.calculateSpaceInfo env mountName with
  | none => exact brackets_pure _ false
  | some spaceData =>
    refine brackets_bind brackets_partitionLock fun _ => ?_
    exact brackets_bind (writeSpace_brackets true spaceData) fun _ => brackets_partitionUnLock

theorem section_brackets (c : Section) : (c.code env).Brackets false false := by
  cases c with
  | umountPartition lazyUnmount => exact brackets_discard false (umountPartition_brackets env lazyUnmount)
  | setVolumeLabel volLabel => exact brackets_discard false (setVolumeLabel_brackets env volLabel)
  | getSpaceInfo directCheck => exact getSpaceInfo_brackets env directCheck

theorem sections_brackets (calls : List Section) : (sections env calls).Brackets false false := by
  induction calls with
  | nil => exact brackets_pure _ false
  | cons c rest ih => exact brackets_bind (section_brackets env c) fun _ => ih

end Brackets

/-! ### In one thread alone -/

variable {α β : Type}

@[simp] theorem alone_partitionLock (next : Unit → Steps β) (s : Shared) :
    (discard partitionLock >>= next).alone s = (next ()).alone s := rfl

@[simp] theorem alone_partitionUnLock (next : Unit → Steps β) (s : Shared) :
    (partitionUnLock >>= next).alone s = (next ()).alone s := rfl

@[simp] theorem alone_read (getter : DiskPartitionInfo → α) (next : α → Steps β) (s : Shared) :
    (read getter >>= next).alone s = (next (getter s.partition)).alone s := rfl

@[simp] theorem alone_write (setter : DiskPartitionInfo → DiskPartitionInfo)
    (next : Unit → Steps β) (s : Shared) :
    (write setter >>= next).alone s =
      (next ()).alone { s with partition := setter s.partition } := rfl

@[simp] theorem alone_call (operation : Sys → DiskPartitionInfo → α × Sys)
    (next : α → Steps β) (s : Shared) :
    (call operation >>= next).alone s =
      (next (operation s.sys s.partition).1).alone
        { s with sys := (operation s.sys s.partition).2 } := rfl

/-- The outcome of a function of `StorageDevice` or `PdmFs`, as a thread leaves it. -/
def leaves (r : Out DiskPartitionInfo α) : α × Shared := (r.ret, ⟨r.state, r.obj⟩)

variable (env : Env) (s : Sys) (p : DiskPartitionInfo)

theorem umountPartition_alone (lazyUnmount : Bool) :
    (umountPartition env lazyUnmount).alone ⟨s, p⟩ =
      leaves (StorageDevice.umountPartition env s p lazyUnmount) := by
  unfold umountPartition StorageDevice.umountPartition storageDeviceHandlerCb
  -- what is unmounted is a path, which the new status leaves as it is
  have humount : ∀ t, PdmFs.umount env t (p.setDriveStatus .isUnmounting) lazyUnmount =
      PdmFs.umount env t p lazyUnmount := fun _ => rfl
  simp only [alone_read, alone_call, alone_ite, alone_write, alone_partitionLock,
    alone_partitionUnLock, alone_pure, humount]
  split
  · rfl
  split
  · rfl
  split <;> rfl

theorem setVolumeLabel_alone (volLabel : String) :
    (setVolumeLabel env volLabel).alone ⟨s, p⟩ = leaves (PdmFs.setVolumeLabel env s p volLabel) := by
  unfold setVolumeLabel PdmFs.setVolumeLabel
  simp only [alone_read, alone_call, alone_ite, alone_write, alone_partitionLock,
    alone_partitionUnLock, alone_pure]
  split
  · rfl
  split
  · rfl
  split <;> rfl

theorem getSpaceInfo_alone (d : StorageDevice) (directCheck : Bool) :
    (getSpaceInfo env directCheck).alone ⟨s, p⟩ =
      ((), ⟨s, (StorageDevice.getSpaceInfoOn env d p directCheck).2⟩) := by
  unfold getSpaceInfo StorageDevice.getSpaceInfoOn
  simp only [alone_read, alone_ite, alone_pure]
  split
  · cases PdmFs.calculateSpaceInfo env p.mountName <;> rfl
  · rfl

/-! ### Between threads -/

/-- **In every interleaving, the lock is released by its holder only and at most one thread is
between lock and unlock exactly when every `partitionLock` finds it free.** -/
theorem partitionLock_guarded_iff (env : Env) (calls : Thread → List Section) (shared : Shared)
    (schedule : List Thread) :
    Schedules.StepsAll Threads.step Threads.Guarded (start env calls shared) schedule ↔
      Schedules.StepsAll Threads.step Threads.FindsFree (start env calls shared) schedule := by
  refine Threads.guarded_iff ⟨fun thread => ?_, fun thread => ?_⟩ schedule
  · exact iff_of_false (Option.some_ne_none thread).symm Bool.false_ne_true
  · exact sections_brackets env (calls thread)

/-- Labelling a drive while its space is measured. -/
def labelWhileMeasuring : Thread → List Section
  | .command => [.setVolumeLabel "MUSIC"]
  | .removal => []
  | .spaceInfo => [.getSpaceInfo true]

/-- A stick of a mebibyte, half full, that is mounted. -/
def halfFull : Env := { statfs := fun _ => some ⟨256, 128, 4096⟩ }

@[inherit_doc halfFull]
def mountedStick : Shared where
  sys := { mounted := {"/tmp/usb/sda/sda1"} }
  partition :=
    { DiskPartitionInfo.new 1 "/devices/usb1/sda1" "/tmp/usb/" with
      driveName := "sda1", mountName := "/tmp/usb/sda/sda1", fsType := "vfat", mounted := true }

/-- The label's command finds the lock taken and goes on. -/
def labelsMeanwhile : List Thread :=
  [.spaceInfo, .spaceInfo, .spaceInfo, .command, .command, .command, .command, .command]

@[inherit_doc labelsMeanwhile]
theorem unlocked_by_another :
    (∃ t, Schedules.run Threads.step (start halfFull labelWhileMeasuring mountedStick)
        labelsMeanwhile = some t ∧
      t.Unlocks .command ∧ t.owner = some .spaceInfo ∧
      t.inside .command = true ∧ t.inside .spaceInfo = true) ∧
    ¬ Schedules.StepsAll Threads.step Threads.Guarded
      (start halfFull labelWhileMeasuring mountedStick) (labelsMeanwhile ++ [.command]) := by
  refine ⟨⟨_, rfl, ⟨_, rfl⟩, rfl, rfl, rfl⟩, fun h => ?_⟩
  obtain ⟨-, h⟩ := h
  have hlock := (((h _ rfl).2 _ rfl).2 _ rfl).2 _ rfl
  -- both are inside once the command has tried to lock
  have hsame : Thread.command = Thread.spaceInfo := hlock.1.2 _ rfl _ _ rfl rfl
  cases hsame

end Pdm.PartitionLock
