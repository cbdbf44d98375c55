/-
What each call to the system changes.

A call may change the mount table, and it goes on record.  Most records are of no
interest to the properties proved here; `notables` keeps those that are: recursive
deletions, checks and formats, and the removals that are announced for a device.
-/
import Pdm.Utils.DiskPartitionInfo
import Pdm.Devices.StorageDevice

namespace Pdm

/-- The calls the properties speak about. -/
def Call.notable : Call → Bool
  | .removeDirRecursive _ => true
  | .formatDrive _ _ => true
  | .fsck _ _ => true
  | .notify _ .remove (some _) => true
  | _ => false

namespace Sys

variable (env : Env) (s : Sys)

/-- The records of notable calls, oldest first. -/
def notables (s : Sys) : List CallRecord := s.calls.filter (·.call.notable)

/-- Between two states, only notable calls with `P` are put on record. -/
def Adds (P : CallRecord → Prop) (s t : Sys) : Prop :=
  ∃ l, t.notables = s.notables ++ l ∧ ∀ r ∈ l, P r

section Adds

variable {P Q : CallRecord → Prop} {s t u : Sys}

theorem Adds.of_eq (h : t.notables = s.notables) : Adds P s t := ⟨[], by simp [h], by simp⟩

theorem Adds.single {r : CallRecord} (h : t.notables = s.notables ++ [r]) (hr : P r) :
    Adds P s t :=
  ⟨[r], h, by simpa using hr⟩

theorem Adds.trans (hst : Adds P s t) (htu : Adds P t u) : Adds P s u := by
  obtain ⟨l, hl, hP⟩ := hst
  obtain ⟨m, hm, hQ⟩ := htu
  refine ⟨l ++ m, by rw [hm, hl, List.append_assoc], fun r hr => ?_⟩
  rcases List.mem_append.mp hr with h | h
  · exact hP r h
  · exact hQ r h

theorem Adds.mono (h : Adds P s t) (hPQ : ∀ r, P r → Q r) : Adds Q s t := by
  obtain ⟨l, hl, hP⟩ := h
  exact ⟨l, hl, fun r hr => hPQ r (hP r hr)⟩

/-- From an empty record on, `P` holds of every notable call. -/
theorem Adds.forall_of_nil (h : Adds P s t) (hs : s.calls = []) :
    ∀ r ∈ t.calls, r.call.notable = true → P r := by
  obtain ⟨l, hl, hP⟩ := h
  intro r hr hnot
  have hmem : r ∈ t.notables := List.mem_filter.mpr ⟨hr, hnot⟩
  rw [hl] at hmem
  refine hP r ?_
  simpa [notables, hs] using hmem

end Adds

/-! ### Calls that leave the mount table alone -/

@[simp] theorem record_mounted (c : Call) : (s.record c).mounted = s.mounted := rfl

@[simp] theorem record_next (c : Call) : (s.record c).next = s.next := rfl

theorem record_notables (c : Call) :
    (s.record c).notables =
      if c.notable then s.notables ++ [⟨c, s.mounted⟩] else s.notables := by
  unfold record notables
  rw [List.filter_append]
  by_cases h : c.notable = true
  · simp [h]
  · simp [h]

@[simp] theorem alloc_mounted : s.alloc.mounted = s.mounted := rfl

@[simp] theorem alloc_next : s.alloc.next = s.next + 1 := rfl

@[simp] theorem alloc_notables : s.alloc.notables = s.notables := rfl

@[simp] theorem execShellCmd_fst (cmd : String) :
    (s.execShellCmd env cmd).1 = env.execShellCmd cmd := rfl

@[simp] theorem execShellCmd_mounted (cmd : String) :
    (s.execShellCmd env cmd).2.mounted = s.mounted := rfl

@[simp] theorem execShellCmd_next (cmd : String) :
    (s.execShellCmd env cmd).2.next = s.next := rfl

@[simp] theorem execShellCmd_notables (cmd : String) :
    (s.execShellCmd env cmd).2.notables = s.notables := by
  simp [execShellCmd, record_notables, Call.notable]

@[simp] theorem runCommand_mounted (argv : List String) :
    (s.runCommand env argv).2.mounted = s.mounted := by
  unfold runCommand; split <;> rfl

@[simp] theorem runCommand_next (argv : List String) :
    (s.runCommand env argv).2.next = s.next := by
  unfold runCommand; split <;> rfl

@[simp] theorem runCommand_notables (argv : List String) :
    (s.runCommand env argv).2.notables = s.notables := by
  unfold runCommand
  split
  · rfl
  · simp [record_notables, Call.notable]

@[simp] theorem createDir_mounted (dirName : String) :
    (s.createDir env dirName).2.mounted = s.mounted := by
  unfold createDir; split
  · rfl
  · split <;> rfl

@[simp] theorem createDir_next (dirName : String) :
    (s.createDir env dirName).2.next = s.next := by
  unfold createDir; split
  · rfl
  · split <;> rfl

@[simp] theorem createDir_notables (dirName : String) :
    (s.createDir env dirName).2.notables = s.notables := by
  unfold createDir
  split
  · rfl
  · split
    · rfl
    · simp [record_notables, Call.notable]

@[simp] theorem removeDirRecursive_mounted (path : String) :
    (s.removeDirRecursive path).mounted = s.mounted := rfl

@[simp] theorem removeDirRecursive_next (path : String) :
    (s.removeDirRecursive path).next = s.next := rfl

@[simp] theorem removeDirRecursive_notables (path : String) :
    (s.removeDirRecursive path).notables =
      s.notables ++ [⟨.removeDirRecursive path, s.mounted⟩] := by
  simp [removeDirRecursive, record_notables, Call.notable]

@[simp] theorem notify_mounted (deviceType : DeviceEventType) (event : EventType)
    (device : Option Nat) : (s.notify deviceType event device).mounted = s.mounted := rfl

@[simp] theorem notify_next (deviceType : DeviceEventType) (event : EventType)
    (device : Option Nat) : (s.notify deviceType event device).next = s.next := rfl

theorem notify_notables (deviceType : DeviceEventType) (event : EventType)
    (device : Option Nat) :
    (s.notify deviceType event device).notables =
      if (Call.notify deviceType event device).notable then
        s.notables ++ [⟨.notify deviceType event device, s.mounted⟩] else s.notables :=
  record_notables s _

/-! ### Calls that may change it -/

/-- `umount2` succeeds on a mounted path that the kernel lets go of. -/
theorem umount2_eq (target : String) (flags : Nat) :
    (s.umount2 env target flags).1 = (decide (target ∈ s.mounted) && env.umount2 target flags) ∧
      (s.umount2 env target flags).2.mounted =
        if env.umount2 target flags then s.mounted.erase target else s.mounted := by
  unfold umount2
  by_cases hmem : target ∈ s.mounted
  · by_cases hlets : env.umount2 target flags = true
    · simp [hmem, hlets]
    · simp [hmem, hlets]
  · simp [hmem]

@[simp] theorem umount2_next (target : String) (flags : Nat) :
    (s.umount2 env target flags).2.next = s.next := by
  unfold umount2; dsimp only; split <;> rfl

@[simp] theorem umount2_notables (target : String) (flags : Nat) :
    (s.umount2 env target flags).2.notables = s.notables := by
  have h : (s.record (.umount2 target flags)).notables = s.notables := by
    simp [record_notables, Call.notable]
  unfold umount2
  dsimp only
  split
  · exact h
  · exact h

/-- `fusermount -u` succeeds on a mounted path when the program exits with 0. -/
theorem fusermount_eq (target : String) :
    ((s.fusermount env target).1 = 0 ↔
        target ∈ s.mounted ∧ env.runCommand ["/usr/bin/fusermount", "-u", target] = 0) ∧
      (s.fusermount env target).2.mounted =
        if env.runCommand ["/usr/bin/fusermount", "-u", target] = 0 then s.mounted.erase target
        else s.mounted := by
  unfold fusermount
  by_cases hmem : target ∈ s.mounted
  · by_cases hexit : env.runCommand ["/usr/bin/fusermount", "-u", target] = 0
    · simp [hmem, hexit]
    · simp [hmem, hexit]
  · simp [hmem]

@[simp] theorem fusermount_next (target : String) :
    (s.fusermount env target).2.next = s.next := by
  unfold fusermount; dsimp only; split
  · split <;> rfl
  · rfl

@[simp] theorem fusermount_notables (target : String) :
    (s.fusermount env target).2.notables = s.notables := by
  have h : (s.record (.runCommand ["/usr/bin/fusermount", "-u", target])).notables
      = s.notables := by
    simp [record_notables, Call.notable]
  unfold fusermount
  dsimp only
  split
  · split
    · exact h
    · exact h
  · exact h

/-- A mount helper that exits with 0 has mounted. -/
theorem mountHelper_eq (argv : List String) (target : String) :
    (s.mountHelper env argv target).1 = env.runCommand argv ∧
      (s.mountHelper env argv target).2.mounted =
        if env.runCommand argv = 0 then insert target s.mounted else s.mounted := by
  unfold mountHelper
  by_cases hexit : env.runCommand argv = 0
  · simp [hexit]
  · simp [hexit]

@[simp] theorem mountHelper_next (argv : List String) (target : String) :
    (s.mountHelper env argv target).2.next = s.next := by
  unfold mountHelper; dsimp only; split <;> rfl

@[simp] theorem mountHelper_notables (argv : List String) (target : String) :
    (s.mountHelper env argv target).2.notables = s.notables := by
  have h : (s.record (.runCommand argv)).notables = s.notables := by
    simp [record_notables, Call.notable]
  unfold mountHelper
  dsimp only
  split
  · exact h
  · exact h

theorem mount_eq (call : MountCall) :
    (s.mount env call).1 = env.mount call ∧
      (s.mount env call).2.mounted =
        (if env.mount call = 0 then insert call.target s.mounted else s.mounted) ∧
      (s.mount env call).2.next = s.next ∧ (s.mount env call).2.notables = s.notables := by
  have h : (s.record (.mount call)).notables = s.notables := by
    simp [record_notables, Call.notable]
  unfold mount
  by_cases hret : env.mount call = 0
  · simp only [hret, if_true]
    exact ⟨trivial, rfl, rfl, h⟩
  · simp only [hret, if_false]
    exact ⟨trivial, rfl, rfl, h⟩

end Sys

/-! ### `handlerCb` -/

section HandlerCb

variable (s : Sys) (event : EventType) (device : Option Nat)

@[simp] theorem handlerCb_mounted : (handlerCb s event device).mounted = s.mounted := by
  unfold handlerCb; split <;> rfl

@[simp] theorem handlerCb_next : (handlerCb s event device).next = s.next := by
  unfold handlerCb; split <;> rfl

/-- No callback announces the removal of a device. -/
theorem handlerCb_notables (h : event ≠ .remove ∨ device = none) :
    (handlerCb s event device).notables = s.notables := by
  have hquiet : ∀ deviceType, (Call.notify deviceType event device).notable = false := by
    intro deviceType
    rcases h with h | h
    · cases event <;> first | rfl | exact absurd rfl h
    · subst h
      cases event <;> rfl
  unfold handlerCb
  split <;> simp [Sys.notify_notables, hquiet]

end HandlerCb

/-! ### What the system will answer

The answers an operation on a partition will get, as functions of the environment and
the partition alone.
-/

section Answers

variable (env : Env) (p : DiskPartitionInfo)

/-- `lsof` finds the partition in use. -/
def Env.busy : Bool := env.execShellCmd ("lsof +D " ++ p.mountName) ≠ ""

/-- The kernel lets go of the partition's mount point. -/
def Env.letsGo (lazyUnmount : Bool) : Bool :=
  env.umount2 p.mountName (if lazyUnmount then MNT_FORCE ||| MNT_DETACH else MNT_FORCE)

/-- The `errno` of a `mount` and, where that is refused, of the read-only one. -/
def Env.mountErrno (call : MountCall) : Nat :=
  if env.mount call = PdmFs.EACCES ∨ env.mount call = PdmFs.EROFS then
    env.mount { call with flags := call.flags ||| PdmFs.MS_RDONLY }
  else env.mount call

/-- `PdmFs::mountPartition` will succeed on the partition. -/
def Env.mounts (readOnly : Bool) : Bool :=
  p.mountName ≠ "" && env.isDirectory p.mountName
    && env.mountErrno (PdmFs.mountCall p readOnly) = 0

/-- The answer a check of the partition will end with. -/
def Env.checkStatus (fsckMode : String) : PdmDevStatus :=
  (PdmFsck.fsck env {} fsckMode p.fsType p.driveName).1

/-- The number of partitions `lsblk` will find on a disk. -/
def Env.partitionCount (devName : String) : Int :=
  (StorageDevice.countPartitions env {} devName).1

end Answers

end Pdm
