/-
Which operations post the list of storage devices.

The list is posted by a few notifications and by no other call.  Mounting, unmounting and
checking a partition post nothing, whatever comes of them (`post_unseen`); each method of a
device is described here by the posts it adds.
-/
import Pdm.Framework.DeviceTracker
import Pdm.Proofs.CallViews

namespace Pdm

/-! ### Calls to the system -/

/-- What is done for one partition posts nothing. -/
theorem post_unseen : Call.Unseen Call.post := by
  refine ⟨?_, ?_, ?_, ?_, ?_, ?_, by decide, by decide, by decide, by decide⟩
  all_goals
    intros
    rfl

namespace Sys

variable (env : Env) (s : Sys)

theorem record_posts (c : Call) : (s.record c).posts = s.posts ++ c.post.toList := s.record_view c

theorem record_posts_none {c : Call} (h : c.post = none) : (s.record c).posts = s.posts :=
  s.record_unseen h

theorem notify_posts (deviceType : DeviceEventType) (event : EventType) (device : Option Nat) :
    (s.notify deviceType event device).posts =
      s.posts ++ if postsStorageList deviceType event then [(event, device)] else [] := by
  have hpost : (Call.notify deviceType event device).post =
      if postsStorageList deviceType event then some (event, device) else none := rfl
  unfold notify
  rw [record_posts, hpost]
  split <;> rfl

@[simp] theorem alloc_posts : s.alloc.posts = s.posts := rfl

@[simp] theorem createDir_posts (dirName : String) :
    (s.createDir env dirName).2.posts = s.posts := by
  unfold createDir
  split
  · rfl
  · split
    · rfl
    · exact record_posts_none s rfl

@[simp] theorem removeDirRecursive_posts (path : String) :
    (s.removeDirRecursive path).posts = s.posts :=
  record_posts_none s rfl

end Sys

/-- What a callback posts. -/
theorem handlerCb_posts (s : Sys) (event : EventType) (device : Option Nat) :
    (handlerCb s event device).posts =
      s.posts ++
        if event ≠ .mount ∧ event ≠ .umount ∧ postsStorageList .storageDevice event = true then
          [(event, device)]
        else [] := by
  unfold handlerCb
  by_cases h : event = .mount ∨ event = .umount
  · have hnone : postsStorageList .allDevice event = false := by
      rcases h with rfl | rfl <;> decide
    have hquiet : ¬ (event ≠ .mount ∧ event ≠ .umount ∧
        postsStorageList .storageDevice event = true) := fun hpost => h.elim hpost.1 hpost.2.1
    rw [if_pos h, if_neg hquiet, Sys.notify_posts, if_neg (by simp [hnone])]
  · rw [if_neg h, Sys.notify_posts]
    rw [not_or] at h
    by_cases hpost : postsStorageList .storageDevice event = true
    · rw [if_pos hpost, if_pos ⟨h.1, h.2, hpost⟩]
    · rw [if_neg hpost, if_neg fun hall => hpost hall.2.2]

/-- The callbacks that post nothing. -/
theorem handlerCb_quiet (s : Sys) {event : EventType} (device : Option Nat)
    (h : event = .mount ∨ event = .umount ∨ postsStorageList .storageDevice event = false) :
    (handlerCb s event device).posts = s.posts := by
  rw [handlerCb_posts, if_neg, List.append_nil]
  rintro ⟨hmount, humount, hpost⟩
  rcases h with h | h | h
  · exact hmount h
  · exact humount h
  · exact absurd (hpost.symm.trans h) (by simp)

/-! ### One partition -/

namespace StorageDevice

variable (env : Env) (s : Sys) (p : DiskPartitionInfo)

@[simp] theorem umountPartition_posts (lazyUnmount : Bool) :
    (umountPartition env s p lazyUnmount).state.posts = s.posts :=
  umountPartition_view env s p post_unseen lazyUnmount

@[simp] theorem mountPartition_posts (readOnly : Bool) :
    (mountPartition env s p readOnly).state.posts = s.posts :=
  mountPartition_view env s p post_unseen readOnly

@[simp] theorem fsckPartition_posts (fsckMode : String) :
    (fsckPartition env s p fsckMode).state.posts = s.posts :=
  fsckPartition_view env s p post_unseen fsckMode

@[simp] theorem formatFs_posts (fsType label : String) :
    (PdmFs.format env s p fsType label).state.posts = s.posts :=
  formatFs_view env s p post_unseen fsType label

@[simp] theorem setVolumeLabelFs_posts (volLabel : String) :
    (PdmFs.setVolumeLabel env s p volLabel).state.posts = s.posts :=
  setVolumeLabelFs_view env s p post_unseen volLabel

/-! ### All partitions of a device -/

variable (d : StorageDevice) (devClass : DeviceClass)

@[simp] theorem umountAllPartition_posts (lazyUnmount : Bool) :
    (umountAllPartition env s d lazyUnmount).state.posts = s.posts :=
  umountAllPartition_view env s d post_unseen lazyUnmount

@[simp] theorem mountAllPartition_posts :
    (mountAllPartition env s d).state.posts = s.posts := mountAllPartition_view env s d post_unseen

@[simp] theorem deletePartitionData_posts :
    (deletePartitionData env s d).state.posts = s.posts :=
  deletePartitionData_view env s d post_unseen

@[simp] theorem enforceFsckAndMount_posts (needFsck : Bool) :
    (enforceFsckAndMount env s d needFsck).state.posts = s.posts :=
  enforceFsckAndMount_view env s d post_unseen needFsck

@[simp] theorem countPartitions_posts (devName : String) :
    (countPartitions env s devName).2.posts = s.posts :=
  countPartitions_view env s post_unseen devName

@[simp] theorem triggerUevent_posts : (triggerUevent env s d).state.posts = s.posts :=
  triggerUevent_view env s d post_unseen

@[simp] theorem addPartition_posts : (addPartition env s d devClass).state.posts = s.posts := by
  unfold addPartition PdmFs.checkFileSystem
  simp

@[simp] theorem removeRootDir_posts : (removeRootDir s d).state.posts = s.posts := by
  unfold removeRootDir
  split
  · exact Sys.removeDirRecursive_posts ..
  · rfl

@[simp] theorem checkRemovalNotifications_posts :
    (checkRemovalNotifications s d).posts = s.posts := by
  unfold checkRemovalNotifications
  split
  · exact handlerCb_quiet _ _ (by decide)
  · split
    · exact handlerCb_quiet _ _ (by decide)
    · rfl

@[simp] theorem notifyStorageConnecting_posts :
    (notifyStorageConnecting s d).state.posts = s.posts :=
  handlerCb_quiet _ _ (by decide)

@[simp] theorem fsckOn_posts : (fsckOn env s d p).state.posts = s.posts :=
  fsckOn_view env s p d post_unseen

@[simp] theorem isWritable_posts (driveName : String) :
    (isWritable env s d driveName).2.posts = s.posts := isWritable_view env s d post_unseen driveName

end StorageDevice

end Pdm
