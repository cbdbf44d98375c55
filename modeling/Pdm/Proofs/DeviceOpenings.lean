/-
What a storage device says of itself while it is listed.

It only ever sends notices that open it, and it remembers which: one flag stands for ADD and
one for the request to format it.  `Opens` says so of a piece of code, and every method of a
device that is listed is such a piece, whatever comes of its mounts and checks.
-/
import Pdm.Framework.StorageNotices
import Pdm.Proofs.CallViews
import Pdm.Proofs.WellFormed

namespace Pdm

open Visit (visit)

/-- What is done for one partition sends no notice. -/
theorem notice_unseen : Call.Unseen Call.notice := by
  refine ⟨?_, ?_, ?_, ?_, ?_, ?_, by decide, by decide, by decide, by decide⟩
  all_goals
    intros
    rfl

namespace Sys

/-- The notices of the step in progress. -/
def notices (s : Sys) : List (EventType × Nat) := s.view Call.notice

theorem notify_notices (s : Sys) (deviceType : DeviceEventType) (event : EventType)
    (device : Option Nat) : (s.notify deviceType event device).notices =
      s.notices ++ (Call.notice (.notify deviceType event device)).toList :=
  s.record_view _

theorem removeDirRecursive_notices (s : Sys) (path : String) :
    (s.removeDirRecursive path).notices = s.notices :=
  s.record_unseen rfl

theorem createDir_notices (env : Env) (s : Sys) (dirName : String) :
    (s.createDir env dirName).2.notices = s.notices := by
  unfold createDir
  split
  · rfl
  · split
    · rfl
    · exact s.record_unseen rfl

end Sys

theorem handlerCb_notices {s : Sys} {event : EventType} {device : Option Nat}
    (hevent : event ≠ .mount ∧ event ≠ .umount) : (handlerCb s event device).notices =
      s.notices ++ (Call.notice (.notify .storageDevice event device)).toList := by
  unfold handlerCb
  rw [if_neg fun h => h.elim hevent.1 hevent.2]
  exact s.notify_notices _ _ _

/-- A notification that names nothing is no notice. -/
theorem handlerCb_unnoticed (s : Sys) (event : EventType) :
    (handlerCb s event none).notices = s.notices := by
  unfold handlerCb
  split
  · exact s.record_unseen rfl
  · exact s.record_unseen rfl

theorem Opening.append {bs cs : List EventType} (h : Opening bs) (h' : Opening cs) :
    Opening (bs ++ cs) := by
  induction h' with
  | nil =>
    rw [List.append_nil]
    exact h
  | announced _ ih =>
    rw [← List.append_assoc]
    exact ih.announced
  | timedOut _ ih =>
    rw [← List.append_assoc]
    exact ih.timedOut
  | unsupported _ ih =>
    rw [← List.append_assoc]
    exact ih.unsupported

namespace StorageDevice

/-- A piece of code that sends the notices `bs`, all of them about the device, and remembers
them. -/
structure Speaks (bs : List EventType) (s : Sys) (d : StorageDevice) (t : Sys)
    (e : StorageDevice) : Prop where
  notices : t.notices = s.notices ++ bs.map (·, d.address)
  address : e.address = d.address
  notified : e.isDevAddEventNotified = (d.isDevAddEventNotified || decide (.add ∈ bs))
  unsupported :
    e.hasUnsupportedFs = (d.hasUnsupportedFs || decide (.unsupportedFsFormatNeeded ∈ bs))
  opening : Opening bs

/-- A piece of code that sends notices that open the device and no other. -/
def Opens (s : Sys) (d : StorageDevice) (t : Sys) (e : StorageDevice) : Prop :=
  ∃ bs, Speaks bs s d t e

section Rules

variable {s t u : Sys} {d e f : StorageDevice}

theorem Speaks.silent (hnotices : t.notices = s.notices) (haddress : e.address = d.address)
    (hnotified : e.isDevAddEventNotified = d.isDevAddEventNotified)
    (hunsupported : e.hasUnsupportedFs = d.hasUnsupportedFs) : Speaks [] s d t e :=
  ⟨hnotices.trans (List.append_nil _).symm, haddress, hnotified.trans (Bool.or_false _).symm,
    hunsupported.trans (Bool.or_false _).symm, .nil⟩

theorem Speaks.trans {bs cs : List EventType} (h : Speaks bs s d t e) (h' : Speaks cs t e u f) :
    Speaks (bs ++ cs) s d u f := by
  refine ⟨?_, h'.address.trans h.address, ?_, ?_, h.opening.append h'.opening⟩
  · rw [h'.notices, h.notices, h.address, List.map_append, List.append_assoc]
  · rw [h'.notified, h.notified, Bool.or_assoc]
    simp
  · rw [h'.unsupported, h.unsupported, Bool.or_assoc]
    simp

theorem Opens.silent (hnotices : t.notices = s.notices) (haddress : e.address = d.address)
    (hnotified : e.isDevAddEventNotified = d.isDevAddEventNotified)
    (hunsupported : e.hasUnsupportedFs = d.hasUnsupportedFs) : Opens s d t e :=
  ⟨[], Speaks.silent hnotices haddress hnotified hunsupported⟩

theorem Opens.refl (s : Sys) (d : StorageDevice) : Opens s d s d := Opens.silent rfl rfl rfl rfl

theorem Opens.trans (h : Opens s d t e) (h' : Opens t e u f) : Opens s d u f := by
  obtain ⟨bs, hbs⟩ := h
  obtain ⟨cs, hcs⟩ := h'
  exact ⟨bs ++ cs, hbs.trans hcs⟩

end Rules

variable (env : Env) (s : Sys) (d : StorageDevice) (devClass : DeviceClass)

/-! ### Checks -/

theorem storageDeviceNotification_opens :
    Opens s d (storageDeviceNotification s d).state (storageDeviceNotification s d).obj := by
  have hadd : ∀ t : Sys, (handlerCb t .add (some d.address)).notices =
      t.notices ++ [(.add, d.address)] := fun t => handlerCb_notices (by decide)
  unfold storageDeviceNotification
  dsimp only
  split
  · refine ⟨[.fsckTimedOut, .add], ?_, rfl, (Bool.or_true _).symm, (Bool.or_false _).symm,
      .timedOut .nil⟩
    dsimp only
    rw [hadd, handlerCb_notices (by decide), List.append_assoc]
    rfl
  · split
    · exact ⟨[.add], hadd s, rfl, (Bool.or_true _).symm, (Bool.or_false _).symm, .announced .nil⟩
    · exact Opens.refl s d

theorem fsckOnDeviceAddThread_opens (partition : Nat) :
    Opens s d (fsckOnDeviceAddThread env s d partition).state
      (fsckOnDeviceAddThread env s d partition).obj := by
  have hcheck : Opens s d (fsckPartitionAt env s d partition).state
      (fsckPartitionAt env s d partition).obj := by
    unfold fsckPartitionAt
    cases d.diskPartitionList.find? (·.address = partition) with
    | none =>
      refine Opens.silent ?_ rfl rfl rfl
      rw [handlerCb_unnoticed, handlerCb_unnoticed]
    | some p => exact Opens.silent (fsckPartition_view env s p notice_unseen _) rfl rfl rfl
  unfold fsckOnDeviceAddThread
  dsimp only
  refine hcheck.trans ?_
  generalize (fsckPartitionAt env s d partition).obj = e
  generalize (fsckPartitionAt env s d partition).state = t
  unfold storageDeviceFsckNotification
  dsimp only
  have hcount : Opens t e t { e with fsckThreadCount := e.fsckThreadCount - 1 } :=
    Opens.silent rfl rfl rfl rfl
  split
  · refine (hcount.trans (storageDeviceNotification_opens t _)).trans ?_
    exact Opens.silent rfl rfl rfl rfl
  · exact hcount

theorem joinThreads_opens : ∀ (ts : List Nat) (s : Sys) (d : StorageDevice),
    Opens s d (joinThreads env s d ts).state (joinThreads env s d ts).obj := by
  intro ts
  induction ts with
  | nil => intro s d; exact Opens.silent rfl rfl rfl rfl
  | cons t ts ih => intro s d; exact (fsckOnDeviceAddThread_opens env s d t).trans (ih _ _)

/-! ### Events -/

theorem startPartitions_opens :
    Opens s d (startPartitions env s d).state (startPartitions env s d).obj := by
  unfold startPartitions
  split
  · split
    · have hmounts : Opens s d (mountAllPartition env s d).state (mountAllPartition env s d).obj :=
        Opens.silent (mountAllPartition_view env s d notice_unseen) rfl rfl rfl
      exact hmounts.trans (storageDeviceNotification_opens _ _)
    · exact Opens.silent rfl rfl rfl rfl
  · refine ⟨[.add, .unsupportedFsFormatNeeded], ?_, rfl, (Bool.or_true _).symm,
      (Bool.or_true _).symm, .unsupported .nil⟩
    dsimp only
    rw [handlerCb_notices (by decide), handlerCb_notices (by decide), List.append_assoc]
    rfl

theorem addPartition_opens :
    Opens s d (addPartition env s d devClass).state (addPartition env s d devClass).obj := by
  refine Opens.silent ?_ rfl rfl rfl
  unfold addPartition PdmFs.checkFileSystem
  exact Sys.createDir_notices env _ _

theorem setPartitionInfo_opens :
    Opens s d (setPartitionInfo env s d devClass).state
      (setPartitionInfo env s d devClass).obj := by
  unfold setPartitionInfo
  split
  · exact Opens.refl s d
  · dsimp only
    have hadd := addPartition_opens env s d devClass
    split
    · exact hadd.trans (startPartitions_opens env _ _)
    · exact hadd

theorem handleCardReaderDeviceChange_opens :
    Opens s d (handleCardReaderDeviceChange env s d).state
      (handleCardReaderDeviceChange env s d).obj := by
  have hcount : (countPartitions env s d.deviceName).2.notices = s.notices :=
    countPartitions_view env s notice_unseen _
  unfold handleCardReaderDeviceChange
  dsimp only
  split
  · split
    · refine Opens.silent ?_ rfl rfl rfl
      dsimp only
      rw [handlerCb_unnoticed]
      exact (deletePartitionData_view env _ d notice_unseen).trans hcount
    · exact Opens.silent hcount rfl rfl rfl
  · exact Opens.silent hcount rfl rfl rfl

theorem updateDiskInfo_opens :
    Opens s d (updateDiskInfo env s d devClass).state (updateDiskInfo env s d devClass).obj := by
  have hcount : ∀ (t : Sys) (name : String), (countPartitions env t name).2.notices = t.notices :=
    fun t name => countPartitions_view env t notice_unseen name
  unfold updateDiskInfo
  split
  · dsimp only
    have hnamed : Opens s d (countPartitions env s (d.nameDisk devClass).deviceName).2
        { d.nameDisk devClass with
          partitionCount := (countPartitions env s (d.nameDisk devClass).deviceName).1 } :=
      Opens.silent (hcount _ _) rfl rfl rfl
    split
    · exact hnamed.trans (setPartitionInfo_opens env _ _ devClass)
    · exact hnamed
  · split
    · exact handleCardReaderDeviceChange_opens env s d
    · dsimp only
      have hcounted : Opens s d (countPartitions env s d.deviceName).2 d :=
        Opens.silent (hcount _ _) rfl rfl rfl
      split
      · exact hcounted.trans (setPartitionInfo_opens env _ d devClass)
      · exact hcounted
  · exact Opens.refl s d

theorem checkSdCardAddRemove_opens :
    Opens s d (checkSdCardAddRemove env s d devClass).state
      (checkSdCardAddRemove env s d devClass).obj := by
  have hcount : (countPartitions env s d.deviceName).2.notices = s.notices :=
    countPartitions_view env s notice_unseen _
  unfold checkSdCardAddRemove
  split
  · exact Opens.refl s d
  · split
    · exact Opens.refl s d
    · split
      · exact Opens.refl s d
      · dsimp only
        split
        · refine Opens.silent ?_ rfl rfl rfl
          dsimp only
          rw [handlerCb_unnoticed]
          exact (deletePartitionData_view env _ d notice_unseen).trans hcount
        · exact Opens.silent hcount rfl rfl rfl

theorem updateMultiSdCard_opens : Opens s d s (updateMultiSdCard env d devClass) := by
  unfold updateMultiSdCard
  split
  · exact Opens.silent rfl rfl rfl rfl
  · exact Opens.refl s d

theorem updateDeviceInfo_opens : Opens s d s (updateDeviceInfo env d devClass) := by
  have haddress : ((d.toDevice.setDeviceInfo env devClass).setSpeed devClass).address =
      d.address := by simp
  unfold updateDeviceInfo
  dsimp only
  split
  · exact Opens.silent rfl haddress rfl rfl
  · exact Opens.silent rfl haddress rfl rfl

/-- **An event opens the device it is handed to, or says nothing.** -/
theorem setDeviceInfo_opens :
    Opens s d (setDeviceInfo env s d devClass).state (setDeviceInfo env s d devClass).obj := by
  unfold setDeviceInfo
  dsimp only
  split
  · refine Opens.silent (triggerUevent_view env s d notice_unseen) ?_ ?_ ?_
    all_goals
      unfold triggerUevent
      split <;> rfl
  · split
    · exact updateDeviceInfo_opens env s d devClass
    · have hdisk := (updateDiskInfo_opens env s d devClass).trans
        (updateMultiSdCard_opens env _ _ devClass)
      exact hdisk.trans (checkSdCardAddRemove_opens env _ _ devClass)
    · exact setPartitionInfo_opens env s d devClass

end StorageDevice

end Pdm
