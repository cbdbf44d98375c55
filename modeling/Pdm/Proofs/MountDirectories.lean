/-
The mount directories and the partitions in use.

`checkFileSystem` makes a directory for each partition that is listed.  No directory is removed
for a partition: a device that goes removes its root path with all that is below, and a medium
that goes removes nothing, since the loop of `checkSdCardAddRemove` runs over the list that
`deletePartitionData` has emptied, and `handleCardReaderDeviceChange` has no such loop.

`MountDirectories` runs the storage handler and keeps the directories that were made and are
still there.  **They are those of the partitions in use exactly in the runs in which each
partition's directory is new or in use already, no medium takes partitions away whose
directories nobody else uses, and a device that goes has its directories, and nobody else's, in
its root path.**
-/
import Pdm.Lib.PathOrder
import Pdm.Proofs.CallViews
import Pdm.Proofs.MountedSummary
import Pdm.Proofs.Mountpoints

namespace Pdm

open PathOrder
open Visit (visit)

/-! ### What is made and removed -/

inductive DirChange where
  | made (path : String)
  | removed (path : String)
  deriving DecidableEq, Repr

def Call.dirChange : Call → Option DirChange
  | .createDir path => some (.made path)
  | .removeDirRecursive path => some (.removed path)
  | _ => none

/-- The directories after a change; it succeeds. -/
def DirChange.apply (dirs : Finset String) : DirChange → Finset String
  | .made path => insert path dirs
  | .removed path => dirs.filter fun m => ¬ AtOrBelow path m

/-- The changes of the step in progress. -/
def Sys.dirChanges (s : Sys) : List DirChange := s.view Call.dirChange

theorem dirChange_unseen : Call.Unseen Call.dirChange := by
  refine ⟨?_, ?_, ?_, ?_, ?_, ?_, rfl, rfl, rfl, rfl⟩
  all_goals
    intros
    rfl

@[simp] theorem Sys.notify_dirChanges (s : Sys) (deviceType : DeviceEventType) (event : EventType)
    (device : Option Nat) : (s.notify deviceType event device).dirChanges = s.dirChanges :=
  s.record_unseen rfl

@[simp] theorem handlerCb_dirChanges (s : Sys) (event : EventType) (device : Option Nat) :
    (handlerCb s event device).dirChanges = s.dirChanges := by
  unfold handlerCb
  split <;> simp

/-- What `createDir` does about a directory. -/
def Env.makes (env : Env) (m : String) : List DirChange :=
  if m ≠ "" ∧ env.isDirectory m = false then [.made m] else []

theorem Sys.createDir_dirChanges (env : Env) (s : Sys) (m : String) :
    (s.createDir env m).2.dirChanges = s.dirChanges ++ env.makes m := by
  unfold Sys.createDir Env.makes
  by_cases hempty : m = ""
  · simp [hempty]
  · rw [if_neg hempty]
    cases hdir : env.isDirectory m with
    | true => simp
    | false =>
      rw [if_neg Bool.false_ne_true, if_pos ⟨hempty, rfl⟩]
      exact s.record_view (.createDir m)

theorem Sys.removeDirRecursive_dirChanges (s : Sys) (path : String) :
    (s.removeDirRecursive path).dirChanges = s.dirChanges ++ [.removed path] :=
  s.record_view (.removeDirRecursive path)

/-! ### One device -/

namespace StorageDevice

variable (env : Env) (s : Sys) (d : StorageDevice) (devClass : DeviceClass)
  (p : DiskPartitionInfo)

@[simp] theorem umountPartition_dirChanges (lazyUnmount : Bool) :
    (umountPartition env s p lazyUnmount).state.dirChanges = s.dirChanges :=
  umountPartition_view env s p dirChange_unseen lazyUnmount

@[simp] theorem mountPartition_dirChanges (readOnly : Bool) :
    (mountPartition env s p readOnly).state.dirChanges = s.dirChanges :=
  mountPartition_view env s p dirChange_unseen readOnly

@[simp] theorem fsckPartition_dirChanges (fsckMode : String) :
    (fsckPartition env s p fsckMode).state.dirChanges = s.dirChanges :=
  fsckPartition_view env s p dirChange_unseen fsckMode

@[simp] theorem formatFs_dirChanges (fsType label : String) :
    (PdmFs.format env s p fsType label).state.dirChanges = s.dirChanges :=
  formatFs_view env s p dirChange_unseen fsType label

@[simp] theorem umountAllPartition_dirChanges (lazyUnmount : Bool) :
    (umountAllPartition env s d lazyUnmount).state.dirChanges = s.dirChanges :=
  umountAllPartition_view env s d dirChange_unseen lazyUnmount

@[simp] theorem mountAllPartition_dirChanges :
    (mountAllPartition env s d).state.dirChanges = s.dirChanges :=
  mountAllPartition_view env s d dirChange_unseen

@[simp] theorem deletePartitionData_dirChanges :
    (deletePartitionData env s d).state.dirChanges = s.dirChanges :=
  deletePartitionData_view env s d dirChange_unseen

@[simp] theorem countPartitions_dirChanges (devName : String) :
    (countPartitions env s devName).2.dirChanges = s.dirChanges :=
  countPartitions_view env s dirChange_unseen devName

@[simp] theorem triggerUevent_dirChanges : (triggerUevent env s d).state.dirChanges = s.dirChanges :=
  triggerUevent_view env s d dirChange_unseen

@[simp] theorem storageDeviceNotification_dirChanges :
    (storageDeviceNotification s d).state.dirChanges = s.dirChanges := by
  unfold storageDeviceNotification
  dsimp only
  split
  · simp
  · split <;> simp

@[simp] theorem storageDeviceFsckNotification_dirChanges :
    (storageDeviceFsckNotification s d).state.dirChanges = s.dirChanges := by
  unfold storageDeviceFsckNotification
  dsimp only
  split <;> simp

@[simp] theorem fsckOnDeviceAddThread_dirChanges (partition : Nat) :
    (fsckOnDeviceAddThread env s d partition).state.dirChanges = s.dirChanges := by
  unfold fsckOnDeviceAddThread fsckPartitionAt
  cases d.diskPartitionList.find? (·.address = partition) with
  | none => simp
  | some p => simp

@[simp] theorem joinThreads_dirChanges (ts : List Nat) (s : Sys) (d : StorageDevice) :
    (joinThreads env s d ts).state.dirChanges = s.dirChanges := by
  induction ts generalizing s d with
  | nil => rfl
  | cons t ts ih =>
    unfold joinThreads
    simp [ih]

@[simp] theorem startPartitions_dirChanges :
    (startPartitions env s d).state.dirChanges = s.dirChanges := by
  unfold startPartitions
  split
  · split <;> simp
  · simp

/-! ### Uevents -/

theorem addPartition_dirChanges :
    (addPartition env s d devClass).state.dirChanges =
      s.dirChanges ++ env.makes (d.newMountName devClass) :=
  Sys.createDir_dirChanges env s.alloc (d.newMountName devClass)

/-- What is made for the partition of an event. -/
theorem setPartitionInfo_dirChanges :
    (setPartitionInfo env s d devClass).state.dirChanges = s.dirChanges ++
      if d.findPartition devClass.devName = none then env.makes (d.newMountName devClass)
      else [] := by
  unfold setPartitionInfo
  cases d.findPartition devClass.devName with
  | some p => simp
  | none =>
    simp only [Option.isSome_none, Bool.false_eq_true, if_false, if_true]
    split
    · rw [startPartitions_dirChanges, addPartition_dirChanges]
    · exact addPartition_dirChanges env s d devClass

@[simp] theorem handleCardReaderDeviceChange_dirChanges :
    (handleCardReaderDeviceChange env s d).state.dirChanges = s.dirChanges := by
  unfold handleCardReaderDeviceChange
  dsimp only
  split
  · split <;> simp
  · simp

/-- The list the directories would be removed for is empty by then. -/
@[simp] theorem checkSdCardAddRemove_dirChanges :
    (checkSdCardAddRemove env s d devClass).state.dirChanges = s.dirChanges := by
  unfold checkSdCardAddRemove
  split
  · rfl
  split
  · rfl
  split
  · rfl
  dsimp only
  split
  · rw [handlerCb_dirChanges, deletePartitionData_list, List.foldl_nil,
      deletePartitionData_dirChanges, countPartitions_dirChanges]
  · simp

/-- What an event has made for a partition that it adds. -/
def makes (env : Env) (d : StorageDevice) (devClass : DeviceClass) : List DirChange :=
  match receiver env d devClass with
  | none => []
  | some d₀ =>
    if d.findPartition devClass.devName = none then env.makes (d₀.newMountName devClass) else []

theorem makes_of_none (h : receiver env d devClass = none) : d.makes env devClass = [] := by
  unfold makes
  rw [h]

theorem setPartitionInfo_makes {s₀ : Sys} {d₀ : StorageDevice}
    (hd₀ : receiver env d devClass = some d₀) (hs₀ : s₀.dirChanges = s.dirChanges) :
    (setPartitionInfo env s₀ d₀ devClass).state.dirChanges =
      s.dirChanges ++ d.makes env devClass := by
  rw [setPartitionInfo_dirChanges, hs₀]
  unfold makes
  rw [hd₀, findPartition_congr (receiver_list env d devClass hd₀).1]

/-- **An event makes a directory for the partition that it adds, and that is all.** -/
theorem setDeviceInfo_dirChanges :
    (setDeviceInfo env s d devClass).state.dirChanges = s.dirChanges ++ d.makes env devClass := by
  have hother : receiver env d devClass = none → ∀ t : Sys, t.dirChanges = s.dirChanges →
      t.dirChanges = s.dirChanges ++ d.makes env devClass := by
    intro hnone t ht
    rw [makes_of_none env d devClass hnone, List.append_nil, ht]
  unfold setDeviceInfo
  by_cases hsd : d.isSdCardRemoved = true
  · simp only [triggerUevent_ret, hsd, if_true]
    exact hother (by simp [receiver, hsd]) _ (triggerUevent_dirChanges env s d)
  rw [Bool.not_eq_true] at hsd
  simp only [triggerUevent_ret, hsd, Bool.false_eq_true, if_false]
  cases hdisk : sMapUsbDeviceType devClass.devType with
  | typeDevUsb => exact hother (by simp [receiver, hsd, hdisk]) s rfl
  | typeDevPartition =>
    exact setPartitionInfo_makes env s d devClass (by simp [receiver, hsd, hdisk]) rfl
  | typeDevDisk =>
    dsimp only
    rw [checkSdCardAddRemove_dirChanges]
    unfold updateDiskInfo
    cases haction : getDeviceAction devClass.action with
    | usbDevAdd =>
      dsimp only
      rw [countPartitions_fst]
      have hcount := countPartitions_dirChanges env s (d.nameDisk devClass).deviceName
      by_cases hone : env.partitionCount (d.nameDisk devClass).deviceName = 0 ∧
          (d.nameDisk devClass).storageType ≠ .usbCardReader
      · rw [if_pos hone]
        refine setPartitionInfo_makes env s d devClass ?_ hcount
        simp only [receiver, hsd, hdisk, haction, Bool.false_eq_true, if_false]
        exact if_pos hone
      · rw [if_neg hone]
        refine hother ?_ _ hcount
        simp only [receiver, hsd, hdisk, haction, Bool.false_eq_true, if_false]
        exact if_neg hone
    | usbDevChange =>
      dsimp only
      by_cases hreader : d.storageType = .usbCardReader
      · rw [if_pos hreader]
        exact hother (by simp [receiver, hsd, hdisk, haction, hreader]) _
          (handleCardReaderDeviceChange_dirChanges env s d)
      · rw [if_neg hreader, countPartitions_fst]
        have hcount := countPartitions_dirChanges env s d.deviceName
        by_cases hone : env.partitionCount d.deviceName = 0 ∧ devClass.isCardReader ≠ YES
        · rw [if_pos hone]
          refine setPartitionInfo_makes env s d devClass ?_ hcount
          simp [receiver, hsd, hdisk, haction, hreader, hone]
        · rw [if_neg hone]
          refine hother ?_ _ hcount
          simp only [receiver, hsd, hdisk, haction, Bool.false_eq_true, if_false]
          exact if_neg fun h => hone h.2
    | usbDevRemove => exact hother (by simp [receiver, hsd, hdisk, haction]) s rfl
    | usbDevBind => exact hother (by simp [receiver, hsd, hdisk, haction]) s rfl
    | usbDevUnknown => exact hother (by simp [receiver, hsd, hdisk, haction]) s rfl

/-- What is removed with a device. -/
def removesRoot (d : StorageDevice) : List DirChange :=
  if d.rootPath ≠ "" then [.removed d.rootPath] else []

theorem onDeviceRemove_dirChanges :
    (onDeviceRemove env s d).state.dirChanges = s.dirChanges ++ d.removesRoot := by
  have hchecks : ∀ (t : Sys) (e : StorageDevice),
      (checkRemovalNotifications t e).dirChanges = t.dirChanges := by
    intro t e
    unfold checkRemovalNotifications
    split
    · simp
    · split <;> simp
  have hroot : (deletePartitionData env (joinThreads env s d d.fsckThreadArray).state
      (joinThreads env s d d.fsckThreadArray).obj).obj.rootPath = d.rootPath :=
    rootPath_of_core (by simpa using (joinThreads_keeps env d.fsckThreadArray s d).1)
  unfold onDeviceRemove removeRootDir removesRoot
  dsimp only
  rw [hchecks, hroot]
  by_cases hempty : d.rootPath = ""
  · simp [hempty]
  · rw [if_pos hempty, if_pos hempty, Sys.removeDirRecursive_dirChanges]
    simp

/-! ### Commands -/

@[simp] theorem setPartitionVolumeLabel_dirChanges (driveName volumeLabel : String) :
    (setPartitionVolumeLabel env s d driveName volumeLabel).state.dirChanges = s.dirChanges := by
  unfold setPartitionVolumeLabel
  cases d.findPartition driveName with
  | none => rfl
  | some p => exact setVolumeLabelFs_view env s p dirChange_unseen volumeLabel

@[simp] theorem formatOn_dirChanges (fsType volumeLabel : String) :
    (formatOn env s d p fsType volumeLabel).state.dirChanges = s.dirChanges := by
  unfold formatOn
  dsimp only
  split
  · rfl
  split
  · exact umountPartition_dirChanges env s p false
  -- Whether the format succeeds decides what is reported and whether a mount follows.
  split
  · split <;> simp
  · simp

@[simp] theorem formatDiskStart_dirChanges (driveName fsType volumeLabel : String) :
    (formatDiskStart env s d driveName fsType volumeLabel).state.dirChanges = s.dirChanges := by
  unfold formatDiskStart
  cases d.findPartition driveName with
  | none => rfl
  | some p => exact formatOn_dirChanges env s d p fsType volumeLabel

@[simp] theorem fsck_dirChanges (driveName : String) :
    (fsck env s d driveName).state.dirChanges = s.dirChanges := by
  unfold fsck
  cases d.findPartition driveName with
  | none => rfl
  | some p => exact fsckOn_view env s p d dirChange_unseen

@[simp] theorem eject_dirChanges : (eject env s d).state.dirChanges = s.dirChanges := by
  unfold eject
  dsimp only
  split <;> exact umountAllPartition_dirChanges env s d false

@[simp] theorem enforceFsckAndMount_dirChanges (needFsck : Bool) :
    (enforceFsckAndMount env s d needFsck).state.dirChanges = s.dirChanges :=
  enforceFsckAndMount_view env s d dirChange_unseen needFsck

@[simp] theorem resumeRequest_dirChanges :
    (resumeRequest env s d).state.dirChanges = s.dirChanges := by
  unfold resumeRequest
  dsimp only
  split
  · rfl
  · split <;> exact mountAllPartition_dirChanges env s _

end StorageDevice

/-! ### The handler -/

namespace StorageDeviceHandler

open StorageDevice

variable (cfg : Config) (env : Env) (s : Sys) (h : StorageDeviceHandler)

theorem onDevice_dirChanges {found : Option StorageDevice} {notFound : PdmDevStatus}
    {method : Sys → StorageDevice → Out StorageDevice PdmDevStatus}
    (hmethod : ∀ d, (method s d).state.dirChanges = s.dirChanges) :
    (onDevice s h found method notFound).state.dirChanges = s.dirChanges := by
  unfold onDevice
  cases found with
  | none => rfl
  | some d => exact hmethod d

theorem HandlerCommand_dirChanges (cmdtypes : CommandType) :
    (h.HandlerCommand env s cmdtypes).state.dirChanges = s.dirChanges := by
  cases cmdtypes with
  | format driveName fsType volumeLabel =>
    exact onDevice_dirChanges s h fun d =>
      formatDiskStart_dirChanges env s d driveName fsType volumeLabel
  | eject deviceNumber =>
    exact onDevice_dirChanges s h fun d =>
      (Sys.notify_dirChanges _ _ _ _).trans (eject_dirChanges env s d)
  | fsck driveName =>
    exact onDevice_dirChanges s h fun d => fsck_dirChanges env s d (removeBlanks driveName)
  | setVolumeLabel driveName volumeLabel =>
    exact onDevice_dirChanges s h fun d =>
      setPartitionVolumeLabel_dirChanges env s d driveName volumeLabel
  | mountFsck needFsck mountName =>
    exact onDevice_dirChanges s h fun d => enforceFsckAndMount_dirChanges env s d needFsck
  | isWritableDrive driveName =>
    unfold HandlerCommand isWritableDrive
    dsimp only
    cases getDeviceWithName h.storageList driveName with
    | none => rfl
    | some d => exact StorageDevice.isWritable_view env s d dirChange_unseen driveName
  | spaceInfo directCheck driveName =>
    unfold HandlerCommand getSpaceInfo
    dsimp only
    cases getDeviceWithName h.storageList driveName with
    | none => rfl
    | some d =>
      dsimp only
      split <;> rfl
  | umountAllDrive =>
    unfold HandlerCommand umountAllDrive
    dsimp only
    split
    · rfl
    · rw [Sys.notify_dirChanges]
      exact Visit.visit_state (P := fun t : Sys => t.dirChanges = s.dirChanges)
        (fun t d _ ht => (umountAllPartition_dirChanges env t d false).trans ht) rfl
  | other => rfl

theorem umountAllDriveLoop_dirChanges (lazyUnmount : Bool) (l : List StorageDevice) :
    ∀ (s : Sys) (ret : Bool),
      (umountAllDriveLoop env lazyUnmount s ret l).2.dirChanges = s.dirChanges := by
  induction l with
  | nil => intro s ret; rfl
  | cons d ds ih =>
      intro s ret
      unfold umountAllDriveLoop
      dsimp only
      rw [ih]
      exact suspendUmountLoop_view env dirChange_unseen lazyUnmount d.diskPartitionList s true

theorem HandlePluginEvent_dirChanges (eventType : PluginEvent) :
    (h.HandlePluginEvent env s eventType).state.dirChanges = s.dirChanges := by
  cases eventType with
  | powerProcessPrepareResume =>
    show ((visit (fun s d => d.resumeRequest env s) s h.storageList).state.notify
      .storageDevice .add none).dirChanges = s.dirChanges
    rw [Sys.notify_dirChanges]
    exact Visit.visit_state (P := fun t : Sys => t.dirChanges = s.dirChanges)
      (fun t d _ ht => (resumeRequest_dirChanges env t d).trans ht) rfl
  | powerProcessRequestUmountAll => exact umountAllDriveLoop_dirChanges env false h.storageList s true
  | powerProcessPrepareSuspend => exact umountAllDriveLoop_dirChanges env true h.storageList s true
  | _ => rfl

theorem deviceTask_dirChanges {address : Nat} {task : Sys → StorageDevice → Out StorageDevice Unit}
    (htask : ∀ d, (task s d).state.dirChanges = s.dirChanges) :
    (deviceTask s h address task).state.dirChanges = s.dirChanges := by
  unfold deviceTask
  cases h.storageList.find? (·.address = address) with
  | none => rfl
  | some d => exact htask d

theorem runFsckThread_dirChanges (address partition : Nat) :
    (h.runFsckThread env s address partition).state.dirChanges = s.dirChanges := by
  refine deviceTask_dirChanges s h fun d => ?_
  split
  · exact fsckOnDeviceAddThread_dirChanges env s _ partition
  · rfl

theorem runTimeout_dirChanges (address : Nat) :
    (h.runTimeout s address).state.dirChanges = s.dirChanges := by
  refine deviceTask_dirChanges s h fun d => ?_
  split
  · exact handlerCb_dirChanges s .connecting none
  · rfl

/-! ### Uevents at the handler -/

variable (devClass : DeviceClass)

/-- What is made for the device that is told of the event. -/
def Target.makes (env : Env) (devClass : DeviceClass) : Target → List DirChange
  | .nobody => []
  | .listed d => d.makes env devClass
  | .new d => d.makes env devClass

theorem createStorageDevice_dirChanges (reader : Option StorageDevice) :
    (createStorageDevice cfg env s h devClass reader).state.dirChanges =
      s.dirChanges ++ (newTarget cfg s.next h devClass reader).makes env devClass := by
  unfold createStorageDevice newTarget
  by_cases hfull : h.storageList.length ≥ cfg.maxUsbStorageDevices
  · rw [if_pos hfull, if_pos hfull, Sys.notify_dirChanges]
    exact (List.append_nil _).symm
  · rw [if_neg hfull, if_neg hfull]
    have hnew := setDeviceInfo_dirChanges env s.alloc (newDevice cfg s.next devClass reader) devClass
    cases reader with
    | none => exact hnew
    | some device => exact hnew

theorem checkStorageDevice_dirChanges (htakes : takes devClass = true) :
    (checkStorageDevice cfg env s h devClass).state.dirChanges =
      s.dirChanges ++ (target cfg s.next h devClass).makes env devClass := by
  rcases checkStorageDevice_cases cfg env s h devClass htakes with
    ⟨d, -, htarget, heq⟩ | ⟨reader, htarget, heq⟩ | ⟨htarget, heq⟩
  · rw [htarget, heq]
    exact setDeviceInfo_dirChanges env s d devClass
  · rw [htarget, heq]
    exact createStorageDevice_dirChanges cfg env s h devClass reader
  · rw [htarget, heq]
    exact (List.append_nil _).symm

theorem dropStorageDevice_dirChanges (d : StorageDevice) :
    (dropStorageDevice env s h d).state.dirChanges = s.dirChanges ++ d.removesRoot := by
  unfold dropStorageDevice removeDevice
  dsimp only
  split
  · rw [Sys.notify_dirChanges, onDeviceRemove_dirChanges]
  · exact onDeviceRemove_dirChanges env s d

/-- What an event makes of the directories. -/
def eventDirs (cfg : Config) (env : Env) (address : Nat) (h : StorageDeviceHandler)
    (devClass : DeviceClass) : List DirChange :=
  if devClass.action = "remove" then
    match removedDevice h devClass with
    | none => []
    | some d => d.removesRoot
  else (target cfg address h devClass).makes env devClass

/-- **An event makes the directory of the partition it adds, and removes the root path of the
device it removes.** -/
theorem HandlerEvent_dirChanges :
    (h.HandlerEvent cfg env s devClass).state.dirChanges =
      s.dirChanges ++ eventDirs cfg env s.next h devClass := by
  unfold eventDirs
  rcases HandlerEvent_cases cfg env s h devClass with
    ⟨hremove, heq⟩ | ⟨htakes, hstate, -⟩ | ⟨hnot, hremove, hstate, -⟩
  · rw [heq, if_pos hremove]
    unfold deleteStorageDevice
    cases removedDevice h devClass with
    | none => exact (List.append_nil _).symm
    | some d => exact dropStorageDevice_dirChanges env s h d
  · have hremove : devClass.action ≠ "remove" := by
      intro hremove
      rw [not_takes_of_remove hremove] at htakes
      exact absurd htakes (by simp)
    rw [hstate, if_neg hremove]
    exact checkStorageDevice_dirChanges cfg env s h devClass htakes
  · rw [hstate, if_neg hremove, target_nobody cfg s.next h hnot]
    exact (List.append_nil _).symm

end StorageDeviceHandler

/-! ### The mount names of one device -/

namespace StorageDevice

variable (env : Env) (s : Sys) (d : StorageDevice) (devClass : DeviceClass)

theorem addPartition_owns (m : String) :
    (addPartition env s d devClass).obj.Owns m ↔ d.Owns m ∨ d.newMountName devClass = m := by
  unfold Owns
  rw [addPartition_list]
  simp only [List.mem_append, List.mem_singleton, or_and_right, exists_or]
  refine or_congr_right ⟨?_, fun h => ⟨_, rfl, h⟩⟩
  rintro ⟨p, rfl, hp⟩
  exact hp

/-- What an event makes of the mount names: a medium that goes takes them all, and a partition
that is added brings its own. -/
theorem setDeviceInfo_owns_iff (m : String) :
    (setDeviceInfo env s d devClass).obj.Owns m ↔
      (d.Owns m ∧ ¬ d.DropsParts env devClass) ∨ d.Gains env devClass m := by
  constructor
  · intro h
    rcases setDeviceInfo_owns env s d devClass h with howns | hgains
    · refine Or.inl ⟨howns, fun hdrops => ?_⟩
      obtain ⟨p, hp, -⟩ := h
      rw [setDeviceInfo_dropped env s d devClass hdrops] at hp
      exact absurd hp (by simp)
    · exact Or.inr hgains
  · intro h
    rcases setDeviceInfo_cases env s d devClass with
      ⟨d₀, s₀, hd₀, -, hr⟩ | ⟨hnone, hr⟩ | ⟨hnone, -, hdrops, t, -, hr⟩
    · have hlist := (receiver_list env d devClass hd₀).1
      rw [Owns.congr hr.parts]
      rcases setPartitionInfo_cases env s₀ d₀ devClass with ⟨hfound, hsame⟩ | ⟨hnew, -, hidents⟩
      · rw [hsame, Owns.congr hlist]
        rcases h with ⟨howns, -⟩ | ⟨-, -, hnot, -⟩
        · exact howns
        · rw [findPartition_congr hlist, hnot] at hfound
          exact absurd hfound (by simp)
      · have hsub : (addPartition env s₀ d₀ devClass).obj.idents ⊆
            (setPartitionInfo env s₀ d₀ devClass).obj.idents := by
          rw [hidents]
          exact List.Subset.refl _
        refine Owns.mono hsub m ?_
        rw [addPartition_owns, Owns.congr hlist]
        rcases h with ⟨howns, -⟩ | ⟨d₁, hd₁, -, hm⟩
        · exact Or.inl howns
        · obtain rfl : d₁ = d₀ := Option.some.inj (hd₁.symm.trans hd₀)
          exact Or.inr hm
    all_goals
      rcases h with ⟨howns, hkeeps⟩ | ⟨d₁, hd₁, -⟩
      case inr => exact absurd (hd₁.symm.trans hnone) (by simp)
    · exact (Owns.congr hr.parts).mpr howns
    · exact absurd hdrops hkeeps

/-! ### What a step makes of the directories -/

theorem mem_makes (dirs : Finset String) (m : String) :
    m ∈ (d.makes env devClass).foldl DirChange.apply dirs ↔
      m ∈ dirs ∨ (d.Gains env devClass m ∧ m ≠ "" ∧ env.isDirectory m = false) := by
  unfold makes Gains
  cases receiver env d devClass with
  | none => simp
  | some d₀ =>
    dsimp only
    by_cases hnew : d.findPartition devClass.devName = none
    · rw [if_pos hnew]
      unfold Env.makes
      by_cases hmade : d₀.newMountName devClass ≠ "" ∧
          env.isDirectory (d₀.newMountName devClass) = false
      · rw [if_pos hmade]
        show m ∈ insert (d₀.newMountName devClass) dirs ↔ _
        rw [Finset.mem_insert, or_comm]
        refine or_congr_right ⟨?_, ?_⟩
        · rintro rfl
          exact ⟨⟨d₀, rfl, hnew, rfl⟩, hmade⟩
        · rintro ⟨⟨d₁, hd₁, -, rfl⟩, -⟩
          rw [Option.some.inj hd₁]
      · rw [if_neg hmade]
        refine ⟨Or.inl, fun h => h.resolve_right ?_⟩
        rintro ⟨⟨d₁, hd₁, -, rfl⟩, hm⟩
        rw [← Option.some.inj hd₁] at hm
        exact hmade hm
    · rw [if_neg hnew]
      refine ⟨Or.inl, fun h => h.resolve_right ?_⟩
      rintro ⟨⟨d₁, -, hfree, -⟩, -⟩
      exact hnew hfree

theorem mem_removesRoot (dirs : Finset String) (m : String) :
    m ∈ d.removesRoot.foldl DirChange.apply dirs ↔
      m ∈ dirs ∧ ¬ (d.rootPath ≠ "" ∧ AtOrBelow d.rootPath m) := by
  unfold removesRoot
  by_cases hroot : d.rootPath ≠ ""
  · rw [if_pos hroot]
    show m ∈ dirs.filter (fun m => ¬ AtOrBelow d.rootPath m) ↔ _
    rw [Finset.mem_filter, and_iff_right hroot]
  · rw [if_neg hroot]
    exact ⟨fun h => ⟨h, fun hdir => hroot hdir.1⟩, And.left⟩

end StorageDevice

/-! ### The directories and the devices -/

/-- The storage handler, with the directories that have been made and are still there. -/
structure MountDirectories where
  system : StorageSystem := {}
  dirs : Finset String := ∅
  deriving DecidableEq

/-- Another device has a partition with the mount name. -/
def OwnedElsewhere (l : List StorageDevice) (d : StorageDevice) (m : String) : Prop :=
  ∃ e ∈ l, e.address ≠ d.address ∧ e.Owns m

/-- The event keeps the directories in order: the mount name that it gives the device is a
directory it makes or one in use already, and those of a medium that goes are in use elsewhere. -/
structure InOrder (env : Env) (l : List StorageDevice) (d : StorageDevice)
    (devClass : DeviceClass) : Prop where
  gained : ∀ m, d.Gains env devClass m →
    (m ≠ "" ∧ env.isDirectory m = false) ∨ ∃ e ∈ l, e.Owns m
  dropped : d.DropsParts env devClass → ∀ m, d.Owns m → OwnedElsewhere l d m

/-- So does a removal: in the device's root path are its own directories, and they alone. -/
structure InRoot (l : List StorageDevice) (d : StorageDevice) : Prop where
  under : ∀ m, d.Owns m → (d.rootPath ≠ "" ∧ AtOrBelow d.rootPath m) ∨ OwnedElsewhere l d m
  spared : d.rootPath ≠ "" → ∀ m, AtOrBelow d.rootPath m → ¬ OwnedElsewhere l d m

namespace MountDirectories

open StorageDevice
open StorageDeviceHandler (target Target newDevice removedDevice eventDirs)

/-- One step; what it makes and removes is made and removed. -/
def step (cfg : Config) (w : MountDirectories) (i : Env × StorageInput) : MountDirectories where
  system := w.system.step cfg i
  dirs := (w.system.step cfg i).sys.dirChanges.foldl DirChange.apply w.dirs

/-- The directories are the mount names of the partitions that are listed. -/
def Matches (dirs : Finset String) (l : List StorageDevice) : Prop :=
  ∀ m, m ∈ dirs ↔ ∃ d ∈ l, d.Owns m

/-- Whose the mount names are, with one device set apart. -/
theorem owned_iff {l : List StorageDevice} {d : StorageDevice}
    (hone : ∀ e ∈ l, e.address = d.address → e = d) (hin : d ∈ l ∨ ∀ m, ¬ d.Owns m) (m : String) :
    (∃ e ∈ l, e.Owns m) ↔ OwnedElsewhere l d m ∨ d.Owns m := by
  constructor
  · rintro ⟨e, he, howns⟩
    by_cases haddr : e.address = d.address
    · obtain rfl := hone e he haddr
      exact Or.inr howns
    · exact Or.inl ⟨e, he, haddr, howns⟩
  · rintro (⟨e, he, -, howns⟩ | howns)
    · exact ⟨e, he, howns⟩
    · exact ⟨d, hin.resolve_right fun hnone => hnone m howns, howns⟩

/-- **A device that is told of an event leaves the directories in order exactly when the event
does.** -/
theorem matches_told_iff (env : Env) (s : Sys) {dirs : Finset String} {l l' : List StorageDevice}
    {d : StorageDevice} {devClass : DeviceClass} (hdirs : Matches dirs l)
    (hone : ∀ e ∈ l, e.address = d.address → e = d) (hin : d ∈ l ∨ ∀ m, ¬ d.Owns m)
    (hmem : ∀ x, x ∈ l' ↔
      x = (d.setDeviceInfo env s devClass).obj ∨ (x ∈ l ∧ x.address ≠ d.address)) :
    Matches ((d.makes env devClass).foldl DirChange.apply dirs) l' ↔ InOrder env l d devClass := by
  have howned := owned_iff hone hin
  have hnow : ∀ m, (∃ e ∈ l', e.Owns m) ↔
      OwnedElsewhere l d m ∨ (d.Owns m ∧ ¬ d.DropsParts env devClass) ∨
        d.Gains env devClass m := by
    intro m
    rw [← d.setDeviceInfo_owns_iff env s devClass m]
    simp only [hmem, or_and_right, exists_or, exists_eq_left, and_assoc]
    exact or_comm
  have hthen : Matches ((d.makes env devClass).foldl DirChange.apply dirs) l' ↔
      ∀ m, (OwnedElsewhere l d m ∨ d.Owns m) ∨
          (d.Gains env devClass m ∧ m ≠ "" ∧ env.isDirectory m = false) ↔
        OwnedElsewhere l d m ∨ (d.Owns m ∧ ¬ d.DropsParts env devClass) ∨
          d.Gains env devClass m := by
    refine forall_congr' fun m => ?_
    rw [d.mem_makes env devClass dirs m, hdirs m, howned m, hnow m]
  rw [hthen]
  constructor
  · intro h
    refine ⟨fun m hgains => ?_, fun hdrops m howns => ?_⟩
    · rw [howned m]
      rcases (h m).mpr (Or.inr (Or.inr hgains)) with hhad | ⟨-, hmade⟩
      · exact Or.inr hhad
      · exact Or.inl hmade
    · rcases (h m).mp (Or.inl (Or.inr howns)) with helse | ⟨-, hkeeps⟩ | ⟨d₀, hd₀, -⟩
      · exact helse
      · exact absurd hdrops hkeeps
      · rw [receiver_of_dropsParts env d devClass hdrops] at hd₀
        exact absurd hd₀ (by simp)
  · intro horder m
    constructor
    · rintro ((helse | howns) | ⟨hgains, -⟩)
      · exact Or.inl helse
      · by_cases hdrops : d.DropsParts env devClass
        · exact Or.inl (horder.dropped hdrops m howns)
        · exact Or.inr (Or.inl ⟨howns, hdrops⟩)
      · exact Or.inr (Or.inr hgains)
    · rintro (helse | ⟨howns, -⟩ | hgains)
      · exact Or.inl (Or.inl helse)
      · exact Or.inl (Or.inr howns)
      · rcases horder.gained m hgains with hmade | hused
        · exact Or.inr ⟨hgains, hmade⟩
        · exact Or.inl ((howned m).mp hused)

/-- **A device that goes leaves the directories in order exactly when they are in its root
path.** -/
theorem matches_gone_iff {dirs : Finset String} {l : List StorageDevice} {d : StorageDevice}
    (hdirs : Matches dirs l) (hone : ∀ e ∈ l, e.address = d.address → e = d) (hd : d ∈ l) :
    Matches (d.removesRoot.foldl DirChange.apply dirs) (removePointer l d) ↔ InRoot l d := by
  have hnow : ∀ m, (∃ e ∈ removePointer l d, e.Owns m) ↔ OwnedElsewhere l d m := by
    intro m
    unfold removePointer OwnedElsewhere
    simp only [List.mem_filter, decide_eq_true_eq, and_assoc]
    exact Iff.rfl
  have hthen : Matches (d.removesRoot.foldl DirChange.apply dirs) (removePointer l d) ↔
      ∀ m, (OwnedElsewhere l d m ∨ d.Owns m) ∧ ¬ (d.rootPath ≠ "" ∧ AtOrBelow d.rootPath m) ↔
        OwnedElsewhere l d m := by
    refine forall_congr' fun m => ?_
    rw [d.mem_removesRoot dirs m, hdirs m, owned_iff hone (Or.inl hd) m, hnow m]
  rw [hthen]
  constructor
  · intro h
    refine ⟨fun m howns => ?_, fun hroot m hbelow helse => ?_⟩
    · by_cases hroot : d.rootPath ≠ "" ∧ AtOrBelow d.rootPath m
      · exact Or.inl hroot
      · exact Or.inr ((h m).mp ⟨Or.inr howns, hroot⟩)
    · exact ((h m).mpr helse).2 ⟨hroot, hbelow⟩
  · intro hin m
    constructor
    · rintro ⟨helse | howns, hout⟩
      · exact helse
      · exact (hin.under m howns).resolve_left hout
    · exact fun helse => ⟨Or.inl helse, fun h => hin.spared h.1 m h.2 helse⟩

/-! ### Runs -/

variable (cfg : Config)

theorem deliver_dirChanges (env : Env) (w : StorageSystem) {input : StorageInput}
    (h : ∀ devClass, input ≠ .uevent devClass) :
    (w.deliver cfg env input).sys.dirChanges = w.sys.dirChanges := by
  cases input with
  | uevent devClass => exact absurd rfl (h devClass)
  | command cmdtypes => exact w.storage.HandlerCommand_dirChanges env w.sys cmdtypes
  | pluginEvent eventType => exact w.storage.HandlePluginEvent_dirChanges env w.sys eventType
  | fsckThread device partition =>
    exact w.storage.runFsckThread_dirChanges env w.sys device partition
  | timeout device => exact w.storage.runTimeout_dirChanges w.sys device

/-- What is not a uevent keeps the mount names. -/
theorem matches_within {s t : Sys} {l l' : List StorageDevice} {dirs : Finset String}
    (hwf : WellFormed s l) (hdirs : Matches dirs l) (hw : WithinList s l t l') :
    Matches dirs l' := by
  intro m
  rw [hdirs m]
  constructor
  · rintro ⟨d, hd, howns⟩
    exact hw.owned_kept hwf hd howns
  · rintro ⟨e, he, howns⟩
    obtain ⟨d, hd, -, -, hidents⟩ := hw.each e he
    exact ⟨d, hd, Owns.mono hidents m howns⟩

section Event

variable (env : Env) {s : Sys} {h : StorageDeviceHandler} {devClass : DeviceClass}
  {dirs : Finset String}

theorem matches_removal_iff (hwf : WellFormed s h.storageList) (hdirs : Matches dirs h.storageList)
    (hremove : devClass.action = "remove") :
    Matches ((eventDirs cfg env s.next h devClass).foldl DirChange.apply dirs)
        (h.HandlerEvent cfg env s devClass).obj.storageList ↔
      ∀ d ∈ removedDevice h devClass, InRoot h.storageList d := by
  have heq : h.HandlerEvent cfg env s devClass = h.deleteStorageDevice env s devClass := if_pos hremove
  have hchanges : eventDirs cfg env s.next h devClass =
      match removedDevice h devClass with
      | none => []
      | some d => d.removesRoot := if_pos hremove
  rw [heq, hchanges]
  unfold StorageDeviceHandler.deleteStorageDevice
  cases hfound : removedDevice h devClass with
  | none => exact iff_of_true hdirs (by simp)
  | some d =>
    have hmem := StorageDeviceHandler.removedDevice_mem hfound
    have hgone := matches_gone_iff hdirs (fun e he haddr => hwf.eq_of_address he hmem haddr) hmem
    dsimp only
    rw [StorageDeviceHandler.dropStorageDevice_list, hgone]
    simp

theorem matches_event_iff (hwf : WellFormed s h.storageList) (hdirs : Matches dirs h.storageList)
    (hremove : devClass.action ≠ "remove") :
    Matches ((eventDirs cfg env s.next h devClass).foldl DirChange.apply dirs)
        (h.HandlerEvent cfg env s devClass).obj.storageList ↔
      ∀ d ∈ (target cfg s.next h devClass).told, InOrder env h.storageList d devClass := by
  have hchanges : eventDirs cfg env s.next h devClass =
      (target cfg s.next h devClass).makes env devClass := if_neg hremove
  rw [hchanges]
  rcases h.HandlerEvent_outcome cfg env s devClass with
    ⟨htarget, -, hl⟩ | ⟨d, htarget, hmem, -, hl⟩ | ⟨reader, htarget, -, hl⟩ | ⟨d, hgone, -, -, -⟩
  · rw [hl, htarget]
    exact iff_of_true hdirs (by simp [Target.told])
  · have htold := matches_told_iff env s hdirs
      (fun e he haddr => hwf.eq_of_address he hmem haddr) (Or.inl hmem)
      fun x => WellFormed.mem_handed hmem (d.setDeviceInfo_address env s devClass)
    rw [hl, htarget]
    exact htold.trans (by simp [Target.told])
  · have htold : Matches (((newDevice cfg s.next devClass reader).makes env devClass).foldl
          DirChange.apply dirs)
        (h.storageList ++ [((newDevice cfg s.next devClass reader).setDeviceInfo env s.alloc
          devClass).obj]) ↔
        InOrder env h.storageList (newDevice cfg s.next devClass reader) devClass := by
      refine matches_told_iff env s.alloc hdirs (fun e he haddr => ?_) (Or.inr ?_) fun x => ?_
      · rw [StorageDeviceHandler.newDevice_address] at haddr
        exact absurd haddr (Nat.ne_of_lt (hwf.given e he))
      · rintro m ⟨p, hp, -⟩
        simp at hp
      · rw [StorageDeviceHandler.newDevice_address]
        exact hwf.mem_created
    rw [hl, htarget]
    exact htold.trans (by simp [Target.told])
  · exact absurd hgone hremove

end Event

/-- After the step the directories match the partitions in use. -/
def MatchesAfter (w : MountDirectories) (i : Env × StorageInput) : Prop :=
  Matches (w.step cfg i).dirs (w.step cfg i).system.storage.storageList

/-- An event keeps the directories in order, at the device that is told of it and at the one
that it removes. -/
def StaysInOrder (w : MountDirectories) (i : Env × StorageInput) : Prop :=
  match i.2 with
  | .uevent devClass =>
    (∀ d ∈ (target cfg w.system.sys.next w.system.storage devClass).told,
      InOrder i.1 w.system.storage.storageList d devClass) ∧
    (devClass.action = "remove" → ∀ d ∈ removedDevice w.system.storage devClass,
      InRoot w.system.storage.storageList d)
  | _ => True

theorem matchesAfter_iff {w : MountDirectories} (hwf : w.system.Valid)
    (hdirs : Matches w.dirs w.system.storage.storageList) (i : Env × StorageInput) :
    w.MatchesAfter cfg i ↔ w.StaysInOrder cfg i := by
  obtain ⟨env, input⟩ := i
  have hclear : WellFormed w.system.clear.sys w.system.storage.storageList :=
    ⟨hwf.nodup, hwf.given, hwf.parts⟩
  have hquiet : (∀ devClass, input ≠ .uevent devClass) → w.MatchesAfter cfg (env, input) := by
    intro hnot
    have hsame : (w.step cfg (env, input)).dirs = w.dirs := by
      show ((w.system.clear.deliver cfg env input).sys.dirChanges).foldl DirChange.apply w.dirs = _
      rw [deliver_dirChanges cfg env w.system.clear hnot]
      rfl
    unfold MatchesAfter
    rw [hsame]
    exact matches_within hclear hdirs (w.system.clear.deliver_within cfg env hnot)
  cases input with
  | uevent devClass =>
    have hchanges : (w.step cfg (env, .uevent devClass)).dirs =
        (eventDirs cfg env w.system.clear.sys.next w.system.storage devClass).foldl
          DirChange.apply w.dirs := by
      show ((w.system.storage.HandlerEvent cfg env w.system.clear.sys devClass).state.dirChanges).foldl
        DirChange.apply w.dirs = _
      rw [StorageDeviceHandler.HandlerEvent_dirChanges]
      rfl
    unfold MatchesAfter StaysInOrder
    rw [hchanges]
    by_cases hremove : devClass.action = "remove"
    · refine (matches_removal_iff cfg env hclear hdirs hremove).trans ⟨fun h => ⟨?_, fun _ => h⟩,
        fun h => h.2 hremove⟩
      rw [StorageDeviceHandler.target_nobody _ _ _
        (StorageDeviceHandler.not_takes_of_remove hremove)]
      simp [Target.told]
    · exact (matches_event_iff cfg env hclear hdirs hremove).trans
        ⟨fun h => ⟨h, fun hgone => absurd hgone hremove⟩, And.left⟩
  | command cmdtypes => exact iff_of_true (hquiet (by simp)) trivial
  | pluginEvent eventType => exact iff_of_true (hquiet (by simp)) trivial
  | fsckThread device partition => exact iff_of_true (hquiet (by simp)) trivial
  | timeout device => exact iff_of_true (hquiet (by simp)) trivial

/-- **Along every run the directories match the partitions in use exactly when every event
keeps them in order.** -/
theorem directories_match_iff (inputs : List (Env × StorageInput)) :
    Runs.StepsAll (step cfg) (MatchesAfter cfg) {} inputs ↔
      Runs.StepsAll (step cfg) (StaysInOrder cfg) {} inputs :=
  Runs.stepsAll_congr (P := MatchesAfter cfg) (Q := StaysInOrder cfg)
    (I := fun w : MountDirectories => w.system.Valid ∧ Matches w.dirs w.system.storage.storageList)
    (fun _ i hw hmatches => ⟨StorageSystem.step_valid hw.1 i, hmatches⟩)
    (fun _ i hw => matchesAfter_iff cfg hw.1 hw.2 i) ⟨StorageSystem.init_valid, by simp [Matches]⟩

/-- A card reader is plugged with a card in it, and the card is taken out. -/
def cardTaken : List (Env × StorageInput) :=
  let reader := { StorageSystem.diskEvent "/devices/usb1/1-1/block/sda" "sda" with
    isCardReader := YES }
  [({}, .uevent (StorageSystem.stickEvent "/devices/usb1/1-1")),
    (StorageSystem.onePartition, .uevent reader),
    ({ isDirectory := fun _ => false },
      .uevent (StorageSystem.partitionEvent "/devices/usb1/1-1/block/sda/sda1" "sda1")),
    ({}, .uevent { reader with action := "change" })]

/-- The partition is no longer listed, and its directory is still there. -/
theorem directory_left :
    ¬ Runs.StepsAll (step .tmpUsb) (MatchesAfter .tmpUsb) {} cardTaken := by
  intro h
  have hdirs : "/tmp/usb/sda/sda1" ∈ (Runs.run (step .tmpUsb) {} cardTaken).dirs := by decide
  have hgone : ∀ d ∈ (Runs.run (step .tmpUsb) {} cardTaken).system.storage.storageList,
      d.diskPartitionList = [] := by decide
  obtain ⟨d, hd, p, hp, -⟩ := (h.2.2.2.1 _).mp hdirs
  have hnone := hgone d hd
  rw [hnone] at hp
  exact absurd hp (by simp)

end MountDirectories

end Pdm
