/-
What a uevent makes a storage device do.

`receiver` is the device as it stands when the event's partition is added to it, if one
is, and `informed` the device after the event but for its partitions.  Both are functions
of the state before the event and of the event.  `setDeviceInfo_core` and
`setDeviceInfo_cases` say that nothing else happens.
-/
import Pdm.Proofs.Devices
import Pdm.Framework.DeviceManager

namespace Pdm

namespace StorageDevice

variable (env : Env) (s : Sys) (d : StorageDevice) (devClass : DeviceClass)

/-! ### The device a partition is added to -/

@[simp] theorem countPartitions_fst (devName : String) :
    (countPartitions env s devName).1 = env.partitionCount devName := by
  unfold Env.partitionCount countPartitions
  split <;> rfl

/-- The device an event's partition is added to: itself, under the name and root path
that an added disk gives it, or none. -/
def receiver (env : Env) (d : StorageDevice) (devClass : DeviceClass) : Option StorageDevice :=
  if d.isSdCardRemoved then none
  else
    match sMapUsbDeviceType devClass.devType with
    | .typeDevUsb => none
    | .typeDevPartition => some d
    | .typeDevDisk =>
      match getDeviceAction devClass.action with
      | .usbDevAdd =>
        let d := d.nameDisk devClass
        let d := { d with partitionCount := env.partitionCount d.deviceName }
        if d.partitionCount = 0 ∧ d.storageType ≠ .usbCardReader then some d else none
      | .usbDevChange =>
        if d.storageType ≠ .usbCardReader ∧ env.partitionCount d.deviceName = 0
            ∧ devClass.isCardReader ≠ YES then some d else none
      | _ => none

/-- The device after the event, but for its partitions. -/
def informed (env : Env) (d : StorageDevice) (devClass : DeviceClass) : StorageDevice :=
  if d.isSdCardRemoved then d
  else
    match sMapUsbDeviceType devClass.devType with
    | .typeDevUsb => updateDeviceInfo env d devClass
    | .typeDevPartition => d
    | .typeDevDisk =>
      match getDeviceAction devClass.action with
      | .usbDevAdd => updateMultiSdCard env (d.nameDisk devClass) devClass
      | _ => updateMultiSdCard env d devClass

@[simp] theorem nameDisk_list : (d.nameDisk devClass).diskPartitionList = d.diskPartitionList := rfl

@[simp] theorem nameDisk_address : (d.nameDisk devClass).address = d.address := rfl

@[simp] theorem nameDisk_node : (d.nameDisk devClass).node = d.node := rfl

/-- The disk of a card reader is no stick. -/
theorem nameDisk_not_both :
    ¬ ((d.nameDisk devClass).storageType = .usbStick ∧ devClass.isCardReader = YES) := by
  rintro ⟨hstick, hreader⟩
  have hkind : (d.nameDisk devClass).storageType = .usbCardReader := by
    simp [nameDisk, setStorageInterfaceType, hreader]
  rw [hkind] at hstick
  exact absurd hstick (by simp)

@[simp] theorem updateMultiSdCard_list :
    (updateMultiSdCard env d devClass).diskPartitionList = d.diskPartitionList := by
  unfold updateMultiSdCard; split <;> rfl

@[simp] theorem updateMultiSdCard_threads :
    (updateMultiSdCard env d devClass).fsckThreadArray = d.fsckThreadArray := by
  unfold updateMultiSdCard; split <;> rfl

@[simp] theorem updateDeviceInfo_list :
    (updateDeviceInfo env d devClass).diskPartitionList = d.diskPartitionList := by
  unfold updateDeviceInfo; dsimp only; split <;> rfl

@[simp] theorem updateDeviceInfo_threads :
    (updateDeviceInfo env d devClass).fsckThreadArray = d.fsckThreadArray := by
  unfold updateDeviceInfo; dsimp only; split <;> rfl

@[simp] theorem updateMultiSdCard_deviceName :
    (updateMultiSdCard env d devClass).deviceName = d.deviceName := by
  unfold updateMultiSdCard; split <;> rfl

@[simp] theorem updateMultiSdCard_storageType :
    (updateMultiSdCard env d devClass).storageType = d.storageType := by
  unfold updateMultiSdCard; split <;> rfl

/-- What is known of the device itself decides what `updateMultiSdCard` makes of it. -/
theorem updateMultiSdCard_core {e : StorageDevice} (h : d.core = e.core) :
    (updateMultiSdCard env d devClass).core = (updateMultiSdCard env e devClass).core := by
  have hcore : ∀ c : StorageDevice,
      (updateMultiSdCard env c devClass).core = (updateMultiSdCard env c.core devClass).core := by
    intro c
    unfold updateMultiSdCard
    by_cases hc : c.devicePath = ""
    · have hc' : c.core.devicePath = "" := hc
      rw [if_pos hc, if_pos hc']
      rfl
    · have hc' : ¬ c.core.devicePath = "" := hc
      rw [if_neg hc, if_neg hc']
      rfl
  rw [hcore d, hcore e, h]

/-! ### `setDeviceInfo` -/

/-- **What a device knows of itself after an event** is a function of what it knew and
of the event. -/
theorem setDeviceInfo_core :
    (setDeviceInfo env s d devClass).obj.core = (informed env d devClass).core := by
  unfold setDeviceInfo informed
  by_cases hsd : d.isSdCardRemoved = true
  · simp [hsd]
  · simp only [triggerUevent_ret, hsd, Bool.false_eq_true, if_false]
    cases sMapUsbDeviceType devClass.devType with
    | typeDevUsb => rfl
    | typeDevPartition => exact setPartitionInfo_core ..
    | typeDevDisk =>
      rw [checkSdCardAddRemove_core]
      unfold updateDiskInfo
      cases getDeviceAction devClass.action with
      | usbDevAdd =>
        refine updateMultiSdCard_core env _ devClass ?_
        dsimp only
        split
        · rw [setPartitionInfo_core]; rfl
        · rfl
      | usbDevChange =>
        refine updateMultiSdCard_core env _ devClass ?_
        dsimp only
        split
        · exact handleCardReaderDeviceChange_core ..
        · split
          · exact setPartitionInfo_core ..
          · rfl
      | usbDevRemove => rfl
      | usbDevBind => rfl
      | usbDevUnknown => rfl

/-- The system may have been asked, but nothing that is looked at has changed. -/
structure Untouched (s t : Sys) : Prop where
  mounted : t.mounted = s.mounted
  next : t.next = s.next
  notables : t.notables = s.notables

theorem Untouched.refl (s : Sys) : Untouched s s := ⟨rfl, rfl, rfl⟩

theorem Untouched.trans {s t u : Sys} (hst : Untouched s t) (htu : Untouched t u) :
    Untouched s u :=
  ⟨htu.mounted.trans hst.mounted, htu.next.trans hst.next, htu.notables.trans hst.notables⟩

theorem countPartitions_untouched (devName : String) :
    Untouched s (countPartitions env s devName).2 :=
  ⟨countPartitions_mounted .., countPartitions_next .., countPartitions_notables ..⟩

/-- What two results agree on when only the mount table, the partitions, their threads, the
allocations and the notable calls are looked at. -/
structure SameParts (r : Out StorageDevice Unit) (t : Sys) (parts : List DiskPartitionInfo)
    (threads : List Nat) : Prop where
  mounted : r.state.mounted = t.mounted
  next : r.state.next = t.next
  notables : r.state.notables = t.notables
  parts : r.obj.diskPartitionList = parts
  threads : r.obj.fsckThreadArray = threads

/-- A stick that is a card reader reports that its medium is gone. -/
def LosesCard (env : Env) (d : StorageDevice) (devClass : DeviceClass) : Prop :=
  d.storageType = .usbStick ∧ devClass.isCardReader = YES ∧ devClass.isDiskMediaChange = YES ∧
    env.partitionCount d.deviceName = 0

instance : Decidable (d.LosesCard env devClass) :=
  inferInstanceAs (Decidable (_ ∧ _ ∧ _ ∧ _))

/-- `checkSdCardAddRemove` drops all partitions or leaves them. -/
theorem checkSdCardAddRemove_cases :
    SameParts (checkSdCardAddRemove env s d devClass) s d.diskPartitionList d.fsckThreadArray ∨
      (d.LosesCard env devClass ∧
        ∃ t, Untouched s t ∧ SameParts (checkSdCardAddRemove env s d devClass)
          (umountAllPartition env t d true).state [] d.fsckThreadArray) := by
  unfold checkSdCardAddRemove
  split
  · exact Or.inl ⟨rfl, rfl, rfl, rfl, rfl⟩
  · rename_i hstick
    split
    · exact Or.inl ⟨rfl, rfl, rfl, rfl, rfl⟩
    · rename_i hmedia
      split
      · exact Or.inl ⟨rfl, rfl, rfl, rfl, rfl⟩
      · rename_i hreader
        dsimp only
        split
        · rename_i hcount
          rw [countPartitions_fst] at hcount
          refine Or.inr ⟨⟨by simpa using hstick, by simpa using hreader, by simpa using hmedia,
            hcount⟩, _, countPartitions_untouched env s d.deviceName, ?_, ?_, ?_, rfl, rfl⟩
          · simp [deletePartitionData]
          · simp
          · simp [handlerCb_notables]
        · exact Or.inl ⟨by simp, by simp, by simp, rfl, rfl⟩

/-- The number of partitions in a card reader's slot is not the one that is known. -/
def ChangesCard (env : Env) (d : StorageDevice) (devClass : DeviceClass) : Prop :=
  getDeviceAction devClass.action = .usbDevChange ∧ d.storageType = .usbCardReader ∧
    env.partitionCount d.deviceName ≠ d.partitionCount ∧ d.partitionCount ≠ 0

instance : Decidable (d.ChangesCard env devClass) :=
  inferInstanceAs (Decidable (_ ∧ _ ∧ _ ∧ _))

/-- The event makes the device drop its partitions: the medium is gone. -/
def DropsParts (env : Env) (d : StorageDevice) (devClass : DeviceClass) : Prop :=
  d.isSdCardRemoved = false ∧ sMapUsbDeviceType devClass.devType = .typeDevDisk ∧
    (d.ChangesCard env devClass ∨
      getDeviceAction devClass.action ≠ .usbDevAdd ∧ d.LosesCard env devClass)

instance : Decidable (d.DropsParts env devClass) :=
  inferInstanceAs (Decidable (_ ∧ _ ∧ (_ ∨ _ ∧ _)))

/-- A disk that is added has lost nothing. -/
theorem not_dropsParts_of_add (haction : getDeviceAction devClass.action = .usbDevAdd) :
    ¬ d.DropsParts env devClass := by
  rintro ⟨-, -, hchange | ⟨hnotAdd, -⟩⟩
  · exact absurd (haction.symm.trans hchange.1) (by decide)
  · exact hnotAdd haction

/-- What an event makes of the partitions of a device. -/
inductive PartsAfter (env : Env) (s : Sys) (d : StorageDevice) (devClass : DeviceClass)
    (r : Out StorageDevice Unit) : Prop
  /-- One is added to the device that receives it. -/
  | added (d₀ : StorageDevice) (s₀ : Sys) (hd₀ : receiver env d devClass = some d₀)
      (hs₀ : Untouched s s₀)
      (hr : SameParts r (setPartitionInfo env s₀ d₀ devClass).state
        (setPartitionInfo env s₀ d₀ devClass).obj.diskPartitionList
        (setPartitionInfo env s₀ d₀ devClass).obj.fsckThreadArray)
  /-- They stay. -/
  | kept (hnone : receiver env d devClass = none)
      (hr : SameParts r s d.diskPartitionList d.fsckThreadArray)
  /-- All are unmounted and dropped; the device keeps its name. -/
  | dropped (hnone : receiver env d devClass = none)
      (hname : (informed env d devClass).deviceName = d.deviceName)
      (hdrops : d.DropsParts env devClass) (t : Sys) (ht : Untouched s t)
      (hr : SameParts r (umountAllPartition env t d true).state [] d.fsckThreadArray)

/-- The medium of a slot is gone: all partitions are dropped, or else they stay. -/
theorem handleCardReaderDeviceChange_cases :
    SameParts (handleCardReaderDeviceChange env s d) s d.diskPartitionList d.fsckThreadArray ∨
      ((env.partitionCount d.deviceName ≠ d.partitionCount ∧ d.partitionCount ≠ 0) ∧
        ∃ t, Untouched s t ∧
          SameParts (handleCardReaderDeviceChange env s d)
            (umountAllPartition env t d true).state [] d.fsckThreadArray) := by
  unfold handleCardReaderDeviceChange
  dsimp only
  split
  · rename_i hcount
    rw [countPartitions_fst] at hcount
    split
    · rename_i hknown
      refine Or.inr ⟨⟨hcount, hknown⟩, _, countPartitions_untouched env s d.deviceName, ?_, ?_, ?_,
        rfl, rfl⟩
      · simp [deletePartitionData]
      · simp
      · simp [handlerCb_notables]
    · exact Or.inl ⟨by simp, by simp, by simp, rfl, rfl⟩
  · exact Or.inl ⟨by simp, by simp, by simp, rfl, rfl⟩

theorem setPartitionInfo_storageType :
    (setPartitionInfo env s d devClass).obj.storageType = d.storageType :=
  storageType_of_core (setPartitionInfo_core env s d devClass)

/-- When the check for a removed medium does nothing, the partitions are those before it. -/
theorem checkSdCardAddRemove_sameParts {r : Out StorageDevice Unit}
    (h : ¬ (r.obj.storageType = .usbStick ∧ devClass.isCardReader = YES)) :
    SameParts (checkSdCardAddRemove env r.state (updateMultiSdCard env r.obj devClass) devClass)
      r.state r.obj.diskPartitionList r.obj.fsckThreadArray := by
  rcases checkSdCardAddRemove_cases env r.state (updateMultiSdCard env r.obj devClass) devClass
    with hsame | ⟨⟨hstick, hreader, -⟩, -⟩
  · simpa using hsame
  · exact absurd ⟨by simpa using hstick, hreader⟩ h

/-- Only an added disk gives the device a name. -/
theorem informed_deviceName (hdisk : sMapUsbDeviceType devClass.devType = .typeDevDisk)
    (haction : getDeviceAction devClass.action ≠ .usbDevAdd) :
    (informed env d devClass).deviceName = d.deviceName := by
  unfold informed
  split
  · rfl
  · rw [hdisk]
    dsimp only
    split
    · contradiction
    · unfold updateMultiSdCard
      split <;> rfl

/-- A disk event that adds no partition leaves them or drops them all. -/
theorem checkSdCardAddRemove_after {s₀ : Sys} (hs₀ : Untouched s s₀)
    (hnone : receiver env d devClass = none) (hsd : d.isSdCardRemoved = false)
    (hdisk : sMapUsbDeviceType devClass.devType = .typeDevDisk)
    (haction : getDeviceAction devClass.action ≠ .usbDevAdd) :
    PartsAfter env s d devClass
      (checkSdCardAddRemove env s₀ (updateMultiSdCard env d devClass) devClass) := by
  rcases checkSdCardAddRemove_cases env s₀ (updateMultiSdCard env d devClass) devClass
    with hsame | ⟨hloses, t, ht, hdrop⟩
  · refine .kept hnone ⟨hsame.mounted.trans hs₀.mounted, hsame.next.trans hs₀.next,
      hsame.notables.trans hs₀.notables, ?_, ?_⟩
    · rw [hsame.parts, updateMultiSdCard_list]
    · rw [hsame.threads, updateMultiSdCard_threads]
  · have hloop : (umountAllPartition env t (updateMultiSdCard env d devClass) true).state =
        (umountAllPartition env t d true).state := by
      unfold umountAllPartition
      rw [updateMultiSdCard_list]
      rfl
    rw [hloop, updateMultiSdCard_threads] at hdrop
    unfold LosesCard at hloses
    rw [updateMultiSdCard_storageType, updateMultiSdCard_deviceName] at hloses
    exact .dropped hnone (informed_deviceName env d devClass hdisk haction)
      ⟨hsd, hdisk, Or.inr ⟨haction, hloses⟩⟩ t (hs₀.trans ht) hdrop

/-- An added disk: the partition of a disk without a partition table is the disk. -/
theorem updateDiskInfo_add (haction : getDeviceAction devClass.action = .usbDevAdd)
    (hsd : d.isSdCardRemoved = false) (hdisk : sMapUsbDeviceType devClass.devType = .typeDevDisk) :
    PartsAfter env s d devClass
      (checkSdCardAddRemove env (updateDiskInfo env s d devClass).state
        (updateMultiSdCard env (updateDiskInfo env s d devClass).obj devClass) devClass) := by
  have htype := nameDisk_not_both d devClass
  unfold updateDiskInfo
  rw [haction]
  dsimp only
  rw [countPartitions_fst]
  by_cases hcount : env.partitionCount (d.nameDisk devClass).deviceName = 0 ∧
      (d.nameDisk devClass).storageType ≠ .usbCardReader
  · rw [if_pos hcount]
    refine .added { d.nameDisk devClass with
        partitionCount := env.partitionCount (d.nameDisk devClass).deviceName }
      (countPartitions env s (d.nameDisk devClass).deviceName).2 ?_
      (countPartitions_untouched env s _)
      (checkSdCardAddRemove_sameParts env devClass ?_)
    · unfold receiver
      simp only [hsd, hdisk, haction, Bool.false_eq_true, if_false]
      rw [if_pos hcount]
    · rw [setPartitionInfo_storageType]
      exact htype
  · rw [if_neg hcount]
    have hc := countPartitions_untouched env s (d.nameDisk devClass).deviceName
    refine .kept ?_ ?_
    · unfold receiver
      simp only [hsd, hdisk, haction, Bool.false_eq_true, if_false]
      rw [if_neg hcount]
    · have h := checkSdCardAddRemove_sameParts env devClass
        (r := ⟨(countPartitions env s (d.nameDisk devClass).deviceName).2,
          { d.nameDisk devClass with
            partitionCount := env.partitionCount (d.nameDisk devClass).deviceName }, ()⟩) htype
      exact ⟨h.mounted.trans hc.mounted, h.next.trans hc.next, h.notables.trans hc.notables, h.parts,
        h.threads⟩

/-- A changed disk: a card reader's slot loses its medium, another disk may turn out to
have no partition table. -/
theorem updateDiskInfo_change (haction : getDeviceAction devClass.action = .usbDevChange)
    (hsd : d.isSdCardRemoved = false) (hdisk : sMapUsbDeviceType devClass.devType = .typeDevDisk) :
    PartsAfter env s d devClass
      (checkSdCardAddRemove env (updateDiskInfo env s d devClass).state
        (updateMultiSdCard env (updateDiskInfo env s d devClass).obj devClass) devClass) := by
  have hc := countPartitions_untouched env s d.deviceName
  unfold updateDiskInfo
  rw [haction]
  dsimp only
  by_cases hreader : d.storageType = .usbCardReader
  · rw [if_pos hreader]
    have hnone : receiver env d devClass = none := by
      unfold receiver
      simp [hsd, hdisk, haction, hreader]
    have hcore := storageType_of_core (handleCardReaderDeviceChange_core env s d)
    have h := checkSdCardAddRemove_sameParts env devClass
      (r := handleCardReaderDeviceChange env s d) (by rw [hcore, hreader]; simp)
    rcases handleCardReaderDeviceChange_cases env s d with hkept | ⟨hcount, t, ht, hdrop⟩
    · exact .kept hnone ⟨h.mounted.trans hkept.mounted, h.next.trans hkept.next,
        h.notables.trans hkept.notables, h.parts.trans hkept.parts,
        h.threads.trans hkept.threads⟩
    · exact .dropped hnone (informed_deviceName env d devClass hdisk (by rw [haction]; decide))
        ⟨hsd, hdisk, Or.inl ⟨haction, hreader, hcount⟩⟩ t ht
        ⟨h.mounted.trans hdrop.mounted, h.next.trans hdrop.next,
          h.notables.trans hdrop.notables, h.parts.trans hdrop.parts,
          h.threads.trans hdrop.threads⟩
  · rw [if_neg hreader, countPartitions_fst]
    by_cases hcount : env.partitionCount d.deviceName = 0 ∧ devClass.isCardReader ≠ YES
    · rw [if_pos hcount]
      refine .added d (countPartitions env s d.deviceName).2 ?_ hc
        (checkSdCardAddRemove_sameParts env devClass fun h => hcount.2 h.2)
      unfold receiver
      simp [hsd, hdisk, haction, hreader, hcount]
    · rw [if_neg hcount]
      refine checkSdCardAddRemove_after env s d devClass hc ?_ hsd hdisk (by rw [haction]; decide)
      unfold receiver
      simp only [hsd, hdisk, haction, Bool.false_eq_true, if_false]
      rw [if_neg fun h => hcount h.2]

/-- **What an event makes of a device's partitions.** -/
theorem setDeviceInfo_cases : PartsAfter env s d devClass (setDeviceInfo env s d devClass) := by
  unfold setDeviceInfo
  by_cases hsd : d.isSdCardRemoved = true
  · simp only [triggerUevent_ret, hsd, if_true]
    refine .kept (by simp [receiver, hsd]) ⟨?_, ?_, ?_, ?_, ?_⟩
    · simp
    · simp
    · simp
    · simp
    · simp
  · rw [Bool.not_eq_true] at hsd
    simp only [triggerUevent_ret, hsd, Bool.false_eq_true, if_false]
    cases hdisk : sMapUsbDeviceType devClass.devType with
    | typeDevUsb =>
      exact .kept (by simp [receiver, hsd, hdisk]) ⟨rfl, rfl, rfl, by simp, by simp⟩
    | typeDevPartition =>
      exact .added d s (by simp [receiver, hsd, hdisk]) (Untouched.refl s)
        ⟨rfl, rfl, rfl, rfl, rfl⟩
    | typeDevDisk =>
      cases haction : getDeviceAction devClass.action with
      | usbDevAdd => exact updateDiskInfo_add env s d devClass haction hsd hdisk
      | usbDevChange => exact updateDiskInfo_change env s d devClass haction hsd hdisk
      | usbDevRemove =>
        have h := checkSdCardAddRemove_after env s d devClass (Untouched.refl s)
          (by simp [receiver, hsd, hdisk, haction]) hsd hdisk (by rw [haction]; decide)
        simpa [updateDiskInfo, haction] using h
      | usbDevBind =>
        have h := checkSdCardAddRemove_after env s d devClass (Untouched.refl s)
          (by simp [receiver, hsd, hdisk, haction]) hsd hdisk (by rw [haction]; decide)
        simpa [updateDiskInfo, haction] using h
      | usbDevUnknown =>
        have h := checkSdCardAddRemove_after env s d devClass (Untouched.refl s)
          (by simp [receiver, hsd, hdisk, haction]) hsd hdisk (by rw [haction]; decide)
        simpa [updateDiskInfo, haction] using h

end StorageDevice

end Pdm
