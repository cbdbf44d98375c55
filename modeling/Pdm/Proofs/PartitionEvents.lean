/-
The events of a partition: its announcement and its check.

Most of what a device is outlasts them (`SameMedium`).  An announcement appends to the
list of partitions and, when the list is as long as the device expects, submits all that
are supported; a check writes to one partition of the list.
-/
import Pdm.Devices.MediumSessions
import Pdm.Proofs.Methods
import Pdm.Proofs.PartitionOutcomes

namespace Pdm

open Visit (visit)

namespace StorageDevice

variable (env : Env) (s : Sys) (d : StorageDevice) (devClass : DeviceClass)

/-! ### What a partition event leaves -/

/-- What only the events of the disk change. -/
structure SameMedium (d e : StorageDevice) : Prop where
  core : e.core = d.core
  partitionCount : e.partitionCount = d.partitionCount
  isSdCardRemoved : e.isSdCardRemoved = d.isSdCardRemoved

theorem SameMedium.refl : SameMedium d d := ⟨rfl, rfl, rfl⟩

theorem SameMedium.trans {d e f : StorageDevice} (h : SameMedium d e) (h' : SameMedium e f) :
    SameMedium d f :=
  ⟨h'.core.trans h.core, h'.partitionCount.trans h.partitionCount,
    h'.isSdCardRemoved.trans h.isSdCardRemoved⟩

theorem addresses_of_idents {d e : StorageDevice} (h : e.idents = d.idents) :
    e.addresses = d.addresses := by
  have hfst := congrArg (List.map Prod.fst) h
  unfold idents at hfst
  rw [List.map_map, List.map_map] at hfst
  exact hfst

theorem storageDeviceNotification_same :
    SameMedium d (storageDeviceNotification s d).obj ∧
      (storageDeviceNotification s d).obj.fsckThreadArray = d.fsckThreadArray := by
  unfold storageDeviceNotification
  dsimp only
  split
  · exact ⟨⟨rfl, rfl, rfl⟩, rfl⟩
  · split <;> exact ⟨⟨rfl, rfl, rfl⟩, rfl⟩

theorem storageDeviceFsckNotification_same :
    SameMedium d (storageDeviceFsckNotification s d).obj ∧
      (storageDeviceFsckNotification s d).obj.fsckThreadArray = d.fsckThreadArray := by
  unfold storageDeviceFsckNotification
  dsimp only
  split
  · obtain ⟨hsame, harray⟩ := storageDeviceNotification_same s
      { d with fsckThreadCount := d.fsckThreadCount - 1 }
    exact ⟨⟨hsame.core, hsame.partitionCount, hsame.isSdCardRemoved⟩, harray⟩
  · exact ⟨⟨rfl, rfl, rfl⟩, rfl⟩

/-- The thread of a partition. -/
theorem fsckOnDeviceAddThread_same (partition : Nat) :
    SameMedium d (fsckOnDeviceAddThread env s d partition).obj ∧
      (fsckOnDeviceAddThread env s d partition).obj.fsckThreadArray = d.fsckThreadArray := by
  unfold fsckOnDeviceAddThread fsckPartitionAt
  split
  · exact storageDeviceFsckNotification_same _ d
  · rename_i p hp
    obtain ⟨hsame, harray⟩ := storageDeviceFsckNotification_same
      (fsckPartition env s p PdmFsck.AUTO).state
      (d.setPartition (fsckPartition env s p PdmFsck.AUTO).obj)
    exact ⟨⟨hsame.core, hsame.partitionCount, hsame.isSdCardRemoved⟩, harray⟩

theorem startPartitions_same :
    SameMedium d (startPartitions env s d).obj := by
  unfold startPartitions
  split
  · split
    · obtain ⟨hsame, -⟩ := storageDeviceNotification_same (mountAllPartition env s d).state
        (mountAllPartition env s d).obj
      exact ⟨hsame.core, hsame.partitionCount, hsame.isSdCardRemoved⟩
    · exact ⟨rfl, rfl, rfl⟩
  · exact ⟨rfl, rfl, rfl⟩

theorem setPartitionInfo_same : SameMedium d (setPartitionInfo env s d devClass).obj := by
  unfold setPartitionInfo
  split
  · exact SameMedium.refl d
  · dsimp only
    split
    · exact SameMedium.trans (e := (addPartition env s d devClass).obj) ⟨rfl, rfl, rfl⟩
        (startPartitions_same env _ _)
    · exact ⟨rfl, rfl, rfl⟩

/-- A partition that is listed already is left alone. -/
theorem setPartitionInfo_known (hname : devClass.devName ≠ "")
    (hknown : devClass.devName ∈ d.diskPartitionList.map (·.driveName)) :
    setPartitionInfo env s d devClass = ⟨s, d, ()⟩ ∧ submissions env s d devClass = [] := by
  have hfound := (d.findPartition_isSome hname).mpr hknown
  unfold setPartitionInfo submissions
  rw [if_pos hfound, if_pos hfound]
  exact ⟨rfl, rfl⟩

/-- The condition on which `setPartitionInfo` calls `startPartitions`. -/
def Complete (d : StorageDevice) (listed : Nat) : Prop :=
  d.partitionCount = 0 ∨ (listed : Int) = d.partitionCount

instance (listed : Nat) : Decidable (d.Complete listed) :=
  inferInstanceAs (Decidable (d.partitionCount = 0 ∨ (listed : Int) = d.partitionCount))

theorem addPartition_listed :
    (addPartition env s d devClass).obj.diskPartitionList =
      d.diskPartitionList ++ [d.listed devClass s.next] :=
  addPartition_list env s d devClass

/-- Whether the medium is complete with the partition that has been added. -/
theorem addPartition_complete :
    ((addPartition env s d devClass).obj.partitionCount = 0 ∨
        ((addPartition env s d devClass).obj.diskPartitionList.length : Int) =
          (addPartition env s d devClass).obj.partitionCount) ↔
      d.Complete (d.diskPartitionList.length + 1) := by
  rw [addPartition_list, List.length_append]
  exact Iff.rfl

/-- A partition that is new. -/
theorem setPartitionInfo_new (hname : devClass.devName ≠ "")
    (hnew : devClass.devName ∉ d.diskPartitionList.map (·.driveName)) :
    setPartitionInfo env s d devClass =
        (if d.Complete (d.diskPartitionList.length + 1) then
          startPartitions env (addPartition env s d devClass).state
            (addPartition env s d devClass).obj
        else addPartition env s d devClass) ∧
      submissions env s d devClass =
        (if d.Complete (d.diskPartitionList.length + 1) then
          ((d.diskPartitionList ++ [d.listed devClass s.next]).filter (·.isSupportedFs)).map
            (·.driveName)
        else []) := by
  have hmissing : ¬ (d.findPartition devClass.devName).isSome = true := fun h =>
    hnew ((d.findPartition_isSome hname).mp h)
  have hlist := addPartition_listed env s d devClass
  have hcomplete := addPartition_complete env s d devClass
  unfold setPartitionInfo submissions
  rw [if_neg hmissing, if_neg hmissing]
  dsimp only
  by_cases h : d.Complete (d.diskPartitionList.length + 1)
  · rw [if_pos h, if_pos h, if_pos (hcomplete.mpr h), if_pos (hcomplete.mpr h), hlist]
    exact ⟨rfl, rfl⟩
  · rw [if_neg h, if_neg h, if_neg (mt hcomplete.mp h), if_neg (mt hcomplete.mp h)]
    exact ⟨rfl, rfl⟩

/-- Nothing is started on a medium without a supported file system. -/
theorem startPartitions_none (h : ∀ p ∈ d.diskPartitionList, p.isSupportedFs = false) :
    (startPartitions env s d).obj.diskPartitionList = d.diskPartitionList ∧
      (startPartitions env s d).obj.fsckThreadArray = d.fsckThreadArray := by
  have hnone : ¬ d.diskPartitionList.any (·.isSupportedFs) = true := by
    rw [List.any_eq_true]
    rintro ⟨p, hp, hsupported⟩
    exact absurd hsupported (by simp [h p hp])
  unfold startPartitions
  rw [if_neg hnone]
  exact ⟨rfl, rfl⟩

/-- Every supported partition of a read-only disk is mounted. -/
theorem startPartitions_mounts (h : ∃ p ∈ d.diskPartitionList, p.isSupportedFs = true)
    (hreadOnly : d.isReadOnly = true) :
    (startPartitions env s d).obj.diskPartitionList.map (·.moved 0) =
        d.diskPartitionList.map (fun p => (mountSupported env true {} (p.moved 0)).obj) ∧
      (startPartitions env s d).obj.fsckThreadArray = d.fsckThreadArray := by
  unfold startPartitions
  rw [if_pos (List.any_eq_true.mpr h), if_pos hreadOnly]
  dsimp only
  rw [storageDeviceNotification_list, mountAllPartition_list, hreadOnly]
  exact ⟨rfl, (storageDeviceNotification_same _ _).2⟩

/-- Otherwise every supported partition gets its thread. -/
theorem startPartitions_checks (h : ∃ p ∈ d.diskPartitionList, p.isSupportedFs = true)
    (hreadOnly : d.isReadOnly = false) :
    (startPartitions env s d).obj.diskPartitionList = d.diskPartitionList ∧
      (startPartitions env s d).obj.fsckThreadArray = d.fsckThreadArray ++
        (d.diskPartitionList.filter (·.isSupportedFs)).map (·.address) := by
  unfold startPartitions
  rw [if_pos (List.any_eq_true.mpr h), hreadOnly]
  exact ⟨rfl, rfl⟩

theorem setDeviceInfo_partition
    (hkind : sMapUsbDeviceType devClass.devType = .typeDevPartition)
    (hremoved : d.isSdCardRemoved = false) :
    setDeviceInfo env s d devClass = setPartitionInfo env s d devClass := by
  have hret : ¬ (triggerUevent env s d).ret = true := by
    rw [triggerUevent_ret, hremoved]
    exact Bool.false_ne_true
  unfold setDeviceInfo
  dsimp only
  rw [if_neg hret, hkind]

/-! ### Names and kinds of the partitions -/

/-- Whether pdm supports the file system of an announced partition. -/
def supports (d : StorageDevice) (devClass : DeviceClass) : Bool :=
  (d.listed devClass 0).isSupportedFs

/-- The partitions of a device by name, and whether pdm supports them. -/
def labels (d : StorageDevice) : List (String × Bool) :=
  d.diskPartitionList.map fun p => (p.driveName, p.isSupportedFs)

/-- The partitions that are to be checked or mounted. -/
def supportedNames (d : StorageDevice) (parts : List DeviceClass) : List String :=
  (parts.filter d.supports).map (·.devName)

theorem labels_of_idents {d e : StorageDevice} (h : e.idents = d.idents) :
    e.labels = d.labels := by
  have hlabel := congrArg
    (List.map fun i : Nat × String × String × String × Bool => (i.2.2.1, i.2.2.2.2)) h
  unfold idents at hlabel
  rw [List.map_map, List.map_map] at hlabel
  exact hlabel

theorem supports_of_core {d e : StorageDevice} (h : d.core = e.core) :
    d.supports devClass = e.supports devClass := by
  unfold supports
  rw [listed_of_core 0 devClass h]

theorem final_unsupported (h : d.supports devClass = false) :
    d.final env devClass = d.listed devClass 0 :=
  if_neg (Bool.not_eq_true _ ▸ h)

theorem final_checked (h : d.supports devClass = true) (hreadOnly : d.isReadOnly = false) :
    d.final env devClass = (fsckPartition env {} (d.listed devClass 0) PdmFsck.AUTO).obj := by
  have hsupported : (d.listed devClass 0).isSupportedFs = true := h
  unfold final
  rw [if_pos hsupported, hreadOnly]
  rfl

theorem final_mounted (hreadOnly : d.isReadOnly = true) :
    d.final env devClass = (mountSupported env true {} (d.listed devClass 0)).obj := by
  unfold final mountSupported
  rw [hreadOnly]
  split <;> rfl

/-- The thread of a partition keeps what the device lists. -/
theorem fsckOnDeviceAddThread_labels (partition : Nat) (hnodup : d.addresses.Nodup) :
    (fsckOnDeviceAddThread env s d partition).obj.labels = d.labels := by
  unfold fsckOnDeviceAddThread fsckPartitionAt
  cases hfind : d.diskPartitionList.find? (·.address = partition) with
  | none =>
    unfold labels
    dsimp only
    rw [storageDeviceFsckNotification_list]
  | some p =>
    have hidents := setPartition_idents d (List.mem_of_find?_eq_some hfind)
      (fsckPartition_ident env s p PdmFsck.AUTO) hnodup
    refine labels_of_idents (Eq.trans ?_ hidents)
    unfold idents
    dsimp only
    rw [storageDeviceFsckNotification_list]

theorem setPartitionInfo_labels (hname : devClass.devName ≠ "")
    (hnew : devClass.devName ∉ d.diskPartitionList.map (·.driveName)) :
    (setPartitionInfo env s d devClass).obj.labels =
      d.labels ++ [(devClass.devName, d.supports devClass)] := by
  have hadd : (addPartition env s d devClass).obj.labels =
      d.labels ++ [(devClass.devName, d.supports devClass)] := by
    unfold labels
    rw [addPartition_list, List.map_append]
    rfl
  rw [(setPartitionInfo_new env s d devClass hname hnew).1]
  split
  · rw [labels_of_idents (startPartitions_idents env _ _)]
    exact hadd
  · exact hadd

theorem setPartitionInfo_addresses (hname : devClass.devName ≠ "")
    (hnew : devClass.devName ∉ d.diskPartitionList.map (·.driveName)) :
    (setPartitionInfo env s d devClass).obj.addresses = d.addresses ++ [s.next] ∧
      (setPartitionInfo env s d devClass).state.next = s.next + 1 := by
  have hadd : (addPartition env s d devClass).obj.addresses = d.addresses ++ [s.next] := by
    unfold addresses
    rw [addPartition_list, List.map_append]
    rfl
  rw [(setPartitionInfo_new env s d devClass hname hnew).1]
  split
  · rw [addresses_of_idents (startPartitions_idents env _ _), startPartitions_next,
      addPartition_next]
    exact ⟨hadd, rfl⟩
  · rw [addPartition_next]
    exact ⟨hadd, rfl⟩

/-- The device when the thread of a partition begins to run. -/
def takeThread (d : StorageDevice) (partition : Nat) : StorageDevice :=
  { d with fsckThreadArray := d.fsckThreadArray.erase partition }

/-- The threads that `startPartitions` adds are those of the supported partitions. -/
theorem startPartitions_threads :
    (startPartitions env s d).obj.fsckThreadArray = d.fsckThreadArray ++
      if d.isReadOnly then [] else
        (d.diskPartitionList.filter (·.isSupportedFs)).map (·.address) := by
  by_cases hany : ∃ p ∈ d.diskPartitionList, p.isSupportedFs = true
  · cases hreadOnly : d.isReadOnly with
    | true =>
      rw [(startPartitions_mounts env s d hany hreadOnly).2]
      exact (List.append_nil _).symm
    | false => exact (startPartitions_checks env s d hany hreadOnly).2
  · have hnone : ∀ p ∈ d.diskPartitionList, p.isSupportedFs = false := fun p hp =>
      Bool.eq_false_iff.mpr fun hsupported => hany ⟨p, hp, hsupported⟩
    have hnothing : d.diskPartitionList.filter (·.isSupportedFs) = [] :=
      List.filter_eq_nil_iff.mpr fun p hp => by simp [hnone p hp]
    rw [(startPartitions_none env s d hnone).2, hnothing, List.map_nil, ite_self, List.append_nil]

theorem startPartitions_array (partition : Nat)
    (h : partition ∈ (startPartitions env s d).obj.fsckThreadArray) :
    partition ∈ d.fsckThreadArray ∨ partition ∈ d.addresses := by
  rw [startPartitions_threads, List.mem_append] at h
  refine h.imp_right fun hstarted => ?_
  split at hstarted
  · exact absurd hstarted List.not_mem_nil
  · obtain ⟨p, hp, rfl⟩ := List.mem_map.mp hstarted
    exact List.mem_map.mpr ⟨p, List.mem_of_mem_filter hp, rfl⟩

theorem setPartitionInfo_array (partition : Nat) (hname : devClass.devName ≠ "")
    (hnew : devClass.devName ∉ d.diskPartitionList.map (·.driveName))
    (h : partition ∈ (setPartitionInfo env s d devClass).obj.fsckThreadArray) :
    partition ∈ d.fsckThreadArray ∨
      partition ∈ (setPartitionInfo env s d devClass).obj.addresses := by
  rw [(setPartitionInfo_new env s d devClass hname hnew).1] at h ⊢
  split at h
  · rename_i hcomplete
    rw [if_pos hcomplete, addresses_of_idents (startPartitions_idents env _ _)]
    exact startPartitions_array env _ _ partition h
  · exact Or.inl h

/-- **What is submitted** when a new partition is listed: every supported partition or
none, to a thread of its own or, on a read-only disk, to no thread at all. -/
theorem setPartitionInfo_submits (hname : devClass.devName ≠ "")
    (hnew : devClass.devName ∉ d.diskPartitionList.map (·.driveName)) :
    ∃ handed : List DiskPartitionInfo,
      handed.Sublist ((d.diskPartitionList ++ [d.listed devClass s.next]).filter
        (·.isSupportedFs)) ∧
      submissions env s d devClass = handed.map (·.driveName) ∧
      (setPartitionInfo env s d devClass).obj.fsckThreadArray =
        d.fsckThreadArray ++ if d.isReadOnly then [] else handed.map (·.address) := by
  obtain ⟨hinfo, hsubmissions⟩ := setPartitionInfo_new env s d devClass hname hnew
  have hreadOnly : (addPartition env s d devClass).obj.isReadOnly = d.isReadOnly :=
    isReadOnly_of_core (addPartition_core env s d devClass)
  rw [hinfo, hsubmissions]
  by_cases hcomplete : d.Complete (d.diskPartitionList.length + 1)
  · rw [if_pos hcomplete, if_pos hcomplete]
    refine ⟨_, List.Sublist.refl _, rfl, ?_⟩
    rw [← hreadOnly]
    exact startPartitions_threads env _ (addPartition env s d devClass).obj
  · rw [if_neg hcomplete, if_neg hcomplete]
    refine ⟨[], List.nil_sublist _, rfl, ?_⟩
    rw [List.map_nil, ite_self, List.append_nil]
    rfl

/-- The threads that a new partition starts are those of what is submitted. -/
theorem setPartitionInfo_started (hreadOnly : d.isReadOnly = false) (hnodup : d.addresses.Nodup)
    (hgiven : ∀ a ∈ d.addresses, a < s.next) (hname : devClass.devName ≠ "")
    (hnew : devClass.devName ∉ d.diskPartitionList.map (·.driveName)) :
    d.started (setPartitionInfo env s d devClass).obj = submissions env s d devClass := by
  obtain ⟨handed, hhanded, hsubmissions, harray⟩ :=
    setPartitionInfo_submits env s d devClass hname hnew
  have hidents : (setPartitionInfo env s d devClass).obj.diskPartitionList.map (·.ident) =
      (d.diskPartitionList ++ [d.listed devClass s.next]).map (·.ident) := by
    have hlist := addPartition_list env s d devClass
    have hadded : (addPartition env s d devClass).obj.idents =
        (d.diskPartitionList ++ [d.listed devClass s.next]).map (·.ident) :=
      congrArg (List.map DiskPartitionInfo.ident) hlist
    rw [← hadded, (setPartitionInfo_new env s d devClass hname hnew).1]
    split
    · exact startPartitions_idents env _ _
    · rfl
  have hkeys : ((d.diskPartitionList ++ [d.listed devClass s.next]).map (·.address)).Nodup := by
    rw [List.map_append]
    refine hnodup.append (List.nodup_singleton _) fun a ha ha' => ?_
    have hlt := hgiven a ha
    have heq : a = s.next := List.mem_singleton.mp ha'
    omega
  have hread := congrArg (fun idents =>
    (idents.filter fun i => i.1 ∈ handed.map (·.address)).map fun i => i.2.2.1) hidents
  rw [List.filter_map, List.filter_map, List.map_map, List.map_map] at hread
  unfold started
  rw [harray, List.drop_left, if_neg (by simp [hreadOnly]), hsubmissions]
  refine hread.trans (congrArg (List.map fun p : DiskPartitionInfo => p.driveName) ?_)
  exact Keyed.filter_keys (·.address) (hhanded.trans List.filter_sublist) hkeys

theorem started_self : d.started d = [] := by
  unfold started
  rw [List.drop_length]
  simp

end StorageDevice

end Pdm
