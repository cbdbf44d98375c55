/-
Whether the list that was posted last is the list as it is.

Steps that act on one device are settled by what the list shows of that device: `publish_iff`
compares the device as it was posted with the device as it was left.  `Steady` is the
condition, on the devices before a step and on the system's answers in it, that the step
leaves no subscriber behind; **along every run the subscribers know the list as it is exactly
when every step is steady** (`upToDate_iff`).  Setting a volume label is not.
-/
import Pdm.Lib.Runs
import Pdm.Proofs.PostedLists

namespace Pdm

open Visit (visit)
open StorageDevice StorageDeviceHandler

/-! ### One device of the list -/

section List

variable {l : List StorageDevice} {d e : StorageDevice}

theorem writeBack_eq_put (l : List StorageDevice) (e : StorageDevice) :
    writeBack l e = Keyed.put (fun x : StorageDevice => x.address) l e := rfl

/-- The subscribers are up to date when the device that was posted, or else the device as
it was, looks as it does now. -/
theorem publish_iff (hnodup : (l.map (·.address)).Nodup) (hd : d ∈ l)
    {posts : Option StorageDevice} (hposts : ∀ f ∈ posts, f.address = d.address)
    (he : e.address = d.address) :
    publish (getAttachedUsbStorageDeviceList l) (posts.map (writeBack l)) =
        getAttachedUsbStorageDeviceList (writeBack l e) ↔
      (posts.getD d).shown = e.shown := by
  have hlast : publish (getAttachedUsbStorageDeviceList l) (posts.map (writeBack l)) =
      getAttachedUsbStorageDeviceList (writeBack l (posts.getD d)) := by
    cases posts with
    | none =>
      rw [Option.getD_none, writeBack_eq_put, Keyed.put_self _ hnodup hd]
      rfl
    | some f => rfl
  have hkey : (posts.getD d).address = d.address := by
    cases posts with
    | none => rfl
    | some f => exact hposts f rfl
  rw [hlast]
  exact Keyed.filterMap_put_iff _ (·.shown) hnodup hd hkey he

/-- Nothing was posted. -/
theorem unposted_iff (hnodup : (l.map (·.address)).Nodup) (hd : d ∈ l)
    (he : e.address = d.address) :
    getAttachedUsbStorageDeviceList l = getAttachedUsbStorageDeviceList (writeBack l e) ↔
      e.shown = d.shown := by
  have hquiet : ∀ f ∈ (none : Option StorageDevice), f.address = d.address :=
    fun f hf => absurd hf (by simp)
  exact (publish_iff hnodup hd hquiet he).trans eq_comm

end List

/-! ### Commands -/

section Commands

variable (env : Env) (s : Sys) (h : StorageDeviceHandler)

/-- A command runs a method on the device it finds, and is settled by that device. -/
theorem onDevice_publish_iff (hwf : WellFormed s h.storageList) {found : Option StorageDevice}
    (hfound : ∀ d, found = some d → d ∈ h.storageList)
    {method : Sys → StorageDevice → Out StorageDevice PdmDevStatus} {notFound : PdmDevStatus}
    {posts : StorageDevice → Option StorageDevice} {P : StorageDevice → Prop}
    (hposts : ∀ d, ∀ f ∈ posts d, f.address = d.address)
    (haddress : ∀ d, (method s d).obj.address = d.address)
    (hshown : ∀ d ∈ h.storageList, d.addresses.Nodup →
      (((posts d).getD d).shown = (method s d).obj.shown ↔ P d)) :
    publish (getAttachedUsbStorageDeviceList h.storageList)
        (found.bind fun d => (posts d).map (writeBack h.storageList)) =
        getAttachedUsbStorageDeviceList (onDevice s h found method notFound).obj.storageList ↔
      ∀ d, found = some d → P d := by
  unfold onDevice
  cases found with
  | none => exact iff_of_true rfl fun d hd => absurd hd (by simp)
  | some d =>
    have hd := hfound d rfl
    refine (publish_iff hwf.nodup hd (hposts d) (haddress d)).trans
      ((hshown d hd (hwf.parts d hd).nodup).trans ?_)
    refine ⟨fun hP e he => ?_, fun hP => hP d rfl⟩
    rw [← Option.some.inj he]
    exact hP

/-- One that posts nothing. -/
theorem onDevice_unposted_iff (hwf : WellFormed s h.storageList) {found : Option StorageDevice}
    (hfound : ∀ d, found = some d → d ∈ h.storageList)
    {method : Sys → StorageDevice → Out StorageDevice PdmDevStatus} {notFound : PdmDevStatus}
    {P : StorageDevice → Prop} (haddress : ∀ d, (method s d).obj.address = d.address)
    (hshown : ∀ d ∈ h.storageList, d.addresses.Nodup →
      ((method s d).obj.shown = d.shown ↔ P d)) :
    getAttachedUsbStorageDeviceList h.storageList =
        getAttachedUsbStorageDeviceList (onDevice s h found method notFound).obj.storageList ↔
      ∀ d, found = some d → P d := by
  have hquiet : (found.bind fun _ => (none : Option StorageDevice).map (writeBack h.storageList)) =
      none := by
    cases found <;> rfl
  show publish _ none = _ ↔ _
  rw [← hquiet]
  exact onDevice_publish_iff s h hwf hfound (fun d f hf => absurd hf (by simp)) haddress
    fun d hd hnodup => eq_comm.trans (hshown d hd hnodup)

/-- A method that works on the partition it finds. -/
theorem found_iff {d : StorageDevice} {driveName : String} {A : Prop}
    {Q : DiskPartitionInfo → Prop} (hnone : d.findPartition driveName = none → A)
    (hsome : ∀ p, p ∈ d.diskPartitionList → d.findPartition driveName = some p → (A ↔ Q p)) :
    A ↔ ∀ p, d.findPartition driveName = some p → Q p := by
  cases hfind : d.findPartition driveName with
  | none => exact iff_of_true (hnone hfind) fun p hp => absurd hp (by simp)
  | some p =>
    rw [hsome p (findPartition_mem d hfind).1 hfind]
    refine ⟨fun hQ q hq => ?_, fun hQ => hQ p rfl⟩
    rw [← Option.some.inj hq]
    exact hQ

/-- The condition on a command.  Ejecting posts at its end, as unmounting all drives does;
asking whether a drive is writable changes nothing. -/
def SteadyCommand (env : Env) (s : Sys) (h : StorageDeviceHandler) : CommandType → Prop
  | .format driveName fsType volumeLabel =>
    ∀ d, getDeviceWithName h.storageList driveName = some d →
      ∀ p, d.findPartition driveName = some p → FormatUnseen env s d p fsType volumeLabel
  | .fsck driveName =>
    ∀ d, getDeviceWithName h.storageList (removeBlanks driveName) = some d →
      ∀ p, d.findPartition (removeBlanks driveName) = some p → FsckUnseen env s d p
  | .setVolumeLabel driveName volumeLabel =>
    ∀ d, getDeviceWithName h.storageList driveName = some d →
      ∀ p, d.findPartition driveName = some p →
        env.labels p volumeLabel = true → volumeLabel = p.volumeLabel
  | .mountFsck needFsck mountName =>
    ∀ d, getDeviceWithName h.storageList mountName = some d → MountFsckUnseen env needFsck d
  | .spaceInfo directCheck driveName =>
    ∀ d, getDeviceWithName h.storageList driveName = some d →
      ∀ p, d.findPartition driveName = some p → p.mounted = true ∧ directCheck = true →
        toInt32 (env.measured p).driveSize = toInt32 p.space.driveSize
  | _ => True


theorem format_upToDate (hwf : WellFormed s h.storageList) (driveName fsType volumeLabel : String) :
    publish (getAttachedUsbStorageDeviceList h.storageList)
        (h.HandlerCommandPosts env s (.format driveName fsType volumeLabel)) =
        getAttachedUsbStorageDeviceList
          (h.HandlerCommand env s (.format driveName fsType volumeLabel)).obj.storageList ↔
      SteadyCommand env s h (.format driveName fsType volumeLabel) := by
  refine onDevice_publish_iff s h hwf (mem_of_name h)
    (fun d => formatDiskStartPosts_address env s d driveName fsType volumeLabel)
    (fun d => address_of_core (formatDiskStart_within env s d driveName fsType volumeLabel).core)
    (fun d hd hnodup => found_iff (fun hnone => ?_) fun p hp hsome => ?_)
  · unfold formatDiskStartPosts formatDiskStart
    rw [hnone]
    rfl
  · unfold formatDiskStartPosts formatDiskStart
    rw [hsome]
    exact formatOn_shown env s d p hnodup hp fsType volumeLabel

theorem fsck_upToDate (hwf : WellFormed s h.storageList) (driveName : String) :
    getAttachedUsbStorageDeviceList h.storageList =
        getAttachedUsbStorageDeviceList (h.HandlerCommand env s (.fsck driveName)).obj.storageList ↔
      SteadyCommand env s h (.fsck driveName) := by
  refine onDevice_unposted_iff s h hwf (mem_of_name h) (fun d =>
    address_of_core (fsck_within env s d (removeBlanks driveName)).core)
    (fun d hd hnodup => found_iff (fun hnone => ?_) fun p hp hsome => ?_)
  · unfold StorageDevice.fsck
    rw [hnone]
  · unfold StorageDevice.fsck
    rw [hsome]
    exact fsckOn_shown env s d p hnodup hp

theorem setVolumeLabel_upToDate (hwf : WellFormed s h.storageList)
    (driveName volumeLabel : String) :
    getAttachedUsbStorageDeviceList h.storageList =
        getAttachedUsbStorageDeviceList
          (h.HandlerCommand env s (.setVolumeLabel driveName volumeLabel)).obj.storageList ↔
      SteadyCommand env s h (.setVolumeLabel driveName volumeLabel) := by
  refine onDevice_unposted_iff s h hwf (mem_of_name h) (fun d =>
    address_of_core (setPartitionVolumeLabel_within env s d driveName volumeLabel).core)
    (fun d hd hnodup => found_iff (fun hnone => ?_) fun p hp hsome => ?_)
  · unfold setPartitionVolumeLabel
    rw [hnone]
  · unfold setPartitionVolumeLabel
    rw [hsome]
    exact setVolumeLabelOn_shown env s d p hnodup hp volumeLabel

theorem mountFsck_upToDate (hwf : WellFormed s h.storageList) (needFsck : Bool)
    (mountName : String) :
    getAttachedUsbStorageDeviceList h.storageList =
        getAttachedUsbStorageDeviceList
          (h.HandlerCommand env s (.mountFsck needFsck mountName)).obj.storageList ↔
      SteadyCommand env s h (.mountFsck needFsck mountName) :=
  onDevice_unposted_iff s h hwf (mem_of_name h)
    (fun d => address_of_core (enforceFsckAndMount_within env s d needFsck).core)
    (fun d _ _ => enforceFsckAndMount_shown env s d needFsck)

theorem getSpaceInfo_list {directCheck : Bool} {driveName : String} {d : StorageDevice}
    (hd : getDeviceWithName h.storageList driveName = some d) :
    (h.getSpaceInfo env s directCheck driveName).obj.storageList =
      writeBack h.storageList (d.getSpaceInfo env driveName directCheck).1 := by
  unfold StorageDeviceHandler.getSpaceInfo
  rw [hd]
  dsimp only
  split <;> rfl

theorem spaceInfo_upToDate (hwf : WellFormed s h.storageList) (directCheck : Bool)
    (driveName : String) :
    getAttachedUsbStorageDeviceList h.storageList =
        getAttachedUsbStorageDeviceList
          (h.HandlerCommand env s (.spaceInfo directCheck driveName)).obj.storageList ↔
      SteadyCommand env s h (.spaceInfo directCheck driveName) := by
  show _ = getAttachedUsbStorageDeviceList
    (h.getSpaceInfo env s directCheck driveName).obj.storageList ↔ _
  unfold SteadyCommand
  cases hd : getDeviceWithName h.storageList driveName with
  | none =>
    refine iff_of_true ?_ fun e he => absurd (hd.symm.trans he) (by simp)
    unfold StorageDeviceHandler.getSpaceInfo
    rw [hd]
  | some d =>
    have hmem := mem_of_name h d hd
    have haddress := address_of_core (getSpaceInfo_within env s d driveName directCheck).core
    rw [getSpaceInfo_list env s h hd]
    refine (unposted_iff hwf.nodup hmem haddress).trans ?_
    refine Iff.trans ?_ ⟨fun hall e he => Option.some.inj (hd.symm.trans he) ▸ hall,
      fun hall => hall d hd⟩
    refine found_iff (fun hnone => ?_) fun p hp hsome => ?_
    · unfold StorageDevice.getSpaceInfo
      rw [hnone]
    · unfold StorageDevice.getSpaceInfo
      rw [hsome]
      exact getSpaceInfoOn_shown env d p (hwf.parts d hmem).nodup hp directCheck

/-- **The list after a command.** -/
theorem HandlerCommand_upToDate (hwf : WellFormed s h.storageList) (cmdtypes : CommandType) :
    publish (getAttachedUsbStorageDeviceList h.storageList)
        (h.HandlerCommandPosts env s cmdtypes) =
        getAttachedUsbStorageDeviceList (h.HandlerCommand env s cmdtypes).obj.storageList ↔
      SteadyCommand env s h cmdtypes := by
  cases cmdtypes with
  | format driveName fsType volumeLabel => exact format_upToDate env s h hwf driveName fsType volumeLabel
  | fsck driveName => exact fsck_upToDate env s h hwf driveName
  | setVolumeLabel driveName volumeLabel =>
    exact setVolumeLabel_upToDate env s h hwf driveName volumeLabel
  | mountFsck needFsck mountName => exact mountFsck_upToDate env s h hwf needFsck mountName
  | spaceInfo directCheck driveName => exact spaceInfo_upToDate env s h hwf directCheck driveName
  | eject deviceNumber =>
    have haddress : ∀ d : StorageDevice, (d.eject env s).obj.address = d.address := fun d =>
      address_of_core (eject_within env s d).core
    refine iff_of_true ?_ trivial
    show publish _ ((getDeviceWithNum h.storageList deviceNumber).bind _) =
      getAttachedUsbStorageDeviceList
        (onDevice s h (getDeviceWithNum h.storageList deviceNumber) _ _).obj.storageList
    refine (onDevice_publish_iff s h hwf ?_ ?_ ?_ (P := fun _ => True) ?_).mpr fun _ _ => trivial
    · exact fun d hd => List.mem_of_find?_eq_some hd
    · intro d f hf
      rw [← Option.some.inj hf]
      exact haddress d
    · exact haddress
    · intro d _ _
      exact iff_of_true rfl trivial
  | umountAllDrive =>
    refine iff_of_true ?_ trivial
    show publish _ (if h.storageList = [] then none else some _) =
      getAttachedUsbStorageDeviceList (h.umountAllDrive env s).obj.storageList
    unfold umountAllDrive
    split
    · rfl
    · rfl
  | isWritableDrive driveName =>
    refine iff_of_true ?_ trivial
    show getAttachedUsbStorageDeviceList h.storageList =
      getAttachedUsbStorageDeviceList (h.isWritableDrive env s driveName).obj.storageList
    unfold isWritableDrive
    split <;> rfl
  | other => exact iff_of_true rfl trivial

end Commands

/-! ### Power, threads and events -/

section Steps

variable (cfg : Config) (env : Env) (s : Sys) (h : StorageDeviceHandler)

/-- The condition on a plugin event: taking the power away hides what is mounted. -/
def SteadyPlugin (h : StorageDeviceHandler) : PluginEvent → Prop
  | .powerProcessRequestSuspend => ∀ d ∈ h.storageList, d.SuspendUnseen
  | _ => True

theorem suspendRequest_upToDate :
    getAttachedUsbStorageDeviceList h.storageList =
        getAttachedUsbStorageDeviceList h.suspendRequest.storageList ↔
      ∀ d ∈ h.storageList, d.SuspendUnseen := by
  show h.storageList.filterMap (·.shown) =
    (h.storageList.map (·.suspendRequest)).filterMap (·.shown) ↔ _
  rw [List.filterMap_map, Keyed.filterMap_inj_iff fun d _ => ?_]
  · exact forall₂_congr fun d _ => eq_comm.trans (suspendRequest_shown d)
  · rw [Function.comp_apply, shown_eq_none_iff, shown_eq_none_iff]
    exact List.map_eq_nil_iff.symm

theorem HandlePluginEvent_upToDate (eventType : PluginEvent) :
    publish (getAttachedUsbStorageDeviceList h.storageList)
        (h.HandlePluginEventPosts env s eventType) =
        getAttachedUsbStorageDeviceList (h.HandlePluginEvent env s eventType).obj.storageList ↔
      SteadyPlugin h eventType := by
  cases eventType with
  | powerProcessRequestSuspend => exact suspendRequest_upToDate h
  | _ => exact iff_of_true rfl trivial

/-- The condition on a thread. -/
def SteadyThread (env : Env) (h : StorageDeviceHandler) (device partition : Nat) : Prop :=
  ∀ d ∈ h.storageList, d.address = device → partition ∈ d.fsckThreadArray →
    d.ThreadUnseen env partition

theorem runFsckThread_upToDate (hwf : WellFormed s h.storageList) (device partition : Nat) :
    publish (getAttachedUsbStorageDeviceList h.storageList)
        (h.runFsckThreadPosts env s device partition) =
        getAttachedUsbStorageDeviceList (h.runFsckThread env s device partition).obj.storageList ↔
      SteadyThread env h device partition := by
  unfold runFsckThreadPosts runFsckThread deviceTask SteadyThread
  cases hfind : h.storageList.find? (·.address = device) with
  | none =>
    refine iff_of_true rfl fun d hd haddress => ?_
    exact absurd haddress (by simpa using List.find?_eq_none.mp hfind d hd)
  | some d =>
    have hd := List.mem_of_find?_eq_some hfind
    have haddress : d.address = device := by simpa using List.find?_some hfind
    have hone : (∀ e ∈ h.storageList, e.address = device → partition ∈ e.fsckThreadArray →
        e.ThreadUnseen env partition) ↔
        (partition ∈ d.fsckThreadArray → d.ThreadUnseen env partition) := by
      refine ⟨fun hall => hall d hd haddress, fun hunseen e he headdress => ?_⟩
      rw [hwf.eq_of_address he hd (headdress.trans haddress.symm)]
      exact hunseen
    rw [hone]
    dsimp only
    by_cases hmem : partition ∈ d.fsckThreadArray
    · rw [if_pos hmem, if_pos hmem, imp_iff_right hmem]
      have hkept := address_of_core (fsckOnDeviceAddThread_within env s
        { d with fsckThreadArray := d.fsckThreadArray.erase partition } partition).core
      refine (publish_iff hwf.nodup hd (fsckOnDeviceAddThreadPosts_address env s
        { d with fsckThreadArray := d.fsckThreadArray.erase partition } partition) hkept).trans ?_
      have hshown := fsckOnDeviceAddThread_shown env s
        { d with fsckThreadArray := d.fsckThreadArray.erase partition } (hwf.parts d hd).nodup
        partition
      unfold ThreadUnseen at hshown ⊢
      rw [endsRound_threads] at hshown
      refine Iff.trans ?_ hshown
      -- The threads that are still to run do not show.
      cases fsckOnDeviceAddThreadPosts env s
        { d with fsckThreadArray := d.fsckThreadArray.erase partition } partition with
      | none => exact Iff.rfl
      | some e => exact Iff.rfl
    · rw [if_neg hmem, if_neg hmem]
      exact iff_of_true ((unposted_iff hwf.nodup hd rfl).mpr rfl) fun h => absurd h hmem

/-- The condition on an event.  A device that goes is posted if it was announced, and a new
one must not be listed yet. -/
def SteadyEvent (cfg : Config) (env : Env) (s : Sys) (h : StorageDeviceHandler)
    (devClass : DeviceClass) : Prop :=
  if devClass.action = "remove" then
    ∀ d, removedDevice h devClass = some d →
      d.isDevAddEventNotified = true ∨ d.announcesLate env = true ∨ d.diskPartitionList = []
  else
    match target cfg s.next h devClass with
    | .nobody => True
    | .listed d => d.EventUnseen env devClass
    | .new d => receiver env d devClass = none

theorem removal_upToDate (hwf : WellFormed s h.storageList) {devClass : DeviceClass}
    (hremove : devClass.action = "remove") :
    publish (getAttachedUsbStorageDeviceList h.storageList)
        (h.HandlerEventPosts cfg env s devClass) =
        getAttachedUsbStorageDeviceList (h.HandlerEvent cfg env s devClass).obj.storageList ↔
      SteadyEvent cfg env s h devClass := by
  unfold HandlerEventPosts HandlerEvent SteadyEvent deleteStorageDevice
  rw [if_pos hremove, if_pos hremove, if_pos hremove]
  cases hfound : removedDevice h devClass with
  | none => exact iff_of_true rfl fun d hd => absurd hd (by simp)
  | some d =>
    have hd := removedDevice_mem hfound
    have hone : (∀ e, some d = some e → e.isDevAddEventNotified = true ∨
        e.announcesLate env = true ∨ e.diskPartitionList = []) ↔
        (d.isDevAddEventNotified || d.announcesLate env) = true ∨ d.diskPartitionList = [] := by
      rw [Bool.or_eq_true, or_assoc]
      exact ⟨fun hall => hall d rfl, fun hd e he => Option.some.inj he ▸ hd⟩
    rw [hone]
    dsimp only
    rw [dropStorageDevice_list, StorageSystem.onDeviceRemove_notified]
    by_cases hnotified : (d.isDevAddEventNotified || d.announcesLate env) = true
    · rw [if_pos hnotified]
      exact iff_of_true rfl (Or.inl hnotified)
    · rw [if_neg hnotified, or_iff_right hnotified]
      show getAttachedUsbStorageDeviceList h.storageList =
        getAttachedUsbStorageDeviceList (removePointer h.storageList d) ↔ _
      rw [eq_comm, ← shown_eq_none_iff]
      exact Keyed.filterMap_take_iff (fun x : StorageDevice => x.address) (·.shown) hwf.nodup hd

/-- **The list after an event.** -/
theorem HandlerEvent_upToDate (hwf : WellFormed s h.storageList) (devClass : DeviceClass) :
    publish (getAttachedUsbStorageDeviceList h.storageList)
        (h.HandlerEventPosts cfg env s devClass) =
        getAttachedUsbStorageDeviceList (h.HandlerEvent cfg env s devClass).obj.storageList ↔
      SteadyEvent cfg env s h devClass := by
  by_cases hremove : devClass.action = "remove"
  · exact removal_upToDate cfg env s h hwf hremove
  · unfold HandlerEventPosts SteadyEvent
    rw [if_neg hremove, if_neg hremove]
    cases HandlerEvent_outcome cfg env s h devClass with
    | ignored htarget hs hl =>
      rw [htarget, hl]
      exact iff_of_true rfl trivial
    | handed d htarget hmem ht hl =>
      rw [htarget, hl]
      exact (publish_iff hwf.nodup hmem (setDeviceInfoPosts_address env s d devClass)
        (setDeviceInfo_address env s d devClass)).trans (setDeviceInfo_unseen env s d devClass)
    | created reader htarget ht hl =>
      rw [htarget, hl]
      dsimp only
      -- Whatever the new device posts, it is not listed yet.
      have hposted : publish (getAttachedUsbStorageDeviceList h.storageList)
          ((setDeviceInfoPosts env s.alloc (newDevice cfg s.next devClass reader) devClass).map
            fun _ => h.storageList) = getAttachedUsbStorageDeviceList h.storageList := by
        cases setDeviceInfoPosts env s.alloc (newDevice cfg s.next devClass reader) devClass with
        | none => rfl
        | some e => rfl
      rw [hposted, ← setDeviceInfo_shown_new env s.alloc _ devClass (newDevice_list ..)]
      unfold getAttachedUsbStorageDeviceList
      rw [List.filterMap_append, eq_comm, List.append_right_eq_self]
      cases hshown : ((newDevice cfg s.next devClass reader).setDeviceInfo env s.alloc
          devClass).obj.shown with
      | none => exact iff_of_true (by simp [hshown]) rfl
      | some i => exact iff_of_false (by simp [hshown]) (by simp)
    | dropped d hgone hfound ht hl => exact absurd hgone hremove

end Steps

/-! ### Runs -/

namespace Subscribed

/-- The condition on a step. -/
def Steady (cfg : Config) (W : Subscribed) : SubscribedInput → Prop
  | .storage env (.uevent devClass) =>
    SteadyEvent cfg env W.system.sys W.system.storage devClass
  | .storage env (.command cmdtypes) => SteadyCommand env W.system.sys W.system.storage cmdtypes
  | .storage _ (.pluginEvent eventType) => SteadyPlugin W.system.storage eventType
  | .storage env (.fsckThread device partition) =>
    SteadyThread env W.system.storage device partition
  | .storage _ (.timeout _) => True
  | .otherHandler => True

variable {cfg : Config}

theorem timeout_list (w : StorageSystem) (hvalid : w.Valid) (device : Nat) :
    getAttachedUsbStorageDeviceList w.storage.storageList =
      getAttachedUsbStorageDeviceList (w.storage.runTimeout w.sys device).obj.storageList := by
  unfold runTimeout deviceTask
  cases hfind : w.storage.storageList.find? (·.address = device) with
  | none => rfl
  | some d =>
    refine (unposted_iff hvalid.nodup (List.mem_of_find?_eq_some hfind) ?_).mpr ?_
    · dsimp only
      split <;> rfl
    · dsimp only
      split <;> rfl

/-- What is posted in a step is what its methods post last. -/
theorem step_published (W : Subscribed) (env : Env) (input : StorageInput) :
    (W.step cfg (.storage env input)).published =
      publish W.published (W.system.posts cfg (env, input)) := by
  have hposts := W.system.posts_iff cfg (env, input)
  unfold step
  dsimp only
  by_cases hquiet : (W.system.step cfg (env, input)).sys.posts = []
  · rw [if_pos hquiet]
    cases hposted : W.system.posts cfg (env, input) with
    | none => rfl
    | some l => exact absurd hquiet (hposts.mp (by rw [hposted]; rfl))
  · rw [if_neg hquiet]

/-- **One step**, from a state in which the subscribers are up to date. -/
theorem step_upToDate_iff (W : Subscribed) (hvalid : W.system.Valid) (hknown : W.UpToDate)
    (i : SubscribedInput) : (W.step cfg i).UpToDate ↔ W.Steady cfg i := by
  unfold UpToDate at hknown
  have hclear : WellFormed W.system.clear.sys W.system.storage.storageList :=
    ⟨hvalid.nodup, hvalid.given, hvalid.parts⟩
  cases i with
  | otherHandler => exact iff_of_true rfl trivial
  | storage env input =>
    unfold UpToDate
    rw [step_published, hknown]
    unfold step
    dsimp only
    cases input with
    | uevent devClass =>
      exact HandlerEvent_upToDate cfg env W.system.clear.sys W.system.storage hclear devClass
    | command cmdtypes =>
      exact HandlerCommand_upToDate env W.system.clear.sys W.system.storage hclear cmdtypes
    | pluginEvent eventType =>
      exact HandlePluginEvent_upToDate env W.system.clear.sys W.system.storage eventType
    | fsckThread device partition =>
      exact runFsckThread_upToDate env W.system.clear.sys W.system.storage hclear device partition
    | timeout device =>
      exact iff_of_true (timeout_list W.system.clear hclear device) trivial

theorem step_valid {W : Subscribed} (h : W.system.Valid) (i : SubscribedInput) :
    (W.step cfg i).system.Valid := by
  cases i with
  | otherHandler => exact h
  | storage env input => exact StorageSystem.step_valid h (env, input)

/-- **Along every run the subscribers know the list as it is exactly when every step is
steady.** -/
theorem upToDate_iff (cfg : Config) (is : List SubscribedInput) :
    Runs.StepsAll (step cfg) (fun W i => (W.step cfg i).UpToDate) {} is ↔
      Runs.StepsAll (step cfg) (Steady cfg) {} is :=
  Runs.stepsAll_congr (I := fun W : Subscribed => W.system.Valid ∧ W.UpToDate)
    (fun _ i hW hP => ⟨step_valid hW.1 i, hP⟩)
    (fun W i hW => step_upToDate_iff W hW.1 hW.2 i) ⟨StorageSystem.init_valid, rfl⟩

/-- A stick is plugged, as far as the storage handler is concerned. -/
def stickPlugged : List SubscribedInput :=
  StorageSystem.plugStick.map fun i => .storage i.1 i.2

/-- Setting its volume's label posts nothing. -/
theorem relabelled_stale : ¬ ∀ is env cmdtypes,
    (Runs.run (step .tmpUsb) {} (is ++ [.storage env (.command cmdtypes)])).UpToDate := by
  intro hall
  exact absurd (hall stickPlugged {} (.setVolumeLabel "sda1" "DISK")) (by decide +kernel)

end Subscribed

end Pdm
