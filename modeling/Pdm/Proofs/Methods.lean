/-
The methods that commands, plugin events and threads run stay within their device, and
so these inputs stay within the devices that are listed.
-/
import Pdm.Proofs.Frames

namespace Pdm

open Visit (visit)

namespace StorageDevice

variable (env : Env) (s : Sys) (d : StorageDevice)

/-! ### Loops -/

theorem umountAllPartition_within (lazyUnmount : Bool) :
    Within s d (umountAllPartition env s d lazyUnmount).state
      (umountAllPartition env s d lazyUnmount).obj :=
  Within.loop fun s p => umountPartition_op env s p lazyUnmount

theorem mountAllPartition_within :
    Within s d (mountAllPartition env s d).state (mountAllPartition env s d).obj :=
  Within.loop fun s p => mountSupported_op env s p d.isReadOnly

theorem enforceFsckAndMount_within (needFsck : Bool) :
    Within s d (enforceFsckAndMount env s d needFsck).state
      (enforceFsckAndMount env s d needFsck).obj := by
  have hloop := Within.loop (s := s) (d := d) fun s p => enforcePartition_op env s p needFsck
  unfold enforceFsckAndMount
  dsimp only
  split
  · exact hloop.trans (Within.of_untouched (Untouched.refl _) rfl rfl)
  · exact hloop

theorem eject_within : Within s d (eject env s d).state (eject env s d).obj := by
  have hloop := umountAllPartition_within env s d false
  unfold eject
  dsimp only
  split
  · exact hloop.trans (Within.of_untouched (Untouched.refl _) rfl rfl)
  · exact hloop

/-! ### Methods on one partition -/

section Partition

variable {p : DiskPartitionInfo} (hp : p ∈ d.diskPartitionList)
include hp

theorem setVolumeLabelOn_within (volumeLabel : String) :
    Within s d (setVolumeLabelOn env s d p volumeLabel).state
      (setVolumeLabelOn env s d p volumeLabel).obj :=
  Within.part (setVolumeLabel_op env s p volumeLabel) hp

theorem fsckOn_within : Within s d (fsckOn env s d p).state (fsckOn env s d p).obj := by
  have hu := umountPartition_op env s p false
  unfold fsckOn
  split
  · exact Within.refl s d
  · dsimp only
    split
    · exact Within.part hu hp
    · exact Within.part (hu.trans (fsckPartition_op env _ _ PdmFsck.AUTO)) hp

theorem formatOn_within (fsType volumeLabel : String) :
    Within s d (formatOn env s d p fsType volumeLabel).state
      (formatOn env s d p fsType volumeLabel).obj := by
  have hu := umountPartition_op env s p false
  have hcb : ∀ (t : Sys) (q : DiskPartitionInfo) (event : EventType), event ≠ .remove →
      PartOp t q (handlerCb t event (some p.address)) q := fun t q event h =>
    PartOp.of_untouched (handlerCb_untouched t event _ (Or.inl h)) rfl
  unfold formatOn
  split
  · exact Within.refl s d
  · dsimp only
    split
    · exact Within.part hu hp
    · generalize humount : umountPartition env s p false = u at hu ⊢
      have hf := (hu.trans (hcb u.state u.obj .formatStarted (by simp))).trans
        (formatFs_op env (handlerCb u.state .formatStarted (some p.address)) u.obj fsType volumeLabel)
      generalize PdmFs.format env (handlerCb u.state .formatStarted (some p.address)) u.obj fsType
        volumeLabel = f at hf ⊢
      generalize hm : (if f.ret = .success then mountPartition env f.state f.obj false else f) = m
      have hmop : PartOp s p m.state m.obj := by
        rw [← hm]
        split
        · exact hf.trans (mountPartition_op env f.state f.obj false)
        · exact hf
      split
      · refine (Within.part (hmop.trans (hcb m.state m.obj .formatSuccess (by simp))) hp).trans ?_
        exact Within.of_untouched (Untouched.refl _) rfl rfl
      · exact Within.part (hmop.trans (hcb m.state m.obj .formatFail (by simp))) hp

theorem getSpaceInfoOn_within (directCheck : Bool) :
    Within s d s (getSpaceInfoOn env d p directCheck).1 := by
  unfold getSpaceInfoOn
  split
  · cases PdmFs.calculateSpaceInfo env p.mountName with
    | none => exact Within.refl s d
    | some space =>
      exact Within.part (PartOp.of_untouched (Untouched.refl s) (p.setSpace_ident space)) hp
  · exact Within.refl s d

end Partition

theorem setPartitionVolumeLabel_within (driveName volumeLabel : String) :
    Within s d (setPartitionVolumeLabel env s d driveName volumeLabel).state
      (setPartitionVolumeLabel env s d driveName volumeLabel).obj := by
  unfold setPartitionVolumeLabel
  cases hp : d.findPartition driveName with
  | none => exact Within.refl s d
  | some p => exact setVolumeLabelOn_within env s d (d.findPartition_mem hp).1 volumeLabel

theorem fsck_within (driveName : String) :
    Within s d (fsck env s d driveName).state (fsck env s d driveName).obj := by
  unfold fsck
  cases hp : d.findPartition driveName with
  | none => exact Within.refl s d
  | some p => exact fsckOn_within env s d (d.findPartition_mem hp).1

theorem formatDiskStart_within (driveName fsType volumeLabel : String) :
    Within s d (formatDiskStart env s d driveName fsType volumeLabel).state
      (formatDiskStart env s d driveName fsType volumeLabel).obj := by
  unfold formatDiskStart
  cases hp : d.findPartition driveName with
  | none => exact Within.refl s d
  | some p => exact formatOn_within env s d (d.findPartition_mem hp).1 fsType volumeLabel

theorem getSpaceInfo_within (driveName : String) (directCheck : Bool) :
    Within s d s (getSpaceInfo env d driveName directCheck).1 := by
  unfold getSpaceInfo
  cases hp : d.findPartition driveName with
  | none => exact Within.refl s d
  | some p => exact getSpaceInfoOn_within env s d (d.findPartition_mem hp).1 directCheck

theorem isWritable_untouched (driveName : String) :
    Untouched s (isWritable env s d driveName).2 := by
  unfold isWritable PdmFs.isWritable PdmFs.isDriveBusy
  cases d.findPartition driveName with
  | none => exact Untouched.refl s
  | some p =>
    dsimp only
    split
    · exact ⟨by simp, by simp, by simp⟩
    · exact ⟨by simp, by simp, by simp⟩

/-! ### Threads and timeouts -/

theorem storageDeviceNotification_untouched :
    Untouched s (storageDeviceNotification s d).state := ⟨by simp, by simp, by simp⟩

theorem fsckOnDeviceAddThread_within (partition : Nat) :
    Within s d (fsckOnDeviceAddThread env s d partition).state
      (fsckOnDeviceAddThread env s d partition).obj := by
  unfold fsckOnDeviceAddThread fsckPartitionAt
  cases hfind : d.diskPartitionList.find? (·.address = partition) with
  | none =>
    exact Within.of_untouched ⟨by simp, by simp, by simp [handlerCb_notables]⟩ (by simp) (by simp)
  | some p =>
    refine (Within.part (fsckPartition_op env s p PdmFsck.AUTO)
      (List.mem_of_find?_eq_some hfind)).trans ?_
    exact Within.of_untouched ⟨by simp, by simp, by simp⟩ (by simp) (by simp)

theorem joinThreads_within : ∀ (ts : List Nat) (s : Sys) (d : StorageDevice),
    Within s d (joinThreads env s d ts).state (joinThreads env s d ts).obj := by
  intro ts
  induction ts with
  | nil => intro s d; exact Within.of_untouched (Untouched.refl s) rfl rfl
  | cons t ts ih =>
      intro s d
      exact (fsckOnDeviceAddThread_within env s d t).trans (ih _ _)

theorem notifyStorageConnecting_within :
    Within s d (notifyStorageConnecting s d).state (notifyStorageConnecting s d).obj :=
  Within.of_untouched (handlerCb_untouched s .connecting none (by simp)) rfl rfl

/-! ### Suspend and resume -/

/-- Setting the power status of all partitions. -/
theorem setPowerStatus_within (status : Bool) {e : StorageDevice} (hcore : e.core = d.core)
    (hlist : e.diskPartitionList = d.diskPartitionList.map (·.setPowerStatus status)) :
    Within s d s e := by
  refine ⟨hcore, ?_, ?_, rfl, Sys.SameOutside.refl s, Sys.Adds.of_eq rfl⟩
  · unfold addresses
    rw [hlist, List.map_map]
    rfl
  · unfold idents
    rw [hlist, List.map_map]
    exact List.Subset.refl _

theorem suspendRequest_within : Within s d s d.suspendRequest :=
  setPowerStatus_within s d false rfl rfl

theorem resumeRequest_within :
    Within s d (resumeRequest env s d).state (resumeRequest env s d).obj := by
  have hstatus : Within s d s { d with
      diskPartitionList := d.diskPartitionList.map (·.setPowerStatus true)
      isPowerOnConnect := true } := setPowerStatus_within s d true rfl rfl
  unfold resumeRequest
  dsimp only
  split
  · exact hstatus
  · have hmount := hstatus.trans (mountAllPartition_within env s _)
    split
    · exact hmount.trans (Within.of_untouched (Untouched.refl _) rfl rfl)
    · exact hmount

theorem suspendUmountLoop_outside (lazyUnmount : Bool) {M : String → Prop} :
    ∀ (l : List DiskPartitionInfo) (s : Sys) (ret : Bool), (∀ p ∈ l, M p.mountName) →
      Sys.SameOutside M s (suspendUmountLoop env lazyUnmount s ret l).2 ∧
        (suspendUmountLoop env lazyUnmount s ret l).2.next = s.next ∧
        (suspendUmountLoop env lazyUnmount s ret l).2.notables = s.notables := by
  intro l
  induction l with
  | nil => intro s ret _; exact ⟨Sys.SameOutside.refl s, rfl, rfl⟩
  | cons p ps ih =>
      intro s ret hl
      unfold suspendUmountLoop
      dsimp only
      split
      · exact ⟨Sys.SameOutside.of_eq (by simp), by simp, by simp⟩
      · obtain ⟨hout, hnext, hnot⟩ := ih
          (PdmFs.umount env (driveInTheWay env s p lazyUnmount).2 p lazyUnmount).2
          (if (PdmFs.umount env (driveInTheWay env s p lazyUnmount).2 p lazyUnmount).1 then ret
            else false) fun q hq => hl q (by simp [hq])
        have hop := umount_op env (driveInTheWay env s p lazyUnmount).2 p lazyUnmount
        have hquiet := umount_eq env (driveInTheWay env s p lazyUnmount).2 p lazyUnmount
        have hway : Sys.SameOutside M s (driveInTheWay env s p lazyUnmount).2 :=
          Sys.SameOutside.of_eq (by simp)
        refine ⟨(hway.trans (hop.outside.mono fun m hm => ?_)).trans hout, ?_, ?_⟩
        · rw [hm]
          exact hl p (by simp)
        · rw [hnext, hquiet.2.2.1, driveInTheWay_next]
        · rw [hnot, hquiet.2.2.2, driveInTheWay_notables]

theorem suspendUmountAllPartitions_notables (lazyUnmount : Bool) :
    (suspendUmountAllPartitions env s d lazyUnmount).2.notables = s.notables :=
  (suspendUmountLoop_outside env lazyUnmount (M := fun _ => True) d.diskPartitionList s true
    fun _ _ => trivial).2.2

theorem suspendUmountAllPartitions_within (lazyUnmount : Bool) :
    Within s d (suspendUmountAllPartitions env s d lazyUnmount).2 d := by
  obtain ⟨hout, hnext, hnot⟩ := suspendUmountLoop_outside env lazyUnmount (M := d.Owns)
    d.diskPartitionList s true fun p hp => ⟨p, hp, rfl⟩
  exact ⟨rfl, rfl, List.Subset.refl _, hnext, hout, Sys.Adds.of_eq hnot⟩

end StorageDevice

/-! ### All devices -/

/-- The devices that are listed stay the same ones, and what is done stays within them. -/
structure WithinList (s : Sys) (l : List StorageDevice) (t : Sys) (l' : List StorageDevice) :
    Prop where
  listed : l'.map (·.address) = l.map (·.address)
  each : ∀ e ∈ l', ∃ d ∈ l, e.core = d.core ∧ e.addresses = d.addresses ∧ e.idents ⊆ d.idents
  next : t.next = s.next
  outside : Sys.SameOutside (fun m => ∃ d ∈ l, d.Owns m) s t
  quiet : Sys.Adds (fun r => ∃ d ∈ l, d.Worked r) s t

namespace WithinList

open StorageDevice

variable {s t u : Sys} {l l' : List StorageDevice}

theorem of_untouched (hs : Untouched s t) : WithinList s l t l :=
  ⟨rfl, fun e he => ⟨e, he, rfl, rfl, List.Subset.refl _⟩, hs.next,
    Sys.SameOutside.of_eq hs.mounted, Sys.Adds.of_eq hs.notables⟩

theorem refl (s : Sys) (l : List StorageDevice) : WithinList s l s l :=
  of_untouched (Untouched.refl s)

/-- What only talks to the system afterwards does not matter. -/
theorem andThen (h : WithinList s l t l') (hu : Untouched t u) : WithinList s l u l' :=
  ⟨h.listed, h.each, hu.next.trans h.next, h.outside.trans (Sys.SameOutside.of_eq hu.mounted),
    h.quiet.trans (Sys.Adds.of_eq hu.notables)⟩

/-- One device was acted on. -/
theorem write {d e : StorageDevice} (h : Within s d t e) (hd : d ∈ l) :
    WithinList s l t (writeBack l e) := by
  refine ⟨?_, fun f hf => ?_, h.next, h.outside.mono fun m hm => ⟨d, hd, hm⟩,
    h.quiet.mono fun r hr => ⟨d, hd, hr⟩⟩
  · exact Keyed.put_keys (fun x : StorageDevice => x.address) l e
  · obtain ⟨x, hx, rfl⟩ := List.mem_map.mp hf
    split
    · exact ⟨d, hd, h.core, h.addresses, h.idents⟩
    · exact ⟨x, hx, rfl, rfl, List.Subset.refl _⟩

/-- All devices were acted on, one after the other. -/
theorem loop {ρ : Type} {g : Sys → StorageDevice → Out StorageDevice ρ}
    (hg : ∀ s d, Within s d (g s d).state (g s d).obj) (s : Sys) (l : List StorageDevice) :
    WithinList s l (visit g s l).state (visit g s l).obj := by
  refine ⟨?_, fun e he => ?_, ?_, ?_, ?_⟩
  · exact Visit.visit_map (g := fun d : StorageDevice => d.address)
      (fun s d => address_of_core (hg s d).core) l s
  · exact Visit.visit_mem (R := fun d e : StorageDevice =>
      e.core = d.core ∧ e.addresses = d.addresses ∧ e.idents ⊆ d.idents)
      (fun s d => ⟨(hg s d).core, (hg s d).addresses, (hg s d).idents⟩) l s e he
  · exact Visit.visit_state (P := fun t : Sys => t.next = s.next)
      (fun t d _ h => (hg t d).next.trans h) rfl
  · exact Visit.visit_state
      (P := fun t : Sys => Sys.SameOutside (fun m => ∃ d ∈ l, d.Owns m) s t)
      (fun t d hd h => h.trans ((hg t d).outside.mono fun m hm => ⟨d, hd, hm⟩))
      (Sys.SameOutside.refl s)
  · exact Visit.visit_state (P := fun t : Sys => Sys.Adds (fun r => ∃ d ∈ l, d.Worked r) s t)
      (fun t d hd h => h.trans ((hg t d).quiet.mono fun r hr => ⟨d, hd, hr⟩))
      (Sys.Adds.of_eq rfl)

end WithinList

namespace StorageDeviceHandler

open StorageDevice

variable (env : Env) (s : Sys) (h : StorageDeviceHandler)

theorem onDevice_within {found : Option StorageDevice} {notFound : PdmDevStatus}
    {method : Sys → StorageDevice → Out StorageDevice PdmDevStatus}
    (hfound : ∀ d, found = some d → d ∈ h.storageList)
    (hmethod : ∀ d, Within s d (method s d).state (method s d).obj) :
    WithinList s h.storageList (onDevice s h found method notFound).state
      (onDevice s h found method notFound).obj.storageList := by
  unfold onDevice
  cases found with
  | none => exact WithinList.refl s h.storageList
  | some d => exact WithinList.write (hmethod d) (hfound d rfl)

theorem mem_of_name {driveName : String} (d : StorageDevice)
    (hd : getDeviceWithName h.storageList driveName = some d) : d ∈ h.storageList :=
  List.mem_of_find?_eq_some hd

theorem HandlerCommand_within (cmdtypes : CommandType) :
    WithinList s h.storageList (h.HandlerCommand env s cmdtypes).state
      (h.HandlerCommand env s cmdtypes).obj.storageList := by
  cases cmdtypes with
  | format driveName fsType volumeLabel =>
    exact onDevice_within s h (mem_of_name h) fun d =>
      formatDiskStart_within env s d driveName fsType volumeLabel
  | eject deviceNumber =>
    refine onDevice_within s h (fun d hd => List.mem_of_find?_eq_some hd) fun d => ?_
    exact (eject_within env s d).trans
      (Within.of_untouched (notify_untouched _ .storageDevice .unmountAll) rfl rfl)
  | fsck driveName =>
    exact onDevice_within s h (mem_of_name h) fun d => fsck_within env s d (removeBlanks driveName)
  | setVolumeLabel driveName volumeLabel =>
    exact onDevice_within s h (mem_of_name h) fun d =>
      setPartitionVolumeLabel_within env s d driveName volumeLabel
  | mountFsck needFsck mountName =>
    exact onDevice_within s h (mem_of_name h) fun d =>
      enforceFsckAndMount_within env s d needFsck
  | isWritableDrive driveName =>
    unfold HandlerCommand isWritableDrive
    dsimp only
    cases getDeviceWithName h.storageList driveName with
    | none => exact WithinList.refl s h.storageList
    | some d => exact WithinList.of_untouched (isWritable_untouched env s d driveName)
  | spaceInfo directCheck driveName =>
    unfold HandlerCommand getSpaceInfo
    dsimp only
    cases hd : getDeviceWithName h.storageList driveName with
    | none => exact WithinList.refl s h.storageList
    | some d =>
      have hw := WithinList.write (getSpaceInfo_within env s d driveName directCheck)
        (mem_of_name h d hd)
      dsimp only
      split
      · exact hw
      · exact hw
  | umountAllDrive =>
    unfold HandlerCommand umountAllDrive
    dsimp only
    split
    · exact WithinList.refl s h.storageList
    · exact (WithinList.loop (fun s d => umountAllPartition_within env s d false) s
        h.storageList).andThen (notify_untouched _ .storageDevice .unmountAll)
  | other => exact WithinList.refl s h.storageList

theorem umountAllDriveLoop_within (lazyUnmount : Bool) (l : List StorageDevice) :
    ∀ (l' : List StorageDevice) (s : Sys) (ret : Bool), l' ⊆ l →
      WithinList s l (umountAllDriveLoop env lazyUnmount s ret l').2 l := by
  intro l'
  induction l' with
  | nil => intro s ret _; exact WithinList.refl s l
  | cons d ds ih =>
      intro s ret hsub
      have hd := suspendUmountAllPartitions_within env s d lazyUnmount
      have hds := ih (suspendUmountAllPartitions env s d lazyUnmount).2
        (if (suspendUmountAllPartitions env s d lazyUnmount).1 = false then false else ret)
        fun x hx => hsub (by simp [hx])
      have hmem : d ∈ l := hsub (by simp)
      exact ⟨rfl, fun e he => ⟨e, he, rfl, rfl, List.Subset.refl _⟩, hds.next.trans hd.next,
        (hd.outside.mono fun m hm => ⟨d, hmem, hm⟩).trans hds.outside,
        (hd.quiet.mono fun r hr => ⟨d, hmem, hr⟩).trans hds.quiet⟩

theorem umountAllDriveLoop_notables (lazyUnmount : Bool) (l : List StorageDevice) :
    ∀ (s : Sys) (ret : Bool), (umountAllDriveLoop env lazyUnmount s ret l).2.notables = s.notables := by
  induction l with
  | nil => intro s ret; rfl
  | cons d ds ih =>
      intro s ret
      unfold umountAllDriveLoop
      dsimp only
      rw [ih, suspendUmountAllPartitions_notables]

theorem HandlePluginEvent_within (eventType : PluginEvent) :
    WithinList s h.storageList (h.HandlePluginEvent env s eventType).state
      (h.HandlePluginEvent env s eventType).obj.storageList := by
  have hloop := fun lazyUnmount => umountAllDriveLoop_within env lazyUnmount h.storageList
    h.storageList s true (List.Subset.refl _)
  cases eventType with
  | powerProcessRequestSuspend =>
    refine ⟨?_, fun e he => ?_, rfl, Sys.SameOutside.refl s, Sys.Adds.of_eq rfl⟩
    · show (h.storageList.map (·.suspendRequest)).map (·.address) = _
      rw [List.map_map]
      rfl
    · obtain ⟨d, hd, rfl⟩ := List.mem_map.mp he
      have hw := suspendRequest_within s d
      exact ⟨d, hd, hw.core, hw.addresses, hw.idents⟩
  | powerProcessPrepareResume =>
    exact (WithinList.loop (resumeRequest_within env) s h.storageList).andThen
      (notify_untouched _ .storageDevice .add)
  | powerProcessRequestUmountAll => exact hloop false
  | powerProcessPrepareSuspend => exact hloop true
  | camNone => exact WithinList.refl s h.storageList
  | camReady => exact WithinList.refl s h.storageList
  | camBuiltin => exact WithinList.refl s h.storageList
  | modemDongleSupported => exact WithinList.refl s h.storageList
  | modemDongleNotSupported => exact WithinList.refl s h.storageList
  | other => exact WithinList.refl s h.storageList

theorem deviceTask_within {address : Nat} {task : Sys → StorageDevice → Out StorageDevice Unit}
    (htask : ∀ d, Within s d (task s d).state (task s d).obj) :
    WithinList s h.storageList (deviceTask s h address task).state
      (deviceTask s h address task).obj.storageList := by
  unfold deviceTask
  cases hd : h.storageList.find? (·.address = address) with
  | none => exact WithinList.refl s h.storageList
  | some d => exact WithinList.write (htask d) (List.mem_of_find?_eq_some hd)

theorem runFsckThread_within (address partition : Nat) :
    WithinList s h.storageList (h.runFsckThread env s address partition).state
      (h.runFsckThread env s address partition).obj.storageList := by
  refine deviceTask_within s h fun d => ?_
  split
  · have hstart : Within s d s { d with fsckThreadArray := d.fsckThreadArray.erase partition } :=
      Within.of_untouched (Untouched.refl s) rfl rfl
    exact hstart.trans (fsckOnDeviceAddThread_within env s _ partition)
  · exact Within.refl s d

theorem runTimeout_within (address : Nat) :
    WithinList s h.storageList (h.runTimeout s address).state
      (h.runTimeout s address).obj.storageList := by
  refine deviceTask_within s h fun d => ?_
  split
  · exact notifyStorageConnecting_within s d
  · exact Within.refl s d

end StorageDeviceHandler

/-- **Whatever is not a uevent stays within the devices that are listed.** -/
theorem StorageSystem.deliver_within (cfg : Config) (env : Env) (w : StorageSystem)
    {input : StorageInput} (h : ∀ devClass, input ≠ .uevent devClass) :
    WithinList w.sys w.storage.storageList (w.deliver cfg env input).sys
      (w.deliver cfg env input).storage.storageList := by
  cases input with
  | uevent devClass => exact absurd rfl (h devClass)
  | command cmdtypes => exact w.storage.HandlerCommand_within env w.sys cmdtypes
  | pluginEvent eventType => exact w.storage.HandlePluginEvent_within env w.sys eventType
  | fsckThread device partition => exact w.storage.runFsckThread_within env w.sys device partition
  | timeout device => exact w.storage.runTimeout_within w.sys device

end Pdm
