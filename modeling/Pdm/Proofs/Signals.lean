/-
The ADD and REMOVE notifications among what is posted.

A signal is an ADD (`true`) or a REMOVE (`false`), with the device it names.  Commands send
none and leave alone what a device remembers of them; resuming sends one ADD that names no
device.
-/
import Pdm.Proofs.Announcements

namespace Pdm

open Visit (visit)

/-- ADD or REMOVE, and the device that the notification names. -/
def signalOf : EventType × Option Nat → Option (Bool × Option Nat)
  | (.add, device) => some (true, device)
  | (.remove, device) => some (false, device)
  | _ => none

namespace Sys

/-- The signals of the step in progress, oldest first. -/
def signals (s : Sys) : List (Bool × Option Nat) := s.posts.filterMap signalOf

theorem signals_of_posts {s t : Sys} (h : t.posts = s.posts) : t.signals = s.signals :=
  congrArg (List.filterMap signalOf) h

theorem signals_append {s t : Sys} {bs : List (EventType × Option Nat)}
    (h : t.posts = s.posts ++ bs) : t.signals = s.signals ++ bs.filterMap signalOf := by
  unfold signals
  rw [h, List.filterMap_append]

/-- No other notification is a signal. -/
theorem notify_signals (s : Sys) (deviceType : DeviceEventType) {event : EventType}
    (device : Option Nat) (hadd : event ≠ .add) (hremove : event ≠ .remove) :
    (s.notify deviceType event device).signals = s.signals := by
  rw [signals_append (notify_posts s deviceType event device)]
  split
  · have hnone : signalOf (event, device) = none := by
      unfold signalOf
      split
      · rename_i h
        exact absurd (congrArg Prod.fst h) hadd
      · rename_i h
        exact absurd (congrArg Prod.fst h) hremove
      · rfl
    simp [hnone]
  · exact List.append_nil _

end Sys

theorem handlerCb_signals (s : Sys) {event : EventType} (device : Option Nat)
    (hadd : event ≠ .add) (hremove : event ≠ .remove) :
    (handlerCb s event device).signals = s.signals := by
  unfold handlerCb
  split
  · exact Sys.notify_signals s _ device hadd hremove
  · exact Sys.notify_signals s _ device hadd hremove

namespace StorageDevice

/-- A method that sends no signal, on a device that remembers what it did. -/
structure Hushed (s : Sys) (d : StorageDevice) (t : Sys) (e : StorageDevice) : Prop where
  signals : t.signals = s.signals
  address : e.address = d.address
  notified : e.isDevAddEventNotified = d.isDevAddEventNotified

namespace Hushed

variable {s t u : Sys} {d e f : StorageDevice}

theorem refl (s : Sys) (d : StorageDevice) : Hushed s d s d := ⟨rfl, rfl, rfl⟩

theorem of_posts (h : t.posts = s.posts) (haddress : e.address = d.address)
    (hnotified : e.isDevAddEventNotified = d.isDevAddEventNotified) : Hushed s d t e :=
  ⟨Sys.signals_of_posts h, haddress, hnotified⟩

end Hushed

variable (env : Env) (s : Sys) (d : StorageDevice)

theorem eject_hushed :
    Hushed s d ((eject env s d).state.notify .storageDevice .unmountAll none)
      (eject env s d).obj := by
  have hobj : (eject env s d).state.posts = s.posts ∧ (eject env s d).obj.address = d.address ∧
      (eject env s d).obj.isDevAddEventNotified = d.isDevAddEventNotified := by
    unfold eject
    dsimp only
    split
    · exact ⟨umountAllPartition_posts env s d false, rfl, rfl⟩
    · exact ⟨umountAllPartition_posts env s d false, rfl, rfl⟩
  refine ⟨?_, hobj.2.1, hobj.2.2⟩
  rw [Sys.notify_signals _ _ _ (by decide) (by decide)]
  exact Sys.signals_of_posts hobj.1

theorem enforceFsckAndMount_hushed (needFsck : Bool) :
    Hushed s d (enforceFsckAndMount env s d needFsck).state
      (enforceFsckAndMount env s d needFsck).obj := by
  refine Hushed.of_posts (enforceFsckAndMount_posts env s d needFsck)
    (address_of_core (enforceFsckAndMount_core env s d needFsck)) ?_
  unfold enforceFsckAndMount
  dsimp only
  split <;> rfl

theorem formatOn_hushed (p : DiskPartitionInfo) (fsType volumeLabel : String) :
    Hushed s d (formatOn env s d p fsType volumeLabel).state
      (formatOn env s d p fsType volumeLabel).obj := by
  have humount := Sys.signals_of_posts (umountPartition_posts env s p false)
  have hstarted : ∀ t : Sys,
      (handlerCb t .formatStarted (some p.address)).signals = t.signals := fun t =>
    handlerCb_signals t _ (by decide) (by decide)
  unfold formatOn
  by_cases hreadOnly : d.isReadOnly = true
  · rw [if_pos hreadOnly]
    exact Hushed.refl s d
  · rw [if_neg hreadOnly]
    dsimp only
    by_cases hfree : (umountPartition env s p false).ret = .success
    · rw [if_neg (not_not_intro hfree)]
      have hformat := Sys.signals_of_posts (formatFs_posts env
        (handlerCb (umountPartition env s p false).state .formatStarted (some p.address))
        (umountPartition env s p false).obj fsType volumeLabel)
      rw [hstarted, humount] at hformat
      generalize PdmFs.format env _ (umountPartition env s p false).obj fsType volumeLabel = f
        at hformat
      -- A successful format mounts the partition; the answer that counts is the mount's.
      have hmount : (if f.ret = .success then mountPartition env f.state f.obj false
          else f).state.signals = s.signals := by
        split
        · rw [Sys.signals_of_posts (mountPartition_posts env f.state f.obj false), hformat]
        · exact hformat
      generalize (if f.ret = .success then mountPartition env f.state f.obj false else f) = m
        at hmount
      split
      · exact ⟨(handlerCb_signals _ _ (by decide) (by decide)).trans hmount, rfl, rfl⟩
      · exact ⟨(handlerCb_signals _ _ (by decide) (by decide)).trans hmount, rfl, rfl⟩
    · rw [if_pos hfree]
      exact ⟨humount, rfl, rfl⟩

theorem resumeRequest_hushed :
    Hushed s d (resumeRequest env s d).state (resumeRequest env s d).obj := by
  unfold resumeRequest
  dsimp only
  split
  · exact ⟨rfl, rfl, rfl⟩
  · split
    · exact Hushed.of_posts (mountAllPartition_posts env s _) rfl rfl
    · exact Hushed.of_posts (mountAllPartition_posts env s _) rfl rfl

theorem suspendUmountLoop_posts (lazyUnmount : Bool) (l : List DiskPartitionInfo) (s : Sys)
    (ret : Bool) : (suspendUmountLoop env lazyUnmount s ret l).2.posts = s.posts :=
  suspendUmountLoop_view env post_unseen lazyUnmount l s ret

end StorageDevice

/-! ### The list of devices -/

open StorageDevice

/-- No signal, and each device in the list remembers what it did. -/
structure HushedList (s : Sys) (l : List StorageDevice) (t : Sys) (l' : List StorageDevice) :
    Prop where
  signals : t.signals = s.signals
  each : ∀ e ∈ l', ∃ d ∈ l, e.address = d.address ∧
    e.isDevAddEventNotified = d.isDevAddEventNotified

namespace HushedList

variable {s t : Sys} {l l' : List StorageDevice}

theorem of_signals (h : t.signals = s.signals) (l : List StorageDevice) : HushedList s l t l :=
  ⟨h, fun e he => ⟨e, he, rfl, rfl⟩⟩

theorem refl (s : Sys) (l : List StorageDevice) : HushedList s l s l := of_signals rfl l

theorem write {d e : StorageDevice} (h : Hushed s d t e) (hd : d ∈ l) :
    HushedList s l t (writeBack l e) := by
  refine ⟨h.signals, fun f hf => ?_⟩
  rcases WellFormed.mem_writeBack hf with rfl | ⟨hf, -⟩
  · exact ⟨d, hd, h.address, h.notified⟩
  · exact ⟨f, hf, rfl, rfl⟩

theorem loop {ρ : Type} {g : Sys → StorageDevice → Out StorageDevice ρ}
    (hg : ∀ s d, Hushed s d (g s d).state (g s d).obj) (s : Sys) (l : List StorageDevice) :
    HushedList s l (visit g s l).state (visit g s l).obj := by
  refine ⟨?_, fun e he => ?_⟩
  · exact Visit.visit_state (P := fun t : Sys => t.signals = s.signals)
      (fun t d _ h => (hg t d).signals.trans h) rfl
  · exact Visit.visit_mem (R := fun d e : StorageDevice => e.address = d.address ∧
      e.isDevAddEventNotified = d.isDevAddEventNotified)
      (fun s d => ⟨(hg s d).address, (hg s d).notified⟩) l s e he

end HushedList

namespace StorageDeviceHandler

variable (env : Env) (s : Sys) (h : StorageDeviceHandler)

theorem onDevice_hushed {found : Option StorageDevice} {notFound : PdmDevStatus}
    {method : Sys → StorageDevice → Out StorageDevice PdmDevStatus}
    (hfound : ∀ d, found = some d → d ∈ h.storageList)
    (hmethod : ∀ d, Hushed s d (method s d).state (method s d).obj) :
    HushedList s h.storageList (onDevice s h found method notFound).state
      (onDevice s h found method notFound).obj.storageList := by
  unfold onDevice
  cases found with
  | none => exact HushedList.refl s h.storageList
  | some d => exact HushedList.write (hmethod d) (hfound d rfl)

/-- **Commands send no ADD and no REMOVE.** -/
theorem HandlerCommand_hushed (cmdtypes : CommandType) :
    HushedList s h.storageList (h.HandlerCommand env s cmdtypes).state
      (h.HandlerCommand env s cmdtypes).obj.storageList := by
  cases cmdtypes with
  | format driveName fsType volumeLabel =>
    refine onDevice_hushed s h (mem_of_name h) fun d => ?_
    unfold formatDiskStart
    cases d.findPartition driveName with
    | none => exact Hushed.refl s d
    | some p => exact formatOn_hushed env s d p fsType volumeLabel
  | eject deviceNumber =>
    exact onDevice_hushed s h (fun d hd => List.mem_of_find?_eq_some hd) fun d =>
      eject_hushed env s d
  | fsck driveName =>
    refine onDevice_hushed s h (mem_of_name h) fun d => ?_
    unfold StorageDevice.fsck
    cases d.findPartition (removeBlanks driveName) with
    | none => exact Hushed.refl s d
    | some p =>
      have hobj : (fsckOn env s d p).obj.address = d.address ∧
          (fsckOn env s d p).obj.isDevAddEventNotified = d.isDevAddEventNotified := by
        unfold fsckOn
        split
        · exact ⟨rfl, rfl⟩
        · dsimp only
          split <;> exact ⟨rfl, rfl⟩
      exact Hushed.of_posts (fsckOn_posts env s p d) hobj.1 hobj.2
  | setVolumeLabel driveName volumeLabel =>
    refine onDevice_hushed s h (mem_of_name h) fun d => ?_
    unfold setPartitionVolumeLabel
    cases d.findPartition driveName with
    | none => exact Hushed.refl s d
    | some p => exact Hushed.of_posts (setVolumeLabelFs_posts env s p volumeLabel) rfl rfl
  | mountFsck needFsck mountName =>
    exact onDevice_hushed s h (mem_of_name h) fun d => enforceFsckAndMount_hushed env s d needFsck
  | isWritableDrive driveName =>
    unfold HandlerCommand isWritableDrive
    dsimp only
    cases getDeviceWithName h.storageList driveName with
    | none => exact HushedList.refl s h.storageList
    | some d =>
      exact HushedList.of_signals (Sys.signals_of_posts (isWritable_posts env s d driveName))
        h.storageList
  | spaceInfo directCheck driveName =>
    unfold HandlerCommand StorageDeviceHandler.getSpaceInfo
    dsimp only
    cases hd : getDeviceWithName h.storageList driveName with
    | none => exact HushedList.refl s h.storageList
    | some d =>
      have hspace : Hushed s d s (d.getSpaceInfo env driveName directCheck).1 := by
        refine Hushed.of_posts rfl (address_of_core
          (getSpaceInfo_within env s d driveName directCheck).core) ?_
        unfold StorageDevice.getSpaceInfo getSpaceInfoOn
        split
        · rfl
        · dsimp only
          split
          · split <;> rfl
          · rfl
      have hwrite := HushedList.write hspace (mem_of_name h d hd)
      dsimp only
      split
      · exact hwrite
      · exact hwrite
  | umountAllDrive =>
    unfold HandlerCommand StorageDeviceHandler.umountAllDrive
    dsimp only
    split
    · exact HushedList.refl s h.storageList
    · have hloop := HushedList.loop (g := fun s d => umountAllPartition env s d false)
        (fun s d => Hushed.of_posts (umountAllPartition_posts env s d false) rfl rfl) s
        h.storageList
      refine ⟨?_, hloop.each⟩
      exact (Sys.notify_signals _ _ none (by decide) (by decide)).trans hloop.signals
  | other => exact HushedList.refl s h.storageList

theorem umountAllDriveLoop_signals (lazyUnmount : Bool) : ∀ (l : List StorageDevice) (s : Sys)
    (ret : Bool), (umountAllDriveLoop env lazyUnmount s ret l).2.signals = s.signals := by
  intro l
  induction l with
  | nil => intro s ret; rfl
  | cons d ds ih =>
      intro s ret
      unfold umountAllDriveLoop
      dsimp only
      rw [ih]
      exact Sys.signals_of_posts (suspendUmountLoop_posts env lazyUnmount _ _ _)

/-- Plugin events send at most an ADD that names no device. -/
theorem HandlePluginEvent_signals (eventType : PluginEvent) :
    (∃ bs, (h.HandlePluginEvent env s eventType).state.signals = s.signals ++ bs ∧
        ∀ x ∈ bs, x.2 = none) ∧
      ∀ e ∈ (h.HandlePluginEvent env s eventType).obj.storageList, ∃ d ∈ h.storageList,
        e.address = d.address ∧ e.isDevAddEventNotified = d.isDevAddEventNotified := by
  have hquiet : ∀ t : Sys, t.signals = s.signals →
      ∃ bs, t.signals = s.signals ++ bs ∧ ∀ x ∈ bs, x.2 = none := fun t ht =>
    ⟨[], ht.trans (List.append_nil _).symm, fun x hx => absurd hx (by simp)⟩
  have hsame : ∀ e ∈ h.storageList, ∃ d ∈ h.storageList, e.address = d.address ∧
      e.isDevAddEventNotified = d.isDevAddEventNotified := fun e he => ⟨e, he, rfl, rfl⟩
  have hloop := fun lazyUnmount => umountAllDriveLoop_signals env lazyUnmount h.storageList s true
  cases eventType with
  | powerProcessRequestSuspend =>
    refine ⟨hquiet s rfl, fun e he => ?_⟩
    obtain ⟨d, hd, rfl⟩ := List.mem_map.mp he
    exact ⟨d, hd, rfl, rfl⟩
  | powerProcessPrepareResume =>
    have hvisit := HushedList.loop (resumeRequest_hushed env) s h.storageList
    refine ⟨⟨[(true, none)], ?_, fun x hx => ?_⟩, hvisit.each⟩
    · show ((visit _ s h.storageList).state.notify .storageDevice .add none).signals = _
      rw [Sys.signals_append (Sys.notify_posts _ _ _ _), hvisit.signals]
      rfl
    · rw [List.mem_singleton.mp hx]
  | powerProcessRequestUmountAll => exact ⟨hquiet _ (hloop false), hsame⟩
  | powerProcessPrepareSuspend => exact ⟨hquiet _ (hloop true), hsame⟩
  | camNone => exact ⟨hquiet s rfl, hsame⟩
  | camReady => exact ⟨hquiet s rfl, hsame⟩
  | camBuiltin => exact ⟨hquiet s rfl, hsame⟩
  | modemDongleSupported => exact ⟨hquiet s rfl, hsame⟩
  | modemDongleNotSupported => exact ⟨hquiet s rfl, hsame⟩
  | other => exact ⟨hquiet s rfl, hsame⟩

end StorageDeviceHandler

end Pdm
