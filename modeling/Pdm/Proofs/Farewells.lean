/-
Every device is taken leave of once.

Commands and plugin events send no notice of a device, only of a partition that is formatted,
events and checks only notices that open the device they are about, and a removal takes leave
of the device that goes.  No partition ever has the address of a device.  From these the run
follows: a device that is listed has only been opened, one that has gone was opened and taken
leave of, in the words that its opening asks for, and nothing is told of it after that
(`farewell_once`).
-/
import Pdm.Lib.Runs
import Pdm.Proofs.DeviceOpenings
import Pdm.Proofs.DeviceSignals

namespace Pdm

open StorageDevice StorageDeviceHandler
open Visit (visit)

/-! ### Commands and plugin events -/

namespace StorageDevice

variable (env : Env) (s : Sys) (d : StorageDevice)

theorem eject_silent :
    Speaks [] s d ((eject env s d).state.notify .storageDevice .unmountAll none)
      (eject env s d).obj := by
  have hnotices : ((eject env s d).state.notify .storageDevice .unmountAll none).notices =
      s.notices := by
    rw [Sys.notify_notices]
    unfold eject
    dsimp only
    split
    · exact (List.append_nil _).trans (umountAllPartition_view env s d notice_unseen false)
    · exact (List.append_nil _).trans (umountAllPartition_view env s d notice_unseen false)
  unfold eject at hnotices ⊢
  dsimp only at hnotices ⊢
  split at hnotices
  · next hdone =>
    rw [if_pos hdone]
    exact Speaks.silent hnotices rfl rfl rfl
  · next hdone =>
    rw [if_neg hdone]
    exact Speaks.silent hnotices rfl rfl rfl

theorem enforceFsckAndMount_silent (needFsck : Bool) :
    Speaks [] s d (enforceFsckAndMount env s d needFsck).state
      (enforceFsckAndMount env s d needFsck).obj := by
  refine Speaks.silent (enforceFsckAndMount_view env s d notice_unseen needFsck)
    (address_of_core (enforceFsckAndMount_core env s d needFsck)) ?_ ?_
  all_goals
    unfold enforceFsckAndMount
    dsimp only
    split <;> rfl

/-- A piece of code that sends no notice of the device, only of partitions that are formatted. -/
structure FormatsOnly (s : Sys) (d : StorageDevice) (t : Sys) (e : StorageDevice) : Prop where
  notices : ∃ ns, t.notices = s.notices ++ ns ∧
    ∀ n ∈ ns, n.1 ∈ EventType.formats ∧ n.2 ∈ d.addresses
  address : e.address = d.address
  notified : e.isDevAddEventNotified = d.isDevAddEventNotified
  unsupported : e.hasUnsupportedFs = d.hasUnsupportedFs

theorem Speaks.formatsOnly {s t : Sys} {d e : StorageDevice} (h : Speaks [] s d t e) :
    FormatsOnly s d t e := by
  refine ⟨⟨[], h.notices, fun n hn => by cases hn⟩, h.address, ?_, ?_⟩
  · exact h.notified.trans (Bool.or_false _)
  · exact h.unsupported.trans (Bool.or_false _)

theorem FormatsOnly.silent {s t : Sys} {d e : StorageDevice} (hnotices : t.notices = s.notices)
    (haddress : e.address = d.address)
    (hnotified : e.isDevAddEventNotified = d.isDevAddEventNotified)
    (hunsupported : e.hasUnsupportedFs = d.hasUnsupportedFs) : FormatsOnly s d t e :=
  (Speaks.silent hnotices haddress hnotified hunsupported).formatsOnly

/-- The notices of a format are sent as they are. -/
theorem handlerCb_formats (t : Sys) {event : EventType} (hevent : event ∈ EventType.formats)
    (device : Nat) :
    (handlerCb t event (some device)).notices = t.notices ++ [(event, device)] := by
  refine handlerCb_notices ⟨fun heq => ?_, fun heq => ?_⟩
  · rw [heq] at hevent
    exact absurd hevent (by decide)
  · rw [heq] at hevent
    exact absurd hevent (by decide)

theorem formatOn_formatsOnly {p : DiskPartitionInfo} (hp : p ∈ d.diskPartitionList)
    (fsType volumeLabel : String) :
    FormatsOnly s d (formatOn env s d p fsType volumeLabel).state
      (formatOn env s d p fsType volumeLabel).obj := by
  have humount : (umountPartition env s p false).state.notices = s.notices :=
    umountPartition_view env s p notice_unseen false
  have haddress : p.address ∈ d.addresses := List.mem_map_of_mem hp
  unfold formatOn
  by_cases hreadOnly : d.isReadOnly = true
  · rw [if_pos hreadOnly]
    exact FormatsOnly.silent rfl rfl rfl rfl
  · rw [if_neg hreadOnly]
    dsimp only
    by_cases hfree : (umountPartition env s p false).ret = .success
    · rw [if_neg (not_not_intro hfree)]
      have hformat : (PdmFs.format env
          (handlerCb (umountPartition env s p false).state .formatStarted (some p.address))
          (umountPartition env s p false).obj fsType volumeLabel).state.notices =
            s.notices ++ [(.formatStarted, p.address)] := by
        rw [← humount, ← handlerCb_formats _ (by decide) p.address]
        exact formatFs_view env _ _ notice_unseen fsType volumeLabel
      generalize PdmFs.format env _ (umountPartition env s p false).obj fsType volumeLabel = f
        at hformat
      have hmount : (if f.ret = .success then mountPartition env f.state f.obj false
          else f).state.notices = s.notices ++ [(.formatStarted, p.address)] := by
        split
        · exact (mountPartition_view env f.state f.obj notice_unseen false).trans hformat
        · exact hformat
      generalize (if f.ret = .success then mountPartition env f.state f.obj false else f) = m
        at hmount
      have hended : ∀ event ∈ EventType.formats,
          ∃ ns, (handlerCb m.state event (some p.address)).notices = s.notices ++ ns ∧
            ∀ n ∈ ns, n.1 ∈ EventType.formats ∧ n.2 ∈ d.addresses := by
        intro event hevent
        refine ⟨[(.formatStarted, p.address), (event, p.address)], ?_, fun n hn => ?_⟩
        · rw [handlerCb_formats _ hevent, hmount, List.append_assoc]
          rfl
        · rcases List.mem_cons.mp hn with rfl | hn
          · exact ⟨show EventType.formatStarted ∈ EventType.formats by decide, haddress⟩
          · rw [List.mem_singleton.mp hn]
            exact ⟨hevent, haddress⟩
      split
      · exact ⟨hended _ (by decide), rfl, rfl, rfl⟩
      · exact ⟨hended _ (by decide), rfl, rfl, rfl⟩
    · rw [if_pos hfree]
      exact FormatsOnly.silent humount rfl rfl rfl

theorem fsckOn_silent (p : DiskPartitionInfo) :
    Speaks [] s d (fsckOn env s d p).state (fsckOn env s d p).obj := by
  refine Speaks.silent (fsckOn_view env s p d notice_unseen) ?_ ?_ ?_
  all_goals
    unfold fsckOn
    split
    · rfl
    · dsimp only
      split <;> rfl

theorem getSpaceInfo_silent (driveName : String) (directCheck : Bool) :
    Speaks [] s d s (d.getSpaceInfo env driveName directCheck).1 := by
  refine Speaks.silent rfl
    (address_of_core (getSpaceInfo_within env s d driveName directCheck).core) ?_ ?_
  all_goals
    unfold StorageDevice.getSpaceInfo getSpaceInfoOn
    split
    · rfl
    · dsimp only
      split
      · split <;> rfl
      · rfl

theorem resumeRequest_silent :
    Speaks [] s d (resumeRequest env s d).state (resumeRequest env s d).obj := by
  unfold resumeRequest
  dsimp only
  split
  · exact Speaks.silent rfl rfl rfl rfl
  · split
    · exact Speaks.silent (mountAllPartition_view env s _ notice_unseen) rfl rfl rfl
    · exact Speaks.silent (mountAllPartition_view env s _ notice_unseen) rfl rfl rfl

end StorageDevice

/-- No notice is sent of a device, only of partitions that are formatted, and each device of the
list remembers what was sent of it. -/
structure Unmentioned (s : Sys) (l : List StorageDevice) (t : Sys) (l' : List StorageDevice) :
    Prop where
  notices : ∃ ns, t.notices = s.notices ++ ns ∧
    ∀ n ∈ ns, n.1 ∈ EventType.formats ∧ ∃ d ∈ l, n.2 ∈ d.addresses
  listed : l'.map (·.address) = l.map (·.address)
  each : ∀ e ∈ l', ∃ d ∈ l, Speaks [] s d s e

namespace Unmentioned

variable {s t : Sys} {l l' : List StorageDevice}

/-- No notice at all. -/
theorem silent (hnotices : t.notices = s.notices) (hlisted : l'.map (·.address) = l.map (·.address))
    (heach : ∀ e ∈ l', ∃ d ∈ l, Speaks [] s d s e) : Unmentioned s l t l' :=
  ⟨⟨[], hnotices.trans (List.append_nil _).symm, fun n hn => by cases hn⟩, hlisted, heach⟩

theorem of_notices (h : t.notices = s.notices) (l : List StorageDevice) : Unmentioned s l t l :=
  silent h rfl fun e he => ⟨e, he, Speaks.silent rfl rfl rfl rfl⟩

theorem refl (s : Sys) (l : List StorageDevice) : Unmentioned s l s l := of_notices rfl l

theorem write {d e : StorageDevice} (h : FormatsOnly s d t e) (hd : d ∈ l) :
    Unmentioned s l t (writeBack l e) := by
  refine ⟨?_, WellFormed.writeBack_addresses l e, fun f hf => ?_⟩
  · obtain ⟨ns, hnotices, hns⟩ := h.notices
    exact ⟨ns, hnotices, fun n hn => ⟨(hns n hn).1, d, hd, (hns n hn).2⟩⟩
  · rcases WellFormed.mem_writeBack hf with rfl | ⟨hf, -⟩
    · exact ⟨d, hd, Speaks.silent rfl h.address h.notified h.unsupported⟩
    · exact ⟨f, hf, Speaks.silent rfl rfl rfl rfl⟩

theorem loop {ρ : Type} {g : Sys → StorageDevice → Out StorageDevice ρ}
    (hg : ∀ s d, Speaks [] s d (g s d).state (g s d).obj) (s : Sys) (l : List StorageDevice) :
    Unmentioned s l (visit g s l).state (visit g s l).obj := by
  refine silent ?_ ?_ fun e he => ?_
  · refine Visit.visit_state (P := fun t : Sys => t.notices = s.notices) (fun t d _ h => ?_) rfl
    rw [(hg t d).notices]
    exact (List.append_nil _).trans h
  · exact Visit.visit_map (fun t d => (hg t d).address) l s
  · exact Visit.visit_mem (R := fun d e : StorageDevice => Speaks [] s d s e)
      (fun t d => ⟨(List.append_nil _).symm, (hg t d).address, (hg t d).notified,
        (hg t d).unsupported, (hg t d).opening⟩) l s e he

end Unmentioned

namespace StorageDeviceHandler

variable (env : Env) (s : Sys) (h : StorageDeviceHandler)

theorem onDevice_unmentioned {found : Option StorageDevice} {notFound : PdmDevStatus}
    {method : Sys → StorageDevice → Out StorageDevice PdmDevStatus}
    (hfound : ∀ d, found = some d → d ∈ h.storageList)
    (hmethod : ∀ d, FormatsOnly s d (method s d).state (method s d).obj) :
    Unmentioned s h.storageList (onDevice s h found method notFound).state
      (onDevice s h found method notFound).obj.storageList := by
  unfold onDevice
  cases found with
  | none => exact Unmentioned.refl s h.storageList
  | some d => exact Unmentioned.write (hmethod d) (hfound d rfl)

/-- **Commands send no notice of a device.** -/
theorem HandlerCommand_unmentioned (cmdtypes : CommandType) :
    Unmentioned s h.storageList (h.HandlerCommand env s cmdtypes).state
      (h.HandlerCommand env s cmdtypes).obj.storageList := by
  cases cmdtypes with
  | format driveName fsType volumeLabel =>
    refine onDevice_unmentioned s h (mem_of_name h) fun d => ?_
    unfold formatDiskStart
    cases hp : d.findPartition driveName with
    | none => exact FormatsOnly.silent rfl rfl rfl rfl
    | some p => exact formatOn_formatsOnly env s d (d.findPartition_mem hp).1 fsType volumeLabel
  | eject deviceNumber =>
    exact onDevice_unmentioned s h (fun d hd => List.mem_of_find?_eq_some hd) fun d =>
      (eject_silent env s d).formatsOnly
  | fsck driveName =>
    refine onDevice_unmentioned s h (mem_of_name h) fun d => ?_
    unfold StorageDevice.fsck
    cases d.findPartition (removeBlanks driveName) with
    | none => exact FormatsOnly.silent rfl rfl rfl rfl
    | some p => exact (fsckOn_silent env s d p).formatsOnly
  | setVolumeLabel driveName volumeLabel =>
    refine onDevice_unmentioned s h (mem_of_name h) fun d => ?_
    unfold setPartitionVolumeLabel
    cases d.findPartition driveName with
    | none => exact FormatsOnly.silent rfl rfl rfl rfl
    | some p =>
      exact FormatsOnly.silent (setVolumeLabelFs_view env s p notice_unseen volumeLabel) rfl rfl
        rfl
  | mountFsck needFsck mountName =>
    exact onDevice_unmentioned s h (mem_of_name h) fun d =>
      (enforceFsckAndMount_silent env s d needFsck).formatsOnly
  | isWritableDrive driveName =>
    unfold HandlerCommand isWritableDrive
    dsimp only
    cases getDeviceWithName h.storageList driveName with
    | none => exact Unmentioned.refl s h.storageList
    | some d =>
      exact Unmentioned.of_notices (isWritable_view env s d notice_unseen driveName) h.storageList
  | spaceInfo directCheck driveName =>
    unfold HandlerCommand StorageDeviceHandler.getSpaceInfo
    dsimp only
    cases hd : getDeviceWithName h.storageList driveName with
    | none => exact Unmentioned.refl s h.storageList
    | some d =>
      have hwrite := Unmentioned.write
        (getSpaceInfo_silent env s d driveName directCheck).formatsOnly (mem_of_name h d hd)
      dsimp only
      split
      · exact hwrite
      · exact hwrite
  | umountAllDrive =>
    unfold HandlerCommand StorageDeviceHandler.umountAllDrive
    dsimp only
    split
    · exact Unmentioned.refl s h.storageList
    · have hloop := Unmentioned.loop (g := fun s d => umountAllPartition env s d false)
        (fun s d => Speaks.silent (umountAllPartition_view env s d notice_unseen false) rfl rfl rfl)
        s h.storageList
      refine ⟨?_, hloop.listed, hloop.each⟩
      dsimp only
      rw [Sys.notify_notices]
      exact (List.append_nil _).symm ▸ hloop.notices
  | other => exact Unmentioned.refl s h.storageList

theorem umountAllDriveLoop_notices (lazyUnmount : Bool) : ∀ (l : List StorageDevice) (s : Sys)
    (ret : Bool), (umountAllDriveLoop env lazyUnmount s ret l).2.notices = s.notices := by
  intro l
  induction l with
  | nil => intro s ret; rfl
  | cons d ds ih =>
      intro s ret
      unfold umountAllDriveLoop
      dsimp only
      rw [ih]
      exact suspendUmountLoop_view env notice_unseen lazyUnmount _ _ _

/-- **Plugin events send no notice.** -/
theorem HandlePluginEvent_unmentioned (eventType : PluginEvent) :
    Unmentioned s h.storageList (h.HandlePluginEvent env s eventType).state
      (h.HandlePluginEvent env s eventType).obj.storageList := by
  have hloop := fun lazyUnmount => umountAllDriveLoop_notices env lazyUnmount h.storageList s true
  cases eventType with
  | powerProcessRequestSuspend =>
    refine Unmentioned.silent rfl ?_ fun e he => ?_
    · exact List.map_map
    · obtain ⟨d, hd, rfl⟩ := List.mem_map.mp he
      exact ⟨d, hd, Speaks.silent rfl rfl rfl rfl⟩
  | powerProcessPrepareResume =>
    have hvisit := Unmentioned.loop (resumeRequest_silent env) s h.storageList
    refine ⟨?_, hvisit.listed, hvisit.each⟩
    change ∃ ns, ((visit _ s h.storageList).state.notify .storageDevice .add none).notices =
      s.notices ++ ns ∧ _
    rw [Sys.notify_notices]
    exact (List.append_nil _).symm ▸ hvisit.notices
  | powerProcessRequestUmountAll => exact Unmentioned.of_notices (hloop false) h.storageList
  | powerProcessPrepareSuspend => exact Unmentioned.of_notices (hloop true) h.storageList
  | camNone => exact Unmentioned.refl s h.storageList
  | camReady => exact Unmentioned.refl s h.storageList
  | camBuiltin => exact Unmentioned.refl s h.storageList
  | modemDongleSupported => exact Unmentioned.refl s h.storageList
  | modemDongleNotSupported => exact Unmentioned.refl s h.storageList
  | other => exact Unmentioned.refl s h.storageList

end StorageDeviceHandler

/-! ### A removal -/

/-- The leave that the device's flags ask for. -/
def StorageDevice.leave (d : StorageDevice) : List EventType :=
  if d.isDevAddEventNotified = false then [.removeBeforeMount]
  else if d.hasUnsupportedFs then [.removeUnsupportedFs, .remove]
  else [.remove]

theorem StorageDevice.leave_eq_goodbye {d : StorageDevice} {opening : List EventType}
    (hnotified : d.isDevAddEventNotified = decide (.add ∈ opening))
    (hunsupported : d.hasUnsupportedFs = decide (.unsupportedFsFormatNeeded ∈ opening)) :
    d.leave = goodbye opening := by
  unfold leave goodbye
  rw [hnotified, hunsupported]
  simp only [decide_eq_false_iff_not, decide_eq_true_eq]

/-- **The device that goes is opened by its last checks at most, and then taken leave of.** -/
theorem StorageDeviceHandler.dropStorageDevice_notices (env : Env) (s : Sys)
    (h : StorageDeviceHandler) (d : StorageDevice) :
    ∃ bs t e, Speaks bs s d t e ∧ (dropStorageDevice env s h d).state.notices =
      s.notices ++ (bs ++ e.leave).map (·, d.address) := by
  have hjoin := joinThreads_opens env d.fsckThreadArray s d
  have hdelete : Opens (joinThreads env s d d.fsckThreadArray).state
      (joinThreads env s d d.fsckThreadArray).obj
      (deletePartitionData env (joinThreads env s d d.fsckThreadArray).state
        (joinThreads env s d d.fsckThreadArray).obj).state
      (deletePartitionData env (joinThreads env s d d.fsckThreadArray).state
        (joinThreads env s d d.fsckThreadArray).obj).obj :=
    Opens.silent (deletePartitionData_view env _ _ notice_unseen) rfl rfl rfl
  have hroot : ∀ (t : Sys) (e : StorageDevice),
      Opens t e (removeRootDir t e).state (removeRootDir t e).obj := by
    intro t e
    unfold removeRootDir
    split
    · exact Opens.silent (t.removeDirRecursive_notices _) rfl rfl rfl
    · exact Opens.refl t e
  obtain ⟨bs, hbs⟩ := (hjoin.trans hdelete).trans (hroot _ _)
  refine ⟨bs, _, _, hbs, ?_⟩
  unfold dropStorageDevice removeDevice onDeviceRemove
  dsimp only
  generalize removeRootDir _ _ = r at hbs
  have hcb : ∀ (t : Sys) (event : EventType), event ≠ .mount ∧ event ≠ .umount →
      (handlerCb t event (some r.obj.address)).notices =
        t.notices ++ [(event, d.address)] := by
    intro t event hevent
    rw [handlerCb_notices hevent, hbs.address]
    rfl
  have hnotify : ∀ t : Sys, (t.notify .storageDevice .remove (some r.obj.address)).notices =
      t.notices ++ [(.remove, d.address)] := by
    intro t
    rw [Sys.notify_notices, hbs.address]
    rfl
  unfold checkRemovalNotifications leave
  cases hnotified : r.obj.isDevAddEventNotified with
  | false =>
    simp only [if_true, Bool.false_eq_true, if_false]
    rw [hcb _ _ (by decide), hbs.notices, List.map_append, List.append_assoc]
    rfl
  | true =>
    simp only [if_true, Bool.true_eq_false, if_false]
    rw [hnotify]
    cases hunsupported : r.obj.hasUnsupportedFs with
    | false =>
      simp only [Bool.false_eq_true, if_false]
      rw [hbs.notices, List.map_append, List.append_assoc]
      rfl
    | true =>
      simp only [if_true]
      rw [hcb _ _ (by decide), hbs.notices, List.map_append, List.append_assoc, List.append_assoc]
      rfl

/-! ### An event that is handed to nobody -/

namespace StorageDeviceHandler

variable (cfg : Config) (env : Env) (s : Sys) (h : StorageDeviceHandler) (devClass : DeviceClass)

theorem checkStorageDevice_unnoticed (htakes : takes devClass = true)
    (htarget : target cfg s.next h devClass = .nobody) :
    (checkStorageDevice cfg env s h devClass).state.notices = s.notices := by
  rcases checkStorageDevice_cases cfg env s h devClass htakes with
    ⟨d, -, hlisted, -⟩ | ⟨reader, hnew, heq⟩ | ⟨-, heq⟩
  · rw [htarget] at hlisted
    cases hlisted
  · rw [htarget] at hnew
    unfold newTarget at hnew
    split at hnew
    · next hfull =>
      rw [heq]
      unfold createStorageDevice
      rw [if_pos hfull]
      exact s.record_unseen rfl
    · cases hnew
  · rw [heq]

theorem HandlerEvent_unnoticed (htarget : target cfg s.next h devClass = .nobody)
    (hstays : devClass.action = "remove" → removedDevice h devClass = none) :
    (HandlerEvent cfg env s h devClass).state.notices = s.notices := by
  rcases HandlerEvent_cases cfg env s h devClass with
    ⟨hremove, heq⟩ | ⟨htakes, hstate, -⟩ | ⟨-, -, hstate, -⟩
  · rw [heq]
    unfold deleteStorageDevice
    rw [hstays hremove]
  · rw [hstate]
    exact checkStorageDevice_unnoticed cfg env s h devClass htakes htarget
  · rw [hstate]

end StorageDeviceHandler

/-! ### One step -/

namespace StorageSystem

variable (cfg : Config) (env : Env) (w : StorageSystem)

/-- What a step tells, and of whom. -/
inductive Notes (w t : StorageSystem) : Prop
  /-- Nothing of a device. -/
  | unmentioned (h : Unmentioned w.clear.sys w.storage.storageList t.sys t.storage.storageList)
  /-- What opens a device of the list. -/
  | opened (d e : StorageDevice) (bs : List EventType) (hd : d ∈ w.storage.storageList)
      (h : Speaks bs w.clear.sys d t.sys e)
      (hl : t.storage.storageList = writeBack w.storage.storageList e)
  /-- What opens a device that joins the list. -/
  | created (d e : StorageDevice) (bs : List EventType) (haddress : d.address = w.sys.next)
      (hflags : d.isDevAddEventNotified = false ∧ d.hasUnsupportedFs = false)
      (h : Speaks bs w.clear.sys d t.sys e)
      (hl : t.storage.storageList = w.storage.storageList ++ [e])
  /-- The leave that is taken of a device. -/
  | gone (d e : StorageDevice) (u : Sys) (bs : List EventType) (hd : d ∈ w.storage.storageList)
      (h : Speaks bs w.clear.sys d u e)
      (hnotices : t.sys.notices = (bs ++ e.leave).map (·, d.address))
      (hl : t.storage.storageList = removePointer w.storage.storageList d)

theorem newDevice_flags (address : Nat) (devClass : DeviceClass) (reader : Option StorageDevice) :
    (newDevice cfg address devClass reader).isDevAddEventNotified = false ∧
      (newDevice cfg address devClass reader).hasUnsupportedFs = false := by
  cases reader <;> exact ⟨rfl, rfl⟩

theorem event_notes (devClass : DeviceClass) :
    Notes w (w.step cfg (env, .uevent devClass)) := by
  by_cases hgoes : devClass.action = "remove" ∧ ∃ d, removedDevice w.storage devClass = some d
  · obtain ⟨hremove, d, hfound⟩ := hgoes
    have hstate : (w.step cfg (env, .uevent devClass)) =
        ⟨(dropStorageDevice env w.clear.sys w.storage d).state,
          (dropStorageDevice env w.clear.sys w.storage d).obj⟩ := by
      change StorageSystem.after (HandlerEvent cfg env w.clear.sys w.storage devClass) = _
      unfold HandlerEvent deleteStorageDevice
      rw [if_pos hremove, hfound]
      rfl
    obtain ⟨bs, u, e, hspeaks, hnotices⟩ :=
      dropStorageDevice_notices env w.clear.sys w.storage d
    rw [hstate]
    exact .gone d e u bs (removedDevice_mem hfound) hspeaks hnotices
      (dropStorageDevice_list env w.clear.sys w.storage d)
  · have hstays : devClass.action = "remove" → removedDevice w.storage devClass = none := by
      intro hremove
      cases hfound : removedDevice w.storage devClass with
      | none => rfl
      | some d => exact absurd ⟨hremove, d, hfound⟩ hgoes
    change Notes w (StorageSystem.after (HandlerEvent cfg env w.clear.sys w.storage devClass))
    have ho := HandlerEvent_outcome cfg env w.clear.sys w.storage devClass
    cases ho with
    | ignored htarget _ hl =>
      have hnotices := HandlerEvent_unnoticed cfg env w.clear.sys w.storage devClass htarget hstays
      refine .unmentioned ?_
      change Unmentioned _ _ _ (HandlerEvent cfg env w.clear.sys w.storage devClass).obj.storageList
      rw [hl]
      exact Unmentioned.of_notices hnotices _
    | handed d _ hmem ht hl =>
      obtain ⟨bs, hbs⟩ := setDeviceInfo_opens env w.clear.sys d devClass
      rw [← ht] at hbs
      exact .opened d _ bs hmem hbs hl
    | created reader _ ht hl =>
      obtain ⟨bs, hbs⟩ := setDeviceInfo_opens env w.clear.sys.alloc
        (newDevice cfg w.clear.sys.next devClass reader) devClass
      rw [← ht] at hbs
      exact .created _ _ bs (newDevice_address ..) (newDevice_flags ..)
        ⟨hbs.notices, hbs.address, hbs.notified, hbs.unsupported, hbs.opening⟩ hl
    | dropped d hremove hfound _ _ => exact absurd ⟨hremove, d, hfound⟩ hgoes

theorem thread_notes (device partition : Nat) :
    Notes w (w.step cfg (env, .fsckThread device partition)) := by
  change Notes w (StorageSystem.after (runFsckThread env w.clear.sys w.storage device partition))
  unfold runFsckThread deviceTask
  cases hd : w.storage.storageList.find? (·.address = device) with
  | none => exact .unmentioned (Unmentioned.refl _ _)
  | some d =>
    have hmem := List.mem_of_find?_eq_some hd
    dsimp only
    split
    · obtain ⟨bs, hbs⟩ := fsckOnDeviceAddThread_opens env w.clear.sys
        { d with fsckThreadArray := d.fsckThreadArray.erase partition } partition
      exact .opened d _ bs hmem
        ⟨hbs.notices, hbs.address, hbs.notified, hbs.unsupported, hbs.opening⟩ rfl
    · exact .unmentioned (Unmentioned.write (FormatsOnly.silent rfl rfl rfl rfl) hmem)

theorem timeout_notes (device : Nat) : Notes w (w.step cfg (env, .timeout device)) := by
  refine .unmentioned ?_
  change Unmentioned _ _ (runTimeout w.clear.sys w.storage device).state
    (runTimeout w.clear.sys w.storage device).obj.storageList
  unfold runTimeout deviceTask
  cases hd : w.storage.storageList.find? (·.address = device) with
  | none => exact Unmentioned.refl _ _
  | some d =>
    refine Unmentioned.write (d := d) ?_ (List.mem_of_find?_eq_some hd)
    dsimp only
    split
    · exact FormatsOnly.silent (handlerCb_unnoticed _ _) rfl rfl rfl
    · exact FormatsOnly.silent rfl rfl rfl rfl

/-- **What one step can tell.** -/
theorem step_notes (i : Env × StorageInput) : Notes w (w.step cfg i) := by
  obtain ⟨env, input⟩ := i
  cases input with
  | uevent devClass => exact event_notes cfg env w devClass
  | command cmdtypes => exact .unmentioned (w.storage.HandlerCommand_unmentioned env w.clear.sys cmdtypes)
  | pluginEvent eventType =>
    exact .unmentioned (w.storage.HandlePluginEvent_unmentioned env w.clear.sys eventType)
  | fsckThread device partition => exact thread_notes cfg env w device partition
  | timeout device => exact timeout_notes cfg env w device

/-! ### Addresses -/

theorem setDeviceInfo_parts (s : Sys) (d : StorageDevice) (devClass : DeviceClass) {a : Nat}
    (ha : a ∈ (setDeviceInfo env s d devClass).obj.addresses) : a ∈ d.addresses ∨ s.next ≤ a := by
  unfold addresses at ha ⊢
  rcases setDeviceInfo_cases env s d devClass with
    ⟨d₀, s₀, hd₀, hs₀, hr⟩ | ⟨-, hr⟩ | ⟨-, -, -, t, -, hr⟩
  · rw [hr.parts] at ha
    have hlist := (receiver_list env d devClass hd₀).1
    rcases setPartitionInfo_cases env s₀ d₀ devClass with ⟨-, hsame⟩ | ⟨-, -, hidents⟩
    · rw [hsame, hlist] at ha
      exact Or.inl ha
    · have hadded : a ∈ (setPartitionInfo env s₀ d₀ devClass).obj.addresses := ha
      rw [addresses_eq_idents, hidents, ← addresses_eq_idents, addPartition_addresses,
        List.mem_append, List.mem_singleton, hs₀.next] at hadded
      refine hadded.imp (fun hold => ?_) fun hnew => Nat.le_of_eq hnew.symm
      unfold addresses at hold
      rwa [hlist] at hold
  · rw [hr.parts] at ha
    exact Or.inl ha
  · rw [hr.parts] at ha
    cases ha

/-- A step gives new devices and new partitions new addresses, and no two of them the same. -/
structure Fresh (w t : StorageSystem) : Prop where
  devices : ∀ e ∈ t.storage.storageList,
    (∃ d ∈ w.storage.storageList, d.address = e.address) ∨ e.address = w.sys.next
  parts : ∀ e ∈ t.storage.storageList, ∀ a ∈ e.addresses,
    (∃ d ∈ w.storage.storageList, a ∈ d.addresses) ∨
      (w.sys.next ≤ a ∧ ∀ x ∈ t.storage.storageList, x.address ≠ a)

theorem Fresh.of_old {w t : StorageSystem} (h : ∀ e ∈ t.storage.storageList,
    ∃ d ∈ w.storage.storageList, d.address = e.address ∧ e.addresses = d.addresses) :
    Fresh w t := by
  refine ⟨fun e he => ?_, fun e he a ha => ?_⟩
  · obtain ⟨d, hd, haddress, -⟩ := h e he
    exact Or.inl ⟨d, hd, haddress⟩
  · obtain ⟨d, hd, -, hparts⟩ := h e he
    exact Or.inl ⟨d, hd, hparts ▸ ha⟩

/-- A device is told of an event. -/
theorem Fresh.handed (hw : w.Valid) {env : Env} {s t : Sys} {l : List StorageDevice}
    {d : StorageDevice} {devClass : DeviceClass} (hmem : d ∈ w.storage.storageList)
    (hnext : s.next = w.sys.next)
    (hl : l = writeBack w.storage.storageList (setDeviceInfo env s d devClass).obj) :
    Fresh w ⟨t, { w.storage with storageList := l }⟩ := by
  subst hl
  have haddress := setDeviceInfo_address env s d devClass
  have hold : ∀ x ∈ writeBack w.storage.storageList (setDeviceInfo env s d devClass).obj,
      ∃ y ∈ w.storage.storageList, y.address = x.address := by
    intro x hx
    rcases WellFormed.mem_writeBack hx with rfl | ⟨hx, -⟩
    · exact ⟨d, hmem, haddress.symm⟩
    · exact ⟨x, hx, rfl⟩
  refine ⟨fun e he => Or.inl (hold e he), fun e he a ha => ?_⟩
  rcases WellFormed.mem_writeBack he with rfl | ⟨he, -⟩
  · refine (setDeviceInfo_parts env s d devClass ha).imp (fun hpart => ⟨d, hmem, hpart⟩)
      fun hnew => ⟨hnext ▸ hnew, fun x hx heq => ?_⟩
    obtain ⟨y, hy, hyx⟩ := hold x hx
    have hlt := hw.given y hy
    omega
  · exact Or.inl ⟨e, he, ha⟩

/-- A device is made and told of an event. -/
theorem Fresh.created (hw : w.Valid) {env : Env} {t : Sys} {l : List StorageDevice}
    {reader : Option StorageDevice} {devClass : DeviceClass}
    (hl : l = w.storage.storageList ++ [(setDeviceInfo env w.clear.sys.alloc
      (newDevice cfg w.clear.sys.next devClass reader) devClass).obj]) :
    Fresh w ⟨t, { w.storage with storageList := l }⟩ := by
  have haddress := setDeviceInfo_address env w.clear.sys.alloc
    (newDevice cfg w.clear.sys.next devClass reader) devClass
  rw [newDevice_address] at haddress
  have hnext : w.clear.sys.next = w.sys.next := rfl
  have hold : ∀ x ∈ l,
      (∃ y ∈ w.storage.storageList, y.address = x.address) ∨ x.address = w.sys.next := by
    intro x hx
    rw [hl] at hx
    rcases List.mem_append.mp hx with hx | hx
    · exact Or.inl ⟨x, hx, rfl⟩
    · rw [List.mem_singleton.mp hx]
      exact Or.inr haddress
  refine ⟨hold, fun e he a ha => ?_⟩
  have hlisted : e ∈ l := he
  rw [hl] at hlisted
  rcases List.mem_append.mp hlisted with hlisted | hlisted
  · exact Or.inl ⟨e, hlisted, ha⟩
  · rw [List.mem_singleton.mp hlisted] at ha
    rcases setDeviceInfo_parts env w.clear.sys.alloc _ devClass ha with hpart | hnew
    · simp [addresses] at hpart
    · rw [Sys.alloc_next] at hnew
      refine Or.inr ⟨by omega, fun x hx heq => ?_⟩
      rcases hold x hx with ⟨y, hy, hyx⟩ | hx
      · have hlt := hw.given y hy
        omega
      · omega

theorem step_fresh (hw : w.Valid) (i : Env × StorageInput) : Fresh w (w.step cfg i) := by
  obtain ⟨env, input⟩ := i
  by_cases hevent : ∃ devClass, input = .uevent devClass
  · obtain ⟨devClass, rfl⟩ := hevent
    have ho := HandlerEvent_outcome cfg env w.clear.sys w.storage devClass
    change Fresh w (StorageSystem.after (HandlerEvent cfg env w.clear.sys w.storage devClass))
    cases ho with
    | ignored _ _ hl =>
      refine .of_old fun e he => ⟨e, ?_, rfl, rfl⟩
      rw [← hl]
      exact he
    | handed d _ hmem ht hl =>
      have hnext : w.clear.sys.next = w.sys.next := rfl
      exact Fresh.handed w hw hmem hnext hl
    | created reader _ ht hl => exact Fresh.created cfg w hw hl
    | dropped d _ _ _ hl =>
      refine .of_old fun e he => ⟨e, ?_, rfl, rfl⟩
      have hlisted : e ∈ (HandlerEvent cfg env w.clear.sys w.storage devClass).obj.storageList := he
      rw [hl] at hlisted
      exact (List.mem_filter.mp hlisted).1
  · have hwithin := w.clear.deliver_within cfg env fun devClass hd => hevent ⟨devClass, hd⟩
    refine .of_old fun e he => ?_
    obtain ⟨d, hd, hcore, haddresses, -⟩ := hwithin.each e he
    exact ⟨d, hd, (address_of_core hcore).symm, haddresses⟩

end StorageSystem

/-! ### Runs -/

/-- A device that was opened with these notices, and nothing else, remembers them. -/
structure StorageDevice.Opened (bs : List EventType) (d : StorageDevice) : Prop where
  notified : d.isDevAddEventNotified = decide (.add ∈ bs)
  unsupported : d.hasUnsupportedFs = decide (.unsupportedFsFormatNeeded ∈ bs)
  opening : Opening bs

theorem StorageDevice.Opened.speaks {bs cs : List EventType} {s t : Sys} {d e : StorageDevice}
    (h : Opened bs d) (hs : Speaks cs s d t e) : Opened (bs ++ cs) e := by
  refine ⟨?_, ?_, h.opening.append hs.opening⟩
  · rw [hs.notified, h.notified]
    simp
  · rw [hs.unsupported, h.unsupported]
    simp

namespace Told

variable (cfg : Config) {T : Told}

/-- A device was opened and taken leave of. -/
def Left (bs : List EventType) : Prop := ∃ opening, Opening opening ∧ bs = opening ++ goodbye opening

/-- The log says of each address what has become of the device there. -/
structure Kept (T : Told) : Prop where
  valid : T.system.Valid
  given : ∀ a ∈ T.known, a < T.system.sys.next
  told : ∀ n ∈ T.log, n.2 < T.system.sys.next
  parts : ∀ d ∈ T.system.storage.storageList, ∀ a ∈ d.addresses, a ∉ T.known
  known : ∀ d ∈ T.system.storage.storageList, d.address ∈ T.known
  opened : ∀ d ∈ T.system.storage.storageList, Opened (T.about d.address) d
  left : ∀ a ∈ T.known, a ∉ T.system.storage.storageList.map (·.address) → Left (T.about a)
  unknown : ∀ a, a ∉ T.known → ∀ b ∈ T.about a, b ∈ EventType.formats

theorem init_kept : Kept {} :=
  ⟨StorageSystem.init_valid, fun a ha => (by cases ha), fun n hn => (by cases hn),
    fun d hd => (by cases hd), fun d hd => (by cases hd), fun d hd => (by cases hd),
    fun a ha => (by cases ha), fun a ha b hb => (by cases hb)⟩

theorem about_step (i : Env × StorageInput) (a : Nat) : (T.step cfg i).about a =
    T.about a ++ Logs.about a (T.system.step cfg i).sys.notices :=
  Logs.about_append a _ _

/-- What a step tells of the device that it is about, and of the others. -/
theorem about_of_notices {i : Env × StorageInput} {bs : List EventType} {b : Nat}
    (h : (T.system.step cfg i).sys.notices = bs.map (·, b)) (a : Nat) :
    (T.step cfg i).about a = if a = b then T.about a ++ bs else T.about a := by
  rw [about_step, h]
  by_cases hab : a = b
  · rw [if_pos hab, hab, Logs.about_self]
  · rw [if_neg hab, Logs.about_other hab, List.append_nil]

theorem mem_known_step {i : Env × StorageInput} {a : Nat} : a ∈ (T.step cfg i).known ↔
    a ∈ T.known ∨ a ∈ (T.system.step cfg i).storage.storageList.map (·.address) :=
  List.mem_append

/-- What is kept whatever a step tells. -/
theorem Kept.of_step (h : T.Kept) {i : Env × StorageInput}
    (htold : ∀ n ∈ (T.system.step cfg i).sys.notices, n.2 < (T.system.step cfg i).sys.next)
    (hopened : ∀ d ∈ (T.system.step cfg i).storage.storageList,
      Opened ((T.step cfg i).about d.address) d)
    (hleft : ∀ a ∈ T.known, a ∉ (T.system.step cfg i).storage.storageList.map (·.address) →
      Left ((T.step cfg i).about a))
    (hunknown : ∀ a, a ∉ (T.step cfg i).known →
      ∀ b ∈ (T.step cfg i).about a, b ∈ EventType.formats) :
    (T.step cfg i).Kept := by
  have hvalid : (T.system.step cfg i).Valid := StorageSystem.step_valid h.valid i
  have hnext : T.system.sys.next ≤ (T.system.step cfg i).sys.next :=
    T.system.clear.deliver_next cfg i.1 i.2
  have hfresh := T.system.step_fresh cfg h.valid i
  refine ⟨hvalid, fun a ha => ?_, fun n hn => ?_, fun d hd a ha hk => ?_, fun d hd => ?_, hopened,
    fun a ha hgone => ?_, hunknown⟩
  · rcases (mem_known_step cfg).mp ha with ha | ha
    · exact Nat.lt_of_lt_of_le (h.given a ha) hnext
    · obtain ⟨d, hd, rfl⟩ := List.mem_map.mp ha
      exact hvalid.given d hd
  · rcases List.mem_append.mp hn with hn | hn
    · exact Nat.lt_of_lt_of_le (h.told n hn) hnext
    · exact htold n hn
  · rcases hfresh.parts d hd a ha with ⟨e, he, hold⟩ | ⟨hnew, hapart⟩
    · rcases (mem_known_step cfg).mp hk with hk | hk
      · exact h.parts e he a hold hk
      · obtain ⟨x, hx, rfl⟩ := List.mem_map.mp hk
        rcases hfresh.devices x hx with ⟨y, hy, hyx⟩ | hx
        · exact h.parts e he _ hold (hyx ▸ h.known y hy)
        · have hlt := (h.valid.parts e he).given _ hold
          omega
    · rcases (mem_known_step cfg).mp hk with hk | hk
      · have hlt := h.given a hk
        omega
      · obtain ⟨x, hx, heq⟩ := List.mem_map.mp hk
        exact hapart x hx heq
  · exact (mem_known_step cfg).mpr (Or.inr (List.mem_map_of_mem hd))
  · rcases (mem_known_step cfg).mp ha with ha | ha
    · exact hleft a ha hgone
    · exact absurd ha hgone

theorem Kept.unmentioned (h : T.Kept) {i : Env × StorageInput}
    (hs : Unmentioned T.system.clear.sys T.system.storage.storageList (T.system.step cfg i).sys
      (T.system.step cfg i).storage.storageList) : (T.step cfg i).Kept := by
  obtain ⟨ns, hnotices, hns⟩ := hs.notices
  have hnotices : (T.system.step cfg i).sys.notices = ns := hnotices
  have hnext : T.system.sys.next ≤ (T.system.step cfg i).sys.next :=
    T.system.clear.deliver_next cfg i.1 i.2
  have habout : ∀ a ∈ T.known, (T.step cfg i).about a = T.about a := by
    intro a ha
    have hother : Logs.about a ns = [] := by
      refine Logs.about_eq_nil fun n hn heq => ?_
      obtain ⟨-, d, hd, hpart⟩ := hns n hn
      exact h.parts d hd _ hpart (heq ▸ ha)
    rw [about_step, hnotices, hother, List.append_nil]
  refine h.of_step cfg (fun n hn => ?_) (fun e he => ?_) (fun a ha hgone => ?_) fun a ha b hb => ?_
  · rw [hnotices] at hn
    obtain ⟨-, d, hd, hpart⟩ := hns n hn
    exact Nat.lt_of_lt_of_le ((h.valid.parts d hd).given _ hpart) hnext
  · obtain ⟨d, hd, hsame⟩ := hs.each e he
    rw [hsame.address, habout _ (h.known d hd)]
    have hopened := (h.opened d hd).speaks hsame
    rwa [List.append_nil] at hopened
  · rw [habout a ha]
    rw [hs.listed] at hgone
    exact h.left a ha hgone
  · rw [about_step, hnotices, List.mem_append] at hb
    rcases hb with hb | hb
    · exact h.unknown a (fun hk => ha ((mem_known_step cfg).mpr (Or.inl hk))) b hb
    · exact (hns _ (Logs.mem_about.mp hb)).1

/-- What a step tells of one device is told at an address that has been given. -/
theorem told_of_notices {i : Env × StorageInput} {bs : List EventType} {b : Nat}
    (h : (T.system.step cfg i).sys.notices = bs.map (·, b))
    (hb : b < (T.system.step cfg i).sys.next) :
    ∀ n ∈ (T.system.step cfg i).sys.notices, n.2 < (T.system.step cfg i).sys.next := by
  intro n hn
  rw [h] at hn
  obtain ⟨x, -, rfl⟩ := List.mem_map.mp hn
  exact hb

theorem Kept.openedStep (h : T.Kept) {i : Env × StorageInput} {d e : StorageDevice}
    {bs : List EventType} (hd : d ∈ T.system.storage.storageList)
    (hs : Speaks bs T.system.clear.sys d (T.system.step cfg i).sys e)
    (hl : (T.system.step cfg i).storage.storageList =
      writeBack T.system.storage.storageList e) : (T.step cfg i).Kept := by
  have habout (a : Nat) :
      (T.step cfg i).about a = if a = d.address then T.about a ++ bs else T.about a :=
    about_of_notices cfg hs.notices a
  have hnext : T.system.sys.next ≤ (T.system.step cfg i).sys.next :=
    T.system.clear.deliver_next cfg i.1 i.2
  refine h.of_step cfg (told_of_notices cfg hs.notices ?_) (fun x hx => ?_)
    (fun a ha hgone => ?_) fun a ha => ?_
  · exact Nat.lt_of_lt_of_le (h.valid.given d hd) hnext
  · rw [hl] at hx
    rcases (WellFormed.mem_handed hd hs.address).mp hx with rfl | ⟨hx, hne⟩
    · rw [habout, hs.address, if_pos rfl]
      exact (h.opened d hd).speaks hs
    · rw [habout, if_neg hne]
      exact h.opened x hx
  · rw [hl, WellFormed.writeBack_addresses] at hgone
    have hne : a ≠ d.address := fun heq => hgone (heq ▸ List.mem_map_of_mem hd)
    rw [habout, if_neg hne]
    exact h.left a ha hgone
  · have hk : a ∉ T.known := fun hk => ha ((mem_known_step cfg).mpr (Or.inl hk))
    have hne : a ≠ d.address := fun heq => hk (heq ▸ h.known d hd)
    rw [habout, if_neg hne]
    exact h.unknown a hk

theorem Kept.createdStep (h : T.Kept) {i : Env × StorageInput} {d e : StorageDevice}
    {bs : List EventType} (haddress : d.address = T.system.sys.next)
    (hflags : d.isDevAddEventNotified = false ∧ d.hasUnsupportedFs = false)
    (hs : Speaks bs T.system.clear.sys d (T.system.step cfg i).sys e)
    (hl : (T.system.step cfg i).storage.storageList =
      T.system.storage.storageList ++ [e]) : (T.step cfg i).Kept := by
  have habout (a : Nat) :
      (T.step cfg i).about a = if a = d.address then T.about a ++ bs else T.about a :=
    about_of_notices cfg hs.notices a
  have hnew : d.address ∉ T.known := by
    intro hk
    have hlt := h.given _ hk
    omega
  have hjoined : e.address ∈ (T.system.step cfg i).storage.storageList.map (·.address) := by
    rw [hl]
    simp
  have hgiven : d.address < (T.system.step cfg i).sys.next := by
    obtain ⟨x, hx, heq⟩ := List.mem_map.mp hjoined
    have hvalid : (T.system.step cfg i).Valid := StorageSystem.step_valid h.valid i
    have hlt := hvalid.given x hx
    rwa [heq, hs.address] at hlt
  have hblank : T.about d.address = [] := by
    refine Logs.about_eq_nil fun n hn heq => ?_
    have hlt := h.told n hn
    omega
  refine h.of_step cfg (told_of_notices cfg hs.notices hgiven) (fun x hx => ?_)
    (fun a ha hgone => ?_) fun a ha => ?_
  · rw [hl] at hx
    rcases List.mem_append.mp hx with hx | hx
    · have hne : x.address ≠ d.address := fun heq => hnew (heq ▸ h.known x hx)
      rw [habout, if_neg hne]
      exact h.opened x hx
    · rw [List.mem_singleton.mp hx, habout, hs.address, if_pos rfl, hblank]
      have hopened : Opened [] d := ⟨hflags.1, hflags.2, .nil⟩
      exact hopened.speaks hs
  · have hne : a ≠ d.address := fun heq => hnew (heq ▸ ha)
    rw [habout, if_neg hne]
    refine h.left a ha fun hmem => hgone ?_
    rw [hl, List.map_append]
    exact List.mem_append_left _ hmem
  · have hk : a ∉ T.known := fun hk => ha ((mem_known_step cfg).mpr (Or.inl hk))
    have hne : a ≠ d.address := by
      intro heq
      rw [heq, ← hs.address] at ha
      exact ha ((mem_known_step cfg).mpr (Or.inr hjoined))
    rw [habout, if_neg hne]
    exact h.unknown a hk

theorem Kept.goneStep (h : T.Kept) {i : Env × StorageInput} {d e : StorageDevice} {u : Sys}
    {bs : List EventType} (hd : d ∈ T.system.storage.storageList)
    (hs : Speaks bs T.system.clear.sys d u e)
    (hnotices : (T.system.step cfg i).sys.notices = (bs ++ e.leave).map (·, d.address))
    (hl : (T.system.step cfg i).storage.storageList =
      removePointer T.system.storage.storageList d) : (T.step cfg i).Kept := by
  have habout := about_of_notices cfg hnotices
  have hnext : T.system.sys.next ≤ (T.system.step cfg i).sys.next :=
    T.system.clear.deliver_next cfg i.1 i.2
  refine h.of_step cfg (told_of_notices cfg hnotices ?_) (fun x hx => ?_)
    (fun a ha hgone => ?_) fun a ha => ?_
  · exact Nat.lt_of_lt_of_le (h.valid.given d hd) hnext
  · rw [hl] at hx
    obtain ⟨hx, hne⟩ := List.mem_filter.mp hx
    have hne : x.address ≠ d.address := of_decide_eq_true hne
    rw [habout, if_neg hne]
    exact h.opened x hx
  · rw [habout]
    by_cases hda : a = d.address
    · rw [if_pos hda, hda]
      have hopened := (h.opened d hd).speaks hs
      refine ⟨T.about d.address ++ bs, hopened.opening, ?_⟩
      rw [← leave_eq_goodbye hopened.notified hopened.unsupported, List.append_assoc]
    · rw [if_neg hda]
      refine h.left a ha fun hmem => hgone ?_
      obtain ⟨x, hx, rfl⟩ := List.mem_map.mp hmem
      rw [hl]
      exact List.mem_map_of_mem (List.mem_filter.mpr ⟨hx, decide_eq_true hda⟩)
  · have hk : a ∉ T.known := fun hk => ha ((mem_known_step cfg).mpr (Or.inl hk))
    have hne : a ≠ d.address := fun heq => hk (heq ▸ h.known d hd)
    rw [habout, if_neg hne]
    exact h.unknown a hk

theorem step_kept (h : T.Kept) (i : Env × StorageInput) : (T.step cfg i).Kept := by
  cases T.system.step_notes cfg i with
  | unmentioned hs => exact h.unmentioned cfg hs
  | opened d e bs hd hs hl => exact h.openedStep cfg hd hs hl
  | created d e bs haddress hflags hs hl => exact h.createdStep cfg haddress hflags hs hl
  | gone d e u bs hd hs hnotices hl => exact h.goneStep cfg hd hs hnotices hl

/-- **A device is opened, then taken leave of once, and not mentioned again.**  In every run,
what was told of a device that is listed only opens it, of one that has gone it opens it and
then takes leave of it, and of an address that no device was listed at only that it was
formatted. -/
theorem farewell_once (inputs : List (Env × StorageInput)) (a : Nat) :
    let T := Runs.run (step cfg) {} inputs
    (a ∈ T.system.storage.storageList.map (·.address) → Opening (T.about a)) ∧
    (a ∈ T.known → a ∉ T.system.storage.storageList.map (·.address) → Left (T.about a)) ∧
    (a ∉ T.known → ∀ b ∈ T.about a, b ∈ EventType.formats) := by
  have hkept : (Runs.run (step cfg) {} inputs).Kept :=
    Runs.run_invariant (I := Kept) (fun T i h => step_kept cfg h i) init_kept
  refine ⟨fun hlisted => ?_, hkept.left a, hkept.unknown a⟩
  obtain ⟨d, hd, rfl⟩ := List.mem_map.mp hlisted
  exact (hkept.opened d hd).opening

/-- A stick without a file system is announced with the request to format it; the request is
withdrawn when the stick goes. -/
example :
    let inputs : List (Env × StorageInput) :=
      [({}, .uevent (StorageSystem.stickEvent "/devices/usb1/1-1")),
        (StorageSystem.onePartition,
          .uevent (StorageSystem.diskEvent "/devices/usb1/1-1/block/sda" "sda")),
        ({}, .uevent { StorageSystem.partitionEvent "/devices/usb1/1-1/block/sda/sda1" "sda1" with
          fsType := "hfs" }),
        ({}, .uevent { StorageSystem.stickEvent "/devices/usb1/1-1" with action := "remove" })]
    (Runs.run (step .tmpUsb) {} inputs).about 0 =
      [.add, .unsupportedFsFormatNeeded, .removeUnsupportedFs, .remove] := by decide

end Told

end Pdm
