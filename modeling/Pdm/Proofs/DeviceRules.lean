/-
Properties of single devices, along runs of the storage handler.

A step of the handler runs methods on some of its devices, adds a device or drops one.  So
a property of single devices is settled by the methods: `DeviceRules` gives, for each method
that may break the property, the condition on the device before it and on the system's
answers under which the method keeps it.  **Along every run all devices have the property
exactly when every step meets the conditions of the methods it runs** (`run_iff`).
-/
import Pdm.Lib.Runs
import Pdm.Proofs.WellFormed

namespace Pdm

open Visit (visit)
open StorageDeviceHandler

/-- A property of a device, and when each method keeps it. -/
structure DeviceRules (J : StorageDevice → Prop) where
  event : Env → StorageDevice → DeviceClass → Prop
  thread : Env → StorageDevice → Nat → Prop
  format : Env → Sys → StorageDevice → String → String → String → Prop
  fsck : Env → Sys → StorageDevice → String → Prop
  umountAll : Env → StorageDevice → Prop
  enforce : Env → StorageDevice → Bool → Prop
  resume : Env → StorageDevice → Prop
  new_keeps : ∀ cfg address devClass reader, J (newDevice cfg address devClass reader)
  event_iff : ∀ {env s d devClass}, J d → d.addresses.Nodup →
    (J (d.setDeviceInfo env s devClass).obj ↔ event env d devClass)
  thread_iff : ∀ {env s d partition}, J d → d.addresses.Nodup → ∀ ts,
    (J (StorageDevice.fsckOnDeviceAddThread env s { d with fsckThreadArray := ts } partition).obj ↔
      thread env d partition)
  timeout_keeps : ∀ {s d}, J d → J (StorageDevice.notifyStorageConnecting s d).obj
  format_iff : ∀ {env s d driveName fsType volumeLabel}, J d → d.addresses.Nodup →
    (J (d.formatDiskStart env s driveName fsType volumeLabel).obj ↔
      format env s d driveName fsType volumeLabel)
  fsck_iff : ∀ {env s d driveName}, J d → d.addresses.Nodup →
    (J (d.fsck env s driveName).obj ↔ fsck env s d driveName)
  eject_iff : ∀ {env s d}, J d → (J (d.eject env s).obj ↔ umountAll env d)
  umountAll_iff : ∀ {env s d}, J d → (J (d.umountAllPartition env s false).obj ↔ umountAll env d)
  enforce_iff : ∀ {env s d needFsck}, J d →
    (J (d.enforceFsckAndMount env s needFsck).obj ↔ enforce env d needFsck)
  label_keeps : ∀ {env s d driveName volumeLabel}, J d → d.addresses.Nodup →
    J (d.setPartitionVolumeLabel env s driveName volumeLabel).obj
  measure_keeps : ∀ {env d driveName directCheck}, J d → d.addresses.Nodup →
    J (d.getSpaceInfo env driveName directCheck).1
  suspend_keeps : ∀ {d}, J d → J d.suspendRequest
  resume_iff : ∀ {env s d}, J d → (J (d.resumeRequest env s).obj ↔ resume env d)

namespace DeviceRules

variable {J : StorageDevice → Prop} (R : DeviceRules J)

/-- The condition on a command. -/
def Command (env : Env) (s : Sys) (h : StorageDeviceHandler) : CommandType → Prop
  | .format driveName fsType volumeLabel =>
    ∀ d ∈ getDeviceWithName h.storageList driveName, R.format env s d driveName fsType volumeLabel
  | .eject deviceNumber => ∀ d ∈ getDeviceWithNum h.storageList deviceNumber, R.umountAll env d
  | .fsck driveName =>
    ∀ d ∈ getDeviceWithName h.storageList (removeBlanks driveName),
      R.fsck env s d (removeBlanks driveName)
  | .mountFsck needFsck mountName =>
    ∀ d ∈ getDeviceWithName h.storageList mountName, R.enforce env d needFsck
  | .umountAllDrive => ∀ d ∈ h.storageList, R.umountAll env d
  | _ => True

/-- The condition on a step. -/
def Condition (cfg : Config) (w : StorageSystem) (i : Env × StorageInput) : Prop :=
  match i.2 with
  | .uevent devClass =>
    ∀ d ∈ (target cfg w.sys.next w.storage devClass).told, R.event i.1 d devClass
  | .command cmdtypes => R.Command i.1 w.clear.sys w.storage cmdtypes
  | .pluginEvent .powerProcessPrepareResume => ∀ d ∈ w.storage.storageList, R.resume i.1 d
  | .pluginEvent _ => True
  | .fsckThread device partition =>
    ∀ d ∈ w.storage.storageList, d.address = device → partition ∈ d.fsckThreadArray →
      R.thread i.1 d partition
  | .timeout _ => True

/-- All devices have the property. -/
def All (J : StorageDevice → Prop) (w : StorageSystem) : Prop := ∀ d ∈ w.storage.storageList, J d

/-! ### Lists -/

/-- One device is written back. -/
theorem all_writeBack_iff {l : List StorageDevice} (hall : ∀ d ∈ l, J d)
    {d e : StorageDevice} (hd : d ∈ l) (he : e.address = d.address) :
    (∀ x ∈ writeBack l e, J x) ↔ J e := by
  constructor
  · intro h
    exact h e (List.mem_map.mpr ⟨d, hd, if_pos he.symm⟩)
  · intro h x hx
    rcases WellFormed.mem_writeBack hx with rfl | ⟨hx, -⟩
    · exact h
    · exact hall x hx

/-- Every device is visited. -/
theorem all_visit_iff {ρ : Type} {f : Sys → StorageDevice → Visit.Out Sys StorageDevice ρ}
    {P : StorageDevice → Prop} {l : List StorageDevice} (hf : ∀ s, ∀ d ∈ l, (J (f s d).obj ↔ P d)) :
    ∀ s : Sys, (∀ x ∈ (visit f s l).obj, J x) ↔ ∀ d ∈ l, P d := by
  induction l with
  | nil => intro s; exact iff_of_true (by simp) (by simp)
  | cons d rest ih =>
    intro s
    have hrest := ih (fun s e he => hf s e (List.mem_cons_of_mem d he)) (f s d).state
    rw [Visit.visit_cons]
    simp only [List.forall_mem_cons]
    exact and_congr (hf s d List.mem_cons_self) hrest

/-! ### Commands -/

section Steps

variable {cfg : Config} {env : Env} {s : Sys} {h : StorageDeviceHandler}
  (hall : ∀ d ∈ h.storageList, J d)

include hall

/-- A command runs a method on the device it finds. -/
theorem onDevice_iff {found : Option StorageDevice} (hfound : ∀ d ∈ found, d ∈ h.storageList)
    {method : Sys → StorageDevice → Visit.Out Sys StorageDevice PdmDevStatus}
    {notFound : PdmDevStatus} {P : StorageDevice → Prop}
    (haddress : ∀ d, (method s d).obj.address = d.address)
    (hmethod : ∀ d ∈ h.storageList, (J (method s d).obj ↔ P d)) :
    (∀ x ∈ (onDevice s h found method notFound).obj.storageList, J x) ↔ ∀ d ∈ found, P d := by
  unfold onDevice
  cases found with
  | none => exact iff_of_true hall fun d hd => absurd hd (by simp)
  | some d =>
    have hd := hfound d rfl
    refine (all_writeBack_iff hall hd (haddress d)).trans ((hmethod d hd).trans ?_)
    exact ⟨fun hP e he => Option.some.inj he ▸ hP, fun hP => hP d rfl⟩

/-- One that the method's device keeps the property under. -/
theorem onDevice_keeps {found : Option StorageDevice} (hfound : ∀ d ∈ found, d ∈ h.storageList)
    {method : Sys → StorageDevice → Visit.Out Sys StorageDevice PdmDevStatus}
    {notFound : PdmDevStatus} (haddress : ∀ d, (method s d).obj.address = d.address)
    (hmethod : ∀ d ∈ h.storageList, J (method s d).obj) :
    ∀ x ∈ (onDevice s h found method notFound).obj.storageList, J x :=
  (onDevice_iff (P := fun _ => True) hall hfound haddress
    fun d hd => iff_of_true (hmethod d hd) trivial).mpr fun _ _ => trivial

include R

theorem umountAllDrive_iff :
    (∀ x ∈ (h.umountAllDrive env s).obj.storageList, J x) ↔
      ∀ d ∈ h.storageList, R.umountAll env d := by
  have hvisit := all_visit_iff (J := J) (P := R.umountAll env)
    (f := fun s d => d.umountAllPartition env s false)
    (fun _ d hd => R.umountAll_iff (hall d hd)) s
  unfold umountAllDrive
  split
  · rename_i hempty
    rw [hempty]
    exact iff_of_true (by simp) (by simp)
  · exact hvisit

theorem getSpaceInfo_keeps (hwf : WellFormed s h.storageList) (directCheck : Bool)
    (driveName : String) :
    ∀ x ∈ (h.getSpaceInfo env s directCheck driveName).obj.storageList, J x := by
  unfold StorageDeviceHandler.getSpaceInfo
  cases hd : getDeviceWithName h.storageList driveName with
  | none => exact hall
  | some d =>
    have hmem := mem_of_name h d hd
    have haddress := StorageDevice.address_of_core
      (StorageDevice.getSpaceInfo_within env s d driveName directCheck).core
    have hkeep := (all_writeBack_iff hall hmem haddress).mpr
      (R.measure_keeps (hall d hmem) (hwf.parts d hmem).nodup)
    dsimp only
    split
    · exact hkeep
    · exact hkeep

theorem HandlerCommand_iff (hwf : WellFormed s h.storageList) (cmdtypes : CommandType) :
    (∀ x ∈ (h.HandlerCommand env s cmdtypes).obj.storageList, J x) ↔
      R.Command env s h cmdtypes := by
  cases cmdtypes with
  | format driveName fsType volumeLabel =>
    refine onDevice_iff hall (fun d hd => mem_of_name h d hd) (fun d => StorageDevice.address_of_core
      (StorageDevice.formatDiskStart_within env s d driveName fsType volumeLabel).core) ?_
    intro d hd
    exact R.format_iff (hall d hd) (hwf.parts d hd).nodup
  | fsck driveName =>
    refine onDevice_iff hall (fun d hd => mem_of_name h d hd) (fun d => StorageDevice.address_of_core
      (StorageDevice.fsck_within env s d (removeBlanks driveName)).core) ?_
    intro d hd
    exact R.fsck_iff (hall d hd) (hwf.parts d hd).nodup
  | eject deviceNumber =>
    refine onDevice_iff hall (fun d hd => List.mem_of_find?_eq_some hd)
      (fun d => StorageDevice.address_of_core (StorageDevice.eject_within env s d).core) ?_
    intro d hd
    exact R.eject_iff (hall d hd)
  | mountFsck needFsck mountName =>
    refine onDevice_iff hall (fun d hd => mem_of_name h d hd) (fun d => StorageDevice.address_of_core
      (StorageDevice.enforceFsckAndMount_within env s d needFsck).core) ?_
    intro d hd
    exact R.enforce_iff (hall d hd)
  | setVolumeLabel driveName volumeLabel =>
    refine iff_of_true (onDevice_keeps hall (fun d hd => mem_of_name h d hd)
      (fun d => StorageDevice.address_of_core
        (StorageDevice.setPartitionVolumeLabel_within env s d driveName volumeLabel).core) ?_) trivial
    intro d hd
    exact R.label_keeps (hall d hd) (hwf.parts d hd).nodup
  | spaceInfo directCheck driveName =>
    exact iff_of_true (R.getSpaceInfo_keeps hall hwf directCheck driveName) trivial
  | isWritableDrive driveName =>
    refine iff_of_true ?_ trivial
    show ∀ x ∈ (h.isWritableDrive env s driveName).obj.storageList, J x
    unfold isWritableDrive
    split <;> exact hall
  | umountAllDrive => exact R.umountAllDrive_iff hall
  | other => exact iff_of_true hall trivial

/-! ### Events, threads and power -/

theorem HandlerEvent_iff (hwf : WellFormed s h.storageList) (devClass : DeviceClass) :
    (∀ x ∈ (h.HandlerEvent cfg env s devClass).obj.storageList, J x) ↔
      ∀ d ∈ (target cfg s.next h devClass).told, R.event env d devClass := by
  cases HandlerEvent_outcome cfg env s h devClass with
  | ignored htarget hs hl =>
    rw [hl, htarget]
    exact iff_of_true hall fun d hd => absurd hd (by simp [Target.told])
  | handed d htarget hmem ht hl =>
    have haddress := StorageDevice.setDeviceInfo_address env s d devClass
    rw [hl, htarget]
    refine (all_writeBack_iff hall hmem haddress).trans
      ((R.event_iff (hall d hmem) (hwf.parts d hmem).nodup).trans ?_)
    exact ⟨fun hP e he => Option.some.inj he ▸ hP, fun hP => hP d rfl⟩
  | created reader htarget ht hl =>
    have hempty : (newDevice cfg s.next devClass reader).addresses.Nodup := by
      simp [StorageDevice.addresses]
    have hnew : J ((newDevice cfg s.next devClass reader).setDeviceInfo env s.alloc devClass).obj ↔
        R.event env (newDevice cfg s.next devClass reader) devClass :=
      R.event_iff (R.new_keeps cfg s.next devClass reader) hempty
    rw [hl, htarget]
    simp only [List.forall_mem_append, List.forall_mem_singleton]
    refine (and_iff_right hall).trans (hnew.trans ?_)
    exact ⟨fun hP e he => Option.some.inj he ▸ hP, fun hP => hP _ rfl⟩
  | dropped d hremove hfound ht hl =>
    have hnobody : target cfg s.next h devClass = .nobody := by
      have hnot : takes devClass = false := by simp [takes, hremove]
      simp [target, hnot]
    rw [hl, hnobody]
    refine iff_of_true (fun x hx => hall x (List.mem_filter.mp hx).1) fun d hd => ?_
    exact absurd hd (by simp [Target.told])

omit R in
/-- A task of one device. -/
theorem deviceTask_iff (hwf : WellFormed s h.storageList) {address : Nat}
    {task : Sys → StorageDevice → Visit.Out Sys StorageDevice Unit} {P : StorageDevice → Prop}
    (haddress : ∀ d, (task s d).obj.address = d.address)
    (htask : ∀ d ∈ h.storageList, (J (task s d).obj ↔ P d)) :
    (∀ x ∈ (deviceTask s h address task).obj.storageList, J x) ↔
      ∀ d ∈ h.storageList, d.address = address → P d := by
  unfold deviceTask
  cases hfind : h.storageList.find? (·.address = address) with
  | none =>
    refine iff_of_true hall fun d hd hda => ?_
    exact absurd hda (by simpa using List.find?_eq_none.mp hfind d hd)
  | some d =>
    have hd := List.mem_of_find?_eq_some hfind
    have hda : d.address = address := by simpa using List.find?_some hfind
    refine (all_writeBack_iff hall hd (haddress d)).trans ((htask d hd).trans ?_)
    refine ⟨fun hP e he hea => ?_, fun hP => hP d hd hda⟩
    rw [hwf.eq_of_address he hd (hea.trans hda.symm)]
    exact hP

theorem runFsckThread_iff (hwf : WellFormed s h.storageList) (device partition : Nat) :
    (∀ x ∈ (h.runFsckThread env s device partition).obj.storageList, J x) ↔
      ∀ d ∈ h.storageList, d.address = device → partition ∈ d.fsckThreadArray →
        R.thread env d partition := by
  refine deviceTask_iff hall hwf (P := fun d => partition ∈ d.fsckThreadArray →
    R.thread env d partition) (fun d => ?_) fun d hd => ?_
  · split
    · exact StorageDevice.address_of_core (StorageDevice.fsckOnDeviceAddThread_within env s
        { d with fsckThreadArray := d.fsckThreadArray.erase partition } partition).core
    · rfl
  · split
    · rename_i hmem
      exact (R.thread_iff (hall d hd) (hwf.parts d hd).nodup _).trans (imp_iff_right hmem).symm
    · rename_i hmem
      exact iff_of_true (hall d hd) fun h => absurd h hmem

theorem runTimeout_keeps (hwf : WellFormed s h.storageList) (device : Nat) :
    ∀ x ∈ (h.runTimeout s device).obj.storageList, J x := by
  refine (deviceTask_iff hall hwf (P := fun _ => True) (fun d => ?_) fun d hd => ?_).mpr
    fun _ _ _ => trivial
  · split <;> rfl
  · refine iff_of_true ?_ trivial
    split
    · exact R.timeout_keeps (hall d hd)
    · exact hall d hd

end Steps

/-! ### Runs -/

/-- **One step.** -/
theorem step_iff {cfg : Config} {w : StorageSystem} (hvalid : w.Valid) (hall : All J w)
    (i : Env × StorageInput) : All J (w.step cfg i) ↔ R.Condition cfg w i := by
  have hwf : WellFormed w.clear.sys w.storage.storageList := ⟨hvalid.nodup, hvalid.given, hvalid.parts⟩
  obtain ⟨env, input⟩ := i
  cases input with
  | uevent devClass => exact R.HandlerEvent_iff hall hwf devClass
  | command cmdtypes => exact R.HandlerCommand_iff hall hwf cmdtypes
  | pluginEvent eventType =>
    cases eventType with
    | powerProcessPrepareResume =>
      exact all_visit_iff (f := fun s d => d.resumeRequest env s) (P := R.resume env)
        (fun s d hd => R.resume_iff (hall d hd)) w.clear.sys
    | powerProcessRequestSuspend =>
      refine iff_of_true (fun x hx => ?_) trivial
      obtain ⟨d, hd, rfl⟩ := List.mem_map.mp hx
      exact R.suspend_keeps (hall d hd)
    | _ => exact iff_of_true hall trivial
  | fsckThread device partition => exact R.runFsckThread_iff hall hwf device partition
  | timeout device => exact iff_of_true (R.runTimeout_keeps hall hwf device) trivial

/-- **Along a run.** -/
theorem run_iff (cfg : Config) (is : List (Env × StorageInput)) :
    Runs.StepsAll (StorageSystem.step cfg) (fun w i => All J (w.step cfg i)) {} is ↔
      Runs.StepsAll (StorageSystem.step cfg) (R.Condition cfg) {} is :=
  Runs.stepsAll_congr (I := fun w => w.Valid ∧ All J w)
    (fun _ i hw hP => ⟨StorageSystem.step_valid hw.1 i, hP⟩)
    (fun _ i hw => R.step_iff hw.1 hw.2 i)
    ⟨StorageSystem.init_valid, fun d hd => absurd hd (by simp)⟩

end DeviceRules

end Pdm
