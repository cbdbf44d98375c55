/-
Whether the flags agree with the kernel.

`KeepsFlags` says of an input that it does not break the tie of a partition: an unmount
of a mounted partition that a command tries succeeds, a mount of one succeeds, a check of
one does not time out, a partition that an event adds is mounted nowhere yet, and, where
the flags are to be held to what is mounted (`x`), a suspend unmounts nothing.  Where it
is the checks that matter (`g`), no check is made of a mounted partition.

**In every run of such inputs every flag agrees with the mount table after every step.**
A refused unmount clears the flag of a partition that stays mounted.
-/
import Pdm.Proofs.TiedLists

namespace Pdm

open Visit (visit)
open StorageDevice

/-! ### The conditions -/

namespace StorageDeviceHandler

variable (x g : Prop) (env : Env) (K : Finset String) (h : StorageDeviceHandler)

/-- An unmount that a command about one drive starts with. -/
def UnmountsNamed (driveName : String) : Prop :=
  ∀ d ∈ getDeviceWithName h.storageList driveName, ∀ p ∈ d.findPartition driveName,
    d.isReadOnly = false → UmountKept env K p false

/-- The command keeps the ties: only some commands can break one. -/
def CommandKeeps : CommandType → Prop
  | .format driveName _ _ => UnmountsNamed env K h driveName
  | .fsck driveName => UnmountsNamed env K h (removeBlanks driveName)
  | .eject deviceNumber => ∀ d ∈ getDeviceWithNum h.storageList deviceNumber,
      ∀ p ∈ d.diskPartitionList, UmountKept env K p false
  | .umountAllDrive => ∀ d ∈ h.storageList, ∀ p ∈ d.diskPartitionList, UmountKept env K p false
  | .mountFsck _ mountName => ∀ d ∈ getDeviceWithName h.storageList mountName,
      ∀ p ∈ d.diskPartitionList, EnforceKept env K p g
  | _ => True

/-- No mounted partition is unmounted by the suspend, or it does not matter. -/
def SuspendKeeps (lazyUnmount : Bool) : Prop :=
  x → ∀ d ∈ h.storageList, ∀ p ∈ d.diskPartitionList, p.mountName ∈ K →
    ¬ ∃ e ∈ h.storageList, suspendFrees env lazyUnmount e.diskPartitionList p.mountName

/-- The plugin event keeps the ties. -/
def PluginKeeps : PluginEvent → Prop
  | .powerProcessPrepareResume => ∀ d ∈ h.storageList,
      ¬ (d.storageType = .usbHdd ∧ d.errorReason ≠ .ejected) →
        ∀ p ∈ d.diskPartitionList, p.isSupportedFs = true → RemountKept env K p d.isReadOnly
  | .powerProcessRequestUmountAll => SuspendKeeps x env K h false
  | .powerProcessPrepareSuspend => SuspendKeeps x env K h true
  | _ => True

/-- The check of a thread, if it has yet to run, keeps the ties. -/
def ThreadKeeps (address partition : Nat) : Prop :=
  ∀ d ∈ h.storageList.find? (·.address = address), partition ∈ d.fsckThreadArray →
    ∀ p ∈ d.diskPartitionList.find? (·.address = partition), CheckKept env K p g PdmFsck.AUTO

/-- The uevent keeps the ties. -/
def UeventKeeps (cfg : Config) (next : Nat) (devClass : DeviceClass) : Prop :=
  (∀ d ∈ (target cfg next h devClass).told, AdditionKept env K h.storageList d devClass) ∧
    (g → devClass.action = "remove" →
      ∀ d ∈ removedDevice h devClass, ThreadsClear env K d d.fsckThreadArray)

end StorageDeviceHandler

/-! ### Evaluating the conditions -/

section Evaluation

variable (x g : Prop) [Decidable x] [Decidable g] (env : Env) (K : Finset String)

instance (p : DiskPartitionInfo) (lazyUnmount : Bool) : Decidable (UmountKept env K p lazyUnmount) :=
  inferInstanceAs (Decidable (_ → _ ∨ _))

instance (p : DiskPartitionInfo) (readOnly : Bool) : Decidable (RemountKept env K p readOnly) :=
  inferInstanceAs (Decidable (_ → _))

instance (p : DiskPartitionInfo) (fsckMode : String) : Decidable (CheckKept env K p g fsckMode) :=
  inferInstanceAs (Decidable (_ → _ ∧ _ ∧ (_ → _)))

instance (p : DiskPartitionInfo) : Decidable (EnforceKept env K p g) :=
  inferInstanceAs (Decidable (_ → _))

instance (p : DiskPartitionInfo) : Decidable (EndsMounted env p) :=
  inferInstanceAs (Decidable (_ ∧ _))

instance (d : StorageDevice) (ts : List Nat) : Decidable (ThreadsClear env K d ts) :=
  inferInstanceAs (Decidable (∀ p ∈ d.diskPartitionList, _ → _))

instance (d : StorageDevice) (m : String) : Decidable (d.Owns m) :=
  inferInstanceAs (Decidable (∃ p ∈ d.diskPartitionList, _))

instance (lazyUnmount : Bool) (l : List DiskPartitionInfo) (m : String) :
    Decidable (suspendFrees env lazyUnmount l m) :=
  inferInstanceAs (Decidable (∃ p ∈ _, _))

instance (d : StorageDevice) (devClass : DeviceClass) : Decidable (d.StartsReadOnly env devClass) :=
  inferInstanceAs (Decidable (∃ d₀ ∈ receiver env d devClass, _))

/-- The mount point gained is that of the partition added. -/
theorem additionKept_iff {l : List StorageDevice} {d : StorageDevice} {devClass : DeviceClass} :
    AdditionKept env K l d devClass ↔
      (∀ d₀ ∈ receiver env d devClass, d.findPartition devClass.devName = none →
        d₀.newMountName devClass ∉ K ∧ (d₀.newMountName devClass = "" ∨
          ∀ e ∈ l, ¬ e.Owns (d₀.newMountName devClass))) ∧
      (d.StartsReadOnly env devClass → ∀ p ∈ d.diskPartitionList, p.isSupportedFs = true →
        RemountKept env K p true) := by
  exact ⟨fun h => ⟨(forall_gains ..).mp h.fresh, h.remount⟩,
    fun h => ⟨(forall_gains ..).mpr h.1, h.2⟩⟩

instance (l : List StorageDevice) (d : StorageDevice) (devClass : DeviceClass) :
    Decidable (AdditionKept env K l d devClass) :=
  decidable_of_iff _ (additionKept_iff env K).symm

namespace StorageDeviceHandler

variable (h : StorageDeviceHandler)

instance (driveName : String) : Decidable (UnmountsNamed env K h driveName) :=
  inferInstanceAs (Decidable (∀ d ∈ getDeviceWithName h.storageList driveName, _))

instance (lazyUnmount : Bool) : Decidable (SuspendKeeps x env K h lazyUnmount) :=
  inferInstanceAs (Decidable (_ → ∀ d ∈ h.storageList, _))

instance : (cmdtypes : CommandType) → Decidable (CommandKeeps g env K h cmdtypes)
  | .format driveName _ _ => inferInstanceAs (Decidable (UnmountsNamed env K h driveName))
  | .fsck driveName => inferInstanceAs (Decidable (UnmountsNamed env K h (removeBlanks driveName)))
  | .eject deviceNumber =>
    inferInstanceAs (Decidable (∀ d ∈ getDeviceWithNum h.storageList deviceNumber, _))
  | .umountAllDrive => inferInstanceAs (Decidable (∀ d ∈ h.storageList, _))
  | .mountFsck _ mountName =>
    inferInstanceAs (Decidable (∀ d ∈ getDeviceWithName h.storageList mountName, _))
  | .setVolumeLabel _ _ | .isWritableDrive _ | .spaceInfo _ _ | .other =>
    inferInstanceAs (Decidable True)

instance : (eventType : PluginEvent) → Decidable (PluginKeeps x env K h eventType)
  | .powerProcessPrepareResume => inferInstanceAs (Decidable (∀ d ∈ h.storageList, _))
  | .powerProcessRequestUmountAll => inferInstanceAs (Decidable (SuspendKeeps x env K h false))
  | .powerProcessPrepareSuspend => inferInstanceAs (Decidable (SuspendKeeps x env K h true))
  | .powerProcessRequestSuspend | .camNone | .camReady | .camBuiltin | .modemDongleSupported
  | .modemDongleNotSupported | .other => inferInstanceAs (Decidable True)

instance (address partition : Nat) : Decidable (ThreadKeeps g env K h address partition) :=
  inferInstanceAs (Decidable (∀ d ∈ h.storageList.find? (·.address = address),
    partition ∈ d.fsckThreadArray → ∀ p ∈ d.diskPartitionList.find? (·.address = partition),
      CheckKept env K p g PdmFsck.AUTO))

instance (cfg : Config) (next : Nat) (devClass : DeviceClass) :
    Decidable (UeventKeeps g env K h cfg next devClass) :=
  inferInstanceAs (Decidable (_ ∧ _))

end StorageDeviceHandler

end Evaluation

/-! ### Commands -/

namespace StorageDeviceHandler

variable {x g : Prop} (env : Env) {s : Sys} {h : StorageDeviceHandler}
  (ht : Tied x s h.storageList) (hwf : WellFormed s h.storageList)
include ht hwf

theorem onDevice_tied {found : Option StorageDevice} {notFound : PdmDevStatus}
    {method : Sys → StorageDevice → Out StorageDevice PdmDevStatus}
    (hfound : ∀ d, found = some d → d ∈ h.storageList)
    (hmethod : ∀ d, found = some d → Ready x s d → Keeps x g s d (method s d).state (method s d).obj) :
    StaysTied x g s (onDevice s h found method notFound).state
      (onDevice s h found method notFound).obj.storageList := by
  unfold onDevice
  cases found with
  | none => exact ht.stay
  | some d =>
    have hd := hfound d rfl
    exact ht.write hwf hd (hmethod d rfl (ht.ready hwf hd))

/-- **A command keeps the ties.** -/
theorem HandlerCommand_tied {cmdtypes : CommandType}
    (hkeep : h.CommandKeeps g env s.mounted cmdtypes) :
    StaysTied x g s (h.HandlerCommand env s cmdtypes).state
      (h.HandlerCommand env s cmdtypes).obj.storageList := by
  cases cmdtypes with
  | format driveName fsType volumeLabel =>
    refine onDevice_tied ht hwf (mem_of_name h) fun d hd hr => ?_
    unfold formatDiskStart
    cases hp : d.findPartition driveName with
    | none => exact Keeps.refl hr
    | some p => exact formatOn_keeps env hr (d.findPartition_mem hp).1 _ _ (hkeep d hd p hp)
  | eject deviceNumber =>
    refine onDevice_tied ht hwf (fun d hd => List.mem_of_find?_eq_some hd) fun d hd hr => ?_
    have heject := eject_keeps (g := g) env hr (hkeep d hd)
    exact heject.trans (Keeps.of_untouched (heject.ready hr)
      (notify_untouched _ .storageDevice .unmountAll) rfl rfl)
  | fsck driveName =>
    refine onDevice_tied ht hwf (mem_of_name h) fun d hd hr => ?_
    unfold StorageDevice.fsck
    cases hp : d.findPartition (removeBlanks driveName) with
    | none => exact Keeps.refl hr
    | some p => exact fsckOn_keeps env hr (d.findPartition_mem hp).1 (hkeep d hd p hp)
  | setVolumeLabel driveName volumeLabel =>
    refine onDevice_tied ht hwf (mem_of_name h) fun d hd hr => ?_
    unfold setPartitionVolumeLabel
    cases hp : d.findPartition driveName with
    | none => exact Keeps.refl hr
    | some p => exact setVolumeLabelOn_keeps env hr (d.findPartition_mem hp).1 volumeLabel
  | mountFsck needFsck mountName =>
    exact onDevice_tied ht hwf (mem_of_name h) fun d hd hr =>
      enforceFsckAndMount_keeps env hr (hkeep d hd)
  | isWritableDrive driveName =>
    unfold HandlerCommand isWritableDrive
    dsimp only
    cases getDeviceWithName h.storageList driveName with
    | none => exact ht.stay
    | some d =>
      have hu := isWritable_untouched env s d driveName
      exact ⟨ht.congr hu.mounted, fun _ => Sys.Adds.of_eq hu.notables⟩
  | spaceInfo directCheck driveName =>
    unfold HandlerCommand getSpaceInfo
    dsimp only
    cases hd : getDeviceWithName h.storageList driveName with
    | none => exact ht.stay
    | some d =>
      have hmem := mem_of_name h d hd
      have hr := ht.ready hwf hmem
      have hkeeps : Keeps x g s d s (d.getSpaceInfo env driveName directCheck).1 := by
        unfold StorageDevice.getSpaceInfo
        cases hp : d.findPartition driveName with
        | none => exact Keeps.refl hr
        | some p => exact getSpaceInfoOn_keeps env hr (d.findPartition_mem hp).1 directCheck
      have hw := ht.write hwf hmem hkeeps
      dsimp only
      split
      · exact hw
      · exact hw
  | umountAllDrive =>
    unfold HandlerCommand umountAllDrive
    dsimp only
    split
    · exact ht.stay
    · refine (Tied.loop (C := fun K d => ∀ p ∈ d.diskPartitionList, UmountKept env K p false) ?_
        (fun s d => umountAllPartition_within env s d false)
        (fun s d hr hC => umountAllPartition_keeps env hr hC) ht hwf hkeep).andThen
        (notify_untouched _ .storageDevice .unmountAll)
      exact fun K K' d hK hC p hp => local_umountKept env false K K' p (hK p hp) (hC p hp)
  | other => exact ht.stay

/-! ### Plugin events -/

omit hwf in
theorem umountAllDriveLoop_tied {lazyUnmount : Bool}
    (hkeep : h.SuspendKeeps x env s.mounted lazyUnmount) :
    StaysTied x g s (umountAllDriveLoop env lazyUnmount s true h.storageList).2 h.storageList := by
  have hw := umountAllDriveLoop_within env lazyUnmount h.storageList h.storageList s true
    (List.Subset.refl _)
  have hleft := (umountAllDriveLoop_step env lazyUnmount h.storageList s).left
  have hquiet := umountAllDriveLoop_notables env lazyUnmount h.storageList s true
  refine ⟨ht.within hw fun d hd p hp => ⟨fun hm => ?_, fun hx hflag => ?_⟩,
    fun _ => Sys.Adds.of_eq hquiet⟩
  · exact (ht.ties d hd p hp).seen ((hleft _).mp hm).1
  · have hm := (ht.ties d hd p hp).held hx hflag
    exact (hleft _).mpr ⟨hm, hkeep hx d hd p hp hm⟩

/-- **A plugin event keeps the ties.** -/
theorem HandlePluginEvent_tied {eventType : PluginEvent}
    (hkeep : h.PluginKeeps x env s.mounted eventType) :
    StaysTied x g s (h.HandlePluginEvent env s eventType).state
      (h.HandlePluginEvent env s eventType).obj.storageList := by
  cases eventType with
  | powerProcessRequestSuspend =>
    have hw := h.HandlePluginEvent_within env s .powerProcessRequestSuspend
    refine ⟨ht.within hw fun e he => ?_, fun _ => Sys.Adds.of_eq rfl⟩
    obtain ⟨d, hd, rfl⟩ := List.mem_map.mp he
    exact (suspendRequest_keeps (g := g) (ht.ready hwf hd)).ties
  | powerProcessPrepareResume =>
    refine (Tied.loop (C := fun K d => ¬ (d.storageType = .usbHdd ∧ d.errorReason ≠ .ejected) →
        ∀ p ∈ d.diskPartitionList, p.isSupportedFs = true → RemountKept env K p d.isReadOnly) ?_
      (fun s d => resumeRequest_within env s d)
      (fun s d hr hC => resumeRequest_keeps env hr hC) ht hwf hkeep).andThen
      (notify_untouched _ .storageDevice .add)
    exact fun K K' d hK hC hnot p hp hsupp =>
      local_remountKept env d.isReadOnly K K' p (hK p hp) (hC hnot p hp hsupp)
  | powerProcessRequestUmountAll => exact umountAllDriveLoop_tied env ht hkeep
  | powerProcessPrepareSuspend => exact umountAllDriveLoop_tied env ht hkeep
  | camNone => exact ht.stay
  | camReady => exact ht.stay
  | camBuiltin => exact ht.stay
  | modemDongleSupported => exact ht.stay
  | modemDongleNotSupported => exact ht.stay
  | other => exact ht.stay

/-! ### Threads and timeouts -/

theorem deviceTask_tied {address : Nat} {task : Sys → StorageDevice → Out StorageDevice Unit}
    (htask : ∀ d, h.storageList.find? (·.address = address) = some d → Ready x s d →
      Keeps x g s d (task s d).state (task s d).obj) :
    StaysTied x g s (deviceTask s h address task).state
      (deviceTask s h address task).obj.storageList := by
  unfold deviceTask
  cases hd : h.storageList.find? (·.address = address) with
  | none => exact ht.stay
  | some d =>
    have hmem := List.mem_of_find?_eq_some hd
    exact ht.write hwf hmem (htask d hd (ht.ready hwf hmem))

/-- **A thread keeps the ties.** -/
theorem runFsckThread_tied {address partition : Nat}
    (hkeep : h.ThreadKeeps g env s.mounted address partition) :
    StaysTied x g s (h.runFsckThread env s address partition).state
      (h.runFsckThread env s address partition).obj.storageList := by
  refine deviceTask_tied ht hwf fun d hd hr => ?_
  split
  · rename_i hpending
    have hstart : Keeps x g s d s
        { d with fsckThreadArray := d.fsckThreadArray.erase partition } :=
      Keeps.of_untouched hr (Untouched.refl s) rfl rfl
    exact hstart.trans (fsckOnDeviceAddThread_keeps env (hstart.ready hr) partition
      fun p hp => hkeep d hd hpending p hp)
  · exact Keeps.refl hr

theorem runTimeout_tied (address : Nat) :
    StaysTied x g s (h.runTimeout s address).state (h.runTimeout s address).obj.storageList := by
  refine deviceTask_tied ht hwf fun d _ hr => ?_
  split
  · exact notifyStorageConnecting_keeps hr
  · exact Keeps.refl hr

end StorageDeviceHandler

/-! ### Runs -/

namespace StorageSystem

/-- The input breaks no tie of the state it is taken in. -/
def KeepsFlags (x g : Prop) (cfg : Config) (w : StorageSystem) (i : Env × StorageInput) : Prop :=
  match i.2 with
  | .uevent devClass => w.storage.UeventKeeps g i.1 w.sys.mounted cfg w.sys.next devClass
  | .command cmdtypes => w.storage.CommandKeeps g i.1 w.sys.mounted cmdtypes
  | .pluginEvent eventType => w.storage.PluginKeeps x i.1 w.sys.mounted eventType
  | .fsckThread device partition => w.storage.ThreadKeeps g i.1 w.sys.mounted device partition
  | .timeout _ => True

instance (x g : Prop) [Decidable x] [Decidable g] (cfg : Config) (w : StorageSystem) :
    (i : Env × StorageInput) → Decidable (w.KeepsFlags x g cfg i)
  | (env, .uevent devClass) =>
    inferInstanceAs (Decidable
      (w.storage.UeventKeeps g env w.sys.mounted cfg w.sys.next devClass))
  | (env, .command cmdtypes) =>
    inferInstanceAs (Decidable (w.storage.CommandKeeps g env w.sys.mounted cmdtypes))
  | (env, .pluginEvent eventType) =>
    inferInstanceAs (Decidable (w.storage.PluginKeeps x env w.sys.mounted eventType))
  | (env, .fsckThread device partition) =>
    inferInstanceAs (Decidable (w.storage.ThreadKeeps g env w.sys.mounted device partition))
  | (_, .timeout _) => inferInstanceAs (Decidable True)

variable {x g : Prop} {cfg : Config} {w : StorageSystem} {i : Env × StorageInput}

/-- **One input keeps the ties.** -/
theorem deliver_tied {env : Env} {input : StorageInput} (hwf : w.Valid)
    (ht : Tied x w.sys w.storage.storageList) (hkeep : w.KeepsFlags x g cfg (env, input)) :
    StaysTied x g w.sys (w.deliver cfg env input).sys
      (w.deliver cfg env input).storage.storageList := by
  cases input with
  | uevent devClass =>
    exact ht.event hwf (w.storage.HandlerEvent_outcome cfg env w.sys devClass) hkeep.1 hkeep.2
  | command cmdtypes => exact StorageDeviceHandler.HandlerCommand_tied env ht hwf hkeep
  | pluginEvent eventType => exact StorageDeviceHandler.HandlePluginEvent_tied env ht hwf hkeep
  | fsckThread device partition =>
    exact StorageDeviceHandler.runFsckThread_tied env ht hwf hkeep
  | timeout device => exact StorageDeviceHandler.runTimeout_tied ht hwf device

theorem step_tied (hwf : w.Valid) (ht : Tied x w.sys w.storage.storageList)
    (hkeep : w.KeepsFlags x g cfg i) :
    StaysTied x g w.clear.sys (w.step cfg i).sys (w.step cfg i).storage.storageList :=
  deliver_tied (w := w.clear) ⟨hwf.nodup, hwf.given, hwf.parts⟩ ⟨ht.empty, ht.ties, ht.apart⟩ hkeep

/-- The state of a run: addresses are distinct and the partitions are tied. -/
structure TiedState (x : Prop) (w : StorageSystem) : Prop where
  valid : w.Valid
  tied : Tied x w.sys w.storage.storageList

theorem step_tiedState (h : w.TiedState x) (hkeep : w.KeepsFlags x g cfg i) :
    (w.step cfg i).TiedState x :=
  ⟨step_valid h.valid i, (step_tied h.valid h.tied hkeep).tied⟩

theorem init_tiedState : ({} : StorageSystem).TiedState x :=
  ⟨init_valid, by simp, by simp, by simp⟩

/-! ### The flags -/

/-- Every partition is flagged mounted exactly when it is mounted. -/
def FlagsAgree (w : StorageSystem) : Prop :=
  ∀ d ∈ w.storage.storageList, ∀ p ∈ d.diskPartitionList,
    p.mounted = true ↔ p.mountName ∈ w.sys.mounted

theorem flagsAgree_of_tied (h : Tied True w.sys w.storage.storageList) : w.FlagsAgree :=
  fun d hd p hp => ⟨(h.ties d hd p hp).held trivial, (h.ties d hd p hp).seen⟩

/-- **In a run whose inputs break no tie, the flags agree with the mount table after
every step.** -/
theorem flags_agree (cfg : Config) (inputs : List (Env × StorageInput))
    (hkeep : Runs.StepsAll (step cfg) (KeepsFlags True False cfg) {} inputs) :
    Runs.StepsAll (step cfg) (fun w i => (w.step cfg i).FlagsAgree) {} inputs :=
  Runs.stepsAll_of_keeps (I := TiedState True) (fun _ _ h hkeep => step_tiedState h hkeep)
    (fun _ _ h hkeep => flagsAgree_of_tied (step_tiedState h hkeep).tied) init_tiedState hkeep

/-- A stick is plugged, checked, ejected and pulled. -/
def useStick : List (Env × StorageInput) :=
  plugStick ++ [(({} : Env), .command (.fsck "sda1")), ({}, .command (.eject 0)),
    ({}, .uevent { stickEvent "/devices/usb1/1-1" with action := "remove" })]

theorem flags_agree_useStick :
    Runs.StepsAll (step .tmpUsb) (KeepsFlags True False .tmpUsb) {} useStick ∧
      Runs.StepsAll (step .tmpUsb) (fun w i => (w.step .tmpUsb i).FlagsAgree) {} useStick := by
  have hkeep : Runs.StepsAll (step .tmpUsb) (KeepsFlags True False .tmpUsb) {} useStick := by decide
  exact ⟨hkeep, flags_agree .tmpUsb useStick hkeep⟩

/-- The kernel refuses to unmount the stick's partition when the stick is ejected. -/
def refusedEject : List (Env × StorageInput) :=
  plugStick ++ [({ umount2 := fun _ _ => false }, .command (.eject 0))]

/-- The partition is still mounted, and no longer flagged. -/
theorem refusedEject_flag_lost :
    ¬ Runs.StepsAll (step .tmpUsb) (fun w i => (w.step .tmpUsb i).FlagsAgree) {} refusedEject := by
  intro h
  have hlast := h.2.2.2.2.1
  revert hlast
  unfold FlagsAgree
  decide

end StorageSystem

end Pdm
