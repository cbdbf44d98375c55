/-
Whether a handler is given an object of the subclass it casts to.

The factory makes an object of the first subclass whose `canProcessEvent` takes the
properties, so a cast is right when that is the handler's own.  A handler that reads nothing
but the getters of `DeviceClass` may be given anything.  `Consults` says from the event and
the devices that are listed whether a handler does more than that.
-/
import Pdm.Handlers.SubsystemGetters
import Pdm.Proofs.Additions
import Pdm.Proofs.Routing

namespace Pdm

theorem sMapDeviceActions_eq_change {action : String} :
    sMapDeviceActions action = some .usbDevChange ↔ action = "change" := by
  rw [sMapDeviceActions_eq_iff, eq_comm]
  exact Option.some_inj

/-! ### The factory -/

namespace DeviceClassFactory

variable (mDevMap : List Subsystem) (p : PropMap)

/-- The subclass takes the properties, and none that comes before it in the table does. -/
def ComesFirst (subsystem : Subsystem) : Prop :=
  subsystem.canProcessEvent p = true ∧
    ∃ before after, mDevMap = before ++ subsystem :: after ∧
      ∀ other ∈ before, other = .default ∨ other.canProcessEvent p = false

variable {mDevMap p}

theorem createLoop_eq :
    createLoop p mDevMap = mDevMap.find? fun dev => dev ≠ .default ∧ dev.canProcessEvent p := by
  induction mDevMap with
  | nil => rfl
  | cons dev rest ih =>
    unfold createLoop Subsystem.create
    by_cases hdefault : dev = .default
    · rw [if_pos hdefault, List.find?_cons_of_neg (by simp [hdefault])]
      exact ih
    · rw [if_neg hdefault]
      by_cases htakes : dev.canProcessEvent p = true
      · rw [if_pos htakes, List.find?_cons_of_pos (by simp [hdefault, htakes])]
      · rw [if_neg htakes, List.find?_cons_of_neg (by simp [htakes])]
        exact ih

/-- **What the factory makes** is an object of the subclass that comes first. -/
theorem create_eq_iff {subsystem : Subsystem} (hne : subsystem ≠ .default) :
    create mDevMap p = some subsystem ↔ ComesFirst mDevMap p subsystem := by
  have hloop : create mDevMap p = some subsystem ↔ createLoop p mDevMap = some subsystem := by
    unfold create
    cases createLoop p mDevMap with
    | some dev => exact Iff.rfl
    | none =>
      refine iff_of_false (fun h => ?_) (by simp)
      dsimp only at h
      split at h
      · exact hne (Option.some.inj h).symm
      · exact absurd h (by simp)
  rw [hloop, createLoop_eq, List.find?_eq_some_iff_append]
  have hpass : decide (subsystem ≠ .default ∧ subsystem.canProcessEvent p) = true ↔
      subsystem.canProcessEvent p = true := by
    simp [hne]
  have hskip : ∀ other : Subsystem,
      (!decide (other ≠ .default ∧ other.canProcessEvent p)) = true ↔
        other = .default ∨ other.canProcessEvent p = false := by
    intro other
    by_cases hother : other = .default
    · simp [hother]
    · simp [hother]
  unfold ComesFirst
  rw [hpass]
  refine and_congr_right fun _ => exists_congr fun before => exists_congr fun after => ?_
  refine and_congr_right fun _ => ?_
  exact forall₂_congr fun other _ => hskip other

/-- The media player subclass takes nothing, so no table makes an object of it. -/
theorem not_comesFirst_mtp : ¬ ComesFirst mDevMap p .mtp :=
  fun h => absurd h.1 (by simp [Subsystem.canProcessEvent, MTPSubsystem.canProcessEvent])

/-- The subclasses that register themselves. -/
def registered : List Subsystem :=
  [.bluetooth, .cdc, .default, .gamepad, .hid, .mtp, .nfc, .ptp, .sound, .storage, .video]

theorem mem_registered (subsystem : Subsystem) : subsystem ∈ registered := by
  cases subsystem <;> decide

/-- **Every order of the table**: an object of the subclass is made in all of them when no
other subclass takes the properties. -/
theorem comesFirst_every_order_iff {subsystem : Subsystem} :
    (∀ table, table.Perm registered → ComesFirst table p subsystem) ↔
      subsystem.canProcessEvent p = true ∧
        ∀ other, other ≠ .default → other ≠ subsystem → other.canProcessEvent p = false := by
  constructor
  · intro hfirst
    refine ⟨(hfirst registered (List.Perm.refl _)).1, fun other hdefault hne => ?_⟩
    have hperm := (List.perm_cons_erase (mem_registered other)).symm
    obtain ⟨-, before, after, htable, hbefore⟩ := hfirst (other :: registered.erase other) hperm
    cases before with
    | nil =>
      rw [List.nil_append] at htable
      exact absurd (List.cons.inj htable).1 hne
    | cons head rest =>
      rw [List.cons_append] at htable
      rw [(List.cons.inj htable).1] at hdefault ⊢
      exact (hbefore head (by simp)).resolve_left hdefault
  · rintro ⟨htakes, honly⟩ table hperm
    obtain ⟨before, after, htable⟩ :=
      List.append_of_mem (hperm.mem_iff.mpr (mem_registered subsystem))
    refine ⟨htakes, before, after, htable, fun other hother => ?_⟩
    have hnodup : table.Nodup := hperm.nodup_iff.mpr (by decide)
    rw [htable, List.nodup_append'] at hnodup
    have hne : other ≠ subsystem := by
      rintro rfl
      exact hnodup.2.2 hother (by simp)
    by_cases hdefault : other = .default
    · exact Or.inl hdefault
    · exact Or.inr (honly other hdefault hne)

end DeviceClassFactory

/-! ### Storage -/

namespace StorageDevice

/-- The device reads the event as one of a storage device.  A disk that is added is read
for its kind, and a change of one for whether it is a card reader's. -/
def Consults (env : Env) (d : StorageDevice) (devClass : DeviceClass) : Prop :=
  d.isSdCardRemoved = false ∧
    (sMapUsbDeviceType devClass.devType = .typeDevUsb ∨
      sMapUsbDeviceType devClass.devType = .typeDevDisk ∧
        (devClass.action = "add" ∨ d.devicePath = "" ∨ d.storageType = .usbStick ∨
          d.storageType ≠ .usbCardReader ∧ env.partitionCount d.deviceName = 0))

variable (env : Env) (s : Sys) (d : StorageDevice) (devClass : DeviceClass)

theorem devicePath_of_core {d e : StorageDevice} (h : d.core = e.core) :
    d.devicePath = e.devicePath :=
  congrArg (·.devicePath) h

/-- A changed disk keeps what is known of it itself. -/
theorem updateDiskInfo_change_core (haction : getDeviceAction devClass.action = .usbDevChange) :
    (updateDiskInfo env s d devClass).obj.core = d.core := by
  unfold updateDiskInfo
  rw [haction]
  dsimp only
  split
  · exact handleCardReaderDeviceChange_core env s d
  · split
    · exact setPartitionInfo_core env _ d devClass
    · rfl

/-- A disk that is added is read for its kind. -/
theorem updateDiskInfoReads_add_ne_nil (haction : devClass.action = "add") :
    updateDiskInfoReads env s devClass d ≠ [] := by
  unfold updateDiskInfoReads
  rw [haction, show getDeviceAction "add" = .usbDevAdd by decide]
  simp

/-- A disk that changes is read when it may be a card reader's, and none is known to be. -/
theorem updateDiskInfoReads_change_eq_nil
    (haction : getDeviceAction devClass.action = .usbDevChange) :
    updateDiskInfoReads env s devClass d = [] ↔
      ¬ (d.storageType ≠ .usbCardReader ∧ env.partitionCount d.deviceName = 0) := by
  unfold updateDiskInfoReads
  rw [haction]
  dsimp only
  rw [countPartitions_fst]
  by_cases hreader : d.storageType = .usbCardReader
  · simp [hreader]
  · by_cases hcount : env.partitionCount d.deviceName = 0
    · simp [hreader, hcount]
    · simp [hreader, hcount]

theorem updateMultiSdCardReads_eq_nil : updateMultiSdCardReads d = [] ↔ ¬ d.devicePath = "" := by
  unfold updateMultiSdCardReads
  split
  · simp [*]
  · simp [*]

theorem checkSdCardAddRemoveReads_eq_nil :
    checkSdCardAddRemoveReads devClass d = [] ↔ ¬ d.storageType = .usbStick := by
  unfold checkSdCardAddRemoveReads
  split
  · rename_i hstick
    exact iff_of_true rfl hstick
  · rename_i hstick
    refine iff_of_false ?_ hstick
    split
    · simp
    · simp

theorem setDeviceInfoReads_ne_nil
    (haction : devClass.action = "add" ∨ devClass.action = "change") :
    setDeviceInfoReads env s devClass d ≠ [] ↔ d.Consults env devClass := by
  unfold setDeviceInfoReads Consults
  rw [triggerUevent_ret]
  cases hremoved : d.isSdCardRemoved with
  | true => simp
  | false =>
    rw [if_neg (by simp), eq_self, true_and]
    cases htype : sMapUsbDeviceType devClass.devType with
    | typeDevUsb => simp [updateDeviceInfoReads]
    | typeDevPartition => simp
    | typeDevDisk =>
      dsimp only
      rcases haction with hadd | hchange
      · refine iff_of_true (fun hnil => ?_) (Or.inr ⟨rfl, Or.inl hadd⟩)
        simp only [List.append_eq_nil_iff] at hnil
        exact updateDiskInfoReads_add_ne_nil env s d devClass hadd hnil.1.1
      · have haction : getDeviceAction devClass.action = .usbDevChange := by
          rw [hchange]
          decide
        have hcore := updateDiskInfo_change_core env s d devClass haction
        have hnot : devClass.action ≠ "add" := by
          rw [hchange]
          decide
        -- each of the three parts reads nothing unless its own condition holds
        rw [ne_eq, List.append_eq_nil_iff, List.append_eq_nil_iff,
          updateDiskInfoReads_change_eq_nil env s d devClass haction,
          updateMultiSdCardReads_eq_nil, checkSdCardAddRemoveReads_eq_nil,
          updateMultiSdCard_storageType, devicePath_of_core hcore, storageType_of_core hcore]
        simp only [not_and_or, not_not, hnot, false_or, reduceCtorEq, true_and]
        rw [or_assoc, or_comm, or_assoc, not_or, not_not]

end StorageDevice

namespace StorageDeviceHandler

variable (cfg : Config) (env : Env) (s : Sys) (h : StorageDeviceHandler) (devClass : DeviceClass)

/-- The device that is told of an event of its own is told by `setDeviceInfo`. -/
theorem createStorageDeviceReads_eq (reader : Option StorageDevice) :
    createStorageDeviceReads cfg env s devClass h reader =
      match (newTarget cfg s.next h devClass reader).told with
      | none => []
      | some d => d.setDeviceInfoReads env s.alloc devClass := by
  unfold createStorageDeviceReads newTarget
  split
  · rfl
  · cases reader <;> rfl

theorem takes_iff {devClass : DeviceClass} :
    takes devClass = true ↔ isStorageDevice devClass = true ∧
      (devClass.devType = USB_DEVICE ∨ devClass.subsystemName = "block") ∧
        (devClass.action = "add" ∨ devClass.action = "change") := by
  simp [takes, and_assoc]

/-- Some device is told of the event, and consults it. -/
def Target.Consults (t : Target) (env : Env) (devClass : DeviceClass) : Prop :=
  ∃ d, t.told = some d ∧ d.Consults env devClass

theorem Target.consults_listed {d : StorageDevice} :
    (Target.listed d).Consults env devClass ↔ d.Consults env devClass := by
  unfold Target.Consults Target.told
  constructor
  · rintro ⟨e, he, hconsults⟩
    rwa [Option.some.inj he]
  · intro hconsults
    exact ⟨d, rfl, hconsults⟩

theorem Target.not_consults_nobody : ¬ Target.nobody.Consults env devClass := by
  rintro ⟨d, hd, -⟩
  exact absurd hd (by simp [Target.told])

section Taken

variable {devClass} (haction : devClass.action = "add" ∨ devClass.action = "change")
include haction

theorem createStorageDeviceReads_ne_nil (reader : Option StorageDevice) :
    createStorageDeviceReads cfg env s devClass h reader ≠ [] ↔
      (newTarget cfg s.next h devClass reader).Consults env devClass := by
  rw [createStorageDeviceReads_eq]
  unfold Target.Consults
  cases htold : (newTarget cfg s.next h devClass reader).told with
  | none => simp
  | some d =>
    dsimp only
    rw [d.setDeviceInfoReads_ne_nil env s.alloc devClass haction]
    simp

theorem checkStorageDeviceReads_ne_nil (htakes : takes devClass = true) :
    checkStorageDeviceReads cfg env s devClass h ≠ [] ↔
      (target cfg s.next h devClass).Consults env devClass := by
  rw [target_taken cfg s.next h htakes]
  unfold checkStorageDeviceReads
  cases getDeviceWithPath h.storageList devClass.devPath with
  | none =>
    dsimp only
    by_cases husb : devClass.devType = USB_DEVICE
    · rw [if_pos husb, if_pos husb]
      exact createStorageDeviceReads_ne_nil cfg env s h haction none
    · rw [if_neg husb, if_neg husb]
      exact iff_of_false (by simp) (Target.not_consults_nobody env devClass)
  | some storageDevPath =>
    dsimp only
    by_cases hname : storageDevPath.deviceName = ""
    · rw [if_pos hname, if_pos hname, Target.consults_listed]
      exact storageDevPath.setDeviceInfoReads_ne_nil env s devClass haction
    · rw [if_neg hname, if_neg hname]
      cases getDeviceWithName h.storageList devClass.devName with
      | none => exact createStorageDeviceReads_ne_nil cfg env s h haction (some storageDevPath)
      | some storageDevName =>
        dsimp only
        rw [Target.consults_listed]
        exact storageDevName.setDeviceInfoReads_ne_nil env s devClass haction

end Taken

theorem ProcessStorageDeviceReads_ne_nil (htaken : isStorageDevice devClass = true)
    (hblock : devClass.devType = USB_DEVICE ∨ devClass.subsystemName = "block") :
    ProcessStorageDeviceReads cfg env s devClass h ≠ [] ↔
      (target cfg s.next h devClass).Consults env devClass := by
  by_cases haction : devClass.action = "add" ∨ devClass.action = "change"
  · have htakes : takes devClass = true := takes_iff.mpr ⟨htaken, hblock, haction⟩
    have hcheck := checkStorageDeviceReads_ne_nil cfg env s h haction htakes
    unfold ProcessStorageDeviceReads
    rcases haction with hadd | hchange
    · rw [hadd, show sMapDeviceActions "add" = some .usbDevAdd by decide]
      exact hcheck
    · rw [hchange, show sMapDeviceActions "change" = some .usbDevChange by decide]
      exact hcheck
  · have hnobody : target cfg s.next h devClass = .nobody := by
      unfold target
      rw [if_pos]
      rw [Bool.eq_false_iff, ne_eq, takes_iff]
      exact fun h => haction h.2.2
    rw [hnobody]
    refine iff_of_false (not_not.mpr ?_) (Target.not_consults_nobody env devClass)
    unfold ProcessStorageDeviceReads
    split
    · rename_i hact
      exact absurd (Or.inl (sMapDeviceActions_eq_add.mp hact)) haction
    · rename_i hact
      exact absurd (Or.inr (sMapDeviceActions_eq_change.mp hact)) haction
    · rfl

theorem HandlerEventReads_ne_nil :
    HandlerEventReads cfg env s devClass h ≠ [] ↔
      devClass.action ≠ "remove" ∧ (contains devClass.interfaceClass iClass = false ∨
        (target cfg s.next h devClass).Consults env devClass) := by
  unfold HandlerEventReads isStorageDeviceReads
  by_cases hremove : devClass.action = "remove"
  · simp [hremove]
  · rw [if_neg hremove]
    by_cases hclass : contains devClass.interfaceClass iClass = true
    · have htaken : isStorageDevice devClass = true := by simp [isStorageDevice, hclass]
      rw [if_pos hclass, htaken, if_neg (by simp), List.nil_append, hclass]
      simp only [ne_eq, hremove, not_false_eq_true, true_and, Bool.true_eq_false, false_or]
      by_cases hblock : devClass.devType = USB_DEVICE ∨ devClass.subsystemName = "block"
      · rw [if_pos hblock]
        exact ProcessStorageDeviceReads_ne_nil cfg env s h devClass htaken hblock
      · rw [if_neg hblock]
        have hnobody : target cfg s.next h devClass = .nobody := by
          unfold target
          rw [if_pos]
          rw [Bool.eq_false_iff, ne_eq, takes_iff]
          exact fun h => hblock h.2.1
        rw [hnobody]
        exact iff_of_false (by simp) (Target.not_consults_nobody env devClass)
    · rw [if_neg hclass]
      exact iff_of_true (by simp) ⟨hremove, Or.inl (by simpa using hclass)⟩

end StorageDeviceHandler

/-! ### The other handlers -/

section Others

variable (env : Env) (s : Sys) (devClass : DeviceClass)

theorem MTPDeviceHandler.HandlerEventReads_ne_nil :
    HandlerEventReads devClass ≠ [] ↔
      adds devClass = true ∧ devClass.devName ≠ "" ∧ devClass.devType = USB_DEVICE := by
  unfold HandlerEventReads adds MTPDevice.setDeviceInfoReads
  by_cases hadd : devClass.action = "add"
  · by_cases hplayer : devClass.mediaPlayerId = YES
    · by_cases hname : devClass.devName = ""
      · simp [hadd, hplayer, hname]
      · simp [hadd, hplayer, hname]
    · simp [hadd, hplayer]
  · have hact : sMapDeviceActions devClass.action ≠ some .usbDevAdd :=
      fun h => hadd (sMapDeviceActions_eq_add.mp h)
    refine iff_of_false (not_not.mpr ?_) fun h => hadd (by simpa using h.1 : _ ∧ _).2
    split
    · split
      · contradiction
      · rfl
    · rfl

theorem PTPDeviceHandler.ProcessPTPDeviceReads_ne_nil :
    ProcessPTPDeviceReads devClass ≠ [] ↔
      devClass.action = "add" ∧ devClass.devType = USB_DEVICE := by
  unfold ProcessPTPDeviceReads PTPDevice.setDeviceInfoReads
  split
  · rename_i hact
    simp [sMapDeviceActions_eq_add.mp hact]
  · rename_i hact
    exact iff_of_false (by simp) fun h => hact (sMapDeviceActions_eq_add.mpr h.1)

theorem PTPDeviceHandler.HandlerEventReads_ne_nil :
    HandlerEventReads devClass ≠ [] ↔ adds devClass = true ∧ devClass.devType = USB_DEVICE := by
  have hprocess := ProcessPTPDeviceReads_ne_nil devClass
  unfold HandlerEventReads adds
  by_cases hremove : devClass.action = "remove"
  · rw [if_pos hremove, hprocess]
    simp [hremove]
  · rw [if_neg hremove]
    by_cases hclass : contains devClass.interfaceClass iClass = true
    · rw [hclass, if_neg (by simp)]
      by_cases husb : devClass.devType = USB_DEVICE
      · by_cases hplayer : devClass.mediaPlayerId = "1"
        · simp [husb, hplayer]
        · rw [if_pos ⟨husb, hplayer⟩, hprocess]
          simp [husb, hplayer]
      · rw [if_neg fun h => husb h.1]
        refine iff_of_false ?_ fun h => husb h.2
        split
        · rw [hprocess]
          exact fun h => husb h.2
        · simp
    · simp [hclass]

theorem HIDDeviceHandler.ProcessHIDDeviceReads_ne_nil :
    ProcessHIDDeviceReads devClass ≠ [] ↔
      devClass.action = "add" ∧ devClass.devType ≠ USB_DEVICE := by
  unfold ProcessHIDDeviceReads HIDDevice.setDeviceInfoReads
  split
  · rename_i hact
    rw [if_pos (sMapDeviceActions_eq_add.mp hact)]
    simp [sMapDeviceActions_eq_add.mp hact]
  · rename_i hact
    exact iff_of_false (by simp) fun h => hact (sMapDeviceActions_eq_add.mpr h.1)

theorem HIDDeviceHandler.HandlerEventReads_ne_nil (h : DeviceList Device) :
    HandlerEventReads env s devClass h ≠ [] ↔
      contains devClass.interfaceClass iClass = true ∧ devClass.action = "add" ∧
        devClass.devType ≠ USB_DEVICE ∧ devClass.subsystemName = "input" := by
  have hprocess := ProcessHIDDeviceReads_ne_nil devClass
  unfold HandlerEventReads
  by_cases hadd : devClass.action = "add"
  · have hremove : devClass.action ≠ "remove" := by
      rw [hadd]
      decide
    simp only [hremove, if_false, List.nil_append, false_and]
    by_cases hclass : contains devClass.interfaceClass iClass = true
    · rw [hclass, if_neg (by simp)]
      by_cases husb : devClass.devType = USB_DEVICE
      · rw [if_pos husb, hprocess]
        simp [husb]
      · rw [if_neg husb]
        by_cases hinput : devClass.subsystemName = "input"
        · rw [if_pos hinput, hprocess]
          simp [hadd, husb, hinput]
        · simp [hinput]
    · simp [hclass]
  · have hnil : ProcessHIDDeviceReads devClass = [] := by
      by_contra hne
      exact hadd (hprocess.mp hne).1
    refine iff_of_false (not_not.mpr ?_) fun h => hadd h.2.1
    simp [hnil]

theorem SoundDeviceHandler.ProcessSoundDeviceReads_ne_nil (h : DeviceList SoundDevice) :
    ProcessSoundDeviceReads devClass h ≠ [] ↔
      (devClass.action = "add" ∨ devClass.action = "change") ∧ devClass.subsystemName = "sound" ∧
        (getDeviceWithPath h.sList devClass.devPath).isSome = true := by
  have hsound : SoundDevice.updateDeviceInfoReads devClass ≠ [] ↔
      devClass.subsystemName = "sound" := by
    unfold SoundDevice.updateDeviceInfoReads
    simp
  unfold ProcessSoundDeviceReads
  cases getDeviceWithPath h.sList devClass.devPath with
  | none =>
    refine iff_of_false (not_not_intro ?_) (by simp)
    dsimp only
    split <;> rfl
  | some d =>
    dsimp only
    split
    · rename_i hact
      refine hsound.trans ?_
      simp [sMapDeviceActions_eq_add.mp hact]
    · rename_i hact
      refine hsound.trans ?_
      simp [sMapDeviceActions_eq_change.mp hact]
    · rename_i hadd hchange
      refine iff_of_false (by simp) fun h => ?_
      rcases h.1 with hact | hact
      · exact hadd (sMapDeviceActions_eq_add.mpr hact)
      · exact hchange (sMapDeviceActions_eq_change.mpr hact)

theorem SoundDeviceHandler.HandlerEventReads_ne_nil (h : DeviceList SoundDevice) :
    HandlerEventReads devClass h ≠ [] ↔
      (devClass.action = "add" ∨ devClass.action = "change") ∧ devClass.subsystemName = "sound" ∧
        (getDeviceWithPath h.sList devClass.devPath).isSome = true := by
  have hprocess := ProcessSoundDeviceReads_ne_nil devClass h
  unfold HandlerEventReads
  by_cases hsound : devClass.subsystemName = "sound"
  · have htaken : isSoundDevice devClass = true := by simp [isSoundDevice, hsound]
    rw [htaken, if_neg (by simp), if_pos hsound, ite_self]
    exact hprocess
  · have hnil : ProcessSoundDeviceReads devClass h = [] := by
      by_contra hne
      exact hsound (hprocess.mp hne).2.1
    rw [hnil]
    simp [hsound]

theorem VideoDeviceHandler.ProcessVideoDeviceReads_ne_nil (h : VideoDeviceHandler) :
    ProcessVideoDeviceReads devClass h ≠ [] ↔
      devClass.action = "add" ∧ devClass.subsystemName = "video4linux" ∧
        (getDeviceWithPath h.sList devClass.devPath).isSome = true := by
  unfold ProcessVideoDeviceReads VideoDevice.updateDeviceInfoReads
  split
  · rename_i hact
    have hadd := sMapDeviceActions_eq_add.mp hact
    cases getDeviceWithPath h.sList devClass.devPath with
    | none => simp
    | some d =>
      by_cases hvideo : devClass.subsystemName = "video4linux"
      · simp only [hvideo, if_true, and_true]
        refine iff_of_true (fun hnil => ?_) ⟨hadd, by simp⟩
        have hleft := (List.append_eq_nil_iff.mp hnil).1
        split at hleft
        · exact absurd hleft (by simp)
        · exact absurd hleft (by simp)
      · simp [hvideo]
  · rename_i hact
    exact iff_of_false (by simp) fun h => hact (sMapDeviceActions_eq_add.mpr h.1)

theorem VideoDeviceHandler.HandlerEventReads_ne_nil (h : VideoDeviceHandler) :
    h.HandlerEventReads devClass ≠ [] ↔
      contains devClass.interfaceClass iClass = true ∧ devClass.action = "add" ∧
        devClass.subsystemName = "video4linux" ∧
          (getDeviceWithPath h.sList devClass.devPath).isSome = true := by
  have hprocess := ProcessVideoDeviceReads_ne_nil devClass h
  unfold HandlerEventReads
  by_cases hvideo : devClass.action = "add" ∧ devClass.subsystemName = "video4linux"
  · have hremove : devClass.action ≠ "remove" := by
      rw [hvideo.1]
      decide
    by_cases hclass : contains devClass.interfaceClass iClass = true
    · rw [if_neg (by simp [hclass]), if_pos hvideo.2, ite_self, hprocess]
      simp [hclass]
    · rw [if_pos ⟨by simpa using hclass, hremove⟩]
      simp [hclass]
  · have hnil : ProcessVideoDeviceReads devClass h = [] := by
      by_contra hne
      have hall := hprocess.mp hne
      exact hvideo ⟨hall.1, hall.2.1⟩
    rw [hnil]
    refine iff_of_false (by simp) fun h => hvideo ⟨h.2.1, h.2.2.1⟩

theorem GamepadDeviceHandler.HandlerEventReads_ne_nil (h : DeviceList Device) :
    HandlerEventReads env s devClass h ≠ [] ↔
      ¬ (devClass.action = "remove" ∧
        (getDeviceWithPath h.sList devClass.devPath).isSome = true) := by
  unfold HandlerEventReads
  by_cases hremove : devClass.action = "remove"
  · unfold ProcessGamepadDevice removeByPath
    simp only [hremove, if_true, sMapDeviceActions_remove, true_and]
    cases hfound : getDeviceWithPath h.sList devClass.devPath with
    | none => simp
    | some d => simp
  · simp [hremove]

theorem CdcDeviceHandler.identifyCdcDeviceReads_eq_nil :
    identifyCdcDeviceReads devClass = [] ↔ contains devClass.interfaceClass iClass = true := by
  unfold identifyCdcDeviceReads
  split
  · exact iff_of_true rfl ‹_›
  · refine iff_of_false ?_ ‹_›
    split
    · simp
    · split
      · simp
      · simp

/-- A CDC device that an add is about reads the event: a new one always, one that is listed
when it is a network device's. -/
def CdcDeviceHandler.AddConsults (h : CdcDeviceHandler) (devClass : DeviceClass) : Prop :=
  devClass.action = "add" ∧
    (devClass.devType = USB_DEVICE ∨ devClass.subsystemName = "net" ∨
      devClass.subsystemName = "tty") ∧
    ∀ d, getDeviceWithPath h.sList devClass.devPath = some d →
      devClass.subsystemName = "net" ∧ d.deviceType ≠ CdcDevice.MODEM_DONGLE

theorem CdcDeviceHandler.ProcessCdcDeviceReads_ne_nil (h : DeviceList CdcDevice) :
    ProcessCdcDeviceReads devClass h ≠ [] ↔
      devClass.action = "add" ∧ ∀ d, getDeviceWithPath h.sList devClass.devPath = some d →
        devClass.subsystemName = "net" ∧ d.deviceType ≠ CdcDevice.MODEM_DONGLE := by
  unfold ProcessCdcDeviceReads
  split
  · rename_i hact
    have hadd := sMapDeviceActions_eq_add.mp hact
    cases getDeviceWithPath h.sList devClass.devPath with
    | none => simp [hadd]
    | some d =>
      unfold CdcDevice.updateDeviceInfoReads
      by_cases hnet : devClass.subsystemName = "net" ∧ d.deviceType ≠ CdcDevice.MODEM_DONGLE
      · simp [hadd, hnet]
      · simp [hadd, hnet]
  · rename_i hact
    exact iff_of_false (by simp) fun h => hact (sMapDeviceActions_eq_add.mpr h.1)

theorem CdcDeviceHandler.HandlerEventReads_ne_nil (h : CdcDeviceHandler) :
    h.HandlerEventReads env s devClass ≠ [] ↔
      ¬ (devClass.action = "remove" ∧
          (getDeviceWithPath h.sList devClass.devPath).isSome = true) ∧
        (contains devClass.interfaceClass iClass = false ∨ h.AddConsults devClass) := by
  have hprocess := ProcessCdcDeviceReads_ne_nil devClass h.toDeviceList
  unfold HandlerEventReads AddConsults
  by_cases hremove : devClass.action = "remove"
  · have hadd : devClass.action ≠ "add" := by
      rw [hremove]
      decide
    have hnil : ∀ l : DeviceList CdcDevice, ProcessCdcDeviceReads devClass l = [] := by
      intro l
      by_contra hne
      exact hadd ((ProcessCdcDeviceReads_ne_nil devClass l).mp hne).1
    unfold ProcessCdcDevice removeByPath
    simp only [hremove, if_true, sMapDeviceActions_remove, true_and, hnil, List.nil_append,
      ite_self, List.append_nil]
    cases hfound : getDeviceWithPath h.sList devClass.devPath with
    | some d => simp
    | none => simp [identifyCdcDeviceReads_eq_nil devClass]
  · simp only [hremove, if_false, false_and, List.nil_append, not_false_eq_true, true_and]
    rw [ne_eq, List.append_eq_nil_iff, identifyCdcDeviceReads_eq_nil devClass]
    by_cases hclass : contains devClass.interfaceClass iClass = true
    · have htaken : identifyCdcDevice devClass h = true := by simp [identifyCdcDevice, hclass]
      simp only [hclass, htaken, Bool.true_eq_false, if_false, true_and, false_or]
      by_cases husb : devClass.devType = USB_DEVICE
      · simp only [husb, if_true, true_or, true_and]
        exact hprocess
      · by_cases hnet : devClass.subsystemName = "net" ∨ devClass.subsystemName = "tty"
        · simp only [husb, if_false, hnet, if_true, or_true, true_and]
          exact hprocess
        · simp [husb, hnet]
    · exact iff_of_true (fun h => hclass h.1) (Or.inl (by simpa using hclass))

end Others

/-! ### All handlers -/

/-- The getters all belong to one subclass. -/
def ReadsOnly (subsystem : Subsystem) (l : List Getter) : Prop := ∀ g ∈ l, g.subsystem = subsystem

namespace ReadsOnly

variable {subsystem : Subsystem} {l m : List Getter}

theorem nil : ReadsOnly subsystem [] := fun _ hg => absurd hg (by simp)

theorem append (hl : ReadsOnly subsystem l) (hm : ReadsOnly subsystem m) :
    ReadsOnly subsystem (l ++ m) := by
  intro g hg
  rcases List.mem_append.mp hg with hg | hg
  · exact hl g hg
  · exact hm g hg

/-- A list of getters that is written down. -/
theorem of_all (h : l.all (·.subsystem = subsystem) = true) : ReadsOnly subsystem l := by
  intro g hg
  simpa using List.all_eq_true.mp h g hg

end ReadsOnly

namespace StorageDevice

variable (env : Env) (s : Sys) (d : StorageDevice) (devClass : DeviceClass)

theorem updateDiskInfoReads_only : ReadsOnly .storage (updateDiskInfoReads env s devClass d) := by
  unfold updateDiskInfoReads setStorageInterfaceTypeReads
  split
  · split <;> exact ReadsOnly.of_all rfl
  · split
    · exact ReadsOnly.nil
    · split <;> exact ReadsOnly.of_all rfl
  · exact ReadsOnly.nil

theorem setDeviceInfoReads_only : ReadsOnly .storage (setDeviceInfoReads env s devClass d) := by
  unfold setDeviceInfoReads
  split
  · exact ReadsOnly.nil
  · split
    · exact ReadsOnly.of_all rfl
    · refine ((updateDiskInfoReads_only env s d devClass).append ?_).append ?_
      · unfold updateMultiSdCardReads
        split <;> exact ReadsOnly.of_all rfl
      · unfold checkSdCardAddRemoveReads
        split
        · exact ReadsOnly.nil
        · split <;> exact ReadsOnly.of_all rfl
    · exact ReadsOnly.nil

end StorageDevice

namespace StorageDeviceHandler

variable (cfg : Config) (env : Env) (s : Sys) (h : StorageDeviceHandler) (devClass : DeviceClass)

theorem createStorageDeviceReads_only (reader : Option StorageDevice) :
    ReadsOnly .storage (createStorageDeviceReads cfg env s devClass h reader) := by
  unfold createStorageDeviceReads
  split
  · exact ReadsOnly.nil
  · exact StorageDevice.setDeviceInfoReads_only env s.alloc _ devClass

theorem checkStorageDeviceReads_only :
    ReadsOnly .storage (checkStorageDeviceReads cfg env s devClass h) := by
  unfold checkStorageDeviceReads
  split
  · split
    · exact createStorageDeviceReads_only cfg env s h devClass _
    · exact ReadsOnly.nil
  · split
    · exact StorageDevice.setDeviceInfoReads_only env s _ devClass
    · split
      · exact StorageDevice.setDeviceInfoReads_only env s _ devClass
      · exact createStorageDeviceReads_only cfg env s h devClass _

theorem HandlerEventReads_only :
    ReadsOnly .storage (HandlerEventReads cfg env s devClass h) := by
  unfold HandlerEventReads
  split
  · exact ReadsOnly.nil
  · refine ReadsOnly.append ?_ ?_
    · unfold isStorageDeviceReads
      split <;> exact ReadsOnly.of_all rfl
    · split
      · exact ReadsOnly.nil
      · split
        · unfold ProcessStorageDeviceReads
          split
          · exact checkStorageDeviceReads_only cfg env s h devClass
          · exact checkStorageDeviceReads_only cfg env s h devClass
          · exact ReadsOnly.nil
        · exact ReadsOnly.nil

end StorageDeviceHandler

namespace CdcDeviceHandler

variable (env : Env) (s : Sys) (devClass : DeviceClass)

theorem ProcessCdcDeviceReads_only (h : DeviceList CdcDevice) :
    ReadsOnly .cdc (ProcessCdcDeviceReads devClass h) := by
  unfold ProcessCdcDeviceReads
  split
  · split
    · refine ReadsOnly.append ?_ (ReadsOnly.of_all rfl)
      unfold CdcDevice.setDeviceInfoReads
      refine ReadsOnly.append ?_ ?_
      · split <;> exact ReadsOnly.of_all rfl
      · split
        · split <;> exact ReadsOnly.of_all rfl
        · exact ReadsOnly.nil
    · unfold CdcDevice.updateDeviceInfoReads
      split <;> exact ReadsOnly.of_all rfl
  · exact ReadsOnly.nil

theorem identifyCdcDeviceReads_only : ReadsOnly .cdc (identifyCdcDeviceReads devClass) := by
  unfold identifyCdcDeviceReads
  split
  · exact ReadsOnly.nil
  · split
    · exact ReadsOnly.of_all rfl
    · split <;> exact ReadsOnly.of_all rfl

theorem HandlerEventReads_only (h : CdcDeviceHandler) :
    ReadsOnly .cdc (h.HandlerEventReads env s devClass) := by
  unfold HandlerEventReads
  dsimp only
  generalize (if devClass.action = "remove" then
    ProcessCdcDevice env devClass s { h with deviceRemoved := false } else ⟨s, h, ()⟩) = r
  refine ReadsOnly.append ?_ ?_
  · split
    · exact ProcessCdcDeviceReads_only devClass _
    · exact ReadsOnly.nil
  · split
    · exact ReadsOnly.nil
    · refine ReadsOnly.append (identifyCdcDeviceReads_only devClass) ?_
      split
      · exact ReadsOnly.nil
      · split
        · exact ProcessCdcDeviceReads_only devClass _
        · split
          · exact ProcessCdcDeviceReads_only devClass _
          · exact ReadsOnly.nil

end CdcDeviceHandler

section

variable (env : Env) (s : Sys) (devClass : DeviceClass)

theorem MTPDeviceHandler.HandlerEventReads_only : ReadsOnly .mtp (HandlerEventReads devClass) := by
  unfold HandlerEventReads MTPDevice.setDeviceInfoReads
  split
  · split
    · split
      · exact ReadsOnly.nil
      · split <;> exact ReadsOnly.of_all rfl
    · exact ReadsOnly.nil
  · exact ReadsOnly.nil

theorem PTPDeviceHandler.HandlerEventReads_only : ReadsOnly .ptp (HandlerEventReads devClass) := by
  have hprocess : ReadsOnly .ptp (ProcessPTPDeviceReads devClass) := by
    unfold ProcessPTPDeviceReads PTPDevice.setDeviceInfoReads
    split
    · split <;> exact ReadsOnly.of_all rfl
    · exact ReadsOnly.nil
  unfold HandlerEventReads
  split
  · exact hprocess
  · split
    · exact ReadsOnly.nil
    · split
      · exact hprocess
      · split
        · exact hprocess
        · exact ReadsOnly.nil

theorem HIDDeviceHandler.HandlerEventReads_only (h : DeviceList Device) :
    ReadsOnly .hid (HandlerEventReads env s devClass h) := by
  have hprocess : ReadsOnly .hid (ProcessHIDDeviceReads devClass) := by
    unfold ProcessHIDDeviceReads HIDDevice.setDeviceInfoReads
    split
    · split
      · split <;> exact ReadsOnly.of_all rfl
      · exact ReadsOnly.nil
    · exact ReadsOnly.nil
  unfold HandlerEventReads
  dsimp only
  generalize (if devClass.action = "remove" then
    ProcessHIDDevice env devClass s { h with deviceRemoved := false } else ⟨s, h, ()⟩) = r
  refine ReadsOnly.append ?_ ?_
  · split
    · exact hprocess
    · exact ReadsOnly.nil
  · split
    · exact ReadsOnly.nil
    · split
      · exact ReadsOnly.nil
      · split
        · exact hprocess
        · split
          · exact hprocess
          · exact ReadsOnly.nil

theorem SoundDeviceHandler.HandlerEventReads_only (h : DeviceList SoundDevice) :
    ReadsOnly .sound (HandlerEventReads devClass h) := by
  have hupdate : ReadsOnly .sound (SoundDevice.updateDeviceInfoReads devClass) := by
    unfold SoundDevice.updateDeviceInfoReads
    split <;> exact ReadsOnly.of_all rfl
  have hprocess : ReadsOnly .sound (ProcessSoundDeviceReads devClass h) := by
    unfold ProcessSoundDeviceReads
    split
    · split
      · exact ReadsOnly.nil
      · exact hupdate
    · split
      · exact ReadsOnly.nil
      · exact hupdate
    · exact ReadsOnly.nil
  unfold HandlerEventReads
  split
  · exact ReadsOnly.nil
  · split
    · exact hprocess
    · split
      · exact hprocess
      · exact ReadsOnly.nil

theorem VideoDeviceHandler.HandlerEventReads_only (h : VideoDeviceHandler) :
    ReadsOnly .video (h.HandlerEventReads devClass) := by
  have hprocess : ReadsOnly .video (h.ProcessVideoDeviceReads devClass) := by
    unfold ProcessVideoDeviceReads VideoDevice.updateDeviceInfoReads
    split
    · split
      · exact ReadsOnly.nil
      · refine ReadsOnly.append ?_ ?_
        · split
          · split <;> exact ReadsOnly.of_all rfl
          · exact ReadsOnly.nil
        · split <;> exact ReadsOnly.of_all rfl
    · exact ReadsOnly.nil
  unfold HandlerEventReads
  split
  · exact ReadsOnly.nil
  · split
    · exact hprocess
    · split
      · exact hprocess
      · exact ReadsOnly.nil

theorem GamepadDeviceHandler.HandlerEventReads_only (h : DeviceList Device) :
    ReadsOnly .gamepad (HandlerEventReads env s devClass h) := by
  unfold HandlerEventReads
  dsimp only
  generalize (if devClass.action = "remove" then
    ProcessGamepadDevice env devClass s { h with deviceRemoved := false } else ⟨s, h, ()⟩) = r
  split <;> exact ReadsOnly.of_all rfl

end

namespace World

variable (cfg : Config) (env : Env) (w : World) (devClass : DeviceClass)

/-- The handler reads the event with a getter of its own subclass. -/
def Consults : HandlerKind → Prop
  | .storage => devClass.action ≠ "remove" ∧
      (contains devClass.interfaceClass StorageDeviceHandler.iClass = false ∨
        (StorageDeviceHandler.target cfg w.sys.next w.storage devClass).Consults env devClass)
  | .mtp => MTPDeviceHandler.adds devClass = true ∧ devClass.devName ≠ "" ∧
      devClass.devType = USB_DEVICE
  | .ptp => PTPDeviceHandler.adds devClass = true ∧ devClass.devType = USB_DEVICE
  | .hid => contains devClass.interfaceClass HIDDeviceHandler.iClass = true ∧
      devClass.action = "add" ∧ devClass.devType ≠ USB_DEVICE ∧ devClass.subsystemName = "input"
  | .sound => (devClass.action = "add" ∨ devClass.action = "change") ∧
      devClass.subsystemName = "sound" ∧
        (getDeviceWithPath w.sound.sList devClass.devPath).isSome = true
  | .video => contains devClass.interfaceClass VideoDeviceHandler.iClass = true ∧
      devClass.action = "add" ∧ devClass.subsystemName = "video4linux" ∧
        (getDeviceWithPath w.video.sList devClass.devPath).isSome = true
  | .gamepad => ¬ (devClass.action = "remove" ∧
      (getDeviceWithPath w.gamepad.sList devClass.devPath).isSome = true)
  | .cdc => ¬ (devClass.action = "remove" ∧
        (getDeviceWithPath w.cdc.sList devClass.devPath).isSome = true) ∧
      (contains devClass.interfaceClass CdcDeviceHandler.iClass = false ∨
        w.cdc.AddConsults devClass)
  | _ => False

theorem HandlerEventReads_ne_nil (kind : HandlerKind) :
    w.HandlerEventReads cfg env devClass kind ≠ [] ↔ w.Consults cfg env devClass kind := by
  cases kind with
  | storage => exact w.storage.HandlerEventReads_ne_nil cfg env w.sys devClass
  | mtp => exact MTPDeviceHandler.HandlerEventReads_ne_nil devClass
  | ptp => exact PTPDeviceHandler.HandlerEventReads_ne_nil devClass
  | hid => exact HIDDeviceHandler.HandlerEventReads_ne_nil env w.sys devClass w.hid
  | nfc => exact iff_of_false (by simp [HandlerEventReads]) id
  | sound => exact SoundDeviceHandler.HandlerEventReads_ne_nil devClass w.sound
  | video => exact w.video.HandlerEventReads_ne_nil devClass
  | gamepad => exact GamepadDeviceHandler.HandlerEventReads_ne_nil env w.sys devClass w.gamepad
  | bluetooth => exact iff_of_false (by simp [HandlerEventReads]) id
  | cdc => exact w.cdc.HandlerEventReads_ne_nil env w.sys devClass

/-- A handler calls no getter of another handler's subclass. -/
theorem HandlerEventReads_only (kind : HandlerKind) :
    ReadsOnly (castTo kind) (w.HandlerEventReads cfg env devClass kind) := by
  cases kind with
  | storage => exact w.storage.HandlerEventReads_only cfg env w.sys devClass
  | mtp => exact MTPDeviceHandler.HandlerEventReads_only devClass
  | ptp => exact PTPDeviceHandler.HandlerEventReads_only devClass
  | hid => exact HIDDeviceHandler.HandlerEventReads_only env w.sys devClass w.hid
  | nfc => exact ReadsOnly.nil
  | sound => exact SoundDeviceHandler.HandlerEventReads_only devClass w.sound
  | video => exact w.video.HandlerEventReads_only devClass
  | gamepad => exact GamepadDeviceHandler.HandlerEventReads_only env w.sys devClass w.gamepad
  | bluetooth => exact ReadsOnly.nil
  | cdc => exact w.cdc.HandlerEventReads_only env w.sys devClass

/-- **Classification and handling.**  Every getter a handler calls belongs to the object it is
given exactly when the handler calls none, or its subclass is the first of the table to take
the properties. -/
theorem casts_agree_iff (mDevMap : List Subsystem) (p : PropMap) (kind : HandlerKind) :
    (∀ g ∈ w.HandlerEventReads cfg env (DeviceClass.ofProps p) kind,
        DeviceClassFactory.create mDevMap p = some g.subsystem) ↔
      (w.Consults cfg env (DeviceClass.ofProps p) kind →
        DeviceClassFactory.ComesFirst mDevMap p (castTo kind)) := by
  have hne : castTo kind ≠ .default := by cases kind <;> simp [castTo]
  have honly := w.HandlerEventReads_only cfg env (DeviceClass.ofProps p) kind
  rw [← HandlerEventReads_ne_nil, ← DeviceClassFactory.create_eq_iff hne]
  constructor
  · intro hall hread
    obtain ⟨g, hg⟩ := List.exists_mem_of_ne_nil _ hread
    rw [← honly g hg]
    exact hall g hg
  · intro hfirst g hg
    rw [honly g hg]
    exact hfirst (List.ne_nil_of_mem hg)

/-- A media player that is plugged in. -/
def playerProps : PropMap :=
  parseDevProps [("ACTION", "add"), ("DEVTYPE", "usb_device"), ("SUBSYSTEM", "usb"),
    ("DEVNAME", "/dev/bus/usb/001/005"), ("DEVLINKS", "/dev/libmtp-1-3"),
    ("ID_USB_INTERFACES", ":ffff00:"), ("ID_MEDIA_PLAYER", "1")] false

/-- The media player handler reads what it is given as an object of its own subclass, and it is
not one. -/
theorem player_is_no_player :
    ¬ ∀ g ∈ ({} : World).HandlerEventReads .tmpUsb {} (DeviceClass.ofProps playerProps) .mtp,
      DeviceClassFactory.create DeviceClassFactory.registered playerProps = some g.subsystem := by
  intro hall
  have hread : Getter.getDevLinks ∈
      ({} : World).HandlerEventReads .tmpUsb {} (DeviceClass.ofProps playerProps) .mtp := by
    decide
  have hfirst := (DeviceClassFactory.create_eq_iff (by decide)).mp (hall _ hread)
  exact DeviceClassFactory.not_comesFirst_mtp hfirst

end World

end Pdm
