/-
Which device an event goes to.

`target` is the device an add or change event is handed to: one of the list, or a new
one.  It is a function of the list and the event, and `HandlerEvent_outcome` says that
the storage handler does nothing else with an event: it hands it to that device, or
drops the device that `removedDevice` finds.  `HandedTo`, `OpensDevice` and `OpensSlot` say
whom it is handed to by how the devices stand in the list.
-/
import Pdm.Lib.Foremost
import Pdm.Proofs.Removal
import Pdm.Proofs.Uevents

namespace Pdm

namespace StorageDeviceHandler

/-! ### The target of an event -/

/-- Whom an event is handed to. -/
inductive Target where
  | nobody
  | listed (d : StorageDevice)
  | new (d : StorageDevice)
  deriving DecidableEq

/-- The device that is told of the event. -/
def Target.told : Target → Option StorageDevice
  | .nobody => none
  | .listed d => some d
  | .new d => some d

/-- The device `createStorageDevice` makes, before it is told of the event. -/
def newDevice (cfg : Config) (address : Nat) (devClass : DeviceClass)
    (reader : Option StorageDevice) : StorageDevice :=
  match reader with
  | none => StorageDevice.new address devClass.devPath cfg.rootPath
  | some device =>
    { StorageDevice.new address devClass.devPath cfg.rootPath with
      isExtraSdCard := true }.setExtraSdCardDetails device.toDevice

/-- A new device, as long as there is room for one. -/
def newTarget (cfg : Config) (address : Nat) (h : StorageDeviceHandler) (devClass : DeviceClass)
    (reader : Option StorageDevice) : Target :=
  if h.storageList.length ≥ cfg.maxUsbStorageDevices then .nobody
  else .new (newDevice cfg address devClass reader)

/-- The handler takes the event as one that adds or changes a device. -/
def takes (devClass : DeviceClass) : Bool :=
  isStorageDevice devClass
    && (devClass.devType = USB_DEVICE || devClass.subsystemName = "block")
    && (devClass.action = "add" || devClass.action = "change")

/-- The device an event is handed to. -/
def target (cfg : Config) (address : Nat) (h : StorageDeviceHandler) (devClass : DeviceClass) :
    Target :=
  if takes devClass = false then .nobody
  else
    match getDeviceWithPath h.storageList devClass.devPath with
    | none => if devClass.devType = USB_DEVICE then newTarget cfg address h devClass none else .nobody
    | some storageDevPath =>
      if storageDevPath.deviceName = "" then .listed storageDevPath
      else
        match getDeviceWithName h.storageList devClass.devName with
        | some storageDevName => .listed storageDevName
        | none => newTarget cfg address h devClass (some storageDevPath)

theorem target_taken (cfg : Config) (address : Nat) (h : StorageDeviceHandler)
    {devClass : DeviceClass} (htakes : takes devClass = true) :
    target cfg address h devClass =
      match getDeviceWithPath h.storageList devClass.devPath with
      | none =>
        if devClass.devType = USB_DEVICE then newTarget cfg address h devClass none else .nobody
      | some storageDevPath =>
        if storageDevPath.deviceName = "" then .listed storageDevPath
        else
          match getDeviceWithName h.storageList devClass.devName with
          | some storageDevName => .listed storageDevName
          | none => newTarget cfg address h devClass (some storageDevPath) := by
  unfold target
  rw [if_neg (by simp [htakes])]

section NewDevice

variable (cfg : Config) (address : Nat) (devClass : DeviceClass) (reader : Option StorageDevice)

@[simp] theorem newDevice_address : (newDevice cfg address devClass reader).address = address := by
  unfold newDevice; split <;> rfl

@[simp] theorem newDevice_node : (newDevice cfg address devClass reader).node = devClass.devPath := by
  unfold newDevice; split <;> rfl

@[simp] theorem newDevice_list : (newDevice cfg address devClass reader).diskPartitionList = [] := by
  unfold newDevice; split <;> rfl

@[simp] theorem newDevice_rootPath :
    (newDevice cfg address devClass reader).rootPath = cfg.rootPath := by
  unfold newDevice; split <;> rfl

@[simp] theorem newDevice_configRootPath :
    (newDevice cfg address devClass reader).configRootPath = cfg.rootPath := by
  unfold newDevice; split <;> rfl

end NewDevice

/-! ### The target by the order of the list -/

/-- The stored path of a device is the front of the event's path. -/
def PathMatches (devClass : DeviceClass) (d : StorageDevice) : Prop :=
  startsWith devClass.devPath d.devicePath = true

/-- The name of a device is the front of the event's name. -/
def NameMatches (devClass : DeviceClass) (d : StorageDevice) : Prop :=
  startsWith devClass.devName d.deviceName = true

/-- The listed device that an event is handed to: the foremost one whose path matches while
that has no name, and once it has one, the foremost one whose name matches. -/
inductive HandedTo (l : List StorageDevice) (devClass : DeviceClass) : StorageDevice → Prop
  | byPath {d} (hd : Foremost (PathMatches devClass) l d) (hname : d.deviceName = "") :
      HandedTo l devClass d
  | byName {f d} (hf : Foremost (PathMatches devClass) l f) (hname : f.deviceName ≠ "")
      (hd : Foremost (NameMatches devClass) l d) : HandedTo l devClass d

/-- A device is made for the event of a USB device that no path matches. -/
def OpensDevice (cfg : Config) (l : List StorageDevice) (devClass : DeviceClass) : Prop :=
  devClass.devType = USB_DEVICE ∧ l.length < cfg.maxUsbStorageDevices ∧
    ∀ d ∈ l, ¬ PathMatches devClass d

/-- A further slot is made for an event that a named device's path matches, foremost, and
no name. -/
def OpensSlot (cfg : Config) (l : List StorageDevice) (devClass : DeviceClass) : Prop :=
  l.length < cfg.maxUsbStorageDevices ∧
  (∃ f, Foremost (PathMatches devClass) l f ∧ f.deviceName ≠ "") ∧
  ∀ d ∈ l, ¬ NameMatches devClass d

section Order

variable {cfg : Config} {address : Nat} {h : StorageDeviceHandler} {devClass : DeviceClass}
  {d x : StorageDevice}

theorem byPath_iff :
    getDeviceWithPath h.storageList devClass.devPath = some d ↔
      Foremost (PathMatches devClass) h.storageList d := Foremost.iff_find?.symm

theorem byName_iff :
    getDeviceWithName h.storageList devClass.devName = some d ↔
      Foremost (NameMatches devClass) h.storageList d := Foremost.iff_find?.symm

theorem byPath_none_iff :
    getDeviceWithPath h.storageList devClass.devPath = none ↔
      ∀ d ∈ h.storageList, ¬ PathMatches devClass d := List.find?_eq_none

theorem byName_none_iff :
    getDeviceWithName h.storageList devClass.devName = none ↔
      ∀ d ∈ h.storageList, ¬ NameMatches devClass d := List.find?_eq_none

theorem newTarget_ne_listed (reader : Option StorageDevice) :
    newTarget cfg address h devClass reader ≠ .listed d := by
  unfold newTarget
  split <;> simp

theorem newTarget_eq_new_iff {reader : Option StorageDevice} :
    newTarget cfg address h devClass reader = .new x ↔
      h.storageList.length < cfg.maxUsbStorageDevices ∧
        x = newDevice cfg address devClass reader := by
  unfold newTarget
  split
  · next hfull => simp [Nat.not_lt.mpr hfull]
  · next hfull =>
    rw [and_iff_right (by omega), Target.new.injEq]
    exact eq_comm

theorem target_listed_iff (htakes : takes devClass = true) :
    target cfg address h devClass = .listed d ↔ HandedTo h.storageList devClass d := by
  rw [target_taken cfg address h htakes]
  constructor
  · intro htarget
    cases hpath : getDeviceWithPath h.storageList devClass.devPath with
    | none =>
      rw [hpath] at htarget
      dsimp only at htarget
      split at htarget
      · exact absurd htarget (newTarget_ne_listed _)
      · exact absurd htarget (by simp)
    | some f =>
      rw [hpath] at htarget
      dsimp only at htarget
      split at htarget
      · next hname =>
        rw [Target.listed.injEq] at htarget
        rw [← htarget]
        exact .byPath (byPath_iff.mp hpath) hname
      · next hname =>
        cases hdev : getDeviceWithName h.storageList devClass.devName with
        | none =>
          rw [hdev] at htarget
          exact absurd htarget (newTarget_ne_listed _)
        | some e =>
          rw [hdev] at htarget
          dsimp only at htarget
          rw [Target.listed.injEq] at htarget
          rw [← htarget]
          exact .byName (byPath_iff.mp hpath) hname (byName_iff.mp hdev)
  · intro hhanded
    cases hhanded with
    | byPath hd hname =>
      rw [byPath_iff.mpr hd]
      dsimp only
      rw [if_pos hname]
    | byName hf hname hd =>
      rw [byPath_iff.mpr hf]
      dsimp only
      rw [if_neg hname, byName_iff.mpr hd]

/-- A new device is made as `OpensDevice` and `OpensSlot` say. -/
theorem target_new_iff (htakes : takes devClass = true) :
    target cfg address h devClass = .new x ↔
      (OpensDevice cfg h.storageList devClass ∧ x = newDevice cfg address devClass none) ∨
      (OpensSlot cfg h.storageList devClass ∧ ∃ f, Foremost (PathMatches devClass) h.storageList f ∧
        x = newDevice cfg address devClass (some f)) := by
  rw [target_taken cfg address h htakes]
  constructor
  · intro htarget
    cases hpath : getDeviceWithPath h.storageList devClass.devPath with
    | none =>
      rw [hpath] at htarget
      dsimp only at htarget
      split at htarget
      · next husb =>
        obtain ⟨hlt, hx⟩ := newTarget_eq_new_iff.mp htarget
        exact Or.inl ⟨⟨husb, hlt, byPath_none_iff.mp hpath⟩, hx⟩
      · exact absurd htarget (by simp)
    | some f =>
      rw [hpath] at htarget
      dsimp only at htarget
      split at htarget
      · exact absurd htarget (by simp)
      · next hname =>
        cases hdev : getDeviceWithName h.storageList devClass.devName with
        | some e =>
          rw [hdev] at htarget
          exact absurd htarget (by simp)
        | none =>
          rw [hdev] at htarget
          obtain ⟨hlt, hx⟩ := newTarget_eq_new_iff.mp htarget
          have hf := byPath_iff.mp hpath
          exact Or.inr ⟨⟨hlt, ⟨f, hf, hname⟩, byName_none_iff.mp hdev⟩, f, hf, hx⟩
  · intro hopens
    rcases hopens with ⟨⟨husb, hlt, hnone⟩, hx⟩ | ⟨⟨hlt, ⟨f, hf, hname⟩, hnone⟩, g, hg, hx⟩
    · rw [byPath_none_iff.mpr hnone]
      dsimp only
      rw [if_pos husb]
      exact newTarget_eq_new_iff.mpr ⟨hlt, hx⟩
    · obtain rfl := hf.unique hg
      rw [byPath_iff.mpr hf]
      dsimp only
      rw [if_neg hname, byName_none_iff.mpr hnone]
      exact newTarget_eq_new_iff.mpr ⟨hlt, hx⟩

end Order

/-! ### What the handler does with an event -/

/-- What an event leaves. -/
inductive EventOutcome (cfg : Config) (env : Env) (s : Sys) (h : StorageDeviceHandler)
    (devClass : DeviceClass) (t : Sys) (l : List StorageDevice) : Prop
  | ignored (htarget : target cfg s.next h devClass = .nobody) (hs : StorageDevice.Untouched s t)
      (hl : l = h.storageList)
  | handed (d : StorageDevice) (htarget : target cfg s.next h devClass = .listed d)
      (hmem : d ∈ h.storageList) (ht : t = (d.setDeviceInfo env s devClass).state)
      (hl : l = writeBack h.storageList (d.setDeviceInfo env s devClass).obj)
  | created (reader : Option StorageDevice)
      (htarget : target cfg s.next h devClass = .new (newDevice cfg s.next devClass reader))
      (ht : t = ((newDevice cfg s.next devClass reader).setDeviceInfo env s.alloc devClass).state)
      (hl : l = h.storageList ++
        [((newDevice cfg s.next devClass reader).setDeviceInfo env s.alloc devClass).obj])
  | dropped (d : StorageDevice) (hremove : devClass.action = "remove")
      (hfound : removedDevice h devClass = some d)
      (ht : t = (dropStorageDevice env s h d).state) (hl : l = removePointer h.storageList d)

section Outcome

variable (cfg : Config) (env : Env) (s : Sys) (h : StorageDeviceHandler) (devClass : DeviceClass)

theorem createStorageDevice_outcome (reader : Option StorageDevice)
    (htarget : target cfg s.next h devClass = newTarget cfg s.next h devClass reader) :
    EventOutcome cfg env s h devClass (createStorageDevice cfg env s h devClass reader).state
      (createStorageDevice cfg env s h devClass reader).obj.storageList := by
  unfold newTarget at htarget
  unfold createStorageDevice
  by_cases hfull : h.storageList.length ≥ cfg.maxUsbStorageDevices
  · rw [if_pos hfull] at htarget ⊢
    refine .ignored htarget ⟨rfl, rfl, ?_⟩ rfl
    simp [Sys.notify_notables, Call.notable]
  · rw [if_neg hfull] at htarget ⊢
    refine .created reader htarget ?_ ?_
    · cases reader <;> rfl
    · cases reader <;> rfl

/-- What `checkStorageDevice` does is what `target` says. -/
theorem checkStorageDevice_cases (htakes : takes devClass = true) :
    (∃ d ∈ h.storageList, target cfg s.next h devClass = .listed d ∧
      checkStorageDevice cfg env s h devClass = updateStorageDevice env s h devClass d) ∨
    (∃ reader, target cfg s.next h devClass = newTarget cfg s.next h devClass reader ∧
      checkStorageDevice cfg env s h devClass = createStorageDevice cfg env s h devClass reader) ∨
    (target cfg s.next h devClass = .nobody ∧
      checkStorageDevice cfg env s h devClass = ⟨s, h, ()⟩) := by
  rw [target_taken cfg s.next h htakes]
  unfold checkStorageDevice
  cases hpath : getDeviceWithPath h.storageList devClass.devPath with
  | none =>
    dsimp only
    by_cases husb : devClass.devType = USB_DEVICE
    · rw [if_pos husb, if_pos husb]
      exact Or.inr (Or.inl ⟨none, rfl, rfl⟩)
    · rw [if_neg husb, if_neg husb]
      exact Or.inr (Or.inr ⟨rfl, rfl⟩)
  | some storageDevPath =>
    dsimp only
    by_cases hname : storageDevPath.deviceName = ""
    · rw [if_pos hname, if_pos hname]
      exact Or.inl ⟨storageDevPath, List.mem_of_find?_eq_some hpath, rfl, rfl⟩
    · rw [if_neg hname, if_neg hname]
      cases hdev : getDeviceWithName h.storageList devClass.devName with
      | some storageDevName =>
        exact Or.inl ⟨storageDevName, List.mem_of_find?_eq_some hdev, rfl, rfl⟩
      | none => exact Or.inr (Or.inl ⟨some storageDevPath, rfl, rfl⟩)

theorem checkStorageDevice_outcome (htakes : takes devClass = true) :
    EventOutcome cfg env s h devClass (checkStorageDevice cfg env s h devClass).state
      (checkStorageDevice cfg env s h devClass).obj.storageList := by
  rcases checkStorageDevice_cases cfg env s h devClass htakes with
    ⟨d, hmem, htarget, heq⟩ | ⟨reader, htarget, heq⟩ | ⟨htarget, heq⟩
  · rw [heq]
    exact .handed d htarget hmem rfl rfl
  · rw [heq]
    exact createStorageDevice_outcome cfg env s h devClass reader htarget
  · rw [heq]
    exact .ignored htarget (StorageDevice.Untouched.refl s) rfl

/-- An event that is neither a removal nor taken leaves all as it is. -/
theorem ProcessStorageDevice_cases (htaken : isStorageDevice devClass = true)
    (hblock : devClass.devType = USB_DEVICE ∨ devClass.subsystemName = "block") :
    (takes devClass = true ∧
      ProcessStorageDevice cfg env s h devClass = checkStorageDevice cfg env s h devClass) ∨
    (takes devClass = false ∧ ProcessStorageDevice cfg env s h devClass = ⟨s, h, ()⟩) := by
  have htakes : takes devClass = true ↔ devClass.action = "add" ∨ devClass.action = "change" := by
    simp [takes, htaken, hblock]
  unfold ProcessStorageDevice sMapDeviceActions
  by_cases hadd : devClass.action = "add"
  · rw [if_pos hadd]
    exact Or.inl ⟨htakes.mpr (Or.inl hadd), rfl⟩
  · rw [if_neg hadd]
    by_cases hremove : devClass.action = "remove"
    · rw [if_pos hremove]
      exact Or.inr ⟨Bool.eq_false_iff.mpr (mt htakes.mp (by rw [hremove]; decide)), rfl⟩
    · rw [if_neg hremove]
      by_cases hchange : devClass.action = "change"
      · rw [if_pos hchange]
        exact Or.inl ⟨htakes.mpr (Or.inr hchange), rfl⟩
      · rw [if_neg hchange]
        refine Or.inr ⟨Bool.eq_false_iff.mpr (mt htakes.mp (by simp [hadd, hchange])), ?_⟩
        by_cases hbind : devClass.action = "bind"
        · rw [if_pos hbind]
        · rw [if_neg hbind]

/-- The ways of an event through `HandlerEvent`. -/
theorem HandlerEvent_cases :
    (devClass.action = "remove" ∧
      HandlerEvent cfg env s h devClass = deleteStorageDevice env s h devClass) ∨
    (takes devClass = true ∧
      (HandlerEvent cfg env s h devClass).state = (checkStorageDevice cfg env s h devClass).state ∧
      (HandlerEvent cfg env s h devClass).obj = (checkStorageDevice cfg env s h devClass).obj) ∨
    (takes devClass = false ∧ devClass.action ≠ "remove" ∧
      (HandlerEvent cfg env s h devClass).state = s ∧
      (HandlerEvent cfg env s h devClass).obj = h) := by
  unfold HandlerEvent
  by_cases hremove : devClass.action = "remove"
  · rw [if_pos hremove]
    exact Or.inl ⟨hremove, rfl⟩
  · rw [if_neg hremove]
    refine Or.inr ?_
    cases htaken : isStorageDevice devClass with
    | false =>
      rw [if_pos rfl]
      exact Or.inr ⟨by simp [takes, htaken], hremove, rfl, rfl⟩
    | true =>
      rw [if_neg (by simp)]
      have hprocess := ProcessStorageDevice_cases cfg env s h devClass htaken
      by_cases husb : devClass.devType = USB_DEVICE
      · rw [if_pos husb]
        rcases hprocess (Or.inl husb) with ⟨htakes, heq⟩ | ⟨hnot, heq⟩
        · exact Or.inl ⟨htakes, by rw [heq], by rw [heq]⟩
        · exact Or.inr ⟨hnot, hremove, by rw [heq], by rw [heq]⟩
      · rw [if_neg husb]
        by_cases hblock : devClass.subsystemName = "block"
        · rw [if_pos hblock]
          rcases hprocess (Or.inr hblock) with ⟨htakes, heq⟩ | ⟨hnot, heq⟩
          · exact Or.inl ⟨htakes, by rw [heq], by rw [heq]⟩
          · exact Or.inr ⟨hnot, hremove, by rw [heq], by rw [heq]⟩
        · rw [if_neg hblock]
          exact Or.inr ⟨by simp [takes, husb, hblock], hremove, rfl, rfl⟩

/-- An event that is not taken is handed to nobody. -/
theorem target_nobody (cfg : Config) (address : Nat) (h : StorageDeviceHandler)
    {devClass : DeviceClass} (hnot : takes devClass = false) :
    target cfg address h devClass = .nobody := by
  unfold target
  rw [if_pos hnot]

theorem not_takes_of_remove {devClass : DeviceClass} (hremove : devClass.action = "remove") :
    takes devClass = false := by
  simp [takes, hremove]

/-- **What the storage handler does with an event.** -/
theorem HandlerEvent_outcome :
    EventOutcome cfg env s h devClass (HandlerEvent cfg env s h devClass).state
      (HandlerEvent cfg env s h devClass).obj.storageList := by
  rcases HandlerEvent_cases cfg env s h devClass with
    ⟨hremove, heq⟩ | ⟨htakes, hstate, hobj⟩ | ⟨hnot, -, hstate, hobj⟩
  · rw [heq]
    unfold deleteStorageDevice
    cases hfound : removedDevice h devClass with
    | none =>
      exact .ignored (target_nobody cfg s.next h (not_takes_of_remove hremove))
        (StorageDevice.Untouched.refl s) rfl
    | some d => exact .dropped d hremove hfound rfl (dropStorageDevice_list env s h d)
  · rw [hstate, hobj]
    exact checkStorageDevice_outcome cfg env s h devClass htakes
  · rw [hstate, hobj]
    exact .ignored (target_nobody cfg s.next h hnot) (StorageDevice.Untouched.refl s) rfl

end Outcome

end StorageDeviceHandler

end Pdm
