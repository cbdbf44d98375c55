/-
One entry for each device that is attached, and none for a device that is gone.

A physical device is known by the sysfs directory of its USB device, and a further slot
of a card reader by the directory of its disk.  What a handler does with the event of a
device that it lists already depends on the handler: most look for a stored path that
leads to the event's, CDC lists what it finds once more, MTP and PTP do not look at all,
and storage goes by a path and a name.  A removal takes the foremost match alone.  `Admits`
says for each when this leaves one entry, from the list before the event.  **Along every
run the handlers' lists have one entry for each device exactly when every handler that an
event reaches admits it** (`oneEntry_iff`).
-/
import Pdm.Proofs.Additions
import Pdm.Proofs.PreciseRemoval

namespace Pdm

open PathOrder

/-! ### Physical devices -/

/-- The name `usbN` of a root hub. -/
def isRootHub (name : List Char) : Bool :=
  "usb".toList.isPrefixOf name && 3 < name.length && (name.drop 3).all (·.isDigit)

/-- The name of a USB device, such as `1-4.2`: its bus and the ports on the way to it. -/
def isPort (name : List Char) : Bool :=
  name ≠ [] && name.all fun c => c.isDigit || c = '-' || c = '.'

/-- The directory of the USB device that a node is in. -/
def usbDevice (path : String) : Option (List (List Char)) :=
  match (parts path).dropWhile (!isRootHub ·) with
  | [] => none
  | hub :: below =>
    if below.takeWhile isPort = [] then none
    else some ((parts path).takeWhile (!isRootHub ·) ++ hub :: below.takeWhile isPort)

/-- The directory of the disk that a node is in. -/
def disk (path : String) : Option (List (List Char)) :=
  match (parts path).dropWhile (· ≠ "block".toList) with
  | block :: name :: _ => some ((parts path).takeWhile (· ≠ "block".toList) ++ [block, name])
  | _ => none

/-- The physical device that a label stands for; a further card slot is its own disk. -/
def unit (label : String × Bool) : Option (List (List Char)) :=
  if label.2 then (disk label.1).or (usbDevice label.1) else usbDevice label.1

example : usbDevice "/devices/pci0/usb1/1-1/1-1.4/1-1.4:1.0/host0" =
    usbDevice "/devices/pci0/usb1/1-1/1-1.4" := by decide
example : usbDevice "/devices/pci0/usb1/1-1/1-1.4" ≠ usbDevice "/devices/pci0/usb1/1-1" := by decide

namespace World

variable (cfg : Config) (env : Env) (devClass : DeviceClass)

/-! ### A delivery -/

/-- The physical devices a handler lists, each as often as it is listed. -/
def units (w : World) (kind : HandlerKind) : List (List (List Char)) :=
  ((w.entries kind).map (·.label)).filterMap unit

/-- The event says that a whole USB device is gone. -/
def isRemoval (devClass : DeviceClass) : Prop :=
  devClass.action = "remove" ∧ devClass.devType = USB_DEVICE

/-- No entry is at or below the path. -/
def Gone (w : World) (kind : HandlerKind) (path : String) : Prop :=
  ∀ e ∈ w.entries kind, ¬ AtOrBelow path (base e).node

/-- The labels stand for no physical device twice, nor for one that is listed. -/
def New (w : World) (kind : HandlerKind) (labels : List (String × Bool)) : Prop :=
  (labels.filterMap unit).Nodup ∧ ∀ u ∈ labels.filterMap unit, u ∉ w.units kind

/-- What an event makes a handler append is new to it, and of the removed device only what
the lookup finds is listed. -/
structure Fits (w : World) (kind : HandlerKind) : Prop where
  fresh : devClass.action ≠ "remove" → w.New kind (w.additions cfg env devClass kind)
  found : isRemoval devClass → ∀ e ∈ w.entries kind, AtOrBelow devClass.devPath (base e).node →
    ∃ d, w.removes kind devClass = some d ∧ (base e).address = (base d).address

/-- The addresses of the entries are as they should be. -/
def AllPinned (w : World) : Prop := ∀ kind, Pinned w.sys (w.entries kind)

/-- Every handler lists a physical device at most once. -/
def OneEach (w : World) : Prop := ∀ kind, (w.units kind).Nodup

variable {cfg env devClass}

/-- **One delivery keeps one entry for each device exactly when the event fits.** -/
theorem HandlerEvent_iff {w : World} {kind : HandlerKind} (hp : Pinned w.sys (w.entries kind))
    (hone : (w.units kind).Nodup) :
    (((w.HandlerEvent cfg env kind devClass).1.units kind).Nodup ∧
        (isRemoval devClass → (w.HandlerEvent cfg env kind devClass).1.Gone kind devClass.devPath)) ↔
      Fits cfg env devClass w kind := by
  by_cases hremove : devClass.action = "remove"
  · have hr := HandlerEvent_remove env hremove cfg w kind
    have hsub : ((w.HandlerEvent cfg env kind devClass).1.entries kind).Sublist
        (w.entries kind) := by
      rw [hr.list]
      cases w.removes kind devClass with
      | none => exact List.Sublist.refl _
      | some d => exact List.filter_sublist
    have hnodup : ((w.HandlerEvent cfg env kind devClass).1.units kind).Nodup :=
      hone.sublist ((hsub.map _).filterMap _)
    rw [and_iff_right hnodup]
    constructor
    · intro hgone
      refine ⟨fun hne => absurd hremove hne, fun husb e he hat => ?_⟩
      by_contra hnone
      refine hgone husb e ?_ hat
      rw [hr.list]
      cases hd : w.removes kind devClass with
      | none => exact he
      | some d =>
        refine List.mem_filter.mpr ⟨he, decide_eq_true fun haddr => hnone ⟨d, hd, haddr⟩⟩
    · intro hfits husb e he hat
      obtain ⟨d, hd, haddr⟩ := hfits.found husb e (hsub.subset he) hat
      rw [hr.list, hd] at he
      exact absurd haddr (by simpa using (List.mem_filter.mp he).2)
  · have hg := HandlerEvent_grown cfg env w hremove kind hp
    have hunits : (w.HandlerEvent cfg env kind devClass).1.units kind =
        w.units kind ++ (w.additions cfg env devClass kind).filterMap unit := by
      unfold units
      rw [hg.labels, List.filterMap_append]
    have hno : ¬ isRemoval devClass := fun h => hremove h.1
    rw [hunits, List.nodup_append']
    constructor
    · rintro ⟨⟨-, hnew, hdisj⟩, -⟩
      exact ⟨fun _ => ⟨hnew, fun u hu hold => hdisj hold hu⟩, fun h => absurd h hno⟩
    · intro hfits
      obtain ⟨hnew, hdisj⟩ := hfits.fresh hremove
      exact ⟨⟨hone, hnew, fun u hold hu => hdisj u hu hold⟩, fun h => absurd h hno⟩

/-- A delivery leaves the addresses as they should be. -/
theorem HandlerEvent_pinned {w : World} (hp : w.AllPinned) (kind : HandlerKind) :
    (w.HandlerEvent cfg env kind devClass).1.AllPinned := by
  have hown : w.sys.next ≤ (w.HandlerEvent cfg env kind devClass).1.sys.next ∧
      Pinned (w.HandlerEvent cfg env kind devClass).1.sys
        ((w.HandlerEvent cfg env kind devClass).1.entries kind) := by
    by_cases hremove : devClass.action = "remove"
    · have hr := HandlerEvent_remove env hremove cfg w kind
      refine ⟨Nat.le_of_eq hr.next.symm, ((hp kind).later (Nat.le_of_eq hr.next.symm)).sublist ?_⟩
      rw [hr.list]
      cases w.removes kind devClass with
      | none => exact List.Subset.refl _
      | some d => exact List.filter_sublist.subset
    · have hg := HandlerEvent_grown cfg env w hremove kind (hp kind)
      exact ⟨hg.next, hg.pinned⟩
  intro other
  by_cases hother : other = kind
  · rw [hother]
    exact hown.2
  · rw [HandlerEvent_others cfg env w hother devClass]
    exact (hp other).later hown.1

/-! ### What a handler admits -/

end World

/-- The mount of the media player in the event comes up. -/
def MTPDeviceHandler.mounts (cfg : Config) (env : Env) (devClass : DeviceClass) : Bool :=
  (described cfg env devClass 0).comesUp env devClass.devName

/-- The mount of the camera in the event comes up. -/
def PTPDeviceHandler.mounts (cfg : Config) (env : Env) (devClass : DeviceClass) : Bool :=
  (described cfg env devClass 0).comesUp env

/-- Where the object is has no part in its mount. -/
theorem MTPDeviceHandler.described_comesUp (cfg : Config) (env : Env) (devClass : DeviceClass)
    (address : Nat) :
    (described cfg env devClass address).comesUp env devClass.devName =
      mounts cfg env devClass := by
  have hmountName : (described cfg env devClass address).mountName =
      (described cfg env devClass 0).mountName := by
    unfold described MTPDevice.setDeviceInfo
    dsimp only
    split
    · split <;> rfl
    · rfl
  unfold mounts MTPDevice.comesUp MTPDevice.mountArgs
  rw [hmountName]

theorem PTPDeviceHandler.described_comesUp (cfg : Config) (env : Env) (devClass : DeviceClass)
    (address : Nat) :
    (described cfg env devClass address).comesUp env = mounts cfg env devClass := by
  unfold mounts described PTPDevice.described Device.setSpeed
  by_cases husb : devClass.devType = USB_DEVICE
  · rw [if_pos husb, if_pos husb]
    by_cases hspeed : devClass.speed ≠ ""
    · rw [if_pos hspeed, if_pos hspeed]
      rfl
    · rw [if_neg hspeed, if_neg hspeed]
      rfl
  · rw [if_neg husb, if_neg husb]
    rfl

namespace World

open StorageDeviceHandler (OpensDevice OpensSlot)

variable (cfg : Config) (env : Env) (devClass : DeviceClass)

/-- The physical device that a label stands for has an entry with the handler. -/
def HasEntry (w : World) (kind : HandlerKind) (label : String × Bool) : Prop :=
  ∃ u, unit label = some u ∧ u ∈ w.units kind

/-- The stored path of the entry is the front of the event's. -/
def Leads (e : Entry) : Prop := startsWith devClass.devPath (base e).devicePath = true

/-- A handler that goes by the stored paths takes the event as one that adds a device. -/
def addsByPath : HandlerKind → Bool
  | .hid => HIDDeviceHandler.adds devClass
  | .nfc => NfcDeviceHandler.adds devClass
  | .sound => SoundDeviceHandler.adds devClass
  | .video => VideoDeviceHandler.adds devClass
  | .gamepad => GamepadDeviceHandler.adds devClass
  | .bluetooth => BluetoothDeviceHandler.adds devClass
  | _ => false

/-- The event does not make the handler list a physical device a second time. -/
def ListsOnce (w : World) : HandlerKind → Prop
  | .storage =>
    StorageDeviceHandler.takes devClass = true →
      (OpensDevice cfg w.storage.storageList devClass →
        ¬ w.HasEntry .storage (devClass.devPath, false)) ∧
      (OpensSlot cfg w.storage.storageList devClass →
        ¬ w.HasEntry .storage (devClass.devPath, true))
  | .mtp =>
    MTPDeviceHandler.adds devClass = true → w.HasEntry .mtp (devClass.devPath, false) →
      MTPDeviceHandler.mounts cfg env devClass = false
  | .ptp =>
    PTPDeviceHandler.adds devClass = true → w.HasEntry .ptp (devClass.devPath, false) →
      PTPDeviceHandler.mounts cfg env devClass = false
  | .cdc =>
    w.cdc.adds devClass = true →
      -- What is found is listed once more, and a modem dongle twice from the start.
      (∀ e, Foremost (Leads devClass) (w.entries .cdc) e → unit e.label = none) ∧
      ((∀ e ∈ w.entries .cdc, ¬ Leads devClass e) →
        ¬ w.HasEntry .cdc (devClass.devPath, false) ∧
          (devClass.usbModemId = YES → unit (devClass.devPath, false) = none))
  | kind =>
    addsByPath devClass kind = true → w.HasEntry kind (devClass.devPath, false) →
      ∃ e ∈ w.entries kind, Leads devClass e

/-- The event leaves one entry for each device with the handler, and none that is gone: the
entries at or below the path of a removal are all the device that stands foremost of those
whose stored path leads there. -/
structure Admits (w : World) (kind : HandlerKind) : Prop where
  once : w.ListsOnce cfg env devClass kind
  gone : isRemoval devClass → ∀ e ∈ w.entries kind, AtOrBelow devClass.devPath (base e).node →
    ∃ f, Foremost (Leads devClass) (w.entries kind) f ∧ (base e).address = (base f).address

/-- A handler takes the event, one that is no removal, from those behind it. -/
def Takes (w : World) : HandlerKind → Prop
  | .storage =>
    StorageDeviceHandler.isStorageDevice devClass = true ∧ devClass.subsystemName = "block"
  | .mtp => False
  | .ptp =>
    contains devClass.interfaceClass PTPDeviceHandler.iClass = true ∧
      devClass.subsystemName = "usb" ∧ devClass.mediaPlayerId ≠ "1"
  | .hid =>
    contains devClass.interfaceClass HIDDeviceHandler.iClass = true ∧
      devClass.subsystemName = "input"
  | .nfc => contains devClass.interfaceClass NfcDeviceHandler.iClass = true
  | .sound => devClass.subsystemName = "sound"
  | .video =>
    contains devClass.interfaceClass VideoDeviceHandler.iClass = true ∧
      devClass.subsystemName = "video4linux"
  | .gamepad => devClass.gamepadId = "1"
  | .bluetooth => devClass.bluetoothId = "1"
  | .cdc =>
    CdcDeviceHandler.identifyCdcDevice devClass w.cdc = true ∧
      (devClass.subsystemName = "net" ∨ devClass.subsystemName = "tty")

/-- The event reaches the handler: it is that of a whole USB device, or no handler ahead
takes it. -/
def Reaches (handlers : List HandlerKind) (w : World) (kind : HandlerKind) : Prop :=
  devClass.devType = USB_DEVICE ∨
    ∃ ahead behind, handlers = ahead ++ kind :: behind ∧ ∀ k ∈ ahead, ¬ w.Takes devClass k

variable {cfg env devClass}

section New

variable {w : World} {kind : HandlerKind} {label : String × Bool}

theorem new_nil : w.New kind [] := ⟨by simp, by simp⟩

theorem new_single_iff : w.New kind [label] ↔ ¬ w.HasEntry kind label := by
  unfold New HasEntry
  cases hu : unit label with
  | none => simp [hu]
  | some u => simp [hu]

theorem new_twice_iff : w.New kind [label, label] ↔ unit label = none := by
  unfold New
  cases hu : unit label with
  | none => simp [hu]
  | some u => simp [hu]

/-- An entry's own label is new only if it stands for no physical device. -/
theorem new_listed_iff {e : Entry} (he : e ∈ w.entries kind) :
    w.New kind [e.label] ↔ unit e.label = none := by
  rw [new_single_iff]
  unfold HasEntry units
  constructor
  · intro h
    by_contra hsome
    obtain ⟨u, hu⟩ := Option.ne_none_iff_exists'.mp hsome
    exact h ⟨u, hu, List.mem_filterMap.mpr ⟨e.label, List.mem_map_of_mem he, hu⟩⟩
  · intro hnone h
    obtain ⟨u, hu, -⟩ := h
    rw [hnone] at hu
    exact absurd hu (by simp)

theorem new_if_iff {c : Bool} :
    w.New kind (if c = true then [label] else []) ↔ (c = true → ¬ w.HasEntry kind label) := by
  cases c with
  | true => simpa using new_single_iff
  | false => simpa using new_nil

/-- A handler that goes by the stored paths lists nothing where one leads to the event. -/
theorem byPath_new_iff {α : Type} [IDevice α] {f : α → Entry} (hf : ∀ d, base (f d) = base d)
    {l : List α} (hl : w.entries kind = l.map f) {c : Bool} :
    w.New kind (if c = true then byPath l devClass.devPath else []) ↔
      (c = true → w.HasEntry kind (devClass.devPath, false) →
        ∃ e ∈ w.entries kind, Leads devClass e) := by
  have hnone : (getDeviceWithPath l devClass.devPath).isNone = true ↔
      ∀ e ∈ w.entries kind, ¬ Leads devClass e := by
    rw [hl, ← Option.isNone_map (f := f), ← getDeviceWithPath_map hf, Option.isNone_iff_eq_none]
    exact List.find?_eq_none
  cases c with
  | false => simpa using new_nil
  | true =>
    unfold byPath
    simp only [if_true, forall_true_left]
    rw [new_if_iff, hnone]
    constructor
    · intro h hlists
      by_contra hno
      exact h (fun e he hleads => hno ⟨e, he, hleads⟩) hlists
    · intro h hno hlists
      obtain ⟨e, he, hleads⟩ := h hlists
      exact hno e he hleads

theorem cdc_new_iff :
    w.New .cdc (w.additions cfg env devClass .cdc) ↔ w.ListsOnce cfg env devClass .cdc := by
  have hpath : getDeviceWithPath (w.entries .cdc) devClass.devPath =
      (getDeviceWithPath w.cdc.sList devClass.devPath).map Entry.cdc :=
    getDeviceWithPath_map (f := Entry.cdc) (fun _ => rfl) _ _
  show w.New .cdc (if w.cdc.adds devClass = true then w.cdc.additions devClass else []) ↔
    (w.cdc.adds devClass = true → _)
  cases w.cdc.adds devClass with
  | false => simpa using new_nil
  | true =>
    simp only [if_true, forall_true_left]
    unfold CdcDeviceHandler.additions
    cases hfind : getDeviceWithPath w.cdc.sList devClass.devPath with
    | some d =>
      rw [hfind, Option.map_some] at hpath
      have hd : Foremost (Leads devClass) (w.entries .cdc) (.cdc d) := Foremost.iff_find?.mpr hpath
      dsimp only
      rw [show (d.node, false) = (Entry.cdc d).label from rfl, new_listed_iff hd.mem]
      constructor
      · intro h
        refine ⟨fun e he => ?_, fun hno => absurd hd.holds (hno _ hd.mem)⟩
        rw [← hd.unique he]
        exact h
      · exact fun h => h.1 _ hd
    | none =>
      rw [hfind, Option.map_none] at hpath
      have hno : ∀ e ∈ w.entries .cdc, ¬ Leads devClass e := List.find?_eq_none.mp hpath
      dsimp only
      have hnew : w.New .cdc (if devClass.usbModemId = YES then
          [(devClass.devPath, false), (devClass.devPath, false)] else [(devClass.devPath, false)]) ↔
          ¬ w.HasEntry .cdc (devClass.devPath, false) ∧
            (devClass.usbModemId = YES → unit (devClass.devPath, false) = none) := by
        by_cases hmodem : devClass.usbModemId = YES
        · rw [if_pos hmodem, new_twice_iff, forall_prop_of_true hmodem]
          refine (and_iff_right_of_imp fun hunit hlists => ?_).symm
          obtain ⟨u, hu, -⟩ := hlists
          rw [hunit] at hu
          exact absurd hu (by simp)
        · rw [if_neg hmodem, new_single_iff, and_iff_left fun h => absurd h hmodem]
      rw [hnew]
      constructor
      · exact fun h => ⟨fun e he => absurd he.holds (hno e he.mem), fun _ => h⟩
      · exact fun h => h.2 hno

theorem storage_new_iff :
    w.New .storage (w.additions cfg env devClass .storage) ↔
      w.ListsOnce cfg env devClass .storage := by
  show w.New .storage (w.storage.additions cfg devClass w.sys.next) ↔
    (StorageDeviceHandler.takes devClass = true → _)
  have hnew : w.New .storage (w.storage.additions cfg devClass w.sys.next) ↔
      ∀ d, StorageDeviceHandler.target cfg w.sys.next w.storage devClass = .new d →
        ¬ w.HasEntry .storage (d.node, d.isExtraSdCard) := by
    unfold StorageDeviceHandler.additions
    cases StorageDeviceHandler.target cfg w.sys.next w.storage devClass with
    | new d => simp [new_single_iff]
    | _ => simpa using new_nil
  have hlabel : ∀ reader,
      (StorageDeviceHandler.newDevice cfg w.sys.next devClass reader).isExtraSdCard =
        reader.isSome := by
    intro reader
    unfold StorageDeviceHandler.newDevice
    cases reader <;> rfl
  rw [hnew]
  cases htakes : StorageDeviceHandler.takes devClass with
  | false =>
    rw [StorageDeviceHandler.target_nobody cfg w.sys.next w.storage htakes]
    simp
  | true =>
    rw [forall_prop_of_true rfl]
    constructor
    · intro h
      constructor
      · intro hopens
        have hd := h _ ((StorageDeviceHandler.target_new_iff htakes).mpr (Or.inl ⟨hopens, rfl⟩))
        rw [StorageDeviceHandler.newDevice_node, hlabel] at hd
        exact hd
      · intro hopens
        obtain ⟨f, hf, -⟩ := hopens.2.1
        have hd := h _ ((StorageDeviceHandler.target_new_iff htakes).mpr
          (Or.inr ⟨hopens, f, hf, rfl⟩))
        rw [StorageDeviceHandler.newDevice_node, hlabel] at hd
        exact hd
    · intro h d hd
      rcases (StorageDeviceHandler.target_new_iff htakes).mp hd with
        ⟨hopens, rfl⟩ | ⟨hopens, f, -, rfl⟩
      · rw [StorageDeviceHandler.newDevice_node, hlabel]
        exact h.1 hopens
      · rw [StorageDeviceHandler.newDevice_node, hlabel]
        exact h.2 hopens

/-- What a mounting handler lists is listed once when no mount of a listed device comes up. -/
theorem mounted_new_iff {adds up mounts : Bool} (hup : up = mounts) :
    w.New kind (if (adds && up) = true then [label] else []) ↔
      (adds = true → w.HasEntry kind label → mounts = false) := by
  rw [new_if_iff, ← hup]
  cases adds <;> cases up <;> simp

/-- **What an event makes a handler append is new to it as `ListsOnce` says.** -/
theorem additions_new_iff :
    w.New kind (w.additions cfg env devClass kind) ↔ w.ListsOnce cfg env devClass kind := by
  have husb : ∀ d : Device, base (Entry.usb d) = base d := fun _ => rfl
  cases kind with
  | storage => exact storage_new_iff
  | cdc => exact cdc_new_iff
  | mtp => exact mounted_new_iff (MTPDeviceHandler.described_comesUp cfg env devClass w.sys.next)
  | ptp => exact mounted_new_iff (PTPDeviceHandler.described_comesUp cfg env devClass w.sys.next)
  | hid => exact byPath_new_iff husb rfl
  | nfc => exact byPath_new_iff husb rfl
  | gamepad => exact byPath_new_iff husb rfl
  | bluetooth => exact byPath_new_iff husb rfl
  | sound => exact byPath_new_iff (f := .sound) (fun _ => rfl) rfl
  | video => exact byPath_new_iff (f := .video) (fun _ => rfl) rfl

/-- The device a removal of a whole device takes is the foremost one that leads there. -/
theorem removes_whole_iff (hremoval : isRemoval devClass) {e : Entry} :
    w.removes kind devClass = some e ↔ Foremost (Leads devClass) (w.entries kind) e := by
  have husb := hremoval.2
  have hdisk : devClass.devType ≠ DISK := by
    rw [husb]
    decide
  have hmay : MayTake kind devClass e := fun _ h => absurd h hdisk
  rw [removes_iff, and_iff_left hmay]
  refine Foremost.congr fun b _ => ?_
  unfold Matches Leads
  split
  · simp [husb, show USB_DEVICE ≠ DISK by decide]
  · simp [husb]
  · simp [husb]
  · exact Iff.rfl

omit label in
/-- A removal makes no handler list anything. -/
theorem listsOnce_of_remove (hremove : devClass.action = "remove") (w : World)
    (kind : HandlerKind) : w.ListsOnce cfg env devClass kind := by
  cases kind with
  | storage =>
    intro htakes
    rw [StorageDeviceHandler.not_takes_of_remove hremove] at htakes
    exact absurd htakes (by simp)
  | mtp =>
    intro hadds
    simp [MTPDeviceHandler.adds, hremove] at hadds
  | ptp =>
    intro hadds
    simp [PTPDeviceHandler.adds, hremove] at hadds
  | cdc =>
    intro hadds
    simp [CdcDeviceHandler.adds, hremove] at hadds
  | hid =>
    intro hadds
    simp [addsByPath, HIDDeviceHandler.adds, hremove] at hadds
  | nfc =>
    intro hadds
    simp [addsByPath, NfcDeviceHandler.adds, hremove] at hadds
  | sound =>
    intro hadds
    simp [addsByPath, SoundDeviceHandler.adds, hremove] at hadds
  | video =>
    intro hadds
    simp [addsByPath, VideoDeviceHandler.adds, hremove] at hadds
  | gamepad =>
    intro hadds
    simp [addsByPath, GamepadDeviceHandler.adds, hremove] at hadds
  | bluetooth =>
    intro hadds
    simp [addsByPath, BluetoothDeviceHandler.adds, hremove] at hadds

/-- **A handler fits an event exactly when it admits it.** -/
theorem fits_iff : Fits cfg env devClass w kind ↔ w.Admits cfg env devClass kind := by
  have hfound : ∀ hremoval : isRemoval devClass, ∀ e : Entry,
      (∃ d, w.removes kind devClass = some d ∧ (base e).address = (base d).address) ↔
        ∃ f, Foremost (Leads devClass) (w.entries kind) f ∧
          (base e).address = (base f).address := by
    intro hremoval e
    simp only [removes_whole_iff hremoval]
  constructor
  · intro hfits
    refine ⟨?_, fun hremoval e he hat => (hfound hremoval e).mp (hfits.found hremoval e he hat)⟩
    by_cases hremove : devClass.action = "remove"
    · exact listsOnce_of_remove hremove w kind
    · exact additions_new_iff.mp (hfits.fresh hremove)
  · intro hadmits
    exact ⟨fun _ => additions_new_iff.mpr hadmits.once,
      fun hremoval e he hat => (hfound hremoval e).mpr (hadmits.gone hremoval e he hat)⟩

end New

/-! ### An event -/

variable (cfg env devClass)

/-- Every handler that is given the event is one that the event fits. -/
def LoopFits : World → List HandlerKind → Prop
  | _, [] => True
  | w, kind :: rest =>
    Fits cfg env devClass w kind ∧
      (devClass.devType = USB_DEVICE ∨ (w.HandlerEvent cfg env kind devClass).2 = false →
        LoopFits (w.HandlerEvent cfg env kind devClass).1 rest)

variable {cfg env devClass}

theorem deviceLoop_pinned (l : List HandlerKind) {w : World} (hp : w.AllPinned) :
    (deviceLoop cfg env devClass w l).1.AllPinned := by
  induction l generalizing w with
  | nil => exact hp
  | cons kind rest ih =>
      have hp' : (w.HandlerEvent cfg env kind devClass).1.AllPinned := HandlerEvent_pinned hp kind
      unfold deviceLoop
      dsimp only
      split
      · exact ih hp'
      · split
        · exact hp'
        · exact ih hp'

/-- Every physical device is listed once, and none that is gone is listed. -/
structure Right (devClass : DeviceClass) (handlers : List HandlerKind) (w : World) : Prop where
  one : w.OneEach
  gone : isRemoval devClass → ∀ kind ∈ handlers, w.Gone kind devClass.devPath

/-- **A whole event keeps one entry for each device exactly when it fits every handler that
it reaches.** -/
theorem deviceLoop_iff {l : List HandlerKind} (hnodup : l.Nodup) {w : World} (hp : w.AllPinned)
    (hone : w.OneEach) :
    Right devClass l (deviceLoop cfg env devClass w l).1 ↔ LoopFits cfg env devClass w l := by
  induction l generalizing w with
  | nil => exact iff_of_true ⟨hone, by simp⟩ trivial
  | cons kind rest ih =>
      obtain ⟨hkind, hrest⟩ := List.nodup_cons.mp hnodup
      have hp' : (w.HandlerEvent cfg env kind devClass).1.AllPinned := HandlerEvent_pinned hp kind
      have hdeliver : _ ↔ Fits cfg env devClass w kind := HandlerEvent_iff (hp kind) (hone kind)
      have hsame : ∀ other, other ≠ kind → _ := fun other hother =>
        HandlerEvent_others cfg env w hother devClass
      unfold deviceLoop LoopFits
      dsimp only
      generalize w.HandlerEvent cfg env kind devClass = r at *
      -- The handler's own list is right, and the others have not changed.
      have hone' : (r.1.units kind).Nodup → r.1.OneEach := by
        intro h other
        by_cases hother : other = kind
        · rw [hother]
          exact h
        · unfold units
          rw [hsame other hother]
          exact hone other
      by_cases hgo : devClass.devType = USB_DEVICE ∨ r.2 = false
      · have hloop : (if devClass.devType = USB_DEVICE then deviceLoop cfg env devClass r.1 rest
            else if r.2 = true then (r.1, true) else deviceLoop cfg env devClass r.1 rest) =
            deviceLoop cfg env devClass r.1 rest := by
          rcases hgo with husb | hret
          · rw [if_pos husb]
          · simp [hret]
        have hfinal : (deviceLoop cfg env devClass r.1 rest).1.entries kind = r.1.entries kind :=
          deviceLoop_others cfg env r.1 hkind
        rw [hloop, forall_prop_of_true hgo, ← hdeliver]
        constructor
        · intro hright
          have hown := hright.one kind
          unfold units at hown
          rw [hfinal] at hown
          refine ⟨⟨hown, fun hremoval => ?_⟩, (ih hrest hp' (hone' hown)).mp ⟨hright.one, ?_⟩⟩
          · have hgone := hright.gone hremoval kind (by simp)
            unfold Gone at hgone
            rwa [hfinal] at hgone
          · exact fun hremoval other hother => hright.gone hremoval other (by simp [hother])
        · rintro ⟨⟨hown, hgone⟩, hfits⟩
          have hright := (ih hrest hp' (hone' hown)).mpr hfits
          refine ⟨hright.one, fun hremoval other hother => ?_⟩
          rcases List.mem_cons.mp hother with rfl | hother
          · unfold Gone
            rw [hfinal]
            exact hgone hremoval
          · exact hright.gone hremoval other hother
      · obtain ⟨husb, hret⟩ := not_or.mp hgo
        rw [if_neg husb, if_pos (by simpa using hret), forall_prop_of_false hgo, and_true,
          ← hdeliver]
        constructor
        · exact fun hright => ⟨hright.one kind, fun hremoval => absurd hremoval.2 husb⟩
        · exact fun hown => ⟨hone' hown.1, fun hremoval => absurd hremoval.2 husb⟩

/-! ### Whom an event reaches -/

/-- What a handler answers to an event that is no removal and not about a whole USB
device. -/
theorem HandlerEvent_takes (hremove : devClass.action ≠ "remove")
    (husb : devClass.devType ≠ USB_DEVICE) (w : World) (kind : HandlerKind) :
    (w.HandlerEvent cfg env kind devClass).2 = true ↔ w.Takes devClass kind := by
  unfold HandlerEvent Takes
  cases kind with
  | storage =>
    dsimp only
    unfold StorageDeviceHandler.HandlerEvent
    rw [if_neg hremove]
    cases StorageDeviceHandler.isStorageDevice devClass with
    | false => simp
    | true =>
      rw [if_neg (by simp), if_neg husb]
      split <;> simp [*]
  | mtp =>
    unfold MTPDeviceHandler.HandlerEvent
    dsimp only
    split <;> simp
  | ptp =>
    dsimp only
    unfold PTPDeviceHandler.HandlerEvent
    rw [if_neg hremove]
    cases contains devClass.interfaceClass PTPDeviceHandler.iClass with
    | false => simp
    | true =>
      rw [if_neg (by simp), if_neg fun h => husb h.1]
      split
      · next h => simp [h]
      · next h => simpa using h
  | hid =>
    dsimp only
    unfold HIDDeviceHandler.HandlerEvent
    simp only [hremove, false_and, if_false]
    cases contains devClass.interfaceClass HIDDeviceHandler.iClass with
    | false => simp
    | true =>
      rw [if_neg (by simp), if_neg husb]
      split <;> simp [*]
  | nfc =>
    dsimp only
    unfold NfcDeviceHandler.HandlerEvent
    simp only [hremove, false_and, if_false]
    split <;> simp [*]
  | sound =>
    dsimp only
    unfold SoundDeviceHandler.HandlerEvent SoundDeviceHandler.isSoundDevice
    by_cases hsub : devClass.subsystemName = "sound"
    · simp [hsub, husb]
    · rw [if_neg husb, if_neg hsub]
      split <;> simp [hsub]
  | video =>
    dsimp only
    unfold VideoDeviceHandler.HandlerEvent
    cases contains devClass.interfaceClass VideoDeviceHandler.iClass with
    | false => simp [hremove]
    | true =>
      rw [if_neg (by simp), if_neg husb]
      split <;> simp [*]
  | gamepad =>
    dsimp only
    unfold GamepadDeviceHandler.HandlerEvent
    simp only [hremove, false_and, if_false]
    split <;> simp [*]
  | bluetooth =>
    dsimp only
    unfold BluetoothDeviceHandler.HandlerEvent
    rw [if_neg hremove]
    split <;> simp [*]
  | cdc =>
    dsimp only
    unfold CdcDeviceHandler.HandlerEvent
    simp only [hremove, false_and, if_false]
    cases CdcDeviceHandler.identifyCdcDevice devClass w.cdc with
    | false => simp
    | true =>
      rw [if_neg (by simp), if_neg husb]
      split
      · next h => simpa using h
      · next h => simpa using h

/-- Whether a handler takes the event is up to it alone. -/
theorem HandlerEvent_takes_others {kind other : HandlerKind} (hne : other ≠ kind) (w : World) :
    (w.HandlerEvent cfg env kind devClass).1.Takes devClass other ↔ w.Takes devClass other := by
  cases other <;> cases kind <;> first | exact absurd rfl hne | exact Iff.rfl

/-- What a handler admits is up to its own list. -/
theorem HandlerEvent_admits_others {kind other : HandlerKind} (hne : other ≠ kind) (w : World) :
    (w.HandlerEvent cfg env kind devClass).1.Admits cfg env devClass other ↔
      w.Admits cfg env devClass other := by
  have honce : (w.HandlerEvent cfg env kind devClass).1.ListsOnce cfg env devClass other ↔
      w.ListsOnce cfg env devClass other := by
    cases other <;> cases kind <;> first | exact absurd rfl hne | exact Iff.rfl
  have hentries := HandlerEvent_others cfg env w hne devClass
  constructor
  · intro h
    refine ⟨honce.mp h.once, ?_⟩
    rw [← hentries]
    exact h.gone
  · intro h
    refine ⟨honce.mpr h.once, ?_⟩
    rw [hentries]
    exact h.gone

/-- A removal that is not of a whole USB device asks nothing of the handlers. -/
theorem admits_of_part_removed (hremove : devClass.action = "remove")
    (husb : devClass.devType ≠ USB_DEVICE) (w : World) (kind : HandlerKind) :
    w.Admits cfg env devClass kind :=
  ⟨listsOnce_of_remove hremove w kind, fun hremoval => absurd hremoval.2 husb⟩

theorem loopFits_of_part_removed (hremove : devClass.action = "remove")
    (husb : devClass.devType ≠ USB_DEVICE) (l : List HandlerKind) (w : World) :
    LoopFits cfg env devClass w l := by
  induction l generalizing w with
  | nil => trivial
  | cons kind rest ih =>
    exact ⟨fits_iff.mpr (admits_of_part_removed hremove husb w kind), fun _ => ih _⟩

/-- The first handler is always reached. -/
theorem reaches_head (w : World) (kind : HandlerKind) (rest : List HandlerKind) :
    Reaches devClass (kind :: rest) w kind := Or.inr ⟨[], rest, rfl, by simp⟩

/-- Behind the first handler an event reaches whom it reaches from there, unless that one
takes it. -/
theorem reaches_cons_iff {w : World} {kind other : HandlerKind} {rest : List HandlerKind}
    (hne : other ≠ kind) :
    Reaches devClass (kind :: rest) w other ↔
      (devClass.devType = USB_DEVICE ∨ ¬ w.Takes devClass kind) ∧
        Reaches devClass rest w other := by
  constructor
  · intro h
    rcases h with husb | ⟨ahead, behind, hl, hahead⟩
    · exact ⟨Or.inl husb, Or.inl husb⟩
    · cases ahead with
      | nil => exact absurd (List.cons.inj hl).1.symm hne
      | cons k ahead =>
        obtain ⟨rfl, hrest⟩ := List.cons.inj hl
        exact ⟨Or.inr (hahead kind (by simp)),
          Or.inr ⟨ahead, behind, hrest, fun k hk => hahead k (by simp [hk])⟩⟩
  · intro h
    obtain ⟨hgo, hrest⟩ := h
    rcases hrest with husb | ⟨ahead, behind, rfl, hahead⟩
    · exact Or.inl husb
    · rcases hgo with husb | hnot
      · exact Or.inl husb
      · refine Or.inr ⟨kind :: ahead, behind, rfl, fun k hk => ?_⟩
        rcases List.mem_cons.mp hk with rfl | hk
        · exact hnot
        · exact hahead k hk

/-- **The event fits every handler in turn exactly when each one it reaches admits it.** -/
theorem loopFits_iff {l : List HandlerKind} (hnodup : l.Nodup) {w : World} :
    LoopFits cfg env devClass w l ↔
      ∀ kind ∈ l, Reaches devClass l w kind → w.Admits cfg env devClass kind := by
  by_cases hpart : devClass.action = "remove" ∧ devClass.devType ≠ USB_DEVICE
  · exact iff_of_true (loopFits_of_part_removed hpart.1 hpart.2 l w)
      fun kind _ _ => admits_of_part_removed hpart.1 hpart.2 w kind
  · induction l generalizing w with
    | nil => exact iff_of_true trivial (by simp)
    | cons kind rest ih =>
      obtain ⟨hkind, hrest⟩ := List.nodup_cons.mp hnodup
      have hgo : devClass.devType = USB_DEVICE ∨ (w.HandlerEvent cfg env kind devClass).2 = false ↔
          devClass.devType = USB_DEVICE ∨ ¬ w.Takes devClass kind := by
        refine or_congr_right' fun husb => ?_
        have htakes : (w.HandlerEvent cfg env kind devClass).2 = true ↔ w.Takes devClass kind :=
          HandlerEvent_takes (fun h => hpart ⟨h, husb⟩) husb w kind
        rw [← htakes, Bool.not_eq_true]
      have hothers : ∀ other ∈ rest, other ≠ kind := fun other hother heq => hkind (heq ▸ hother)
      unfold LoopFits
      rw [fits_iff, hgo, ih hrest, List.forall_mem_cons,
        forall_prop_of_true (reaches_head w kind rest)]
      refine and_congr_right fun _ => ?_
      have hreach : ∀ other ∈ rest,
          (Reaches devClass (kind :: rest) w other ↔
            (devClass.devType = USB_DEVICE ∨ ¬ w.Takes devClass kind) ∧
              Reaches devClass rest (w.HandlerEvent cfg env kind devClass).1 other) := by
        intro other hother
        rw [reaches_cons_iff (hothers other hother)]
        refine and_congr_right fun _ => or_congr_right ?_
        refine exists_congr fun ahead => exists_congr fun behind => ?_
        refine and_congr_right fun hl => forall_congr' fun k => forall_congr' fun hk => ?_
        have hmem : k ∈ rest := by
          rw [hl]
          exact List.mem_append_left _ hk
        exact (HandlerEvent_takes_others (hothers k hmem) w).not.symm
      constructor
      · intro h other hother hreaches
        obtain ⟨hgoes, hrest'⟩ := (hreach other hother).mp hreaches
        exact (HandlerEvent_admits_others (hothers other hother) w).mp (h hgoes other hother hrest')
      · intro h hgoes other hother hreaches
        exact (HandlerEvent_admits_others (hothers other hother) w).mpr
          (h other hother ((hreach other hother).mpr ⟨hgoes, hreaches⟩))

/-! ### Runs -/

variable (cfg) (handlers : List HandlerKind)

/-- An event arrives. -/
def arrive (w : World) (i : Env × DeviceClass) : World :=
  (HandlePdmDevice cfg i.1 handlers w.clear i.2).1

/-- After the event every physical device is listed once, and none that is gone is listed. -/
def OneEntry (w : World) (i : Env × DeviceClass) : Prop :=
  Right i.2 handlers (arrive cfg handlers w i)

/-- Every handler that the event reaches admits it; a removal that is blacklisted reaches
none, and no handler lists what it takes away. -/
def EventAdmitted (w : World) (i : Env × DeviceClass) : Prop :=
  if toInt i.2.idBlackList ≠ 0 then
    isRemoval i.2 → ∀ kind ∈ handlers, w.Gone kind i.2.devPath
  else ∀ kind ∈ handlers, Reaches i.2 handlers w kind → w.Admits cfg i.1 i.2 kind

variable {cfg handlers}

theorem clear_allPinned {w : World} (h : w.AllPinned) : w.clear.AllPinned := by
  intro kind
  rw [clear_entries]
  exact ⟨(h kind).given, (h kind).same⟩

theorem clear_oneEach {w : World} (h : w.OneEach) : w.clear.OneEach := by
  intro kind
  unfold units
  rw [clear_entries]
  exact h kind

theorem clear_takes (devClass : DeviceClass) (w : World) (kind : HandlerKind) :
    w.clear.Takes devClass kind ↔ w.Takes devClass kind := by
  cases kind <;> exact Iff.rfl

theorem clear_admits (cfg : Config) (env : Env) (devClass : DeviceClass) (w : World)
    (kind : HandlerKind) :
    w.clear.Admits cfg env devClass kind ↔ w.Admits cfg env devClass kind := by
  have honce : w.clear.ListsOnce cfg env devClass kind ↔ w.ListsOnce cfg env devClass kind := by
    cases kind <;> exact Iff.rfl
  have hentries := clear_entries w kind
  constructor
  · intro h
    refine ⟨honce.mp h.once, ?_⟩
    rw [← hentries]
    exact h.gone
  · intro h
    refine ⟨honce.mpr h.once, ?_⟩
    rw [hentries]
    exact h.gone

theorem arrive_pinned {w : World} (h : w.AllPinned) (i : Env × DeviceClass) :
    (arrive cfg handlers w i).AllPinned := by
  unfold arrive HandlePdmDevice
  split
  · exact clear_allPinned h
  · exact deviceLoop_pinned handlers (clear_allPinned h)

theorem oneEntry_iff_eventAdmitted (hnodup : handlers.Nodup) {w : World} (hp : w.AllPinned)
    (hone : w.OneEach) (i : Env × DeviceClass) :
    OneEntry cfg handlers w i ↔ EventAdmitted cfg handlers w i := by
  unfold OneEntry EventAdmitted arrive HandlePdmDevice
  split
  · have hgone : (∀ kind ∈ handlers, w.clear.Gone kind i.2.devPath) ↔
        ∀ kind ∈ handlers, w.Gone kind i.2.devPath := by
      unfold Gone
      simp only [clear_entries]
    constructor
    · exact fun hright hremoval => hgone.mp (hright.gone hremoval)
    · exact fun hfits => ⟨clear_oneEach hone, fun hremoval => hgone.mpr (hfits hremoval)⟩
  · rw [deviceLoop_iff hnodup (clear_allPinned hp) (clear_oneEach hone), loopFits_iff hnodup]
    have hreaches : ∀ kind, Reaches i.2 handlers w.clear kind ↔ Reaches i.2 handlers w kind := by
      intro kind
      unfold Reaches
      simp only [clear_takes]
    simp only [hreaches, clear_admits]

theorem init_allPinned : ({} : World).AllPinned := by
  intro kind
  cases kind <;> exact ⟨by simp [entries], by simp [entries]⟩

theorem init_oneEach : ({} : World).OneEach := by
  intro kind
  cases kind <;> exact List.nodup_nil

/-- **Along every run of events the handlers list each device once and none that is gone
exactly when every handler that an event reaches admits it.** -/
theorem oneEntry_iff (cfg : Config) {handlers : List HandlerKind} (hnodup : handlers.Nodup)
    (inputs : List (Env × DeviceClass)) :
    Runs.StepsAll (arrive cfg handlers) (OneEntry cfg handlers) {} inputs ↔
      Runs.StepsAll (arrive cfg handlers) (EventAdmitted cfg handlers) {} inputs :=
  Runs.stepsAll_congr (I := fun w => w.AllPinned ∧ w.OneEach)
    (fun _ i hw hone => ⟨arrive_pinned hw.1 i, hone.one⟩)
    (fun _ i hw => oneEntry_iff_eventAdmitted hnodup hw.1 hw.2 i) ⟨init_allPinned, init_oneEach⟩

/-- The add event of a network adapter. -/
def adapterEvent : DeviceClass where
  action := "add"
  devType := "usb_device"
  interfaceClass := ":020600:"
  devPath := "/devices/usb1/1-1"

theorem oneEntry_iff_adapter :
    ([.hid, .cdc] : List HandlerKind).Nodup ∧
      (Runs.StepsAll (arrive .tmpUsb [.hid, .cdc]) (OneEntry .tmpUsb [.hid, .cdc]) {}
          [({}, adapterEvent)] ↔
        Runs.StepsAll (arrive .tmpUsb [.hid, .cdc]) (EventAdmitted .tmpUsb [.hid, .cdc]) {}
          [({}, adapterEvent)]) :=
  ⟨by decide, oneEntry_iff .tmpUsb (by decide) [({}, adapterEvent)]⟩

/-- The adapter is there when the daemon starts, and its event comes once more: it is
listed twice. -/
theorem coldplug_lists_twice :
    ¬ Runs.StepsAll (arrive .tmpUsb [.cdc]) (OneEntry .tmpUsb [.cdc]) {}
      [({}, adapterEvent), (({} : Env), adapterEvent)] := by
  intro h
  have hone := h.2.1.one .cdc
  revert hone
  decide

end World

end Pdm
