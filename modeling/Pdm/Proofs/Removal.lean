/-
What a removal takes out of a handler's list.

A remove event makes a handler look for one device and take every entry that is this
device's pointer out of its list.  `World.removes` is the device that is looked for,
as a function of the list and the event; `HandlerEvent_remove` says that the entries
with its address go, that all others stay as they are, and that no other device is
announced as removed.
-/
import Pdm.Proofs.Devices
import Pdm.Framework.DeviceManager

namespace Pdm

open Visit (visit)

/-! ### A storage device that goes -/

namespace StorageDevice

variable (env : Env) (s : Sys) (d : StorageDevice)

/-- Writing a partition back brings no partition in that was not there. -/
theorem setPartition_idents_subset {p q : DiskPartitionInfo} (hp : p ∈ d.diskPartitionList)
    (hq : q.ident = p.ident) : (d.setPartition q).idents ⊆ d.idents := by
  intro i hi
  obtain ⟨r, hr, rfl⟩ := List.mem_map.mp hi
  rcases d.mem_setPartition hr with hrq | ⟨hr, -⟩
  · rw [hrq, hq]
    exact List.mem_map_of_mem hp
  · exact List.mem_map_of_mem hr

/-- A check of one of a device's partitions. -/
def ChecksOwn (d : StorageDevice) (r : CallRecord) : Prop :=
  ∃ i ∈ d.idents, r.call = .fsck i.2.2.1 i.2.2.2.1

theorem ChecksOwn.mono {d e : StorageDevice} (h : d.idents ⊆ e.idents) (r : CallRecord)
    (hr : d.ChecksOwn r) : e.ChecksOwn r := by
  obtain ⟨i, hi, hc⟩ := hr
  exact ⟨i, h hi, hc⟩

section Thread

variable (partition : Nat)

@[simp] theorem fsckPartitionAt_core : (fsckPartitionAt env s d partition).obj.core = d.core := by
  unfold fsckPartitionAt
  cases d.diskPartitionList.find? (·.address = partition) with
  | none => rfl
  | some p => simp

@[simp] theorem fsckPartitionAt_next : (fsckPartitionAt env s d partition).state.next = s.next := by
  unfold fsckPartitionAt
  cases d.diskPartitionList.find? (·.address = partition) with
  | none => simp
  | some p => simp

@[simp] theorem fsckOnDeviceAddThread_core :
    (fsckOnDeviceAddThread env s d partition).obj.core = d.core := by
  simp [fsckOnDeviceAddThread]

@[simp] theorem fsckOnDeviceAddThread_next :
    (fsckOnDeviceAddThread env s d partition).state.next = s.next := by
  simp [fsckOnDeviceAddThread]

theorem fsckOnDeviceAddThread_idents :
    (fsckOnDeviceAddThread env s d partition).obj.idents ⊆ d.idents := by
  have hat : (fsckPartitionAt env s d partition).obj.idents ⊆ d.idents := by
    unfold fsckPartitionAt
    cases hfind : d.diskPartitionList.find? (·.address = partition) with
    | none => exact List.Subset.refl _
    | some p =>
      exact d.setPartition_idents_subset (List.mem_of_find?_eq_some hfind)
        (fsckPartition_ident env s p PdmFsck.AUTO)
  unfold fsckOnDeviceAddThread idents at *
  simpa using hat

theorem fsckOnDeviceAddThread_adds :
    Sys.Adds d.ChecksOwn s (fsckOnDeviceAddThread env s d partition).state := by
  unfold fsckOnDeviceAddThread fsckPartitionAt
  cases hfind : d.diskPartitionList.find? (·.address = partition) with
  | none => exact Sys.Adds.of_eq (by simp [handlerCb_notables])
  | some p =>
    have hmem := List.mem_of_find?_eq_some hfind
    refine Sys.Adds.single (r := ⟨.fsck p.driveName p.mountName, s.mounted⟩) (by simp) ?_
    exact ⟨p.ident, List.mem_map_of_mem hmem, rfl⟩

end Thread

/-- The threads that are joined keep the device and its partitions. -/
theorem joinThreads_keeps : ∀ (ts : List Nat) (s : Sys) (d : StorageDevice),
    (joinThreads env s d ts).obj.core = d.core ∧
      (joinThreads env s d ts).state.next = s.next ∧
      (joinThreads env s d ts).obj.idents ⊆ d.idents ∧
      Sys.Adds d.ChecksOwn s (joinThreads env s d ts).state := by
  intro ts
  induction ts with
  | nil => intro s d; exact ⟨rfl, rfl, List.Subset.refl _, Sys.Adds.of_eq rfl⟩
  | cons t ts ih =>
      intro s d
      obtain ⟨hcore, hnext, hidents, hadds⟩ := ih (fsckOnDeviceAddThread env s d t).state
        (fsckOnDeviceAddThread env s d t).obj
      have hsub := fsckOnDeviceAddThread_idents env s d t
      unfold joinThreads
      dsimp only
      refine ⟨hcore.trans (by simp), hnext.trans (by simp), List.Subset.trans hidents hsub, ?_⟩
      exact (fsckOnDeviceAddThread_adds env s d t).trans (hadds.mono (ChecksOwn.mono hsub))

theorem checkRemovalNotifications_mounted :
    (checkRemovalNotifications s d).mounted = s.mounted := by
  unfold checkRemovalNotifications
  split
  · simp
  · split <;> simp

theorem checkRemovalNotifications_next :
    (checkRemovalNotifications s d).next = s.next := by
  unfold checkRemovalNotifications
  split
  · simp
  · split <;> simp

theorem checkRemovalNotifications_notables :
    (checkRemovalNotifications s d).notables = s.notables := by
  unfold checkRemovalNotifications
  split
  · simp [handlerCb_notables]
  · split <;> simp [handlerCb_notables]

/-- The call that deletes the directory of a device that goes. -/
def DeletesRoot (d : StorageDevice) (K : Finset String) (r : CallRecord) : Prop :=
  r = ⟨.removeDirRecursive d.rootPath, K⟩ ∧ d.rootPath ≠ ""

/-- **What `onDeviceRemove` leaves and puts on record**: checks of the device's own
partitions, and one deletion, of its root path, under the final mount table. -/
theorem onDeviceRemove_keeps :
    (onDeviceRemove env s d).obj.address = d.address ∧
      (onDeviceRemove env s d).state.next = s.next ∧
      Sys.Adds (fun r => d.ChecksOwn r ∨ d.DeletesRoot (onDeviceRemove env s d).state.mounted r)
        s (onDeviceRemove env s d).state := by
  obtain ⟨hcore, hnext, -, hadds⟩ := joinThreads_keeps env d.fsckThreadArray s d
  unfold onDeviceRemove
  dsimp only
  have hroot : (deletePartitionData env (joinThreads env s d d.fsckThreadArray).state
      (joinThreads env s d d.fsckThreadArray).obj).obj.rootPath = d.rootPath :=
    rootPath_of_core (by simpa using hcore)
  have haddr : (deletePartitionData env (joinThreads env s d d.fsckThreadArray).state
      (joinThreads env s d d.fsckThreadArray).obj).obj.address = d.address :=
    address_of_core (by simpa using hcore)
  unfold removeRootDir
  rw [hroot]
  by_cases hempty : d.rootPath = ""
  · simp only [hempty, ne_eq, not_true_eq_false, if_false]
    refine ⟨haddr, ?_, ?_⟩
    · rw [checkRemovalNotifications_next]
      simpa using hnext
    · refine (hadds.mono fun r hr => Or.inl hr).trans (Sys.Adds.of_eq ?_)
      rw [checkRemovalNotifications_notables]
      simp
  · simp only [hempty, ne_eq, not_false_eq_true, if_true]
    refine ⟨haddr, ?_, ?_⟩
    · rw [checkRemovalNotifications_next]
      simpa using hnext
    · refine (hadds.mono fun r hr => Or.inl hr).trans (Sys.Adds.single ?_ (Or.inr ⟨rfl, hempty⟩))
      rw [checkRemovalNotifications_notables, checkRemovalNotifications_mounted]
      simp

end StorageDevice

/-! ### A streaming device that goes -/

namespace MTPDevice

variable (env : Env) (s : Sys) (d : MTPDevice)

/-- `mtpUmount` writes the flag of the device and nothing else. -/
theorem mtpUmount_keeps :
    (mtpUmount env s d).obj = { d with isMounted := (mtpUmount env s d).obj.isMounted } ∧
      (mtpUmount env s d).state.next = s.next ∧
      (mtpUmount env s d).state.notables = s.notables := by
  unfold mtpUmount unmountDevice
  split
  · exact ⟨rfl, rfl, rfl⟩
  · dsimp only
    split <;> simp

theorem onDeviceRemove_keeps :
    (onDeviceRemove env s d).obj.address = d.address ∧
      (onDeviceRemove env s d).state.next = s.next ∧
      (onDeviceRemove env s d).state.notables = s.notables ++
        [⟨.removeDirRecursive d.rootPath, (onDeviceRemove env s d).state.mounted⟩] := by
  have hnotify : ∀ t : Sys,
      (t.notify .mtpDevice .removeBeforeMount (some d.address)).notables = t.notables := by
    intro t
    simp [Sys.notify_notables, Call.notable]
  unfold onDeviceRemove
  dsimp only
  generalize hs : (if d.isMounted = false ∧ d.errorReason ≠ .ejected then
    s.notify .mtpDevice .removeBeforeMount (some d.address) else s) = t
  have ht : t.next = s.next ∧ t.notables = s.notables := by
    rw [← hs]
    split
    · exact ⟨rfl, hnotify s⟩
    · exact ⟨rfl, rfl⟩
  have hu := mtpUmount_keeps env t d
  split
  · rw [Sys.removeDirRecursive_notables]
    have haddr := congrArg (fun x : MTPDevice => x.address) hu.1
    have hroot := congrArg (fun x : MTPDevice => x.rootPath) hu.1
    dsimp only at haddr hroot
    refine ⟨haddr, hu.2.1.trans ht.1, ?_⟩
    rw [hu.2.2, ht.2, hroot, Sys.removeDirRecursive_mounted]
  · rw [Sys.removeDirRecursive_notables]
    exact ⟨rfl, ht.1, by rw [ht.2, Sys.removeDirRecursive_mounted]⟩

end MTPDevice

namespace PTPDevice

variable (env : Env) (s : Sys) (d : PTPDevice)

/-- `ptpUmount` writes the flag and the drive status of the device and nothing else. -/
theorem ptpUmount_keeps :
    (ptpUmount env s d).obj = { d with
      isMounted := (ptpUmount env s d).obj.isMounted
      driveStatus := (ptpUmount env s d).obj.driveStatus } ∧
      (ptpUmount env s d).state.next = s.next ∧
      (ptpUmount env s d).state.notables = s.notables := by
  unfold ptpUmount unmountDevice
  dsimp only
  split
  · exact ⟨rfl, rfl, rfl⟩
  · split <;> simp

theorem onDeviceRemove_keeps :
    (onDeviceRemove env s d).obj.address = d.address ∧
      (onDeviceRemove env s d).state.next = s.next ∧
      (onDeviceRemove env s d).state.notables = s.notables ++
        [⟨.removeDirRecursive d.rootPath, (onDeviceRemove env s d).state.mounted⟩] := by
  have hu := ptpUmount_keeps env s d
  unfold onDeviceRemove
  dsimp only
  split
  · rw [Sys.removeDirRecursive_notables]
    have haddr := congrArg (fun x : PTPDevice => x.address) hu.1
    have hroot := congrArg (fun x : PTPDevice => x.rootPath) hu.1
    dsimp only at haddr hroot
    refine ⟨haddr, hu.2.1, ?_⟩
    rw [hu.2.2, hroot, Sys.removeDirRecursive_mounted]
  · rw [Sys.removeDirRecursive_notables]
    exact ⟨rfl, rfl, by rw [Sys.removeDirRecursive_mounted]⟩

end PTPDevice

/-! ### Pointers -/

section Pointers

variable {α : Type} [IDevice α]

/-- A pointer is all that `removePointer` looks at. -/
theorem removePointer_congr (l : List α) {d e : α} (h : (base d).address = (base e).address) :
    removePointer l d = removePointer l e := by
  unfold removePointer
  rw [h]

/-- What was written to the device that goes does not matter. -/
theorem removePointer_writeBack (l : List α) (d : α) :
    removePointer (writeBack l d) d = removePointer l d := by
  unfold removePointer writeBack
  induction l with
  | nil => rfl
  | cons x xs ih =>
      rw [List.map_cons, List.filter_cons, List.filter_cons, ih]
      by_cases hx : (base x).address = (base d).address
      · simp [hx]
      · simp [hx]

end Pointers

/-- The announcement that a device is removed is about that device. -/
theorem Sys.Adds.removal (deviceType : DeviceEventType) (s : Sys) (address : Nat) :
    Sys.Adds (fun r => ∀ deviceType' a, r.call = .notify deviceType' .remove (some a) →
      address = a) s (s.notify deviceType .remove (some address)) := by
  refine Sys.Adds.single (r := ⟨.notify deviceType .remove (some address), s.mounted⟩) ?_ ?_
  · simp [Sys.notify_notables, Call.notable]
  · intro deviceType' a hcall
    simp only [Call.notify.injEq, Option.some.injEq, true_and] at hcall
    exact hcall.2

namespace StorageDeviceHandler

theorem removedDevice_mem {h : StorageDeviceHandler} {devClass : DeviceClass} {d : StorageDevice}
    (hfound : removedDevice h devClass = some d) : d ∈ h.storageList := by
  unfold removedDevice at hfound
  split at hfound
  · exact List.mem_of_find?_eq_some hfound
  · split at hfound
    · cases hname : getDeviceWithName h.storageList devClass.devName with
      | none =>
        rw [hname] at hfound
        exact absurd hfound (by simp)
      | some e =>
        rw [hname] at hfound
        dsimp only at hfound
        split at hfound
        · rw [Option.some.injEq] at hfound
          exact hfound ▸ List.mem_of_find?_eq_some hname
        · exact absurd hfound (by simp)
    · exact absurd hfound (by simp)

section Drop

variable (env : Env) (s : Sys) (h : StorageDeviceHandler) (d : StorageDevice)

/-- A storage device that is dropped goes, and the others stay as they are. -/
theorem dropStorageDevice_list :
    (h.dropStorageDevice env s d).obj.storageList = removePointer h.storageList d := by
  obtain ⟨haddr, -, -⟩ := d.onDeviceRemove_keeps env s
  have hlist : (h.dropStorageDevice env s d).obj.storageList =
      removePointer (writeBack h.storageList (d.onDeviceRemove env s).obj)
        (d.onDeviceRemove env s).obj := by
    unfold StorageDeviceHandler.dropStorageDevice StorageDeviceHandler.removeDevice
    dsimp only [StorageDeviceHandler.setDevice]
    split <;> rfl
  rw [hlist, removePointer_writeBack]
  exact removePointer_congr h.storageList haddr

theorem dropStorageDevice_next : (h.dropStorageDevice env s d).state.next = s.next := by
  obtain ⟨-, hnext, -⟩ := d.onDeviceRemove_keeps env s
  unfold StorageDeviceHandler.dropStorageDevice StorageDeviceHandler.removeDevice
  dsimp only
  split
  · exact hnext
  · exact hnext

theorem dropStorageDevice_mounted :
    (h.dropStorageDevice env s d).state.mounted = (d.onDeviceRemove env s).state.mounted := by
  unfold StorageDeviceHandler.dropStorageDevice StorageDeviceHandler.removeDevice
  dsimp only
  split <;> rfl

theorem dropStorageDevice_announced :
    Sys.Adds (fun r => ∀ deviceType a, r.call = .notify deviceType .remove (some a) →
      d.address = a) s (h.dropStorageDevice env s d).state := by
  obtain ⟨haddr, -, hadds⟩ := d.onDeviceRemove_keeps env s
  refine Sys.Adds.trans (hadds.mono ?_) ?_
  · intro r hr deviceType a hcall
    rcases hr with ⟨i, -, hi⟩ | ⟨hr, -⟩
    · rw [hi] at hcall
      exact absurd hcall (by simp)
    · rw [hr] at hcall
      exact absurd hcall (by simp)
  · unfold StorageDeviceHandler.dropStorageDevice StorageDeviceHandler.removeDevice
    dsimp only
    split
    · exact (Sys.Adds.removal .storageDevice _ _).mono fun r hr deviceType a hcall =>
        haddr.symm.trans (hr deviceType a hcall)
    · exact Sys.Adds.of_eq rfl

end Drop

end StorageDeviceHandler

/-! ### Entries -/

/-- An entry of a handler's list. -/
inductive Entry where
  | storage (d : StorageDevice)
  | mtp (d : MTPDevice)
  | ptp (d : PTPDevice)
  | usb (d : Device)
  | sound (d : SoundDevice)
  | video (d : VideoDevice)
  | cdc (d : CdcDevice)
  deriving DecidableEq

instance : IDevice Entry where
  toDevice
    | .storage d => base d
    | .mtp d => base d
    | .ptp d => base d
    | .usb d => base d
    | .sound d => base d
    | .video d => base d
    | .cdc d => base d

/-- The entry is a further slot of a card reader. -/
def Entry.isExtraSdCard : Entry → Bool
  | .storage d => d.isExtraSdCard
  | _ => false

namespace World

/-- The list of a handler. -/
def entries (w : World) : HandlerKind → List Entry
  | .storage => w.storage.storageList.map .storage
  | .mtp => w.mtp.mtpList.map .mtp
  | .ptp => w.ptp.sList.map .ptp
  | .hid => w.hid.sList.map .usb
  | .nfc => w.nfc.sList.map .usb
  | .sound => w.sound.sList.map .sound
  | .video => w.video.sList.map .video
  | .gamepad => w.gamepad.sList.map .usb
  | .bluetooth => w.bluetooth.sList.map .usb
  | .cdc => w.cdc.sList.map .cdc

/-- The device a remove event makes a handler drop: the first one whose stored path the
event's path starts with.  The storage handler only looks for whole devices, and for
further card slots by their name; the sound and video handlers take no event of another
subsystem. -/
def removes (w : World) (kind : HandlerKind) (devClass : DeviceClass) : Option Entry :=
  match kind with
  | .storage => (w.storage.removedDevice devClass).map .storage
  | .sound =>
    if devClass.devType = USB_DEVICE ∨ devClass.subsystemName = "sound" then
      getDeviceWithPath (w.entries .sound) devClass.devPath
    else none
  | .video =>
    if devClass.devType = USB_DEVICE ∨ devClass.subsystemName = "video4linux" then
      getDeviceWithPath (w.entries .video) devClass.devPath
    else none
  | kind => getDeviceWithPath (w.entries kind) devClass.devPath

@[simp] theorem clear_entries (w : World) (kind : HandlerKind) :
    w.clear.entries kind = w.entries kind := by
  cases kind <;> rfl

@[simp] theorem clear_removes (w : World) (kind : HandlerKind) (devClass : DeviceClass) :
    w.clear.removes kind devClass = w.removes kind devClass := by
  cases kind <;> rfl

end World

/-! ### What a removal does -/

/-- From list `l` to list `l'` the entries of the device that was found go, and nothing
but that device's removal is announced. -/
structure Removed (found : Option Entry) (s t : Sys) (l l' : List Entry) : Prop where
  next : t.next = s.next
  list : l' = match found with
    | none => l
    | some d => removePointer l d
  announced : Sys.Adds (fun r => ∀ deviceType a, r.call = .notify deviceType .remove (some a) →
    ∃ d, found = some d ∧ (base d).address = a) s t

theorem Removed.none (s : Sys) (l : List Entry) : Removed none s s l l :=
  ⟨rfl, rfl, Sys.Adds.of_eq rfl⟩

section Lists

variable {α β : Type} [IDevice α] [IDevice β]

section Map

variable {f : α → β} (hf : ∀ d, base (f d) = base d)
include hf

theorem getDeviceWithPath_map (l : List α) (devPath : String) :
    getDeviceWithPath (l.map f) devPath = (getDeviceWithPath l devPath).map f := by
  unfold getDeviceWithPath
  rw [List.find?_map]
  refine congrArg (Option.map f) (congrArg (List.find? · l) ?_)
  funext d
  simp [hf]

theorem getDeviceWithName_map (l : List α) (devName : String) :
    getDeviceWithName (l.map f) devName = (getDeviceWithName l devName).map f := by
  unfold getDeviceWithName
  rw [List.find?_map]
  refine congrArg (Option.map f) (congrArg (List.find? · l) ?_)
  funext d
  simp [hf]

theorem getDeviceWithNum_map (l : List α) (devNum : Int) :
    getDeviceWithNum (l.map f) devNum = (getDeviceWithNum l devNum).map f := by
  unfold getDeviceWithNum
  rw [List.find?_map]
  refine congrArg (Option.map f) (congrArg (List.find? · l) ?_)
  funext d
  simp [hf]

theorem removePointer_map (l : List α) (d : α) :
    (removePointer l d).map f = removePointer (l.map f) (f d) := by
  unfold removePointer
  rw [List.filter_map, hf]
  refine congrArg (List.map f) (congrArg (List.filter · l) ?_)
  funext x
  simp [hf]

theorem writeBack_map (l : List α) (e : α) :
    (writeBack l e).map f = writeBack (l.map f) (f e) := by
  unfold writeBack
  rw [List.map_map, List.map_map]
  refine List.map_congr_left fun x _ => ?_
  rw [Function.comp_apply, Function.comp_apply, hf, hf]
  split <;> rfl

end Map

variable {f : α → Entry} (hf : ∀ d, base (f d) = base d)
include hf

/-- A device `d`, changed to `e` before it goes, is dropped and its removal announced. -/
theorem Removed.some {s t : Sys} {l : List α} {d e : α} (he : (base e).address = (base d).address)
    (hnext : t.next = s.next)
    (ht : Sys.Adds (fun r => ∀ deviceType a, r.call ≠ .notify deviceType .remove (some a)) s t)
    (deviceType : DeviceEventType) :
    Removed (some (f d)) s (t.notify deviceType .remove (some (base e).address)) (l.map f)
      ((removePointer l e).map f) := by
  refine ⟨hnext, ?_, (ht.mono ?_).trans ((Sys.Adds.removal deviceType t _).mono ?_)⟩
  · rw [removePointer_congr l he]
    exact removePointer_map hf l d
  · intro r hr deviceType' a hcall
    exact absurd hcall (hr deviceType' a)
  · intro r hr deviceType' a hcall
    exact ⟨f d, rfl, by rw [hf, ← he]; exact hr deviceType' a hcall⟩

theorem removeByPath_removed (deviceType : DeviceEventType) (s : Sys) (h : DeviceList α)
    (devPath : String) :
    Removed (getDeviceWithPath (h.sList.map f) devPath) s
      (removeByPath deviceType s h devPath).state (h.sList.map f)
      ((removeByPath deviceType s h devPath).obj.sList.map f) := by
  rw [getDeviceWithPath_map hf]
  unfold removeByPath
  cases getDeviceWithPath h.sList devPath with
  | none => exact Removed.none _ _
  | some d => exact Removed.some hf rfl rfl (Sys.Adds.of_eq rfl) deviceType

end Lists

@[simp] theorem sMapDeviceActions_remove : sMapDeviceActions "remove" = some .usbDevRemove := by
  decide

section HandlerEvents

variable (env : Env) {devClass : DeviceClass} (hremove : devClass.action = "remove")
include hremove

theorem hid_remove (s : Sys) (h : DeviceList Device) :
    (HIDDeviceHandler.HandlerEvent env devClass s h).state =
        (removeByPath .hidDevice s h devClass.devPath).state ∧
      (HIDDeviceHandler.HandlerEvent env devClass s h).obj.sList =
        (removeByPath .hidDevice s h devClass.devPath).obj.sList := by
  unfold HIDDeviceHandler.HandlerEvent HIDDeviceHandler.ProcessHIDDevice removeByPath
  simp only [hremove, sMapDeviceActions_remove, if_true, true_and]
  cases hfind : getDeviceWithPath h.sList devClass.devPath with
  | some d => exact ⟨rfl, rfl⟩
  | none =>
    simp only [hfind, Bool.false_eq_true, if_false]
    split
    · exact ⟨rfl, rfl⟩
    · split
      · exact ⟨rfl, rfl⟩
      · split <;> exact ⟨rfl, rfl⟩

theorem nfc_remove (s : Sys) (h : DeviceList Device) :
    (NfcDeviceHandler.HandlerEvent env devClass s h).state =
        (removeByPath .nfcDevice s h devClass.devPath).state ∧
      (NfcDeviceHandler.HandlerEvent env devClass s h).obj.sList =
        (removeByPath .nfcDevice s h devClass.devPath).obj.sList := by
  unfold NfcDeviceHandler.HandlerEvent NfcDeviceHandler.ProcessNfcDevice removeByPath
  simp only [hremove, sMapDeviceActions_remove, if_true, true_and]
  cases hfind : getDeviceWithPath h.sList devClass.devPath with
  | some d => exact ⟨rfl, rfl⟩
  | none =>
    simp only [hfind]
    split
    · exact ⟨rfl, rfl⟩
    · split <;> exact ⟨rfl, rfl⟩

theorem gamepad_remove (s : Sys) (h : DeviceList Device) :
    (GamepadDeviceHandler.HandlerEvent env devClass s h).state =
        (removeByPath .gamepadDevice s h devClass.devPath).state ∧
      (GamepadDeviceHandler.HandlerEvent env devClass s h).obj.sList =
        (removeByPath .gamepadDevice s h devClass.devPath).obj.sList := by
  unfold GamepadDeviceHandler.HandlerEvent GamepadDeviceHandler.ProcessGamepadDevice removeByPath
  simp only [hremove, sMapDeviceActions_remove, if_true, true_and]
  cases hfind : getDeviceWithPath h.sList devClass.devPath with
  | some d => exact ⟨rfl, rfl⟩
  | none =>
    simp only [hfind, Bool.false_eq_true, if_false]
    split <;> exact ⟨rfl, rfl⟩

theorem bluetooth_remove (s : Sys) (h : DeviceList Device) :
    (BluetoothDeviceHandler.HandlerEvent env devClass s h).state =
        (removeByPath .bluetoothDevice s h devClass.devPath).state ∧
      (BluetoothDeviceHandler.HandlerEvent env devClass s h).obj.sList =
        (removeByPath .bluetoothDevice s h devClass.devPath).obj.sList := by
  unfold BluetoothDeviceHandler.HandlerEvent BluetoothDeviceHandler.ProcessBluetoothDevice
  simp [hremove]

theorem sound_remove (s : Sys) (h : DeviceList SoundDevice) :
    (SoundDeviceHandler.HandlerEvent env devClass s h).state =
        (if devClass.devType = USB_DEVICE ∨ devClass.subsystemName = "sound" then
          (removeByPath .soundDevice s h devClass.devPath).state else s) ∧
      (SoundDeviceHandler.HandlerEvent env devClass s h).obj.sList =
        (if devClass.devType = USB_DEVICE ∨ devClass.subsystemName = "sound" then
          (removeByPath .soundDevice s h devClass.devPath).obj.sList else h.sList) := by
  unfold SoundDeviceHandler.HandlerEvent SoundDeviceHandler.ProcessSoundDevice
  simp only [hremove, sMapDeviceActions_remove, ne_eq, not_true_eq_false, false_and, if_false]
  by_cases husb : devClass.devType = USB_DEVICE
  · simp [husb]
  · by_cases hsub : devClass.subsystemName = "sound"
    · simp [husb, hsub]
    · simp [husb, hsub]

theorem video_remove (s : Sys) (h : VideoDeviceHandler) :
    (VideoDeviceHandler.HandlerEvent env devClass s h).state =
        (if devClass.devType = USB_DEVICE ∨ devClass.subsystemName = "video4linux" then
          (removeByPath h.deviceType s h.toDeviceList devClass.devPath).state else s) ∧
      (VideoDeviceHandler.HandlerEvent env devClass s h).obj.sList =
        (if devClass.devType = USB_DEVICE ∨ devClass.subsystemName = "video4linux" then
          (removeByPath h.deviceType s h.toDeviceList devClass.devPath).obj.sList else h.sList) := by
  unfold VideoDeviceHandler.HandlerEvent VideoDeviceHandler.ProcessVideoDevice
  simp only [hremove, sMapDeviceActions_remove, ne_eq, not_true_eq_false, and_false, if_false]
  by_cases husb : devClass.devType = USB_DEVICE
  · simp [husb]
  · by_cases hsub : devClass.subsystemName = "video4linux"
    · simp [husb, hsub]
    · simp [husb, hsub]

theorem cdc_remove (s : Sys) (h : CdcDeviceHandler) :
    (CdcDeviceHandler.HandlerEvent env devClass s h).state =
        (removeByPath .cdcDevice s h.toDeviceList devClass.devPath).state ∧
      (CdcDeviceHandler.HandlerEvent env devClass s h).obj.sList =
        (removeByPath .cdcDevice s h.toDeviceList devClass.devPath).obj.sList := by
  unfold CdcDeviceHandler.HandlerEvent CdcDeviceHandler.ProcessCdcDevice removeByPath
  simp only [hremove, sMapDeviceActions_remove, if_true, true_and]
  cases hfind : getDeviceWithPath h.sList devClass.devPath with
  | some d => exact ⟨rfl, rfl⟩
  | none =>
    simp only [hfind, Bool.false_eq_true, if_false]
    split
    · exact ⟨rfl, rfl⟩
    · split
      · exact ⟨rfl, rfl⟩
      · split <;> exact ⟨rfl, rfl⟩

theorem mtp_remove (cfg : Config) (s : Sys) (h : MTPDeviceHandler) :
    Removed (getDeviceWithPath (h.mtpList.map .mtp) devClass.devPath) s
      (h.HandlerEvent cfg env s devClass).state (h.mtpList.map .mtp)
      ((h.HandlerEvent cfg env s devClass).obj.mtpList.map .mtp) := by
  rw [getDeviceWithPath_map (f := Entry.mtp) (fun _ => rfl)]
  unfold MTPDeviceHandler.HandlerEvent MTPDeviceHandler.ProcessMTPDevice
  simp only [hremove, sMapDeviceActions_remove, true_or, if_true]
  cases getDeviceWithPath h.mtpList devClass.devPath with
  | none => exact Removed.none _ _
  | some d =>
    obtain ⟨haddr, hnext, hnot⟩ := d.onDeviceRemove_keeps env s
    exact Removed.some (f := .mtp) (fun _ => rfl) haddr hnext (Sys.Adds.single hnot (by simp)) .mtpDevice

theorem ptp_remove (cfg : Config) (s : Sys) (h : PTPDeviceHandler) :
    Removed (getDeviceWithPath (h.sList.map .ptp) devClass.devPath) s
      (h.HandlerEvent cfg env s devClass).state (h.sList.map .ptp)
      ((h.HandlerEvent cfg env s devClass).obj.sList.map .ptp) := by
  rw [getDeviceWithPath_map (f := Entry.ptp) (fun _ => rfl)]
  unfold PTPDeviceHandler.HandlerEvent PTPDeviceHandler.ProcessPTPDevice
  simp only [hremove, sMapDeviceActions_remove, if_true]
  cases getDeviceWithPath h.sList devClass.devPath with
  | none => exact Removed.none _ _
  | some d =>
    obtain ⟨haddr, hnext, hnot⟩ := d.onDeviceRemove_keeps env s
    exact Removed.some (f := .ptp) (fun _ => rfl) haddr hnext (Sys.Adds.single hnot (by simp)) .ptpDevice

theorem storage_remove (cfg : Config) (s : Sys) (h : StorageDeviceHandler) :
    Removed ((h.removedDevice devClass).map .storage) s
      (h.HandlerEvent cfg env s devClass).state (h.storageList.map .storage)
      ((h.HandlerEvent cfg env s devClass).obj.storageList.map .storage) := by
  unfold StorageDeviceHandler.HandlerEvent StorageDeviceHandler.deleteStorageDevice
  rw [if_pos hremove]
  cases h.removedDevice devClass with
  | none => exact Removed.none _ _
  | some d =>
    refine ⟨h.dropStorageDevice_next env s d, ?_, ?_⟩
    · simp only [Option.map_some, h.dropStorageDevice_list]
      exact removePointer_map (f := Entry.storage) (fun _ => rfl) _ _
    · refine (h.dropStorageDevice_announced env s d).mono fun r hr deviceType a hcall => ?_
      exact ⟨.storage d, rfl, hr deviceType a hcall⟩

/-- **What a remove event does to a handler.** -/
theorem World.HandlerEvent_remove (cfg : Config) (w : World) (kind : HandlerKind) :
    Removed (w.removes kind devClass) w.sys (w.HandlerEvent cfg env kind devClass).1.sys
      (w.entries kind) ((w.HandlerEvent cfg env kind devClass).1.entries kind) := by
  have husb : ∀ d : Device, base (Entry.usb d) = base d := fun _ => rfl
  unfold World.HandlerEvent World.removes
  cases kind with
  | storage => exact storage_remove env hremove cfg w.sys w.storage
  | mtp => exact mtp_remove env hremove cfg w.sys w.mtp
  | ptp => exact ptp_remove env hremove cfg w.sys w.ptp
  | hid =>
    simp only [World.entries, (hid_remove env hremove w.sys w.hid).1,
      (hid_remove env hremove w.sys w.hid).2]
    exact removeByPath_removed husb _ _ _ _
  | nfc =>
    simp only [World.entries, (nfc_remove env hremove w.sys w.nfc).1,
      (nfc_remove env hremove w.sys w.nfc).2]
    exact removeByPath_removed husb _ _ _ _
  | gamepad =>
    simp only [World.entries, (gamepad_remove env hremove w.sys w.gamepad).1,
      (gamepad_remove env hremove w.sys w.gamepad).2]
    exact removeByPath_removed husb _ _ _ _
  | bluetooth =>
    simp only [World.entries, (bluetooth_remove env hremove w.sys w.bluetooth).1,
      (bluetooth_remove env hremove w.sys w.bluetooth).2]
    exact removeByPath_removed husb _ _ _ _
  | cdc =>
    simp only [World.entries, (cdc_remove env hremove w.sys w.cdc).1,
      (cdc_remove env hremove w.sys w.cdc).2]
    exact removeByPath_removed (f := .cdc) (fun _ => rfl) _ _ _ _
  | sound =>
    simp only [World.entries, (sound_remove env hremove w.sys w.sound).1,
      (sound_remove env hremove w.sys w.sound).2]
    split
    · exact removeByPath_removed (f := .sound) (fun _ => rfl) _ _ _ _
    · exact Removed.none _ _
  | video =>
    simp only [World.entries, (video_remove env hremove w.sys w.video).1,
      (video_remove env hremove w.sys w.video).2]
    split
    · exact removeByPath_removed (f := .video) (fun _ => rfl) _ _ _ _
    · exact Removed.none _ _

end HandlerEvents

end Pdm
