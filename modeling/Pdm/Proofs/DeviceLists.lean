/-
Which devices the subscribers know of.

`Lists` is what an event that is no removal does to the devices of a handler without a file
system: at most one joins, which the handler has just created, and the handlers that notify
of a new device have done so.  A removal posts, except to the subscribers of cameras while no
camera is ready.  From these two every step is one of the three things that can happen to a
board, and the copy on it is exact in every run (`posted_devices`).
-/
import Pdm.Framework.DeviceLists
import Pdm.Lib.Runs
import Pdm.Proofs.Dispatch
import Pdm.Proofs.WorldSteps

namespace Pdm

open Boards (Board)

/-! ### Addresses -/

section Addresses

variable {α : Type} [IDevice α]

/-- The addresses of a list of pointers. -/
def addresses (l : List α) : List Nat := l.map fun d => (base d).address

theorem addresses_writeBack (l : List α) (e : α) : addresses (writeBack l e) = addresses l := by
  unfold addresses writeBack
  rw [List.map_map]
  refine List.map_congr_left fun x _ => ?_
  rw [Function.comp_apply]
  split
  · next h => exact h.symm
  · rfl

theorem addresses_map {f : α → Entry} (hf : ∀ d, base (f d) = base d) (l : List α) :
    addresses (l.map f) = addresses l := by
  unfold addresses
  rw [List.map_map]
  refine List.map_congr_left fun x _ => ?_
  rw [Function.comp_apply, hf]

/-- The addresses of the devices that a list names. -/
def named (names : Device → Bool) (l : List α) : List Nat :=
  addresses (l.filter fun d => names (base d))

variable {names : Device → Bool} {l : List α} {a : Nat}

theorem mem_named : a ∈ named names l ↔ ∃ d ∈ l, names (base d) = true ∧ (base d).address = a := by
  simp [named, addresses, and_assoc]

theorem named_all (hnames : ∀ d, names d = true) : named names l = addresses l := by
  unfold named
  rw [List.filter_eq_self.mpr fun d _ => hnames (base d)]

theorem named_map {f : α → Entry} (hf : ∀ d, base (f d) = base d) (l : List α) :
    named names (l.map f) = named names l := by
  unfold named
  rw [List.filter_map, addresses_map hf]
  refine congrArg (fun p => addresses (l.filter p)) ?_
  funext d
  rw [Function.comp_apply, hf]

/-- Writing to a device that is named before exactly if it is afterwards. -/
theorem mem_named_writeBack {e : α}
    (hsame : ∀ d ∈ l, (base d).address = (base e).address → names (base d) = names (base e)) :
    a ∈ named names (writeBack l e) ↔ a ∈ named names l := by
  have hkept : ∀ d ∈ l,
      names (base (if (base d).address = (base e).address then e else d)) = names (base d) ∧
        (base (if (base d).address = (base e).address then e else d)).address =
          (base d).address := by
    intro d hd
    by_cases heq : (base d).address = (base e).address
    · rw [if_pos heq]
      exact ⟨(hsame d hd heq).symm, heq.symm⟩
    · rw [if_neg heq]
      exact ⟨rfl, rfl⟩
  rw [mem_named, mem_named]
  constructor
  · intro h
    obtain ⟨x, hx, hnames, haddress⟩ := h
    obtain ⟨d, hd, rfl⟩ := List.mem_map.mp hx
    obtain ⟨hkeeps, hstays⟩ := hkept d hd
    exact ⟨d, hd, hkeeps ▸ hnames, hstays ▸ haddress⟩
  · intro h
    obtain ⟨d, hd, hnames, haddress⟩ := h
    obtain ⟨hkeeps, hstays⟩ := hkept d hd
    exact ⟨_, List.mem_map_of_mem hd, hkeeps.trans hnames, hstays.trans haddress⟩

theorem mem_named_removePointer {d : α} :
    a ∈ named names (removePointer l d) ↔ a ∈ named names l ∧ a ≠ (base d).address := by
  rw [mem_named, mem_named]
  unfold removePointer
  constructor
  · intro h
    obtain ⟨x, hx, hnames, rfl⟩ := h
    obtain ⟨hmem, hne⟩ := List.mem_filter.mp hx
    exact ⟨⟨x, hmem, hnames, rfl⟩, of_decide_eq_true hne⟩
  · intro h
    obtain ⟨⟨x, hx, hnames, rfl⟩, hne⟩ := h
    exact ⟨x, List.mem_filter.mpr ⟨hx, decide_eq_true hne⟩, hnames, rfl⟩

/-- At an address there is one device. -/
theorem eq_of_address (hnodup : (addresses l).Nodup) {d e : α} (hd : d ∈ l) (he : e ∈ l)
    (haddress : (base d).address = (base e).address) : d = e :=
  List.inj_on_of_nodup_map hnodup hd he haddress

end Addresses

/-! ### What is told -/

/-- A notification of this kind is on record. -/
def Sys.Tells (s : Sys) (deviceType : DeviceEventType) (event : EventType) : Prop :=
  ∃ r ∈ s.calls, ∃ device, r.call = .notify deviceType event device

theorem Sys.notify_tells (s : Sys) (deviceType : DeviceEventType) (event : EventType)
    (device : Option Nat) : (s.notify deviceType event device).Tells deviceType event :=
  ⟨⟨.notify deviceType event device, s.mounted⟩, by simp [Sys.notify, Sys.record], device, rfl⟩

/-- A notification that leads to a key posts to it. -/
theorem Sys.Tells.postsTo {s : Sys} {deviceType : DeviceEventType} {event : EventType}
    {key : Subscription} (h : s.Tells deviceType event)
    (hkey : ((DeviceTracker.update deviceType event).flatMap
      PdmLunaService.notifySubscribers).contains key = true) : s.postsTo key = true := by
  obtain ⟨r, hr, device, hcall⟩ := h
  unfold Sys.postsTo
  rw [List.any_eq_true]
  refine ⟨r, hr, ?_⟩
  rw [hcall]
  exact hkey

/-! ### Events that are no removals -/

/-- The devices `l` of a handler become `l'`: one may have been created, and a handler that
notifies of its new devices has done so. -/
structure Lists (created : Bool) (sent : Option DeviceEventType) (s t : Sys) (l l' : List Nat) :
    Prop where
  members : ∀ a, a ∈ l' ↔ a ∈ l ∨ (created = true ∧ a = s.next)
  told : created = true → ∀ deviceType, sent = some deviceType → t.Tells deviceType .add

section Lists

variable {s t : Sys} {sent : Option DeviceEventType}

theorem Lists.same (l : List Nat) : Lists false sent s t l l :=
  ⟨fun a => by simp, fun h => by cases h⟩

variable {α : Type} [IDevice α] {h : DeviceList α} {devPath : String}

/-- A new device is at the address it is given, and is notified of. -/
def AddRule.Sends (rule : AddRule α) (sent : Option DeviceEventType) : Prop :=
  ∀ a t, (base (rule.create a t).obj).address = a ∧
    ∀ deviceType, sent = some deviceType → (rule.create a t).state.Tells deviceType .add

theorem pushNew_lists {create : Nat → Sys → Out α Unit}
    (hcreate : (base (create s.next s.alloc).obj).address = s.next ∧
      ∀ deviceType, sent = some deviceType →
        (create s.next s.alloc).state.Tells deviceType .add) :
    Lists true sent s (pushNew s h create).state (addresses h.sList)
      (addresses (pushNew s h create).obj.sList) := by
  refine ⟨fun a => ?_, fun _ => hcreate.2⟩
  unfold pushNew addresses
  simp [hcreate.1]

theorem addByPath_lists {rule : AddRule α} (hsends : rule.Sends sent) :
    Lists (getDeviceWithPath h.sList devPath).isNone sent s (addByPath rule s h devPath).state
      (addresses h.sList) (addresses (addByPath rule s h devPath).obj.sList) := by
  unfold addByPath
  cases hfind : getDeviceWithPath h.sList devPath with
  | none => exact pushNew_lists (hsends s.next s.alloc)
  | some d =>
    unfold writeFound
    dsimp only
    rw [addresses_writeBack]
    exact Lists.same _

/-- The body of a handler that adds by path, on an event that is no removal. -/
theorem processByPath_lists {action : String} (hremove : action ≠ "remove") {rule : AddRule α}
    (hsends : rule.Sends sent) (deviceType : DeviceEventType) {r : Out (DeviceList α) Unit}
    (hr : r = match sMapDeviceActions action with
      | some .usbDevAdd => addByPath rule s h devPath
      | some .usbDevRemove => removeByPath deviceType s h devPath
      | _ => ⟨s, h, ()⟩) :
    Lists (action = "add" && (getDeviceWithPath h.sList devPath).isNone) sent s r.state
      (addresses h.sList) (addresses r.obj.sList) := by
  subst hr
  rcases sMapDeviceActions_cases hremove with ⟨hadd, hact⟩ | ⟨hadd, hact, hact'⟩
  · rw [hact, decide_eq_true hadd, Bool.true_and]
    exact addByPath_lists hsends
  · rw [decide_eq_false hadd, Bool.false_and]
    split
    · contradiction
    · contradiction
    · exact Lists.same _

/-- The entries of a handler's list are at the addresses of its devices. -/
theorem Lists.of_list {l l' : List α} {takes : Bool}
    (hl : Lists (takes && (getDeviceWithPath l devPath).isNone) sent s t (addresses l)
      (addresses l')) {f : α → Entry} (hf : ∀ d, base (f d) = base d) :
    Lists (takes && (getDeviceWithPath (l.map f) devPath).isNone) sent s t (addresses (l.map f))
      (addresses (l'.map f)) := by
  rw [getDeviceWithPath_map hf, Option.isNone_map, addresses_map hf, addresses_map hf]
  exact hl

end Lists

section HandlerEvents

variable (env : Env) {devClass : DeviceClass} (hremove : devClass.action ≠ "remove") {s : Sys}
include hremove

theorem hid_lists {h : DeviceList Device} :
    Lists (HIDDeviceHandler.adds devClass && (getDeviceWithPath h.sList devClass.devPath).isNone)
      none s (HIDDeviceHandler.HandlerEvent env devClass s h).state (addresses h.sList)
      (addresses (HIDDeviceHandler.HandlerEvent env devClass s h).obj.sList) := by
  have hsends : (HIDDeviceHandler.addRule env devClass).Sends none := by
    intro a t
    refine ⟨?_, fun _ hsent => by cases hsent⟩
    unfold HIDDeviceHandler.addRule HIDDeviceHandler.setInfo HIDDevice.setDeviceInfo Device.new
    dsimp only
    split
    · split <;> simp [base, IDevice.toDevice]
    · rfl
  have hprocess : Lists (devClass.action = "add" &&
        (getDeviceWithPath h.sList devClass.devPath).isNone) none s
      (HIDDeviceHandler.ProcessHIDDevice env devClass s h).state (addresses h.sList)
      (addresses (HIDDeviceHandler.ProcessHIDDevice env devClass s h).obj.sList) :=
    processByPath_lists hremove hsends .hidDevice rfl
  unfold HIDDeviceHandler.HandlerEvent HIDDeviceHandler.adds
  simp only [hremove, false_and, if_false]
  cases contains devClass.interfaceClass HIDDeviceHandler.iClass with
  | false => exact Lists.same _
  | true =>
    by_cases husb : devClass.devType = USB_DEVICE
    · simpa [husb] using hprocess
    · by_cases hsub : devClass.subsystemName = "input"
      · simpa [husb, hsub] using hprocess
      · simpa [husb, hsub] using Lists.same _

theorem nfc_lists {h : DeviceList Device} :
    Lists (NfcDeviceHandler.adds devClass && (getDeviceWithPath h.sList devClass.devPath).isNone)
      (some .nfcDevice) s (NfcDeviceHandler.HandlerEvent env devClass s h).state
      (addresses h.sList)
      (addresses (NfcDeviceHandler.HandlerEvent env devClass s h).obj.sList) := by
  have hsends : (NfcDeviceHandler.addRule env devClass).Sends (some .nfcDevice) := by
    intro a t
    refine ⟨?_, fun _ hsent => Option.some.inj hsent ▸ Sys.notify_tells _ _ _ _⟩
    unfold NfcDeviceHandler.addRule NfcDevice.setDeviceInfo quietly Device.new
    dsimp only
    split <;> simp [base, IDevice.toDevice]
  have hprocess : Lists (devClass.action = "add" &&
        (getDeviceWithPath h.sList devClass.devPath).isNone) (some .nfcDevice) s
      (NfcDeviceHandler.ProcessNfcDevice env devClass s h).state (addresses h.sList)
      (addresses (NfcDeviceHandler.ProcessNfcDevice env devClass s h).obj.sList) :=
    processByPath_lists hremove hsends .nfcDevice rfl
  unfold NfcDeviceHandler.HandlerEvent NfcDeviceHandler.adds
  simp only [hremove, false_and, if_false]
  cases contains devClass.interfaceClass NfcDeviceHandler.iClass with
  | false => exact Lists.same _
  | true => simpa using hprocess

theorem gamepad_lists {h : DeviceList Device} :
    Lists (GamepadDeviceHandler.adds devClass &&
        (getDeviceWithPath h.sList devClass.devPath).isNone)
      (some .gamepadDevice) s (GamepadDeviceHandler.HandlerEvent env devClass s h).state
      (addresses h.sList)
      (addresses (GamepadDeviceHandler.HandlerEvent env devClass s h).obj.sList) := by
  have hsends : (GamepadDeviceHandler.addRule env devClass).Sends (some .gamepadDevice) := by
    intro a t
    refine ⟨?_, fun _ hsent => Option.some.inj hsent ▸ Sys.notify_tells _ _ _ _⟩
    unfold GamepadDeviceHandler.addRule GamepadDevice.setDeviceInfo quietly Device.new
    dsimp only
    split <;> simp [base, IDevice.toDevice]
  have hprocess : Lists (devClass.action = "add" &&
        (getDeviceWithPath h.sList devClass.devPath).isNone) (some .gamepadDevice) s
      (GamepadDeviceHandler.ProcessGamepadDevice env devClass s h).state (addresses h.sList)
      (addresses (GamepadDeviceHandler.ProcessGamepadDevice env devClass s h).obj.sList) :=
    processByPath_lists hremove hsends .gamepadDevice rfl
  unfold GamepadDeviceHandler.HandlerEvent GamepadDeviceHandler.adds
  simp only [hremove, false_and, if_false]
  by_cases hpad : devClass.gamepadId = "1"
  · simpa [hpad] using hprocess
  · simpa [hpad] using Lists.same _

theorem bluetooth_lists {h : DeviceList Device} :
    Lists (BluetoothDeviceHandler.adds devClass &&
        (getDeviceWithPath h.sList devClass.devPath).isNone)
      (some .bluetoothDevice) s (BluetoothDeviceHandler.HandlerEvent env devClass s h).state
      (addresses h.sList)
      (addresses (BluetoothDeviceHandler.HandlerEvent env devClass s h).obj.sList) := by
  have hsends : (BluetoothDeviceHandler.addRule env devClass).Sends (some .bluetoothDevice) := by
    intro a t
    refine ⟨?_, fun _ hsent => Option.some.inj hsent ▸ Sys.notify_tells _ _ _ _⟩
    unfold BluetoothDeviceHandler.addRule BluetoothDevice.setDeviceInfo quietly Device.new
    dsimp only
    split <;> simp [base, IDevice.toDevice]
  have hprocess : Lists (devClass.action = "add" &&
        (getDeviceWithPath h.sList devClass.devPath).isNone) (some .bluetoothDevice) s
      (BluetoothDeviceHandler.ProcessBluetoothDevice env devClass s h).state (addresses h.sList)
      (addresses (BluetoothDeviceHandler.ProcessBluetoothDevice env devClass s h).obj.sList) :=
    processByPath_lists hremove hsends .bluetoothDevice rfl
  unfold BluetoothDeviceHandler.HandlerEvent BluetoothDeviceHandler.adds
  simp only [hremove, if_false]
  by_cases hblue : devClass.bluetoothId = "1"
  · simpa [hblue] using hprocess
  · simpa [hblue] using Lists.same _

theorem video_lists {h : VideoDeviceHandler} :
    Lists (VideoDeviceHandler.adds devClass &&
        (getDeviceWithPath h.sList devClass.devPath).isNone)
      none s (VideoDeviceHandler.HandlerEvent env devClass s h).state (addresses h.sList)
      (addresses (VideoDeviceHandler.HandlerEvent env devClass s h).obj.sList) := by
  have hsends : (VideoDeviceHandler.addRule env devClass h).Sends none := by
    intro a t
    refine ⟨?_, fun _ hsent => by cases hsent⟩
    unfold VideoDeviceHandler.addRule VideoDevice.setDeviceInfo VideoDevice.new quietly Device.new
    dsimp only
    split
    · split <;> simp [base, IDevice.toDevice]
    · rfl
  have hprocess : Lists (devClass.action = "add" &&
        (getDeviceWithPath h.sList devClass.devPath).isNone) none s
      (VideoDeviceHandler.ProcessVideoDevice env devClass s h).state (addresses h.sList)
      (addresses (VideoDeviceHandler.ProcessVideoDevice env devClass s h).obj.sList) :=
    processByPath_lists hremove hsends h.deviceType rfl
  unfold VideoDeviceHandler.HandlerEvent VideoDeviceHandler.adds
  cases contains devClass.interfaceClass VideoDeviceHandler.iClass with
  | false => simpa [hremove] using Lists.same _
  | true =>
    by_cases husb : devClass.devType = USB_DEVICE
    · simpa [husb] using hprocess
    · by_cases hsub : devClass.subsystemName = "video4linux"
      · simpa [husb, hsub] using hprocess
      · simpa [husb, hsub] using Lists.same _

omit hremove in
theorem getDeviceSpeed_ne_empty (speed : Int) : getDeviceSpeed speed ≠ "" := by
  unfold getDeviceSpeed
  repeat' split
  all_goals decide

omit hremove in
/-- A new camera has the address it is given, and a speed if its event has one. -/
theorem newCamera (hadd : devClass.action = "add") (address : Nat) (isCameraReady : Bool) :
    (base ((VideoDevice.new address devClass.devPath).setDeviceInfo env devClass
        isCameraReady)).address = address ∧
      UsbList.videoDevices.names (base ((VideoDevice.new address devClass.devPath).setDeviceInfo env
        devClass isCameraReady)) = UsbList.videoDevices.namesNew devClass := by
  unfold VideoDevice.setDeviceInfo
  rw [if_pos hadd]
  unfold UsbList.names UsbList.namesNew Device.setSpeed
  by_cases hspeed : devClass.speed = ""
  · cases isCameraReady <;> simp [hspeed, base, IDevice.toDevice, VideoDevice.new, Device.new,
      Device.setDeviceInfo]
  · cases isCameraReady <;> simp [hspeed, base, IDevice.toDevice, VideoDevice.new, Device.new,
      Device.setDeviceInfo, getDeviceSpeed_ne_empty (toInt devClass.speed)]

/-- What an event that is no removal does to the cameras. -/
inductive CameraStep (devClass : DeviceClass) (s : Sys) (h : VideoDeviceHandler) :
    Bool → List VideoDevice → Prop
  | created (hadd : devClass.action = "add") :
    CameraStep devClass s h true (h.sList ++
      [(VideoDevice.new s.next devClass.devPath).setDeviceInfo env devClass h.isCameraReady])
  | updated (d : VideoDevice) (hd : d ∈ h.sList) :
    CameraStep devClass s h false (writeBack h.sList (d.updateDeviceInfo devClass))
  | same : CameraStep devClass s h false h.sList

theorem video_step {h : VideoDeviceHandler} :
    CameraStep env devClass s h
      (VideoDeviceHandler.adds devClass && (getDeviceWithPath h.sList devClass.devPath).isNone)
      (VideoDeviceHandler.HandlerEvent env devClass s h).obj.sList := by
  have hprocess : CameraStep env devClass s h
      (devClass.action = "add" && (getDeviceWithPath h.sList devClass.devPath).isNone)
      (VideoDeviceHandler.ProcessVideoDevice env devClass s h).obj.sList := by
    unfold VideoDeviceHandler.ProcessVideoDevice
    rcases sMapDeviceActions_cases hremove with ⟨hadd, hact⟩ | ⟨hadd, hact, hact'⟩
    · rw [hact, decide_eq_true hadd, Bool.true_and]
      unfold addByPath
      dsimp only
      cases hfind : getDeviceWithPath h.sList devClass.devPath with
      | none => exact .created hadd
      | some d => exact .updated d (List.mem_of_find?_eq_some hfind)
    · rw [decide_eq_false hadd, Bool.false_and]
      dsimp only
      split
      · contradiction
      · contradiction
      · exact .same
  unfold VideoDeviceHandler.HandlerEvent VideoDeviceHandler.adds
  cases contains devClass.interfaceClass VideoDeviceHandler.iClass with
  | false => simpa [hremove] using CameraStep.same
  | true =>
    by_cases husb : devClass.devType = USB_DEVICE
    · simpa [husb] using hprocess
    · by_cases hsub : devClass.subsystemName = "video4linux"
      · simpa [husb, hsub] using hprocess
      · simpa [husb, hsub] using CameraStep.same

omit hremove in
theorem CameraStep.nodup {h : VideoDeviceHandler} {created : Bool} {l : List VideoDevice}
    (hstep : CameraStep env devClass s h created l) (hnodup : (addresses h.sList).Nodup)
    (hgiven : ∀ a ∈ addresses h.sList, a < s.next) : (addresses l).Nodup := by
  cases hstep with
  | created hadd =>
    unfold addresses
    rw [List.map_append, List.nodup_append']
    refine ⟨hnodup, List.nodup_singleton _, ?_⟩
    rw [List.map_singleton, List.disjoint_singleton]
    rw [(newCamera env hadd s.next h.isCameraReady).1]
    exact fun hmem => Nat.lt_irrefl _ (hgiven _ hmem)
  | updated d hd =>
    rw [addresses_writeBack]
    exact hnodup
  | same => exact hnodup

omit hremove in
/-- The cameras with a speed: a new one has that of its event, and later events do not change
it. -/
theorem CameraStep.named {h : VideoDeviceHandler} {created : Bool} {l : List VideoDevice}
    (hstep : CameraStep env devClass s h created l) (hnodup : (addresses h.sList).Nodup) (a : Nat) :
    a ∈ Pdm.named UsbList.videoDevices.names l ↔
      a ∈ Pdm.named UsbList.videoDevices.names h.sList ∨
        (created = true ∧ UsbList.videoDevices.namesNew devClass = true ∧ a = s.next) := by
  cases hstep with
  | created hadd =>
    obtain ⟨haddress, hnames⟩ := newCamera env hadd s.next h.isCameraReady
    rw [mem_named, mem_named]
    simp only [List.mem_append, List.mem_singleton, or_and_right, exists_or, exists_eq_left,
      haddress, hnames, true_and]
    exact or_congr_right (and_congr_right fun _ => eq_comm)
  | updated d hd =>
    have hkept : (base (d.updateDeviceInfo devClass)).address = (base d).address ∧
        UsbList.videoDevices.names (base (d.updateDeviceInfo devClass)) =
          UsbList.videoDevices.names (base d) := by
      unfold VideoDevice.updateDeviceInfo
      split <;> exact ⟨rfl, rfl⟩
    rw [mem_named_writeBack fun x hx haddress => by
      rw [eq_of_address hnodup hx hd (haddress.trans hkept.1), hkept.2]]
    simp
  | same => simp

theorem sound_lists {h : DeviceList SoundDevice} :
    Lists (SoundDeviceHandler.adds devClass &&
        (getDeviceWithPath h.sList devClass.devPath).isNone)
      none s (SoundDeviceHandler.HandlerEvent env devClass s h).state (addresses h.sList)
      (addresses (SoundDeviceHandler.HandlerEvent env devClass s h).obj.sList) := by
  have hadd : Lists (!contains devClass.devName "timer" &&
        (getDeviceWithPath h.sList devClass.devPath).isNone) none s
      (SoundDeviceHandler.addSoundDevice env devClass s h).state (addresses h.sList)
      (addresses (SoundDeviceHandler.addSoundDevice env devClass s h).obj.sList) := by
    unfold SoundDeviceHandler.addSoundDevice
    cases getDeviceWithPath h.sList devClass.devPath with
    | none =>
      dsimp only
      cases contains devClass.devName "timer" with
      | true => exact Lists.same _
      | false =>
        rw [if_neg Bool.false_ne_true]
        apply pushNew_lists
        refine ⟨?_, fun _ hsent => by cases hsent⟩
        unfold SoundDevice.setDeviceInfo SoundDevice.new quietly Device.new
        simp [base, IDevice.toDevice]
    | some d =>
      unfold writeFound
      dsimp only
      rw [addresses_writeBack, Option.isNone_some, Bool.and_false]
      exact Lists.same _
  have hprocess : Lists (devClass.action = "add" && (!contains devClass.devName "timer" &&
        (getDeviceWithPath h.sList devClass.devPath).isNone)) none s
      (SoundDeviceHandler.ProcessSoundDevice env devClass s h).state (addresses h.sList)
      (addresses (SoundDeviceHandler.ProcessSoundDevice env devClass s h).obj.sList) := by
    unfold SoundDeviceHandler.ProcessSoundDevice
    rcases sMapDeviceActions_cases hremove with ⟨hact, hmap⟩ | ⟨hact, hmap, hmap'⟩
    · rw [hmap, decide_eq_true hact, Bool.true_and]
      exact hadd
    · rw [decide_eq_false hact, Bool.false_and]
      split
      · contradiction
      · contradiction
      · split
        · exact Lists.same _
        · unfold writeFound
          dsimp only
          rw [addresses_writeBack]
          exact Lists.same _
      · exact Lists.same _
  unfold SoundDeviceHandler.HandlerEvent SoundDeviceHandler.adds
  cases SoundDeviceHandler.isSoundDevice devClass with
  | false => simpa [hremove] using Lists.same _
  | true =>
    by_cases husb : devClass.devType = USB_DEVICE
    · simpa [husb, Bool.and_assoc] using hprocess
    · by_cases hsub : devClass.subsystemName = "sound"
      · simpa [husb, hsub, Bool.and_assoc] using hprocess
      · simpa [husb, hsub] using Lists.same _

theorem cdc_lists {h : CdcDeviceHandler} :
    Lists (h.adds devClass && (getDeviceWithPath h.sList devClass.devPath).isNone)
      (if devClass.usbModemId = YES then some .cdcDevice else none) s
      (h.HandlerEvent env devClass s).state (addresses h.sList)
      (addresses (h.HandlerEvent env devClass s).obj.sList) := by
  have hnew : ∀ a, ((CdcDevice.new a devClass.devPath).setDeviceInfo env devClass).address = a := by
    intro a
    unfold CdcDevice.setDeviceInfo CdcDevice.new Device.new
    dsimp only
    split
    · split <;> split <;> simp
    · rfl
  have hadd : Lists (getDeviceWithPath h.sList devClass.devPath).isNone
      (if devClass.usbModemId = YES then some .cdcDevice else none) s
      (CdcDeviceHandler.addCdcDevice env devClass s h.toDeviceList).state (addresses h.sList)
      (addresses (CdcDeviceHandler.addCdcDevice env devClass s h.toDeviceList).obj.sList) := by
    unfold CdcDeviceHandler.addCdcDevice
    cases hfind : getDeviceWithPath h.sList devClass.devPath with
    | some d =>
      -- The device is listed once more, at the address it has.
      refine ⟨fun a => ?_, fun hcreated => by cases hcreated⟩
      dsimp only
      rw [addresses_writeBack]
      unfold addresses
      rw [List.map_append, List.mem_append, List.map_singleton, List.mem_singleton]
      constructor
      · intro ha
        rcases ha with ha | ha
        · exact Or.inl ha
        · rw [ha]
          exact Or.inl (List.mem_map_of_mem (List.mem_of_find?_eq_some hfind))
      · intro ha
        rcases ha with ha | ⟨hcreated, -⟩
        · exact Or.inl ha
        · cases hcreated
    | none =>
      dsimp only
      by_cases hmodem : devClass.usbModemId = YES
      · rw [if_pos hmodem, if_pos hmodem]
        refine ⟨fun a => ?_, fun _ _ hsent => Option.some.inj hsent ▸ Sys.notify_tells _ _ _ _⟩
        simp [addresses, base, IDevice.toDevice, hnew]
      · rw [if_neg hmodem, if_neg hmodem]
        refine ⟨fun a => ?_, fun _ _ hsent => by cases hsent⟩
        simp [addresses, base, IDevice.toDevice, hnew]
  generalize (if devClass.usbModemId = YES then some DeviceEventType.cdcDevice else none) = sent
    at hadd ⊢
  have hprocess : Lists (devClass.action = "add" &&
        (getDeviceWithPath h.sList devClass.devPath).isNone) sent s
      (h.ProcessCdcDevice env devClass s).state (addresses h.sList)
      (addresses (h.ProcessCdcDevice env devClass s).obj.sList) := by
    unfold CdcDeviceHandler.ProcessCdcDevice
    rcases sMapDeviceActions_cases hremove with ⟨hact, hmap⟩ | ⟨hact, hmap, hmap'⟩
    · rw [hmap, decide_eq_true hact, Bool.true_and]
      exact hadd
    · rw [decide_eq_false hact, Bool.false_and]
      dsimp only
      split
      · contradiction
      · contradiction
      · exact Lists.same _
  unfold CdcDeviceHandler.HandlerEvent CdcDeviceHandler.adds
  simp only [hremove, false_and, if_false]
  cases h.identifyCdcDevice devClass with
  | false => exact Lists.same _
  | true =>
    by_cases husb : devClass.devType = USB_DEVICE
    · simpa [husb] using hprocess
    · by_cases hnet : devClass.subsystemName = "net"
      · simpa [husb, hnet] using hprocess
      · by_cases htty : devClass.subsystemName = "tty"
        · simpa [husb, htty] using hprocess
        · simpa [husb, hnet, htty] using Lists.same _

end HandlerEvents

/-! ### One handler -/

theorem removeByPath_tells {α : Type} [IDevice α] {f : α → Entry} (hf : ∀ d, base (f d) = base d)
    {deviceType : DeviceEventType} {s : Sys} {h : DeviceList α} {devPath : String} {e : Entry}
    (he : getDeviceWithPath (h.sList.map f) devPath = some e) :
    (removeByPath deviceType s h devPath).state.Tells deviceType .remove := by
  rw [getDeviceWithPath_map hf] at he
  obtain ⟨d, hd, -⟩ := Option.map_eq_some_iff.mp he
  unfold removeByPath
  rw [hd]
  exact Sys.notify_tells _ _ _ _

namespace World

variable {cfg : Config} {env : Env} {w : World}

/-- Under what a handler's notifications of new devices go out. -/
def newType (devClass : DeviceClass) : HandlerKind → Option DeviceEventType
  | .nfc => some .nfcDevice
  | .gamepad => some .gamepadDevice
  | .bluetooth => some .bluetoothDevice
  | .cdc => if devClass.usbModemId = YES then some .cdcDevice else none
  | _ => none

/-- Under what a handler's notifications of removals go out. -/
def removalType (w : World) : HandlerKind → DeviceEventType
  | .hid => .hidDevice
  | .nfc => .nfcDevice
  | .gamepad => .gamepadDevice
  | .bluetooth => .bluetoothDevice
  | .sound => .soundDevice
  | .video => w.video.deviceType
  | .cdc => .cdcDevice
  | _ => .unknownDevice

variable (cfg env w) in
/-- **What an event that is no removal does to the devices of a handler.** -/
theorem HandlerEvent_lists {devClass : DeviceClass} (hremove : devClass.action ≠ "remove")
    {kind : HandlerKind} (husb : kind ∈ UsbList.nonStorageDevices.handlers) :
    Lists (w.creates devClass kind) (newType devClass kind) w.sys
      (w.HandlerEvent cfg env kind devClass).1.sys (addresses (w.entries kind))
      (addresses ((w.HandlerEvent cfg env kind devClass).1.entries kind)) := by
  unfold creates
  cases kind with
  | storage => exact absurd husb (by decide)
  | mtp => exact absurd husb (by decide)
  | ptp => exact absurd husb (by decide)
  | hid => exact (hid_lists env hremove).of_list (f := .usb) fun _ => rfl
  | nfc => exact (nfc_lists env hremove).of_list (f := .usb) fun _ => rfl
  | gamepad => exact (gamepad_lists env hremove).of_list (f := .usb) fun _ => rfl
  | bluetooth => exact (bluetooth_lists env hremove).of_list (f := .usb) fun _ => rfl
  | sound => exact (sound_lists env hremove).of_list (f := .sound) fun _ => rfl
  | video => exact (video_lists env hremove).of_list (f := .video) fun _ => rfl
  | cdc => exact (cdc_lists env hremove).of_list (f := .cdc) fun _ => rfl

variable (cfg env w) in
/-- **A removal is notified of.** -/
theorem HandlerEvent_tells {devClass : DeviceClass} (hremove : devClass.action = "remove")
    {kind : HandlerKind} (husb : kind ∈ UsbList.nonStorageDevices.handlers) {e : Entry}
    (he : w.removes kind devClass = some e) :
    (w.HandlerEvent cfg env kind devClass).1.sys.Tells (w.removalType kind) .remove := by
  unfold HandlerEvent
  cases kind with
  | storage => exact absurd husb (by decide)
  | mtp => exact absurd husb (by decide)
  | ptp => exact absurd husb (by decide)
  | hid =>
    dsimp only
    rw [(hid_remove env hremove w.sys w.hid).1]
    exact removeByPath_tells (f := .usb) (fun _ => rfl) he
  | nfc =>
    dsimp only
    rw [(nfc_remove env hremove w.sys w.nfc).1]
    exact removeByPath_tells (f := .usb) (fun _ => rfl) he
  | gamepad =>
    dsimp only
    rw [(gamepad_remove env hremove w.sys w.gamepad).1]
    exact removeByPath_tells (f := .usb) (fun _ => rfl) he
  | bluetooth =>
    dsimp only
    rw [(bluetooth_remove env hremove w.sys w.bluetooth).1]
    exact removeByPath_tells (f := .usb) (fun _ => rfl) he
  | cdc =>
    dsimp only
    rw [(cdc_remove env hremove w.sys w.cdc).1]
    exact removeByPath_tells (f := .cdc) (fun _ => rfl) he
  | sound =>
    dsimp only
    rw [(sound_remove env hremove w.sys w.sound).1]
    unfold removes at he
    by_cases htakes : devClass.devType = USB_DEVICE ∨ devClass.subsystemName = "sound"
    · rw [if_pos htakes] at he ⊢
      exact removeByPath_tells (f := .sound) (fun _ => rfl) he
    · simp [htakes] at he
  | video =>
    dsimp only
    rw [(video_remove env hremove w.sys w.video).1]
    unfold removes at he
    by_cases htakes : devClass.devType = USB_DEVICE ∨ devClass.subsystemName = "video4linux"
    · rw [if_pos htakes] at he ⊢
      exact removeByPath_tells (f := .video) (fun _ => rfl) he
    · simp [htakes] at he

/-! ### One step -/

theorem mem_listed {list : UsbList} {a : Nat} :
    a ∈ w.listed list ↔ ∃ kind ∈ list.handlers, a ∈ named list.names (w.entries kind) := by
  unfold listed
  simp only [mem_named, List.mem_map, List.mem_filter, List.mem_flatMap]
  constructor
  · intro h
    obtain ⟨e, ⟨⟨kind, hkind, he⟩, hnames⟩, haddress⟩ := h
    exact ⟨kind, hkind, e, he, hnames, haddress⟩
  · intro h
    obtain ⟨kind, hkind, e, he, hnames, haddress⟩ := h
    exact ⟨e, ⟨⟨kind, hkind, he⟩, hnames⟩, haddress⟩

theorem names_all {list : UsbList} (hlist : list ≠ .videoDevices) (d : Device) :
    list.names d = true := by
  cases list with
  | videoDevices => exact absurd rfl hlist
  | _ => rfl

theorem namesNew_all {list : UsbList} (hlist : list ≠ .videoDevices) (devClass : DeviceClass) :
    list.namesNew devClass = true := by
  cases list with
  | videoDevices => exact absurd rfl hlist
  | _ => rfl

theorem usb_of_mem {list : UsbList} {kind : HandlerKind} (h : kind ∈ list.handlers) :
    kind ∈ UsbList.nonStorageDevices.handlers := by
  cases list with
  | nonStorageDevices => exact h
  | audioDevices =>
    rw [List.mem_singleton.mp h]
    decide
  | videoDevices =>
    rw [List.mem_singleton.mp h]
    decide

@[simp] theorem clear_creates (w : World) (devClass : DeviceClass) (kind : HandlerKind) :
    w.clear.creates devClass kind = w.creates devClass kind := by
  cases kind <;> rfl

@[simp] theorem clear_removalType (w : World) (kind : HandlerKind) :
    w.clear.removalType kind = w.removalType kind := by
  cases kind <;> rfl

variable (cfg) in
/-- A step takes no address back. -/
theorem step_next (hw : w.Addressed) (i : Env × Input) :
    w.sys.next ≤ (w.step cfg i).sys.next := by
  have ho : StepOutcome cfg i.1 w.clear i.2 (w.step cfg i) := deliver_outcome hw.clear i.2
  generalize w.step cfg i = t at ho
  have hclear : w.clear.sys.next = w.sys.next := rfl
  cases ho with
  | storage j _ ht _ =>
    rw [ht, ← hclear]
    exact w.clear.toStorageSystem.deliver_next cfg i.1 j
  | streamEvent kind _ _ ho _ _ =>
    exact (ho.addresses (hw.clear.nodup kind) (hw.clear.given kind)).1
  | streamRest kind hk _ _ => exact Nat.le_of_eq hk.next.symm
  | chatter hc _ _ => exact hc.next

theorem video_pluginEvent (h : VideoDeviceHandler) (eventType : PluginEvent) :
    (h.HandlePluginEvent eventType).1.sList = h.sList := by
  unfold VideoDeviceHandler.HandlePluginEvent
  cases eventType <;> rfl

theorem cdc_pluginEvent (h : CdcDeviceHandler) (eventType : PluginEvent) :
    (h.HandlePluginEvent eventType).1.sList = h.sList := by
  unfold CdcDeviceHandler.HandlePluginEvent
  cases eventType <;> rfl

/-- Only a uevent changes what a handler without a file system lists, and only that of its own
handler. -/
theorem step_entries {kind : HandlerKind} (husb : kind ∈ UsbList.nonStorageDevices.handlers)
    {i : Env × Input} (hother : ∀ devClass, i.2 ≠ .uevent kind devClass) :
    (w.step cfg i).entries kind = w.entries kind := by
  obtain ⟨env, input⟩ := i
  unfold step
  cases input with
  | uevent other devClass =>
    have hne : kind ≠ other := by
      intro heq
      rw [heq] at hother
      exact hother devClass rfl
    exact (HandlerEvent_others cfg env w.clear hne devClass).trans (w.clear_entries kind)
  | command other cmdtypes =>
    cases kind <;> first | exact absurd husb (by decide) | (cases other <;> rfl)
  | pluginEvent other eventType =>
    cases kind with
    | video =>
      cases other <;> first | rfl | exact congrArg (·.map Entry.video) (video_pluginEvent _ _)
    | cdc =>
      cases other <;> first | rfl | exact congrArg (·.map Entry.cdc) (cdc_pluginEvent _ _)
    | _ => first | exact absurd husb (by decide) | (cases other <;> rfl)
  | fsckThread device partition =>
    cases kind <;> first | rfl | exact absurd husb (by decide)
  | timeout device => cases kind <;> first | rfl | exact absurd husb (by decide)

/-- The entries of the handlers without a file system are at addresses that have been given. -/
def UsbPinned (w : World) : Prop :=
  ∀ kind ∈ UsbList.nonStorageDevices.handlers, Pinned w.sys (w.entries kind)

variable (cfg) in
theorem step_pinned (hw : w.Addressed) (hp : w.UsbPinned) (i : Env × Input) :
    (w.step cfg i).UsbPinned := by
  intro kind husb
  have hclear : Pinned w.clear.sys (w.clear.entries kind) := by
    rw [clear_entries]
    exact (hp kind husb).later (Nat.le_refl _)
  by_cases hother : ∃ devClass, i.2 = .uevent kind devClass
  · obtain ⟨devClass, hi⟩ := hother
    obtain ⟨env, input⟩ := i
    obtain rfl : input = .uevent kind devClass := hi
    change Pinned (w.clear.HandlerEvent cfg env kind devClass).1.sys _
    by_cases hremove : devClass.action = "remove"
    · have hgone := HandlerEvent_remove env hremove cfg w.clear kind
      refine (hclear.later (Nat.le_of_eq hgone.next.symm)).sublist ?_
      rw [show (w.step cfg (env, .uevent kind devClass)).entries kind = _ from hgone.list]
      cases w.clear.removes kind devClass with
      | none => exact fun e he => he
      | some d => exact fun e he => (List.mem_filter.mp he).1
    · exact (HandlerEvent_grown cfg env w.clear hremove kind hclear).pinned
  · have hsame : (w.step cfg i).entries kind = w.entries kind :=
      step_entries husb fun devClass hi => hother ⟨devClass, hi⟩
    rw [hsame]
    exact (hp kind husb).later (step_next cfg hw i)

theorem listed_given (hp : w.UsbPinned) {list : UsbList} {a : Nat} (ha : a ∈ w.listed list) :
    a < w.sys.next := by
  obtain ⟨kind, hkind, hmem⟩ := mem_listed.mp ha
  obtain ⟨e, he, -, rfl⟩ := mem_named.mp hmem
  exact (hp kind (usb_of_mem hkind)).given e he

/-- What a uevent of one handler does to a list. -/
theorem listed_uevent {list : UsbList} {kind : HandlerKind} (hkind : kind ∈ list.handlers)
    {devClass : DeviceClass} {Q : Nat → Prop}
    (hl : ∀ a, a ∈ named list.names ((w.step cfg (env, .uevent kind devClass)).entries kind) ↔
      a ∈ named list.names (w.entries kind) ∨ Q a) (a : Nat) :
    a ∈ (w.step cfg (env, .uevent kind devClass)).listed list ↔ a ∈ w.listed list ∨ Q a := by
  have hsame : ∀ other ∈ list.handlers, other ≠ kind →
      (w.step cfg (env, .uevent kind devClass)).entries other = w.entries other := by
    intro other hother hne
    exact step_entries (usb_of_mem hother) fun e he => by
      cases he
      exact hne rfl
  constructor
  · intro ha
    obtain ⟨other, hother, hmem⟩ := mem_listed.mp ha
    by_cases hne : other = kind
    · rw [hne] at hmem
      rcases (hl a).mp hmem with hold | hnew
      · exact Or.inl (mem_listed.mpr ⟨kind, hkind, hold⟩)
      · exact Or.inr hnew
    · rw [hsame other hother hne] at hmem
      exact Or.inl (mem_listed.mpr ⟨other, hother, hmem⟩)
  · intro ha
    rcases ha with ha | ha
    · obtain ⟨other, hother, hmem⟩ := mem_listed.mp ha
      by_cases hne : other = kind
      · rw [hne] at hmem
        exact mem_listed.mpr ⟨kind, hkind, (hl a).mpr (Or.inl hmem)⟩
      · rw [← hsame other hother hne] at hmem
        exact mem_listed.mpr ⟨other, hother, hmem⟩
    · exact mem_listed.mpr ⟨kind, hkind, (hl a).mpr (Or.inr ha)⟩

/-- No two cameras are at one address. -/
def CamerasApart (w : World) : Prop := (addresses (w.entries .video)).Nodup

theorem camerasApart_iff : w.CamerasApart ↔ (addresses w.video.sList).Nodup := by
  unfold CamerasApart
  rw [show w.entries .video = w.video.sList.map Entry.video from rfl,
    addresses_map (f := Entry.video) fun _ => rfl]

variable (cfg) in
theorem step_camerasApart (hcameras : w.CamerasApart) (hp : w.UsbPinned) (i : Env × Input) :
    (w.step cfg i).CamerasApart := by
  by_cases hother : ∃ devClass, i.2 = .uevent .video devClass
  · obtain ⟨devClass, hi⟩ := hother
    obtain ⟨env, input⟩ := i
    obtain rfl : input = .uevent .video devClass := hi
    by_cases hremove : devClass.action = "remove"
    · have hlist := (HandlerEvent_remove env hremove cfg w.clear .video).list
      unfold CamerasApart
      rw [show (w.step cfg (env, .uevent .video devClass)).entries .video = _ from hlist]
      cases w.clear.removes .video devClass with
      | none => exact hcameras
      | some e => exact hcameras.sublist (List.filter_sublist.map _)
    · refine camerasApart_iff.mpr ((video_step env hremove (s := w.clear.sys)
        (h := w.clear.video)).nodup env (camerasApart_iff.mp hcameras) fun a ha => ?_)
      obtain ⟨d, hd, rfl⟩ := List.mem_map.mp ha
      exact (hp .video (by decide)).given (.video d) (List.mem_map_of_mem hd)
  · unfold CamerasApart
    rw [step_entries (by decide) fun devClass hi => hother ⟨devClass, hi⟩]
    exact hcameras

variable (cfg env w) in
/-- What an event that is no removal does to the devices that a list names. -/
theorem HandlerEvent_named (hcameras : w.CamerasApart) {list : UsbList} {kind : HandlerKind}
    (hkind : kind ∈ list.handlers) {devClass : DeviceClass} (hremove : devClass.action ≠ "remove")
    (a : Nat) :
    a ∈ named list.names ((w.HandlerEvent cfg env kind devClass).1.entries kind) ↔
      a ∈ named list.names (w.entries kind) ∨
        (w.creates devClass kind = true ∧ list.namesNew devClass = true ∧ a = w.sys.next) := by
  by_cases hlist : list = .videoDevices
  · obtain rfl := hlist
    obtain rfl : kind = .video := List.mem_singleton.mp hkind
    have hstep := (video_step env hremove (s := w.sys) (h := w.video)).named env
      (camerasApart_iff.mp hcameras) a
    have hvideo : ∀ v : World, v.entries .video = v.video.sList.map Entry.video := fun _ => rfl
    unfold creates
    rw [hvideo, hvideo, getDeviceWithPath_map (f := Entry.video) (fun _ => rfl), Option.isNone_map,
      named_map (f := Entry.video) (fun _ => rfl), named_map (f := Entry.video) (fun _ => rfl)]
    exact hstep
  · rw [named_all (names_all hlist), named_all (names_all hlist), namesNew_all hlist]
    simpa using (HandlerEvent_lists cfg env w hremove (usb_of_mem hkind)).members a

/-- What an event that is no removal does to a list. -/
theorem listed_add (hcameras : w.CamerasApart) {list : UsbList} {kind : HandlerKind}
    (hkind : kind ∈ list.handlers) {devClass : DeviceClass} (hremove : devClass.action ≠ "remove")
    (a : Nat) :
    a ∈ (w.step cfg (env, .uevent kind devClass)).listed list ↔ a ∈ w.listed list ∨
      (w.creates devClass kind = true ∧ list.namesNew devClass = true ∧ a = w.sys.next) := by
  refine listed_uevent (Q := fun b => w.creates devClass kind = true ∧
    list.namesNew devClass = true ∧ b = w.sys.next) hkind (fun b => ?_) a
  have hnamed := HandlerEvent_named cfg env w.clear hcameras hkind hremove b
  rwa [clear_creates, clear_entries] at hnamed

theorem creates_ne_remove {devClass : DeviceClass} {kind : HandlerKind}
    (h : w.creates devClass kind = true) : devClass.action ≠ "remove" := by
  have hadd : devClass.action = "add" := by
    have htakes := (Bool.and_eq_true_iff.mp h).1
    cases kind with
    | storage => cases htakes
    | mtp => cases htakes
    | ptp => cases htakes
    | hid => simp_all [takesAdd, HIDDeviceHandler.adds]
    | nfc => simp_all [takesAdd, NfcDeviceHandler.adds]
    | gamepad => simp_all [takesAdd, GamepadDeviceHandler.adds]
    | bluetooth => simp_all [takesAdd, BluetoothDeviceHandler.adds]
    | sound => simp_all [takesAdd, SoundDeviceHandler.adds]
    | video => simp_all [takesAdd, VideoDeviceHandler.adds]
    | cdc => simp_all [takesAdd, CdcDeviceHandler.adds]
  rw [hadd]
  decide

theorem announcesNew_eq (devClass : DeviceClass) (kind : HandlerKind) :
    announcesNew devClass kind = (newType devClass kind).isSome := by
  cases kind with
  | cdc =>
    unfold announcesNew newType
    by_cases hmodem : devClass.usbModemId = YES <;> simp [hmodem]
  | _ => rfl

/-- A new device that is notified of is posted. -/
theorem newType_posts {list : UsbList} {kind : HandlerKind} (hkind : kind ∈ list.handlers)
    {devClass : DeviceClass} {deviceType : DeviceEventType}
    (hnew : newType devClass kind = some deviceType) :
    ((DeviceTracker.update deviceType .add).flatMap PdmLunaService.notifySubscribers).contains
      list.subscription = true := by
  have hlist : list = .nonStorageDevices := by
    cases list with
    | nonStorageDevices => rfl
    | audioDevices =>
      rw [List.mem_singleton.mp hkind] at hnew
      cases hnew
    | videoDevices =>
      rw [List.mem_singleton.mp hkind] at hnew
      cases hnew
  have htype : deviceType ∈ [DeviceEventType.nfcDevice, .gamepadDevice, .bluetoothDevice,
      .cdcDevice] := by
    cases kind with
    | cdc =>
      simp only [newType] at hnew
      split at hnew
      · cases hnew
        decide
      · cases hnew
    | _ => cases hnew <;> decide
  have hall : ∀ d ∈ [DeviceEventType.nfcDevice, .gamepadDevice, .bluetoothDevice, .cdcDevice],
      ((DeviceTracker.update d .add).flatMap PdmLunaService.notifySubscribers).contains
        UsbList.nonStorageDevices.subscription = true := by decide
  rw [hlist]
  exact hall deviceType htype

/-- A removal that is notified of is posted, except that of a camera while none is ready. -/
theorem removalType_posts {list : UsbList} {kind : HandlerKind} (hkind : kind ∈ list.handlers)
    (hready : list = .videoDevices → w.video.isCameraReady = true) :
    ((DeviceTracker.update (w.removalType kind) .remove).flatMap
      PdmLunaService.notifySubscribers).contains list.subscription = true := by
  cases list with
  | nonStorageDevices =>
    cases kind with
    | video =>
      unfold removalType VideoDeviceHandler.deviceType
      dsimp only
      split
      · rfl
      · rfl
    | _ => rfl
  | audioDevices =>
    rw [List.mem_singleton.mp hkind]
    rfl
  | videoDevices =>
    rw [List.mem_singleton.mp hkind]
    unfold removalType VideoDeviceHandler.deviceType
    dsimp only
    rw [hready rfl]
    rfl

/-! ### Steps without a post -/

theorem listed_same {list : UsbList} {i : Env × Input}
    (hother : ∀ kind ∈ list.handlers, ∀ devClass, i.2 ≠ .uevent kind devClass) (a : Nat) :
    a ∈ (w.step cfg i).listed list ↔ a ∈ w.listed list := by
  rw [mem_listed, mem_listed]
  refine exists_congr fun kind => and_congr_right fun hkind => ?_
  rw [step_entries (usb_of_mem hkind) (hother kind hkind)]

/-- An add that does not post. -/
theorem add_unposted (hcameras : w.CamerasApart) {list : UsbList} {kind : HandlerKind}
    (hkind : kind ∈ list.handlers)
    {devClass : DeviceClass} (hremove : devClass.action ≠ "remove")
    (hpost : (w.step cfg (env, .uevent kind devClass)).sys.postsTo list.subscription = false)
    (a : Nat) : a ∈ (w.step cfg (env, .uevent kind devClass)).listed list ↔
      a ∈ w.listed list ∨ a ∈ w.joinsUnseen list (.uevent kind devClass) := by
  rw [listed_add hcameras hkind hremove]
  unfold joinsUnseen
  dsimp only
  cases hcreates : w.creates devClass kind with
  | false => simp
  | true =>
    have hquiet : announcesNew devClass kind = false := by
      rw [announcesNew_eq]
      cases hnew : newType devClass kind with
      | none => rfl
      | some deviceType =>
        have hlists := HandlerEvent_lists cfg env w.clear hremove (usb_of_mem hkind)
        have htold := hlists.told (by rwa [clear_creates]) deviceType hnew
        have hposts := htold.postsTo (newType_posts hkind hnew)
        exact absurd hposts (Bool.eq_false_iff.mp hpost)
    cases hnames : list.namesNew devClass with
    | false => simp
    | true =>
      rw [if_pos ⟨hkind, rfl, hquiet, rfl⟩]
      simp

/-- Only the removal of a camera while none is ready is not posted to the list. -/
theorem camera_of_unposted {list : UsbList} {kind : HandlerKind} (hkind : kind ∈ list.handlers)
    {devClass : DeviceClass} (hremove : devClass.action = "remove") {e : Entry}
    (hfound : w.removes kind devClass = some e)
    (hpost : (w.step cfg (env, .uevent kind devClass)).sys.postsTo list.subscription = false) :
    list = .videoDevices ∧ w.video.isCameraReady = false := by
  by_contra hnot
  have hready : list = .videoDevices → w.clear.video.isCameraReady = true := by
    intro hlist
    exact Bool.of_not_eq_false fun hoff => hnot ⟨hlist, hoff⟩
  have htold := HandlerEvent_tells cfg env w.clear hremove (usb_of_mem hkind)
    (by rw [clear_removes]; exact hfound)
  exact absurd (htold.postsTo (removalType_posts hkind hready)) (Bool.eq_false_iff.mp hpost)

theorem leavesUnseen_camera {devClass : DeviceClass} (hremove : devClass.action = "remove")
    (hoff : w.video.isCameraReady = false) {e : Entry} (hfound : w.removes .video devClass = some e) :
    w.leavesUnseen .videoDevices (.uevent .video devClass) =
      if UsbList.videoDevices.names (base e) then [(base e).address] else [] := by
  unfold leavesUnseen
  dsimp only
  rw [if_pos ⟨rfl, hremove, hoff⟩, hfound]
  cases hnames : UsbList.videoDevices.names (base e) <;> simp [hnames]

/-- A removal that does not post. -/
theorem remove_unposted (hcameras : w.CamerasApart) {list : UsbList} {kind : HandlerKind}
    (hkind : kind ∈ list.handlers)
    {devClass : DeviceClass} (hremove : devClass.action = "remove")
    (hpost : (w.step cfg (env, .uevent kind devClass)).sys.postsTo list.subscription = false)
    (a : Nat) : a ∈ (w.step cfg (env, .uevent kind devClass)).listed list ↔
      a ∈ w.listed list ∧ a ∉ w.leavesUnseen list (.uevent kind devClass) := by
  have hlist := (HandlerEvent_remove env hremove cfg w.clear kind).list
  rw [clear_removes, clear_entries] at hlist
  cases hfound : w.removes kind devClass with
  | none =>
    have hgone : (w.step cfg (env, .uevent kind devClass)).entries kind = w.entries kind := by
      rw [hfound] at hlist
      exact hlist
    have hleaves : w.leavesUnseen list (.uevent kind devClass) = [] := by
      unfold leavesUnseen
      cases kind with
      | video => simp [hfound]
      | _ => rfl
    have hsame : a ∈ (w.step cfg (env, .uevent kind devClass)).listed list ↔
        a ∈ w.listed list ∨ False :=
      listed_uevent (Q := fun _ => False) hkind (fun b => by rw [hgone]; simp) a
    rw [hsame, hleaves]
    simp
  | some e =>
    have hgone : (w.step cfg (env, .uevent kind devClass)).entries kind =
        removePointer (w.entries kind) e := by
      rw [hfound] at hlist
      exact hlist
    obtain ⟨rfl, hoff⟩ := camera_of_unposted hkind hremove hfound hpost
    obtain rfl : kind = .video := List.mem_singleton.mp hkind
    have hmem : ∀ v : World, a ∈ v.listed .videoDevices ↔
        a ∈ named UsbList.videoDevices.names (v.entries .video) := by
      intro v
      rw [mem_listed]
      simp [UsbList.handlers]
    rw [hmem, hmem, leavesUnseen_camera hremove hoff hfound, hgone, mem_named_removePointer]
    refine and_congr_right fun hnamed => ?_
    obtain ⟨x, hx, hnames, haddress⟩ := mem_named.mp hnamed
    constructor
    · intro hne hleft
      split at hleft
      · exact hne (List.mem_singleton.mp hleft)
      · cases hleft
    · intro hstays haway
      -- The camera that goes has a speed: there is no other one at its address.
      obtain rfl : x = e := eq_of_address hcameras hx (removes_mem hfound) (haddress.trans haway)
      rw [if_pos hnames] at hstays
      exact hstays (List.mem_singleton.mpr haway)

theorem leavesUnseen_of_ne {list : UsbList} (hlist : list ≠ .videoDevices) (input : Input) :
    w.leavesUnseen list input = [] := by
  unfold leavesUnseen
  split
  · exact if_neg fun h => hlist h.1
  · rfl

theorem leavesUnseen_listed {list : UsbList} {input : Input} {a : Nat}
    (ha : a ∈ w.leavesUnseen list input) : a ∈ w.listed list := by
  unfold leavesUnseen at ha
  split at ha
  · next devClass =>
    split at ha
    · next h =>
      rw [h.1]
      obtain ⟨e, he, haddress⟩ := List.mem_map.mp ha
      obtain ⟨hfound, hnames⟩ := Option.filter_eq_some_iff.mp (Option.mem_toList.mp he)
      exact mem_listed.mpr ⟨.video, by decide,
        mem_named.mpr ⟨e, removes_mem hfound, h.1 ▸ hnames, haddress⟩⟩
    · cases ha
  · cases ha

variable (cfg) in
/-- **A step that does not post changes a list as it is kept account of.** -/
theorem listed_unposted (hcameras : w.CamerasApart) {list : UsbList} {i : Env × Input}
    (hpost : (w.step cfg i).sys.postsTo list.subscription = false) (a : Nat) :
    a ∈ (w.step cfg i).listed list ↔
      (a ∈ w.listed list ∨ a ∈ w.joinsUnseen list i.2) ∧ a ∉ w.leavesUnseen list i.2 := by
  obtain ⟨env, input⟩ := i
  by_cases htaken : ∃ kind ∈ list.handlers, ∃ devClass, input = .uevent kind devClass
  · obtain ⟨kind, hkind, devClass, rfl⟩ := htaken
    by_cases hremove : devClass.action = "remove"
    · have hjoins : w.joinsUnseen list (.uevent kind devClass) = [] := by
        unfold joinsUnseen
        exact if_neg fun h => creates_ne_remove h.2.1 hremove
      rw [remove_unposted hcameras hkind hremove hpost, hjoins]
      simp
    · have hleaves : w.leavesUnseen list (.uevent kind devClass) = [] := by
        unfold leavesUnseen
        cases kind with
        | video => exact if_neg fun h => hremove h.2.1
        | _ => rfl
      rw [add_unposted hcameras hkind hremove hpost, hleaves]
      simp
  · have hother : ∀ kind ∈ list.handlers, ∀ devClass, input ≠ .uevent kind devClass :=
      fun kind hkind devClass hi => htaken ⟨kind, hkind, devClass, hi⟩
    have hjoins : w.joinsUnseen list input = [] := by
      unfold joinsUnseen
      split
      · next kind devClass => exact if_neg fun h => hother kind h.1 devClass rfl
      · rfl
    have hleaves : w.leavesUnseen list input = [] := by
      unfold leavesUnseen
      split
      · next devClass =>
        refine if_neg fun h => hother .video ?_ devClass rfl
        rw [h.1]
        decide
      · rfl
    rw [listed_same hother, hjoins, hleaves]
    simp

end World

/-! ### Runs -/

namespace PostedDevices

variable (cfg : Config) {list : UsbList} {P : PostedDevices}

/-- The copy is exact, and no address on it is still to be given. -/
structure Kept (list : UsbList) (P : PostedDevices) : Prop where
  addressed : P.world.Addressed
  pinned : P.world.UsbPinned
  cameras : P.world.CamerasApart
  copied : ∀ a ∈ P.board.copy, a < P.world.sys.next
  exact : P.board.Exact (· ∈ P.world.listed list)
  stay : list ≠ .videoDevices → P.board.left = []

theorem init_kept (list : UsbList) : Kept list {} := by
  have hlisted : ∀ a, a ∉ World.listed {} list := by
    intro a ha
    obtain ⟨kind, hkind, hmem⟩ := World.mem_listed.mp ha
    obtain ⟨e, he, -⟩ := mem_named.mp hmem
    cases kind <;> cases he
  refine ⟨World.init_addressed, ?_, List.nodup_nil, fun a ha => (by cases ha), ?_, fun _ => rfl⟩
  · intro kind husb
    have hnone : World.entries {} kind = [] := by
      cases kind <;> rfl
    rw [hnone]
    exact ⟨fun e he => absurd he List.not_mem_nil, fun e he => absurd he List.not_mem_nil⟩
  · exact Board.Exact.init.congr fun a => iff_of_false (hlisted a) fun h => h

/-- A device that is late is new and joins the list in the step. -/
theorem late_joins (hp : P.world.UsbPinned) (hcameras : P.world.CamerasApart) {i : Env × Input}
    (hlate : P.world.late list i.2 ≠ []) :
    (∀ a ∈ P.world.late list i.2, a ∉ P.world.listed list) ∧
      ∀ a, a ∈ (P.world.step cfg i).listed list ↔
        a ∈ P.world.listed list ∨ a ∈ P.world.late list i.2 := by
  obtain ⟨env, input⟩ := i
  have hcase : ∃ devClass, input = .uevent .hid devClass ∧ .hid ∈ list.handlers ∧
      P.world.creates devClass .hid = true ∧ P.world.late list input = [P.world.sys.next] := by
    unfold World.late at hlate ⊢
    dsimp only at hlate ⊢
    split at hlate
    · next devClass =>
      by_cases hcreates : .hid ∈ list.handlers ∧ P.world.creates devClass .hid = true
      · exact ⟨devClass, rfl, hcreates.1, hcreates.2, if_pos hcreates⟩
      · rw [if_neg hcreates] at hlate
        exact absurd rfl hlate
    · exact absurd rfl hlate
  obtain ⟨devClass, rfl, hkind, hcreates, heq⟩ := hcase
  refine ⟨fun a ha hlisted => ?_, fun a => ?_⟩
  · rw [heq, List.mem_singleton] at ha
    have hlt := World.listed_given hp hlisted
    omega
  · have hlist : list ≠ .videoDevices := by
      intro hvideo
      rw [hvideo] at hkind
      exact absurd hkind (by decide)
    rw [World.listed_add hcameras hkind (World.creates_ne_remove hcreates), heq,
      List.mem_singleton, World.namesNew_all hlist]
    simp [hcreates]

theorem step_kept (h : P.Kept list) (i : Env × Input) : (P.step cfg list i).Kept list := by
  have haddressed : (P.world.step cfg i).Addressed := World.deliver_addressed h.addressed.clear i.2
  have hpinned := World.step_pinned cfg h.addressed h.pinned i
  have hcameras := World.step_camerasApart cfg h.cameras h.pinned i
  have hnext := World.step_next cfg h.addressed i
  unfold PostedDevices.step
  dsimp only
  cases hpost : (P.world.step cfg i).sys.postsTo list.subscription with
  | true =>
    simp only [if_true]
    by_cases hlate : P.world.late list i.2 = []
    · rw [if_pos hlate, hlate]
      refine ⟨haddressed, hpinned, hcameras, fun a ha => World.listed_given hpinned ha, ?_,
        fun _ => rfl⟩
      exact Board.Exact.post (fun a ha => by cases ha) fun a => by simp
    · rw [if_neg hlate]
      obtain ⟨hnew, hl⟩ := late_joins cfg h.pinned h.cameras hlate
      refine ⟨haddressed, hpinned, hcameras, fun a ha => ?_, Board.Exact.post hnew hl, fun _ => rfl⟩
      exact Nat.lt_of_lt_of_le (World.listed_given h.pinned ha) hnext
  | false =>
    simp only [Bool.false_eq_true, if_false]
    have hl := World.listed_unposted cfg h.cameras hpost
    have hstay : list ≠ .videoDevices →
        ((P.board.join (P.world.joinsUnseen list i.2)).leave
          (P.world.leavesUnseen list i.2)).left = [] := by
      intro hlist
      rw [World.leavesUnseen_of_ne hlist]
      exact List.append_eq_nil_iff.mpr ⟨h.stay hlist, rfl⟩
    refine ⟨haddressed, hpinned, hcameras,
      fun a ha => Nat.lt_of_lt_of_le (h.copied a ha) hnext, ?_, hstay⟩
    have hfresh : ∀ a ∈ P.world.joinsUnseen list i.2, a ∉ P.board.copy := by
      intro a ha hcopy
      have hlt := h.copied a hcopy
      unfold World.joinsUnseen at ha
      split at ha
      · split at ha
        · rw [List.mem_singleton] at ha
          omega
        · cases ha
      · cases ha
    have hjoin := h.exact.join hfresh fun a => Iff.rfl
    exact hjoin.leave (fun a ha => Or.inl (World.leavesUnseen_listed ha)) hl

/-- **What the subscribers know.**  In every run, the devices that a list named when it was
posted last are those that its handlers list, without those that have joined since without a
post, and those that have left since without one.  None has, except of the cameras. -/
theorem posted_devices (list : UsbList) (inputs : List (Env × Input)) :
    let P := Runs.run (step cfg list) {} inputs
    (∀ a, a ∈ P.board.copy ↔
      (a ∈ P.world.listed list ∧ a ∉ P.board.joined) ∨ a ∈ P.board.left) ∧
      (list ≠ .videoDevices → P.board.left = []) := by
  have hkept : (Runs.run (step cfg list) {} inputs).Kept list :=
    Runs.run_invariant (I := Kept list) (fun P i h => step_kept cfg h i) (init_kept list)
  exact ⟨hkept.exact, hkept.stay⟩

/-- The event of a camera. -/
def cameraEvent (action subsystemName : String) : DeviceClass where
  action := action
  subsystemName := subsystemName
  devType := if subsystemName = "usb" then "usb_device" else ""
  interfaceClass := ":0e0100:"
  devPath := "/devices/usb1/1-2"
  devName := "video0"
  speed := "480"
  capabilities := ":capture:"

/-- A camera that goes while no camera is ready stays on the list of cameras, and is gone from
that of all devices without a file system. -/
example :
    let inputs : List (Env × Input) :=
      [({}, .uevent .video (cameraEvent "add" "usb")),
        ({}, .uevent .video (cameraEvent "add" "video4linux")),
        ({}, .pluginEvent .video .camNone), ({}, .uevent .video (cameraEvent "remove" "usb"))]
    (Runs.run (step .tmpUsb .videoDevices) {} inputs).board = ⟨[0], [], [0]⟩ ∧
      (Runs.run (step .tmpUsb .nonStorageDevices) {} inputs).board = ⟨[], [], []⟩ := by decide

end PostedDevices

end Pdm
