/-
What the handlers list.

An entry is described by its `label`: the node it was created for and whether it is a
further card slot.  No event changes the label of an entry that is listed;
`additions` are the labels of the entries that an event makes a handler append, as a
function of the handler's state, the event and, for a device that must be mounted first,
the answers of the system.  **An event that is no removal appends these and does nothing
else to the labels** (`HandlerEvent_grown`).
-/
import Pdm.Proofs.Streaming
import Pdm.Proofs.WellFormed

namespace Pdm

/-! ### Labels -/

namespace Entry

/-- The node an entry was created for, and whether it is a further card slot. -/
def label (e : Entry) : String × Bool := ((base e).node, e.isExtraSdCard)

end Entry

/-- All addresses have been given, and entries with one address carry one label. -/
structure Pinned (s : Sys) (l : List Entry) : Prop where
  given : ∀ e ∈ l, (base e).address < s.next
  same : ∀ e ∈ l, ∀ e' ∈ l, (base e).address = (base e').address → e.label = e'.label

/-- From list `l` to list `l'` entries labelled `new` are appended. -/
structure Grown (new : List (String × Bool)) (s t : Sys) (l l' : List Entry) : Prop where
  next : s.next ≤ t.next
  labels : l'.map (·.label) = l.map (·.label) ++ new
  pinned : Pinned t l'

section Grown

variable {s t u : Sys} {l l' l'' : List Entry}

theorem Pinned.later (h : Pinned s l) (hnext : s.next ≤ t.next) : Pinned t l :=
  ⟨fun e he => Nat.lt_of_lt_of_le (h.given e he) hnext, h.same⟩

/-- What is left of a pinned list is pinned. -/
theorem Pinned.sublist (h : Pinned s l) (hl : l' ⊆ l) : Pinned s l' :=
  ⟨fun e he => h.given e (hl he), fun e he e' he' => h.same e (hl he) e' (hl he')⟩

theorem Grown.same (h : Pinned s l) (hnext : s.next ≤ t.next) : Grown [] s t l l :=
  ⟨hnext, by simp, h.later hnext⟩

theorem Grown.trans {a b : List (String × Bool)} (h : Grown a s t l l') (h' : Grown b t u l' l'') :
    Grown (a ++ b) s u l l'' :=
  ⟨h.next.trans h'.next, by rw [h'.labels, h.labels, List.append_assoc], h'.pinned⟩

/-- New entries are appended, all of them one pointer. -/
theorem Grown.push (h : Pinned s l) (hnext : s.next < t.next) (new : List Entry) {d : Entry}
    (hnew : ∀ e ∈ new, e = d) (haddr : (base d).address = s.next) :
    Grown (new.map (·.label)) s t l (l ++ new) := by
  refine ⟨Nat.le_of_lt hnext, List.map_append, ?_, ?_⟩
  · intro e he
    rcases List.mem_append.mp he with he | he
    · exact Nat.lt_trans (h.given e he) hnext
    · rw [hnew e he, haddr]
      exact hnext
  · -- A new address is none of those given before.
    intro e he e' he' heq
    rcases List.mem_append.mp he with he | he
    · rcases List.mem_append.mp he' with he' | he'
      · exact h.same e he e' he' heq
      · rw [hnew e' he', haddr] at heq
        exact absurd heq (Nat.ne_of_lt (h.given e he))
    · rcases List.mem_append.mp he' with he' | he'
      · rw [hnew e he, haddr] at heq
        exact absurd heq.symm (Nat.ne_of_lt (h.given e' he'))
      · rw [hnew e he, hnew e' he']

/-- An entry of the list is appended once more. -/
theorem Grown.again (h : Pinned s l) (hnext : s.next ≤ t.next) {d : Entry} (hd : d ∈ l) :
    Grown [d.label] s t l (l ++ [d]) := by
  have hsub : l ++ [d] ⊆ l := by
    intro e he
    rcases List.mem_append.mp he with he | he
    · exact he
    · rw [List.mem_singleton.mp he]
      exact hd
  exact ⟨hnext, by simp, (h.later hnext).sublist hsub⟩

/-- An entry of the list is written to. -/
theorem Grown.write (h : Pinned s l) (hnext : s.next ≤ t.next) {d e : Entry} (hd : d ∈ l)
    (haddr : (base e).address = (base d).address) (hlabel : e.label = d.label) :
    Grown [] s t l (writeBack l e) := by
  have heach : ∀ x ∈ l, (base (if (base x).address = (base e).address then e else x)).address =
      (base x).address ∧ (if (base x).address = (base e).address then e else x).label = x.label := by
    intro x hx
    by_cases hxe : (base x).address = (base e).address
    · rw [if_pos hxe]
      exact ⟨hxe.symm, hlabel.trans (h.same x hx d hd (hxe.trans haddr)).symm⟩
    · rw [if_neg hxe]
      exact ⟨rfl, rfl⟩
  refine ⟨hnext, ?_, ?_, ?_⟩
  · unfold writeBack
    rw [List.map_map, List.append_nil]
    exact List.map_congr_left fun x hx => (heach x hx).2
  · intro x hx
    obtain ⟨y, hy, rfl⟩ := List.mem_map.mp hx
    rw [(heach y hy).1]
    exact Nat.lt_of_lt_of_le (h.given y hy) hnext
  · intro x hx x' hx' heq
    obtain ⟨y, hy, rfl⟩ := List.mem_map.mp hx
    obtain ⟨y', hy', rfl⟩ := List.mem_map.mp hx'
    rw [(heach y hy).1, (heach y' hy').1] at heq
    rw [(heach y hy).2, (heach y' hy').2]
    exact h.same y hy y' hy' heq

end Grown

/-! ### Actions -/

@[simp] theorem sMapDeviceActions_add : sMapDeviceActions "add" = some .usbDevAdd := by decide

/-- The key under which the map holds an action. -/
def DeviceActions.key : DeviceActions → Option String
  | .usbDevAdd => some "add"
  | .usbDevRemove => some "remove"
  | .usbDevChange => some "change"
  | .usbDevBind => some "bind"
  | .usbDevUnknown => none

theorem sMapDeviceActions_eq_iff {action : String} {a : DeviceActions} :
    sMapDeviceActions action = some a ↔ a.key = some action := by
  constructor
  · intro h
    unfold sMapDeviceActions at h
    split_ifs at h with hadd hremove hchange hbind
    · rw [← Option.some.inj h, hadd]
      rfl
    · rw [← Option.some.inj h, hremove]
      rfl
    · rw [← Option.some.inj h, hchange]
      rfl
    · rw [← Option.some.inj h, hbind]
      rfl
  · intro h
    cases a with
    | usbDevUnknown => cases h
    | _ =>
      rw [← Option.some.inj h]
      decide

theorem sMapDeviceActions_eq_add {action : String} :
    sMapDeviceActions action = some .usbDevAdd ↔ action = "add" := by
  rw [sMapDeviceActions_eq_iff, eq_comm]
  exact Option.some_inj

theorem sMapDeviceActions_ne_remove {action : String} (h : action ≠ "remove") :
    sMapDeviceActions action ≠ some .usbDevRemove := by
  rw [ne_eq, sMapDeviceActions_eq_iff]
  exact fun hkey => h (Option.some.inj hkey).symm

/-- An event that is no removal is an add or is none of the two. -/
theorem sMapDeviceActions_cases {action : String} (h : action ≠ "remove") :
    action = "add" ∧ sMapDeviceActions action = some .usbDevAdd ∨
      action ≠ "add" ∧ sMapDeviceActions action ≠ some .usbDevAdd ∧
        sMapDeviceActions action ≠ some .usbDevRemove := by
  by_cases hadd : action = "add"
  · exact Or.inl ⟨hadd, sMapDeviceActions_eq_add.mpr hadd⟩
  · exact Or.inr ⟨hadd, fun hact => hadd (sMapDeviceActions_eq_add.mp hact),
      sMapDeviceActions_ne_remove h⟩

/-! ### The handlers that look a device up by its path -/

section ByPath

variable {α : Type} [IDevice α] {f : α → Entry} (hf : ∀ d, base (f d) = base d)

/-- What an add for a path appends: an entry, when no stored path leads to it. -/
def byPath (l : List α) (devPath : String) : List (String × Bool) :=
  if (getDeviceWithPath l devPath).isNone then [(devPath, false)] else []

variable {s : Sys} {h : DeviceList α} {devPath : String}

include hf in
theorem pushNew_grown (hp : Pinned s (h.sList.map f)) {create : Nat → Sys → Out α Unit}
    (hcreate : ∀ a t, (base (create a t).obj).address = a ∧
      (f (create a t).obj).label = (devPath, false) ∧ (create a t).state.next = t.next) :
    Grown [(devPath, false)] s (pushNew s h create).state (h.sList.map f)
      ((pushNew s h create).obj.sList.map f) := by
  obtain ⟨haddr, hlabel, hnext⟩ := hcreate s.next s.alloc
  unfold pushNew
  dsimp only
  rw [List.map_append]
  have hpush := Grown.push (t := (create s.next s.alloc).state) hp
    (by rw [hnext, Sys.alloc_next]; omega) [f (create s.next s.alloc).obj]
    (fun e he => List.mem_singleton.mp he) (by rw [hf, haddr])
  rwa [List.map_singleton, hlabel] at hpush

include hf in
theorem writeFound_grown (hp : Pinned s (h.sList.map f)) {d : α} (hd : d ∈ h.sList)
    {r : Out α Unit} (haddr : (base r.obj).address = (base d).address)
    (hlabel : (f r.obj).label = (f d).label) (hnext : r.state.next = s.next) :
    Grown [] s (writeFound h r).state (h.sList.map f) ((writeFound h r).obj.sList.map f) := by
  unfold writeFound
  dsimp only
  rw [writeBack_map hf]
  exact Grown.write hp (Nat.le_of_eq hnext.symm) (List.mem_map_of_mem hd)
    (by rw [hf, hf, haddr]) hlabel

/-- A rule's new device is labelled with the path, and an update changes no label. -/
structure AddRule.Labels (rule : AddRule α) (f : α → Entry) (devPath : String) : Prop where
  create : ∀ a t, (base (rule.create a t).obj).address = a ∧
    (f (rule.create a t).obj).label = (devPath, false) ∧ (rule.create a t).state.next = t.next
  update : ∀ t d, (base (rule.update t d).obj).address = (base d).address ∧
    (f (rule.update t d).obj).label = (f d).label ∧ (rule.update t d).state.next = t.next

include hf in
/-- An add that updates what it finds and lists what it does not find. -/
theorem addByPath_grown (hp : Pinned s (h.sList.map f)) {rule : AddRule α}
    (hrule : rule.Labels f devPath) :
    Grown (byPath h.sList devPath) s (addByPath rule s h devPath).state (h.sList.map f)
      ((addByPath rule s h devPath).obj.sList.map f) := by
  unfold addByPath byPath
  cases hfind : getDeviceWithPath h.sList devPath with
  | none => exact pushNew_grown hf hp hrule.create
  | some d =>
    obtain ⟨haddr, hlabel, hnext⟩ := hrule.update s d
    exact writeFound_grown hf hp (List.mem_of_find?_eq_some hfind) haddr hlabel hnext

include hf in
/-- The body of a handler that adds by path, on an event that is no removal. -/
theorem processByPath_grown {action : String} (hremove : action ≠ "remove")
    (hp : Pinned s (h.sList.map f)) (rule : AddRule α) (devPath : String)
    (hrule : rule.Labels f devPath) (deviceType : DeviceEventType) {r : Out (DeviceList α) Unit}
    (hr : r = match sMapDeviceActions action with
      | some .usbDevAdd => addByPath rule s h devPath
      | some .usbDevRemove => removeByPath deviceType s h devPath
      | _ => ⟨s, h, ()⟩) :
    Grown (if action = "add" then byPath h.sList devPath else []) s r.state (h.sList.map f)
      (r.obj.sList.map f) := by
  subst hr
  rcases sMapDeviceActions_cases hremove with ⟨hadd, hact⟩ | ⟨hadd, hact, hact'⟩
  · rw [if_pos hadd, hact]
    exact addByPath_grown hf hp hrule
  · rw [if_neg hadd]
    split
    · contradiction
    · contradiction
    · exact Grown.same hp (Nat.le_refl _)

end ByPath

/-! ### What an event that is no removal makes each handler list -/

section HandlerEvents

variable (env : Env) {devClass : DeviceClass} (hremove : devClass.action ≠ "remove")
  {s : Sys}

/-- The HID handler takes the event as one that adds a device. -/
def HIDDeviceHandler.adds (devClass : DeviceClass) : Bool :=
  contains devClass.interfaceClass iClass
    && (devClass.devType = USB_DEVICE || devClass.subsystemName = "input")
    && devClass.action = "add"

/-- The NFC handler takes the event as one that adds a device. -/
def NfcDeviceHandler.adds (devClass : DeviceClass) : Bool :=
  contains devClass.interfaceClass iClass && devClass.action = "add"

/-- The gamepad handler takes the event as one that adds a device. -/
def GamepadDeviceHandler.adds (devClass : DeviceClass) : Bool :=
  devClass.gamepadId = "1" && devClass.action = "add"

/-- The Bluetooth handler takes the event as one that adds a device. -/
def BluetoothDeviceHandler.adds (devClass : DeviceClass) : Bool :=
  devClass.bluetoothId = "1" && devClass.action = "add"

/-- The sound handler takes the event as one that adds a device, and not the timer. -/
def SoundDeviceHandler.adds (devClass : DeviceClass) : Bool :=
  isSoundDevice devClass
    && (devClass.devType = USB_DEVICE || devClass.subsystemName = "sound")
    && devClass.action = "add" && !contains devClass.devName "timer"

/-- The video handler takes the event as one that adds a device. -/
def VideoDeviceHandler.adds (devClass : DeviceClass) : Bool :=
  contains devClass.interfaceClass iClass
    && (devClass.devType = USB_DEVICE || devClass.subsystemName = "video4linux")
    && devClass.action = "add"

/-- The CDC handler takes the event as one that adds a device. -/
def CdcDeviceHandler.adds (devClass : DeviceClass) (h : CdcDeviceHandler) : Bool :=
  identifyCdcDevice devClass h
    && (devClass.devType = USB_DEVICE || devClass.subsystemName = "net"
      || devClass.subsystemName = "tty")
    && devClass.action = "add"

/-- The device the MTP handler takes an event to add. -/
def MTPDeviceHandler.described (cfg : Config) (env : Env) (devClass : DeviceClass)
    (address : Nat) : MTPDevice :=
  (MTPDevice.new address devClass.devPath cfg.rootPath).setDeviceInfo env devClass

/-- The MTP handler takes the event as one that adds a device. -/
def MTPDeviceHandler.adds (devClass : DeviceClass) : Bool :=
  devClass.mediaPlayerId = YES && devClass.action = "add"

/-- The device the PTP handler takes an event to add, before its mount. -/
def PTPDeviceHandler.described (cfg : Config) (env : Env) (devClass : DeviceClass)
    (address : Nat) : PTPDevice :=
  (PTPDevice.new address devClass.devPath cfg.rootPath).described env devClass

/-- The PTP handler takes the event as one that adds a device. -/
def PTPDeviceHandler.adds (devClass : DeviceClass) : Bool :=
  contains devClass.interfaceClass iClass && devClass.mediaPlayerId ≠ "1"
    && (devClass.devType = USB_DEVICE || devClass.subsystemName = "usb")
    && devClass.action = "add"

include hremove

theorem hid_grown {h : DeviceList Device} (hp : Pinned s (h.sList.map .usb)) :
    Grown (if HIDDeviceHandler.adds devClass then byPath h.sList devClass.devPath else []) s
      (HIDDeviceHandler.HandlerEvent env devClass s h).state (h.sList.map .usb)
      ((HIDDeviceHandler.HandlerEvent env devClass s h).obj.sList.map .usb) := by
  have hset : ∀ t d, (HIDDeviceHandler.setInfo env devClass t d).obj.address = d.address ∧
      (Entry.usb (HIDDeviceHandler.setInfo env devClass t d).obj).label = (d.node, false) ∧
      (HIDDeviceHandler.setInfo env devClass t d).state.next = t.next := by
    intro t d
    unfold HIDDeviceHandler.setInfo HIDDevice.setDeviceInfo Entry.label Entry.isExtraSdCard base
    dsimp only [IDevice.toDevice]
    split
    · split <;> split <;> simp [base, IDevice.toDevice]
    · simp [base, IDevice.toDevice]
  have hprocess := processByPath_grown (f := .usb) (fun _ => rfl) hremove hp
    (HIDDeviceHandler.addRule env devClass) devClass.devPath
    ⟨fun a t => hset t (Device.new a devClass.devPath "HID"), hset⟩ .hidDevice
    (r := HIDDeviceHandler.ProcessHIDDevice env devClass s h) rfl
  unfold HIDDeviceHandler.HandlerEvent HIDDeviceHandler.adds
  simp only [hremove, false_and, if_false]
  cases contains devClass.interfaceClass HIDDeviceHandler.iClass with
  | false => simpa using Grown.same hp (Nat.le_refl _)
  | true =>
    by_cases husb : devClass.devType = USB_DEVICE
    · simpa [husb] using hprocess
    · by_cases hsub : devClass.subsystemName = "input"
      · simpa [husb, hsub] using hprocess
      · simpa [husb, hsub] using Grown.same hp (Nat.le_refl _)

theorem nfc_grown {h : DeviceList Device} (hp : Pinned s (h.sList.map .usb)) :
    Grown (if NfcDeviceHandler.adds devClass then byPath h.sList devClass.devPath else []) s
      (NfcDeviceHandler.HandlerEvent env devClass s h).state (h.sList.map .usb)
      ((NfcDeviceHandler.HandlerEvent env devClass s h).obj.sList.map .usb) := by
  have hset : ∀ d : Device, (NfcDevice.setDeviceInfo env d devClass).address = d.address ∧
      (Entry.usb (NfcDevice.setDeviceInfo env d devClass)).label = (d.node, false) := by
    intro d
    unfold NfcDevice.setDeviceInfo Entry.label Entry.isExtraSdCard
    split <;> simp [base, IDevice.toDevice]
  have hprocess := processByPath_grown (f := .usb) (fun _ => rfl) hremove hp
    (NfcDeviceHandler.addRule env devClass) devClass.devPath
    ⟨fun a t => ⟨(hset _).1, (hset _).2, rfl⟩, fun t d => ⟨(hset d).1, (hset d).2, rfl⟩⟩ .nfcDevice
    (r := NfcDeviceHandler.ProcessNfcDevice env devClass s h) rfl
  unfold NfcDeviceHandler.HandlerEvent NfcDeviceHandler.adds
  simp only [hremove, false_and, if_false]
  cases contains devClass.interfaceClass NfcDeviceHandler.iClass with
  | false => simpa using Grown.same hp (Nat.le_refl _)
  | true => simpa using hprocess

theorem gamepad_grown {h : DeviceList Device} (hp : Pinned s (h.sList.map .usb)) :
    Grown (if GamepadDeviceHandler.adds devClass then byPath h.sList devClass.devPath else []) s
      (GamepadDeviceHandler.HandlerEvent env devClass s h).state (h.sList.map .usb)
      ((GamepadDeviceHandler.HandlerEvent env devClass s h).obj.sList.map .usb) := by
  have hset : ∀ d : Device, (GamepadDevice.setDeviceInfo env d devClass).address = d.address ∧
      (Entry.usb (GamepadDevice.setDeviceInfo env d devClass)).label = (d.node, false) := by
    intro d
    unfold GamepadDevice.setDeviceInfo Entry.label Entry.isExtraSdCard
    split <;> simp [base, IDevice.toDevice]
  have hprocess := processByPath_grown (f := .usb) (fun _ => rfl) hremove hp
    (GamepadDeviceHandler.addRule env devClass) devClass.devPath
    ⟨fun a t => ⟨(hset _).1, (hset _).2, rfl⟩, fun t d => ⟨rfl, rfl, rfl⟩⟩ .gamepadDevice
    (r := GamepadDeviceHandler.ProcessGamepadDevice env devClass s h) rfl
  unfold GamepadDeviceHandler.HandlerEvent GamepadDeviceHandler.adds
  simp only [hremove, false_and, if_false]
  by_cases hpad : devClass.gamepadId = "1"
  · simpa [hpad] using hprocess
  · simpa [hpad] using Grown.same hp (Nat.le_refl _)

theorem bluetooth_grown {h : DeviceList Device} (hp : Pinned s (h.sList.map .usb)) :
    Grown (if BluetoothDeviceHandler.adds devClass then byPath h.sList devClass.devPath else []) s
      (BluetoothDeviceHandler.HandlerEvent env devClass s h).state (h.sList.map .usb)
      ((BluetoothDeviceHandler.HandlerEvent env devClass s h).obj.sList.map .usb) := by
  have hset : ∀ d : Device, (BluetoothDevice.setDeviceInfo env d devClass).address = d.address ∧
      (Entry.usb (BluetoothDevice.setDeviceInfo env d devClass)).label = (d.node, false) := by
    intro d
    unfold BluetoothDevice.setDeviceInfo Entry.label Entry.isExtraSdCard
    split <;> simp [base, IDevice.toDevice]
  have hprocess := processByPath_grown (f := .usb) (fun _ => rfl) hremove hp
    (BluetoothDeviceHandler.addRule env devClass) devClass.devPath
    ⟨fun a t => ⟨(hset _).1, (hset _).2, rfl⟩, fun t d => ⟨(hset d).1, (hset d).2, rfl⟩⟩
    .bluetoothDevice (r := BluetoothDeviceHandler.ProcessBluetoothDevice env devClass s h) rfl
  unfold BluetoothDeviceHandler.HandlerEvent BluetoothDeviceHandler.adds
  simp only [hremove, if_false]
  by_cases hblue : devClass.bluetoothId = "1"
  · simpa [hblue] using hprocess
  · simpa [hblue] using Grown.same hp (Nat.le_refl _)

theorem sound_grown {h : DeviceList SoundDevice} (hp : Pinned s (h.sList.map .sound)) :
    Grown (if SoundDeviceHandler.adds devClass then byPath h.sList devClass.devPath else []) s
      (SoundDeviceHandler.HandlerEvent env devClass s h).state (h.sList.map .sound)
      ((SoundDeviceHandler.HandlerEvent env devClass s h).obj.sList.map .sound) := by
  have hset : ∀ d : SoundDevice, (base (d.updateDeviceInfo devClass)).address = (base d).address ∧
      (Entry.sound (d.updateDeviceInfo devClass)).label = (Entry.sound d).label := by
    intro d
    unfold SoundDevice.updateDeviceInfo
    split <;> exact ⟨rfl, rfl⟩
  have hnew : ∀ a, (base ((SoundDevice.new a devClass.devPath).setDeviceInfo env devClass)).address
        = a ∧
      (Entry.sound ((SoundDevice.new a devClass.devPath).setDeviceInfo env devClass)).label =
        (devClass.devPath, false) := by
    intro a
    simp [SoundDevice.setDeviceInfo, SoundDevice.new, Device.new, Entry.label, Entry.isExtraSdCard,
      base, IDevice.toDevice]
  have hprocess : Grown (if devClass.action = "add" && !contains devClass.devName "timer" then
      byPath h.sList devClass.devPath else []) s
      (SoundDeviceHandler.ProcessSoundDevice env devClass s h).state (h.sList.map .sound)
      ((SoundDeviceHandler.ProcessSoundDevice env devClass s h).obj.sList.map .sound) := by
    unfold SoundDeviceHandler.ProcessSoundDevice
    rcases sMapDeviceActions_cases hremove with ⟨hadd, hact⟩ | ⟨hadd, hact, hact'⟩
    · rw [hact]
      dsimp only
      unfold SoundDeviceHandler.addSoundDevice byPath
      cases hfind : getDeviceWithPath h.sList devClass.devPath with
      | none =>
        dsimp only
        cases htimer : contains devClass.devName "timer" with
        | true => simpa using Grown.same hp (Nat.le_refl _)
        | false =>
          simp only [hadd, decide_true, Bool.not_false, Bool.and_self, if_true,
            Option.isNone_none, Bool.false_eq_true, if_false]
          exact pushNew_grown (f := .sound) (fun _ => rfl) hp fun a t =>
            ⟨(hnew a).1, (hnew a).2, rfl⟩
      | some d =>
        -- A device that is found is updated, for the timer's event too.
        have hwrite := writeFound_grown (f := .sound) (fun _ => rfl) hp
          (List.mem_of_find?_eq_some hfind) (r := SoundDeviceHandler.update devClass s d)
          (hset d).1 (hset d).2 (by unfold SoundDeviceHandler.update quietly; dsimp only; split <;> rfl)
        simpa using hwrite
    · simp only [hadd, decide_false, Bool.false_and, Bool.false_eq_true, if_false]
      split
      · contradiction
      · contradiction
      · split
        · exact Grown.same hp (Nat.le_refl _)
        · rename_i hfind
          exact writeFound_grown (f := .sound) (fun _ => rfl) hp (List.mem_of_find?_eq_some hfind)
            (hset _).1 (hset _).2 rfl
      · exact Grown.same hp (Nat.le_refl _)
  unfold SoundDeviceHandler.HandlerEvent SoundDeviceHandler.adds
  cases SoundDeviceHandler.isSoundDevice devClass with
  | false => simpa [hremove] using Grown.same hp (Nat.le_refl _)
  | true =>
    by_cases husb : devClass.devType = USB_DEVICE
    · simpa [husb] using hprocess
    · by_cases hsub : devClass.subsystemName = "sound"
      · simpa [husb, hsub] using hprocess
      · simpa [husb, hsub] using Grown.same hp (Nat.le_refl _)

theorem video_grown {h : VideoDeviceHandler} (hp : Pinned s (h.sList.map .video)) :
    Grown (if VideoDeviceHandler.adds devClass then byPath h.sList devClass.devPath else []) s
      (VideoDeviceHandler.HandlerEvent env devClass s h).state (h.sList.map .video)
      ((VideoDeviceHandler.HandlerEvent env devClass s h).obj.sList.map .video) := by
  have hnew : ∀ a, (base ((VideoDevice.new a devClass.devPath).setDeviceInfo env devClass
        h.isCameraReady)).address = a ∧
      (Entry.video ((VideoDevice.new a devClass.devPath).setDeviceInfo env devClass
        h.isCameraReady)).label = (devClass.devPath, false) := by
    intro a
    unfold VideoDevice.setDeviceInfo VideoDevice.new Device.new Entry.label Entry.isExtraSdCard
    dsimp only
    split
    · split <;> simp [base, IDevice.toDevice]
    · simp [base, IDevice.toDevice]
  have hset : ∀ d : VideoDevice, (base (d.updateDeviceInfo devClass)).address = (base d).address ∧
      (Entry.video (d.updateDeviceInfo devClass)).label = (Entry.video d).label := by
    intro d
    unfold VideoDevice.updateDeviceInfo
    split <;> exact ⟨rfl, rfl⟩
  have hannounce : ∀ t, (VideoDeviceHandler.announce devClass t h).next = t.next := by
    intro t
    unfold VideoDeviceHandler.announce
    split
    · rfl
    · split <;> rfl
  have hprocess : Grown (if devClass.action = "add" then byPath h.sList devClass.devPath else []) s
      (VideoDeviceHandler.ProcessVideoDevice env devClass s h).state (h.sList.map .video)
      ((VideoDeviceHandler.ProcessVideoDevice env devClass s h).obj.sList.map .video) :=
    processByPath_grown (f := .video) (fun _ => rfl) hremove hp
      (VideoDeviceHandler.addRule env devClass h) devClass.devPath
      ⟨fun a t => ⟨(hnew a).1, (hnew a).2, rfl⟩, fun t d => ⟨(hset d).1, (hset d).2, hannounce t⟩⟩
      h.deviceType rfl
  unfold VideoDeviceHandler.HandlerEvent VideoDeviceHandler.adds
  cases contains devClass.interfaceClass VideoDeviceHandler.iClass with
  | false => simpa [hremove] using Grown.same hp (Nat.le_refl _)
  | true =>
    by_cases husb : devClass.devType = USB_DEVICE
    · simpa [husb] using hprocess
    · by_cases hsub : devClass.subsystemName = "video4linux"
      · simpa [husb, hsub] using hprocess
      · simpa [husb, hsub] using Grown.same hp (Nat.le_refl _)

omit hremove in
/-- What an add that the CDC handler takes appends: the entry that is found once more, or a
new one, twice for a modem dongle. -/
def CdcDeviceHandler.additions (h : CdcDeviceHandler) (devClass : DeviceClass) :
    List (String × Bool) :=
  match getDeviceWithPath h.sList devClass.devPath with
  | some d => [(d.node, false)]
  | none =>
    if devClass.usbModemId = YES then [(devClass.devPath, false), (devClass.devPath, false)]
    else [(devClass.devPath, false)]

theorem cdc_grown {h : CdcDeviceHandler} (hp : Pinned s (h.sList.map .cdc)) :
    Grown (if h.adds devClass then h.additions devClass else []) s
      (h.HandlerEvent env devClass s).state (h.sList.map .cdc)
      ((h.HandlerEvent env devClass s).obj.sList.map .cdc) := by
  have hset : ∀ d : CdcDevice, (base (d.updateDeviceInfo devClass)).address = (base d).address ∧
      (Entry.cdc (d.updateDeviceInfo devClass)).label = (Entry.cdc d).label := by
    intro d
    unfold CdcDevice.updateDeviceInfo
    split <;> exact ⟨rfl, rfl⟩
  have hnew : ∀ a, (base ((CdcDevice.new a devClass.devPath).setDeviceInfo env devClass)).address
        = a ∧
      (Entry.cdc ((CdcDevice.new a devClass.devPath).setDeviceInfo env devClass)).label =
        (devClass.devPath, false) := by
    intro a
    unfold CdcDevice.setDeviceInfo CdcDevice.new Device.new Entry.label Entry.isExtraSdCard
    dsimp only
    split
    · split <;> split <;> simp [base, IDevice.toDevice]
    · simp [base, IDevice.toDevice]
  have hadd : Grown (h.additions devClass) s
      (CdcDeviceHandler.addCdcDevice env devClass s h.toDeviceList).state
      (h.sList.map .cdc)
      ((CdcDeviceHandler.addCdcDevice env devClass s h.toDeviceList).obj.sList.map .cdc) := by
    unfold CdcDeviceHandler.addCdcDevice CdcDeviceHandler.additions
    cases hfind : getDeviceWithPath h.sList devClass.devPath with
    | some d =>
      dsimp only
      have hd := List.mem_of_find?_eq_some hfind
      have hmem : Entry.cdc d ∈ h.sList.map .cdc := List.mem_map_of_mem hd
      have hagain := Grown.again hp (Nat.le_refl s.next) hmem
      have happend : h.sList.map Entry.cdc ++ [.cdc d] = (h.sList ++ [d]).map .cdc := by simp
      rw [happend] at hagain
      have hwrite := Grown.write (t := s.notify .cdcDevice .add (some d.address)) hagain.pinned
        (Nat.le_refl _) (d := .cdc d) (e := .cdc (d.updateDeviceInfo devClass))
        (List.mem_map_of_mem (by simp)) (hset d).1 (hset d).2
      rw [← writeBack_map (f := Entry.cdc) fun _ => rfl] at hwrite
      exact hagain.trans hwrite
    | none =>
      dsimp only
      obtain ⟨haddr, hlabel⟩ := hnew s.next
      generalize hd : (CdcDevice.new s.next devClass.devPath).setDeviceInfo env devClass = d at *
      split
      · have hpush := Grown.push (t := s.alloc.notify .cdcDevice .add none) hp (by simp)
          [.cdc d, .cdc d] (d := .cdc d) (by simp) haddr
        simpa [hlabel] using hpush
      · have hpush := Grown.push (t := s.alloc) hp (by simp) [.cdc d] (d := .cdc d)
          (by simp) haddr
        simpa [hlabel] using hpush
  have hprocess : Grown (if devClass.action = "add" then h.additions devClass else []) s
      (h.ProcessCdcDevice env devClass s).state (h.sList.map .cdc)
      ((h.ProcessCdcDevice env devClass s).obj.sList.map .cdc) := by
    unfold CdcDeviceHandler.ProcessCdcDevice
    rcases sMapDeviceActions_cases hremove with ⟨hact, hmap⟩ | ⟨hact, hmap, hmap'⟩
    · rw [if_pos hact, hmap]
      exact hadd
    · rw [if_neg hact]
      dsimp only
      split
      · contradiction
      · contradiction
      · exact Grown.same hp (Nat.le_refl _)
  unfold CdcDeviceHandler.HandlerEvent CdcDeviceHandler.adds
  simp only [hremove, false_and, if_false]
  cases h.identifyCdcDevice devClass with
  | false => simpa using Grown.same hp (Nat.le_refl _)
  | true =>
    by_cases husb : devClass.devType = USB_DEVICE
    · simpa [husb] using hprocess
    · by_cases hnet : devClass.subsystemName = "net"
      · simpa [husb, hnet] using hprocess
      · by_cases htty : devClass.subsystemName = "tty"
        · simpa [husb, htty] using hprocess
        · simpa [husb, hnet, htty] using Grown.same hp (Nat.le_refl _)

theorem mtp_grown (cfg : Config) {h : MTPDeviceHandler} (hp : Pinned s (h.mtpList.map .mtp)) :
    Grown (if MTPDeviceHandler.adds devClass &&
        (MTPDeviceHandler.described cfg env devClass s.next).comesUp env devClass.devName then
        [(devClass.devPath, false)] else []) s
      (h.HandlerEvent cfg env s devClass).state (h.mtpList.map .mtp)
      ((h.HandlerEvent cfg env s devClass).obj.mtpList.map .mtp) := by
  have haddress : (MTPDeviceHandler.described cfg env devClass s.next).address = s.next :=
    MTPDevice.setDeviceInfo_address ..
  have hnode : (MTPDeviceHandler.described cfg env devClass s.next).node = devClass.devPath :=
    MTPDevice.setDeviceInfo_node ..
  have hadd : Grown (if (MTPDeviceHandler.described cfg env devClass s.next).comesUp env
        devClass.devName then [(devClass.devPath, false)] else []) s
      (h.addMTPDevice cfg env s devClass).state (h.mtpList.map .mtp)
      ((h.addMTPDevice cfg env s devClass).obj.mtpList.map .mtp) := by
    unfold MTPDeviceHandler.addMTPDevice
    rw [show (MTPDevice.new s.next devClass.devPath cfg.rootPath).setDeviceInfo env devClass =
      MTPDeviceHandler.described cfg env devClass s.next from rfl]
    generalize MTPDeviceHandler.described cfg env devClass s.next = d at *
    by_cases hname : devClass.devName = ""
    · have hdown : d.comesUp env devClass.devName = false := by
        simp [MTPDevice.comesUp, hname]
      rw [if_pos hname, hdown]
      exact Grown.same hp (Nat.le_refl _)
    · rw [if_neg hname]
      dsimp only
      cases hup : d.comesUp env devClass.devName with
      | true =>
        obtain ⟨hobj, hret, -, hnext, -⟩ := MTPDevice.mtpMount_up env s.alloc d hup
        rw [if_pos hret, hobj, List.map_append]
        have hpush := Grown.push
          (t := (d.mtpMount env s.alloc devClass.devName).state.notify .mtpDevice .add none) hp
          (by rw [Sys.notify_next, hnext, Sys.alloc_next]; omega)
          [.mtp { d with errorReason := .nothing, isMounted := true }]
          (fun e he => List.mem_singleton.mp he) haddress
        rw [List.map_singleton, show Entry.label (.mtp { d with
          errorReason := .nothing, isMounted := true }) = (devClass.devPath, false) from
            congrArg (·, false) hnode] at hpush
        exact hpush
      | false =>
        obtain ⟨hobj, hret, -, hnext, -⟩ := MTPDevice.mtpMount_down env s.alloc d hup
        rw [if_neg (show ¬ false = true by decide), if_neg (by rw [hret]; decide)]
        refine Grown.same hp ?_
        rw [(MTPDevice.onDeviceRemove_keeps env _ _).2.1, hnext, Sys.alloc_next]
        omega
  unfold MTPDeviceHandler.HandlerEvent MTPDeviceHandler.adds
  by_cases hplayer : devClass.mediaPlayerId = YES
  · unfold MTPDeviceHandler.ProcessMTPDevice
    rcases sMapDeviceActions_cases hremove with ⟨hact, hmap⟩ | ⟨hact, hmap, hmap'⟩
    · simpa [hplayer, hact, hmap] using hadd
    · simp only [hplayer, hact, or_true, if_true, decide_true, decide_false, Bool.and_false,
        Bool.false_and, Bool.false_eq_true, if_false]
      exact Grown.same hp (Nat.le_refl _)
  · simpa [hplayer, hremove] using Grown.same hp (Nat.le_refl _)

theorem ptp_grown (cfg : Config) {h : PTPDeviceHandler} (hp : Pinned s (h.sList.map .ptp)) :
    Grown (if PTPDeviceHandler.adds devClass &&
        (PTPDeviceHandler.described cfg env devClass s.next).comesUp env then
        [(devClass.devPath, false)] else []) s
      (h.HandlerEvent cfg env s devClass).state (h.sList.map .ptp)
      ((h.HandlerEvent cfg env s devClass).obj.sList.map .ptp) := by
  have hbase : (PTPDeviceHandler.described cfg env devClass s.next).address = s.next ∧
      (PTPDeviceHandler.described cfg env devClass s.next).node = devClass.devPath ∧
      (PTPDeviceHandler.described cfg env devClass s.next).isMounted = false := by
    unfold PTPDeviceHandler.described PTPDevice.described
    split
    · simp [PTPDevice.new]
    · exact ⟨rfl, rfl, rfl⟩
  have hadd : Grown (if (PTPDeviceHandler.described cfg env devClass s.next).comesUp env then
        [(devClass.devPath, false)] else []) s
      (h.addPTPDevice cfg env s devClass).state (h.sList.map .ptp)
      ((h.addPTPDevice cfg env s devClass).obj.sList.map .ptp) := by
    unfold PTPDeviceHandler.addPTPDevice
    dsimp only
    rw [PTPDevice.setDeviceInfo_eq, show (PTPDevice.new s.next devClass.devPath cfg.rootPath).described
      env devClass = PTPDeviceHandler.described cfg env devClass s.next from rfl]
    generalize PTPDeviceHandler.described cfg env devClass s.next = d at *
    obtain ⟨haddress, hnode, hmounted⟩ := hbase
    unfold PTPDevice.comesUp
    by_cases hnum : d.isNumbered
    · rw [if_pos hnum]
      obtain ⟨hobj, -, hnext, -⟩ := PTPDevice.ptpMount_eq env s.alloc d hnum.2
      simp only [hnum, decide_true, Bool.true_and]
      rw [hobj]
      cases hup : d.placed.helperMounts env && PTPDevice.checkDirectory env d.placed.mountName with
      | true =>
        simp only [if_true]
        have hpush := Grown.push (t := (d.ptpMount env s.alloc).state.notify .ptpDevice .add none) hp
          (by rw [Sys.notify_next, hnext, Sys.alloc_next]; omega)
          [.ptp { d.placed with
            isMounted := true, errorReason := .nothing, driveStatus := .mountOk }]
          (fun e he => List.mem_singleton.mp he) haddress
        rw [List.map_singleton, show Entry.label (.ptp { d.placed with
          isMounted := true, errorReason := .nothing, driveStatus := .mountOk }) =
            (devClass.devPath, false) from congrArg (·, false) hnode] at hpush
        rw [List.map_append]
        exact hpush
      | false =>
        have hdown : d.placed.isMounted = false := hmounted
        simp only [Bool.false_eq_true, if_false, hdown]
        refine Grown.same hp ?_
        rw [(PTPDevice.onDeviceRemove_keeps env _ _).2.1, hnext, Sys.alloc_next]
        omega
    · rw [if_neg hnum]
      simp only [hmounted, hnum, decide_false, Bool.false_and, Bool.false_eq_true, if_false]
      refine Grown.same hp ?_
      rw [(PTPDevice.onDeviceRemove_keeps env _ _).2.1, Sys.alloc_next]
      omega
  unfold PTPDeviceHandler.HandlerEvent PTPDeviceHandler.adds
  have hprocess : Grown (if devClass.action = "add" &&
        (PTPDeviceHandler.described cfg env devClass s.next).comesUp env then
        [(devClass.devPath, false)] else []) s
      (h.ProcessPTPDevice cfg env s devClass).state (h.sList.map .ptp)
      ((h.ProcessPTPDevice cfg env s devClass).obj.sList.map .ptp) := by
    unfold PTPDeviceHandler.ProcessPTPDevice
    rcases sMapDeviceActions_cases hremove with ⟨hact, hmap⟩ | ⟨hact, hmap, hmap'⟩
    · simpa [hact, hmap] using hadd
    · simp only [hact, decide_false, Bool.false_and, Bool.false_eq_true, if_false]
      exact Grown.same hp (Nat.le_refl _)
  simp only [hremove, if_false]
  cases contains devClass.interfaceClass PTPDeviceHandler.iClass with
  | false => simpa using Grown.same hp (Nat.le_refl _)
  | true =>
    by_cases hplayer : devClass.mediaPlayerId = "1"
    · simpa [hplayer] using Grown.same hp (Nat.le_refl _)
    · by_cases husb : devClass.devType = USB_DEVICE
      · simpa [husb, hplayer] using hprocess
      · by_cases hsub : devClass.subsystemName = "usb"
        · simpa [husb, hsub, hplayer] using hprocess
        · simpa [husb, hsub, hplayer] using Grown.same hp (Nat.le_refl _)

omit hremove in
/-- What an event makes the storage handler append: the device it creates for it. -/
def StorageDeviceHandler.additions (cfg : Config) (h : StorageDeviceHandler)
    (devClass : DeviceClass) (address : Nat) : List (String × Bool) :=
  match target cfg address h devClass with
  | .new d => [(d.node, d.isExtraSdCard)]
  | _ => []

theorem storage_grown (cfg : Config) {h : StorageDeviceHandler}
    (hp : Pinned s (h.storageList.map .storage)) :
    Grown (h.additions cfg devClass s.next) s (h.HandlerEvent cfg env s devClass).state
      (h.storageList.map .storage) ((h.HandlerEvent cfg env s devClass).obj.storageList.map .storage) := by
  have hkeeps : ∀ (t : Sys) (d : StorageDevice), (d.setDeviceInfo env t devClass).obj.address =
        d.address ∧
      (Entry.storage (d.setDeviceInfo env t devClass).obj).label = (d.node, d.isExtraSdCard) := by
    intro t d
    obtain ⟨-, hnode, hextra, -⟩ := d.informed_keeps env devClass
    have hcore := d.setDeviceInfo_core env t devClass
    refine ⟨d.setDeviceInfo_address env t devClass, ?_⟩
    exact Prod.ext ((StorageDevice.node_of_core hcore).trans hnode)
      ((StorageDevice.isExtraSdCard_of_core hcore).trans hextra)
  unfold StorageDeviceHandler.additions
  rcases h.HandlerEvent_outcome cfg env s devClass with
    ⟨htarget, hs, hl⟩ | ⟨d, htarget, hmem, ht, hl⟩ | ⟨reader, htarget, ht, hl⟩ | ⟨d, hrem, -, -, -⟩
  · rw [htarget, hl]
    exact Grown.same hp (Nat.le_of_eq hs.next.symm)
  · rw [htarget, ht, hl, writeBack_map (f := Entry.storage) fun _ => rfl]
    exact Grown.write hp (d.setDeviceInfo_next env s devClass) (List.mem_map_of_mem hmem)
      (hkeeps s d).1 (hkeeps s d).2
  · rw [htarget, ht, hl]
    dsimp only
    obtain ⟨haddr, hlabel⟩ := hkeeps s.alloc
      (StorageDeviceHandler.newDevice cfg s.next devClass reader)
    rw [StorageDeviceHandler.newDevice_address] at haddr
    have hnext := StorageDevice.setDeviceInfo_next env s.alloc
      (StorageDeviceHandler.newDevice cfg s.next devClass reader) devClass
    rw [Sys.alloc_next] at hnext
    have hpush := Grown.push hp (Nat.lt_of_succ_le hnext) [.storage
      ((StorageDeviceHandler.newDevice cfg s.next devClass reader).setDeviceInfo env s.alloc
        devClass).obj] (fun e he => List.mem_singleton.mp he) haddr
    rw [List.map_singleton, hlabel] at hpush
    rw [List.map_append]
    exact hpush
  · exact absurd hrem hremove

end HandlerEvents

/-! ### All handlers -/

namespace World

variable (cfg : Config) (env : Env) (w : World)

/-- What an event that is no removal makes a handler append. -/
def additions (devClass : DeviceClass) : HandlerKind → List (String × Bool)
  | .storage => w.storage.additions cfg devClass w.sys.next
  | .mtp =>
    if MTPDeviceHandler.adds devClass &&
        (MTPDeviceHandler.described cfg env devClass w.sys.next).comesUp env devClass.devName then
      [(devClass.devPath, false)] else []
  | .ptp =>
    if PTPDeviceHandler.adds devClass &&
        (PTPDeviceHandler.described cfg env devClass w.sys.next).comesUp env then
      [(devClass.devPath, false)] else []
  | .hid => if HIDDeviceHandler.adds devClass then byPath w.hid.sList devClass.devPath else []
  | .nfc => if NfcDeviceHandler.adds devClass then byPath w.nfc.sList devClass.devPath else []
  | .sound => if SoundDeviceHandler.adds devClass then byPath w.sound.sList devClass.devPath else []
  | .video => if VideoDeviceHandler.adds devClass then byPath w.video.sList devClass.devPath else []
  | .gamepad =>
    if GamepadDeviceHandler.adds devClass then byPath w.gamepad.sList devClass.devPath else []
  | .bluetooth =>
    if BluetoothDeviceHandler.adds devClass then byPath w.bluetooth.sList devClass.devPath else []
  | .cdc => if w.cdc.adds devClass then w.cdc.additions devClass else []

/-- **What an event that is no removal does to a handler's list.** -/
theorem HandlerEvent_grown {devClass : DeviceClass} (hremove : devClass.action ≠ "remove")
    (kind : HandlerKind) (hp : Pinned w.sys (w.entries kind)) :
    Grown (w.additions cfg env devClass kind) w.sys (w.HandlerEvent cfg env kind devClass).1.sys
      (w.entries kind) ((w.HandlerEvent cfg env kind devClass).1.entries kind) := by
  cases kind with
  | storage => exact storage_grown env hremove cfg hp
  | mtp => exact mtp_grown env hremove cfg hp
  | ptp => exact ptp_grown env hremove cfg hp
  | hid => exact hid_grown env hremove hp
  | nfc => exact nfc_grown env hremove hp
  | sound => exact sound_grown env hremove hp
  | video => exact video_grown env hremove hp
  | gamepad => exact gamepad_grown env hremove hp
  | bluetooth => exact bluetooth_grown env hremove hp
  | cdc => exact cdc_grown env hremove hp

/-- A handler's event leaves the other handlers' lists as they are. -/
theorem HandlerEvent_others {kind other : HandlerKind} (hne : other ≠ kind)
    (devClass : DeviceClass) :
    (w.HandlerEvent cfg env kind devClass).1.entries other = w.entries other := by
  cases other <;> cases kind <;> first | exact absurd rfl hne | rfl

/-- The loop leaves the lists of the handlers that are not in it as they are. -/
theorem deviceLoop_others {devClass : DeviceClass} {kind : HandlerKind} {l : List HandlerKind}
    (hkind : kind ∉ l) : (deviceLoop cfg env devClass w l).1.entries kind = w.entries kind := by
  induction l generalizing w with
  | nil => rfl
  | cons k rest ih =>
      obtain ⟨hne, hrest⟩ := not_or.mp (List.mem_cons.not.mp hkind)
      have hk := HandlerEvent_others cfg env w hne devClass
      unfold deviceLoop
      dsimp only
      split
      · rw [ih _ hrest, hk]
      · split
        · exact hk
        · rw [ih _ hrest, hk]

end World

end Pdm
