/-
The handlers of the devices without a file system mount nothing and delete nothing.

All they do to the system is to allocate devices and to announce them.
-/
import Pdm.Proofs.StreamingSteps

namespace Pdm

/-- Devices may have been allocated and announced, and nothing else has happened. -/
structure Chatter (s t : Sys) : Prop where
  mounted : t.mounted = s.mounted
  next : s.next ≤ t.next
  quiet : Sys.Adds DeletesNothing s t

namespace Chatter

variable {s t u : Sys}

theorem refl (s : Sys) : Chatter s s := ⟨rfl, Nat.le_refl _, Sys.Adds.of_eq rfl⟩

theorem trans (hst : Chatter s t) (htu : Chatter t u) : Chatter s u :=
  ⟨htu.mounted.trans hst.mounted, Nat.le_trans hst.next htu.next, hst.quiet.trans htu.quiet⟩

theorem notify (s : Sys) (deviceType : DeviceEventType) (event : EventType)
    (device : Option Nat) : Chatter s (s.notify deviceType event device) :=
  ⟨rfl, Nat.le_refl _, Sys.Adds.notify s deviceType event device⟩

theorem alloc (s : Sys) : Chatter s s.alloc :=
  ⟨rfl, Nat.le_succ _, Sys.Adds.of_eq rfl⟩

end Chatter

section Shared

variable {α : Type} [IDevice α] (s : Sys) (h : DeviceList α)

theorem removeByPath_chatter (deviceType : DeviceEventType) (devPath : String) :
    Chatter s (removeByPath deviceType s h devPath).state := by
  unfold removeByPath
  cases getDeviceWithPath h.sList devPath with
  | none => exact Chatter.refl s
  | some d => exact Chatter.notify s _ _ _

omit [IDevice α] in
theorem pushNew_chatter {create : Nat → Sys → Out α Unit}
    (hcreate : ∀ a t, Chatter t (create a t).state) : Chatter s (pushNew s h create).state :=
  (Chatter.alloc s).trans (hcreate _ _)

theorem addByPath_chatter {rule : AddRule α} (hcreate : ∀ a t, Chatter t (rule.create a t).state)
    (hupdate : ∀ t d, Chatter t (rule.update t d).state) (devPath : String) :
    Chatter s (addByPath rule s h devPath).state := by
  unfold addByPath
  cases getDeviceWithPath h.sList devPath with
  | none => exact pushNew_chatter s h hcreate
  | some d => exact hupdate s d

/-- The body of a handler that adds and removes by path. -/
theorem processByPath_chatter (rule : AddRule α)
    (hcreate : ∀ a t, Chatter t (rule.create a t).state)
    (hupdate : ∀ t d, Chatter t (rule.update t d).state) (deviceType : DeviceEventType)
    {action devPath : String} {r : Out (DeviceList α) Unit}
    (hr : r = match sMapDeviceActions action with
      | some .usbDevAdd => addByPath rule s h devPath
      | some .usbDevRemove => removeByPath deviceType s h devPath
      | _ => ⟨s, h, ()⟩) : Chatter s r.state := by
  subst hr
  split
  · exact addByPath_chatter s h hcreate hupdate devPath
  · exact removeByPath_chatter s h deviceType devPath
  · exact Chatter.refl s

/-- What a handler does first when the device goes. -/
theorem removeFirst_chatter {β : Type} {s : Sys} {h : β} {P : Prop} [Decidable P] {a r : Out β Unit}
    (ha : Chatter s a.state) (hr : (if P then a else ⟨s, h, ()⟩) = r) : Chatter s r.state := by
  rw [← hr]
  split
  · exact ha
  · exact Chatter.refl s

end Shared

/-! ### Each handler -/

variable (env : Env) (devClass : DeviceClass) (s : Sys)

theorem hid_chatter (h : DeviceList Device) :
    Chatter s (HIDDeviceHandler.HandlerEvent env devClass s h).state := by
  have hset : ∀ (t : Sys) (d : Device),
      Chatter t (HIDDeviceHandler.setInfo env devClass t d).state := by
    intro t d
    unfold HIDDeviceHandler.setInfo
    dsimp only
    split
    · exact Chatter.notify t _ _ _
    · exact Chatter.refl t
  have hprocess : ∀ (t : Sys) (h : DeviceList Device),
      Chatter t (HIDDeviceHandler.ProcessHIDDevice env devClass t h).state := fun t h =>
    processByPath_chatter t h (HIDDeviceHandler.addRule env devClass)
      (fun a t => hset t _) hset .hidDevice rfl
  unfold HIDDeviceHandler.HandlerEvent
  dsimp only
  generalize hr : (if devClass.action = "remove" then
    HIDDeviceHandler.ProcessHIDDevice env devClass s { h with deviceRemoved := false }
    else (⟨s, h, ()⟩ : Out (DeviceList Device) Unit)) = r
  have hfirst : Chatter s r.state := removeFirst_chatter (hprocess s _) hr
  split
  · exact hfirst
  · split
    · exact hfirst
    · split
      · exact hfirst.trans (hprocess _ _)
      · split
        · exact hfirst.trans (hprocess _ _)
        · exact hfirst

theorem nfc_chatter (h : DeviceList Device) :
    Chatter s (NfcDeviceHandler.HandlerEvent env devClass s h).state := by
  have hprocess : ∀ (t : Sys) (h : DeviceList Device),
      Chatter t (NfcDeviceHandler.ProcessNfcDevice env devClass t h).state := fun t h =>
    processByPath_chatter t h (NfcDeviceHandler.addRule env devClass)
      (fun a t => Chatter.notify t _ _ _) (fun t d => Chatter.refl t) .nfcDevice rfl
  unfold NfcDeviceHandler.HandlerEvent
  dsimp only
  generalize hr : (if devClass.action = "remove" then
    NfcDeviceHandler.ProcessNfcDevice env devClass s h
    else (⟨s, h, ()⟩ : Out (DeviceList Device) Unit)) = r
  have hfirst : Chatter s r.state := removeFirst_chatter (hprocess s _) hr
  split
  · exact hfirst
  · split
    · exact hfirst.trans (hprocess _ _)
    · exact hfirst

theorem gamepad_chatter (h : DeviceList Device) :
    Chatter s (GamepadDeviceHandler.HandlerEvent env devClass s h).state := by
  have hprocess : ∀ (t : Sys) (h : DeviceList Device),
      Chatter t (GamepadDeviceHandler.ProcessGamepadDevice env devClass t h).state := fun t h =>
    processByPath_chatter t h (GamepadDeviceHandler.addRule env devClass)
      (fun a t => Chatter.notify t _ _ _) (fun t d => Chatter.refl t) .gamepadDevice rfl
  unfold GamepadDeviceHandler.HandlerEvent
  dsimp only
  generalize hr : (if devClass.action = "remove" then
    GamepadDeviceHandler.ProcessGamepadDevice env devClass s { h with deviceRemoved := false }
    else (⟨s, h, ()⟩ : Out (DeviceList Device) Unit)) = r
  have hfirst : Chatter s r.state := removeFirst_chatter (hprocess s _) hr
  split
  · exact hfirst
  · split
    · exact hfirst.trans (hprocess _ _)
    · exact hfirst

theorem bluetooth_chatter (h : DeviceList Device) :
    Chatter s (BluetoothDeviceHandler.HandlerEvent env devClass s h).state := by
  have hprocess : Chatter s (BluetoothDeviceHandler.ProcessBluetoothDevice env devClass s h).state :=
    processByPath_chatter s h (BluetoothDeviceHandler.addRule env devClass)
      (fun a t => Chatter.notify t _ _ _) (fun t d => Chatter.refl t) .bluetoothDevice rfl
  unfold BluetoothDeviceHandler.HandlerEvent
  split
  · exact hprocess
  · split
    · exact hprocess
    · exact Chatter.refl s

theorem sound_chatter (h : DeviceList SoundDevice) :
    Chatter s (SoundDeviceHandler.HandlerEvent env devClass s h).state := by
  have hprocess : Chatter s (SoundDeviceHandler.ProcessSoundDevice env devClass s h).state := by
    unfold SoundDeviceHandler.ProcessSoundDevice SoundDeviceHandler.addSoundDevice
    split
    · split
      · split
        · exact Chatter.refl s
        · exact pushNew_chatter s h fun a t => Chatter.refl t
      · unfold SoundDeviceHandler.update writeFound quietly
        dsimp only
        split
        · exact Chatter.notify s _ _ _
        · exact Chatter.refl s
    · exact removeByPath_chatter s h _ _
    · split
      · exact Chatter.refl s
      · exact Chatter.notify s _ _ _
    · exact Chatter.refl s
  unfold SoundDeviceHandler.HandlerEvent
  split
  · exact Chatter.refl s
  · split
    · exact hprocess
    · split
      · exact hprocess
      · exact Chatter.refl s

theorem video_chatter (h : VideoDeviceHandler) :
    Chatter s (h.HandlerEvent env devClass s).state := by
  have hupdate : ∀ t d, Chatter t ((VideoDeviceHandler.addRule env devClass h).update t d).state := by
    intro t d
    dsimp only [VideoDeviceHandler.addRule, quietly]
    unfold VideoDeviceHandler.announce
    split
    · exact Chatter.notify t _ _ _
    · split
      · exact Chatter.notify t _ _ _
      · exact Chatter.refl t
  have hprocess : Chatter s (h.ProcessVideoDevice env devClass s).state :=
    processByPath_chatter s h.toDeviceList (VideoDeviceHandler.addRule env devClass h)
      (fun a t => Chatter.refl t) hupdate h.deviceType rfl
  unfold VideoDeviceHandler.HandlerEvent
  split
  · exact Chatter.refl s
  · split
    · exact hprocess
    · split
      · exact hprocess
      · exact Chatter.refl s

theorem cdc_chatter (h : CdcDeviceHandler) : Chatter s (h.HandlerEvent env devClass s).state := by
  have hadd : ∀ (t : Sys) (h : DeviceList CdcDevice),
      Chatter t (CdcDeviceHandler.addCdcDevice env devClass t h).state := by
    intro t h
    unfold CdcDeviceHandler.addCdcDevice
    split
    · dsimp only
      split
      · exact (Chatter.alloc t).trans (Chatter.notify _ _ _ _)
      · exact Chatter.alloc t
    · exact Chatter.notify t _ _ _
  have hprocess : ∀ (t : Sys) (h : CdcDeviceHandler),
      Chatter t (h.ProcessCdcDevice env devClass t).state := by
    intro t h
    unfold CdcDeviceHandler.ProcessCdcDevice
    dsimp only
    split
    · exact hadd t _
    · exact removeByPath_chatter t _ _ _
    · exact Chatter.refl t
  unfold CdcDeviceHandler.HandlerEvent
  dsimp only
  generalize hr : (if devClass.action = "remove" then
    CdcDeviceHandler.ProcessCdcDevice env devClass s { h with deviceRemoved := false }
    else (⟨s, h, ()⟩ : Out CdcDeviceHandler Unit)) = r
  have hfirst : Chatter s r.state := removeFirst_chatter (hprocess s _) hr
  split
  · exact hfirst
  · split
    · exact hfirst
    · split
      · exact hfirst.trans (hprocess _ _)
      · split
        · exact hfirst.trans (hprocess _ _)
        · exact hfirst

end Pdm
