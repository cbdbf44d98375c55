/-
Whom a remove event reaches.

Unless the event is about a whole USB device, the loop of `HandlePdmDevice` ends at the
first handler that takes it, so what a removal takes out depends on the order of the
handlers, and for the NFC handler on whether it has ever removed a device.  `Ends` says
which handlers end the loop and `Concerned` which have something to do.  **What is removed
depends on the lists and the event alone, and a disk's removal reaches the storage
handler, exactly when no handler ends the loop before another that is concerned.**
-/
import Mathlib.Data.List.Perm.Basic
import Pdm.Lib.Runs
import Pdm.Proofs.Additions

namespace Pdm

namespace World

variable (cfg : Config) (env : Env) (devClass : DeviceClass)

/-! ### What the loop does -/

/-- The handlers the loop of `HandlePdmDevice` hands the event to. -/
def loopAsks (w : World) : List HandlerKind → List HandlerKind
  | [] => []
  | kind :: rest =>
    let r := w.HandlerEvent cfg env kind devClass
    if devClass.devType = USB_DEVICE then kind :: loopAsks r.1 rest
    else if r.2 then [kind]
    else kind :: loopAsks r.1 rest

/-- The handlers that `HandlePdmDevice` hands the event to. -/
def asks (handlerList : List HandlerKind) (w : World) : List HandlerKind :=
  if toInt devClass.idBlackList ≠ 0 then [] else loopAsks cfg env devClass w handlerList

/-- The entries of a handler that the event makes `HandlePdmDevice` remove. -/
def removedEntries (handlerList : List HandlerKind) (w : World) (kind : HandlerKind) :
    List Entry :=
  (w.entries kind).filter
    (· ∉ (w.HandlePdmDevice cfg env handlerList devClass).1.entries kind)

/-- A storage device tracks the disk the event is about. -/
def TracksDisk (w : World) : Prop :=
  devClass.devType = DISK ∧ (getDeviceWithName w.storage.storageList devClass.devName).isSome

/-- The handler ends the loop when it is handed the remove event: what it answers when the
event is not about a whole USB device.  NFC takes every removal once it has had one. -/
def Ends (w : World) : HandlerKind → Prop
  | .hid => (w.removes .hid devClass).isSome ∨
      contains devClass.interfaceClass HIDDeviceHandler.iClass ∧ devClass.subsystemName = "input"
  | .nfc => w.nfc.deviceRemoved ∨ (w.removes .nfc devClass).isSome ∨
      contains devClass.interfaceClass NfcDeviceHandler.iClass
  | .sound => devClass.subsystemName = "sound"
  | .video => devClass.subsystemName = "video4linux"
  | .gamepad => (w.removes .gamepad devClass).isSome ∨ devClass.gamepadId = "1"
  | .cdc => (w.removes .cdc devClass).isSome ∨
      CdcDeviceHandler.identifyCdcDevice devClass w.cdc ∧
        (devClass.subsystemName = "net" ∨ devClass.subsystemName = "tty")
  | _ => False

/-- The handler has a device to remove, or is the storage handler with the disk. -/
def Concerned (w : World) (kind : HandlerKind) : Prop :=
  (w.removes kind devClass).isSome ∨ kind = .storage ∧ w.TracksDisk devClass

/-- No handler ends the loop before another that is concerned: not in any order. -/
def Undisturbed (handlers : List HandlerKind) (w : World) : Prop :=
  if toInt devClass.idBlackList ≠ 0 then .storage ∈ handlers → ¬ w.TracksDisk devClass
  else devClass.devType = USB_DEVICE ∨
    ∀ s ∈ handlers, w.Ends devClass s → ∀ r ∈ handlers, w.Concerned devClass r → r = s

/-- In every order of the handlers the event removes the same from both states, and a
disk's removal reaches the storage handler when it tracks the disk. -/
structure Independent (handlers : List HandlerKind) (w w' : World) : Prop where
  removed : ∀ order order' env env', order.Perm handlers → order'.Perm handlers →
    removedEntries cfg env devClass order w = removedEntries cfg env' devClass order' w'
  reached : .storage ∈ handlers → ∀ order env, order.Perm handlers →
    (w.TracksDisk devClass → .storage ∈ asks cfg env devClass order w) ∧
      (w'.TracksDisk devClass → .storage ∈ asks cfg env devClass order w')

/-! ### One handler -/

variable {cfg env devClass} (hremove : devClass.action = "remove")

theorem removes_mem {w : World} {kind : HandlerKind} {e : Entry}
    (hfound : w.removes kind devClass = some e) : e ∈ w.entries kind := by
  unfold removes at hfound
  split at hfound
  · obtain ⟨d, hd, rfl⟩ := Option.map_eq_some_iff.mp hfound
    exact List.mem_map_of_mem (StorageDeviceHandler.removedDevice_mem hd)
  · split at hfound
    · exact List.mem_of_find?_eq_some hfound
    · exact absurd hfound (by simp)
  · split at hfound
    · exact List.mem_of_find?_eq_some hfound
    · exact absurd hfound (by simp)
  · exact List.mem_of_find?_eq_some hfound

theorem removes_usb {l : List Device} {devPath : String} :
    (getDeviceWithPath (l.map Entry.usb) devPath).isSome = (getDeviceWithPath l devPath).isSome := by
  rw [getDeviceWithPath_map (f := Entry.usb) (fun _ => rfl), Option.isSome_map]

include hremove

/-- What a handler answers to a remove event that is not about a whole USB device. -/
theorem HandlerEvent_ends (husb : devClass.devType ≠ USB_DEVICE) (w : World)
    (kind : HandlerKind) :
    (w.HandlerEvent cfg env kind devClass).2 = true ↔ w.Ends devClass kind := by
  unfold HandlerEvent Ends
  cases kind with
  | storage =>
    unfold StorageDeviceHandler.HandlerEvent StorageDeviceHandler.deleteStorageDevice
    rw [if_pos hremove]
    cases w.storage.removedDevice devClass with
    | none => simp
    | some d => simp [husb]
  | mtp =>
    unfold MTPDeviceHandler.HandlerEvent
    dsimp only
    split <;> simp
  | ptp =>
    unfold PTPDeviceHandler.HandlerEvent
    rw [if_pos hremove]
    simp
  | hid =>
    unfold removes entries HIDDeviceHandler.HandlerEvent HIDDeviceHandler.ProcessHIDDevice
      removeByPath
    simp only [hremove, sMapDeviceActions_remove, if_true, true_and, removes_usb]
    cases hfind : getDeviceWithPath w.hid.sList devClass.devPath with
    | some d => simp
    | none =>
      simp only [hfind, Bool.false_eq_true, if_false, if_neg husb, Option.isSome_none, false_or]
      by_cases hclass : contains devClass.interfaceClass HIDDeviceHandler.iClass = true
      · by_cases hsub : devClass.subsystemName = "input"
        · simp [hclass, hsub]
        · simp [hclass, hsub]
      · simp [hclass]
  | nfc =>
    unfold removes entries NfcDeviceHandler.HandlerEvent NfcDeviceHandler.ProcessNfcDevice
      removeByPath
    simp only [hremove, sMapDeviceActions_remove, if_true, true_and, removes_usb]
    cases hfind : getDeviceWithPath w.nfc.sList devClass.devPath with
    | some d => simp
    | none =>
      simp only [hfind, Option.isSome_none, Bool.false_eq_true, false_or]
      by_cases hflag : w.nfc.deviceRemoved = true
      · simp [hflag]
      · by_cases hclass : contains devClass.interfaceClass NfcDeviceHandler.iClass = true
        · simp [hflag, hclass]
        · simp [hflag, hclass]
  | sound =>
    unfold SoundDeviceHandler.HandlerEvent
    simp only [hremove, ne_eq, not_true_eq_false, false_and, if_false, if_neg husb]
    split
    · simp [*]
    · simp [*]
  | video =>
    unfold VideoDeviceHandler.HandlerEvent
    simp only [hremove, ne_eq, not_true_eq_false, and_false, if_false, if_neg husb]
    split
    · simp [*]
    · simp [*]
  | gamepad =>
    unfold removes entries GamepadDeviceHandler.HandlerEvent
      GamepadDeviceHandler.ProcessGamepadDevice removeByPath
    simp only [hremove, sMapDeviceActions_remove, if_true, true_and, removes_usb]
    cases hfind : getDeviceWithPath w.gamepad.sList devClass.devPath with
    | some d => simp
    | none =>
      simp only [hfind, Bool.false_eq_true, if_false, Option.isSome_none, false_or]
      split
      · simp [*]
      · simp [*]
  | bluetooth =>
    unfold BluetoothDeviceHandler.HandlerEvent
    rw [if_pos hremove]
    simp
  | cdc =>
    unfold removes entries CdcDeviceHandler.HandlerEvent CdcDeviceHandler.ProcessCdcDevice
      removeByPath
    simp only [hremove, sMapDeviceActions_remove, if_true, true_and,
      getDeviceWithPath_map (f := Entry.cdc) (fun _ => rfl), Option.isSome_map]
    cases hfind : getDeviceWithPath w.cdc.sList devClass.devPath with
    | some d => simp
    | none =>
      simp only [hfind, Bool.false_eq_true, if_false, Option.isSome_none, false_or, if_neg husb]
      have hidentify : CdcDeviceHandler.identifyCdcDevice devClass
          { w.cdc with sList := w.cdc.sList, deviceRemoved := false } =
          CdcDeviceHandler.identifyCdcDevice devClass w.cdc := rfl
      rw [hidentify]
      by_cases hcdc : CdcDeviceHandler.identifyCdcDevice devClass w.cdc = true
      · by_cases hsub : devClass.subsystemName = "net" ∨ devClass.subsystemName = "tty"
        · simp [hcdc, hsub]
        · simp [hcdc, hsub]
      · simp [hcdc]

omit hremove

/-- A handler's event changes neither what another removes nor whether it ends the loop. -/
theorem HandlerEvent_ends_others {kind other : HandlerKind} (hne : other ≠ kind) (w : World) :
    (w.HandlerEvent cfg env kind devClass).1.Ends devClass other ↔ w.Ends devClass other := by
  cases other <;> cases kind <;> first | exact absurd rfl hne | exact Iff.rfl

theorem HandlerEvent_removes_others {kind other : HandlerKind} (hne : other ≠ kind) (w : World) :
    (w.HandlerEvent cfg env kind devClass).1.removes other devClass =
      w.removes other devClass := by
  cases other <;> cases kind <;> first | exact absurd rfl hne | rfl

/-! ### The loop -/

/-- The entries that a remove event leaves to a handler that is handed it. -/
def remaining (w : World) (devClass : DeviceClass) (kind : HandlerKind) : List Entry :=
  match w.removes kind devClass with
  | none => w.entries kind
  | some d => removePointer (w.entries kind) d

/-- The entries that a remove event takes out of the list of a handler that is handed it. -/
def goes (w : World) (devClass : DeviceClass) (kind : HandlerKind) : List Entry :=
  (w.entries kind).filter (· ∉ w.remaining devClass kind)

theorem loopAsks_subset (w : World) (l : List HandlerKind) :
    loopAsks cfg env devClass w l ⊆ l := by
  induction l generalizing w with
  | nil => exact List.Subset.refl _
  | cons kind rest ih =>
    unfold loopAsks
    dsimp only
    split
    · exact List.cons_subset_cons _ (ih _)
    · split
      · simp
      · exact List.cons_subset_cons _ (ih _)

/-- The first handler is always asked. -/
theorem mem_loopAsks_head (w : World) (kind : HandlerKind) (rest : List HandlerKind) :
    kind ∈ loopAsks cfg env devClass w (kind :: rest) := by
  unfold loopAsks
  dsimp only
  split
  · simp
  · split <;> simp

include hremove

/-- The loop is over where a handler ends it. -/
theorem loopAsks_of_ends (husb : devClass.devType ≠ USB_DEVICE) {w : World} {s : HandlerKind}
    (hends : w.Ends devClass s) (rest : List HandlerKind) :
    loopAsks cfg env devClass w (s :: rest) = [s] := by
  have htrue : (w.HandlerEvent cfg env s devClass).2 = true :=
    (HandlerEvent_ends hremove husb w s).mpr hends
  unfold loopAsks
  dsimp only
  rw [if_neg husb, if_pos htrue]

/-- A handler is asked when no other one ends the loop. -/
theorem mem_loopAsks {l : List HandlerKind} (hnodup : l.Nodup) {w : World} {kind : HandlerKind}
    (hmem : kind ∈ l)
    (hquiet : devClass.devType = USB_DEVICE ∨ ∀ s ∈ l, w.Ends devClass s → kind = s) :
    kind ∈ loopAsks cfg env devClass w l := by
  induction l generalizing w with
  | nil => exact absurd hmem (by simp)
  | cons k rest ih =>
    obtain ⟨hk, hrest⟩ := List.nodup_cons.mp hnodup
    by_cases hkind : kind = k
    · rw [hkind]
      exact mem_loopAsks_head w k rest
    · have hmem' : kind ∈ rest := (List.mem_cons.mp hmem).resolve_left hkind
      have hlater : kind ∈ loopAsks cfg env devClass (w.HandlerEvent cfg env k devClass).1 rest := by
        refine ih hrest hmem' (hquiet.imp_right fun h s hs hends => h s (by simp [hs]) ?_)
        have hne : s ≠ k := fun heq => hk (heq ▸ hs)
        exact (HandlerEvent_ends_others hne w).mp hends
      unfold loopAsks
      dsimp only
      rcases hquiet with husb | hquiet
      · rw [if_pos husb]
        exact List.mem_cons_of_mem _ hlater
      · split
        · exact List.mem_cons_of_mem _ hlater
        · rename_i husb
          -- This handler does not end the loop: it is not the one in question.
          have hgo : ¬ (w.HandlerEvent cfg env k devClass).2 = true := fun htrue =>
            hkind (hquiet k (by simp) ((HandlerEvent_ends hremove husb w k).mp htrue))
          rw [if_neg hgo]
          exact List.mem_cons_of_mem _ hlater

/-- What the loop leaves to a handler. -/
theorem deviceLoop_entries {l : List HandlerKind} (hnodup : l.Nodup) (w : World)
    (kind : HandlerKind) :
    (deviceLoop cfg env devClass w l).1.entries kind =
      if kind ∈ loopAsks cfg env devClass w l then w.remaining devClass kind else w.entries kind := by
  induction l generalizing w with
  | nil => simp [deviceLoop, loopAsks]
  | cons k rest ih =>
    obtain ⟨hk, hrest⟩ := List.nodup_cons.mp hnodup
    by_cases hkind : kind = k
    · subst hkind
      have hown : (w.HandlerEvent cfg env kind devClass).1.entries kind = w.remaining devClass kind :=
        (HandlerEvent_remove env hremove cfg w kind).list
      rw [if_pos (mem_loopAsks_head w kind rest)]
      unfold deviceLoop
      dsimp only
      split
      · rw [deviceLoop_others cfg env _ hk, hown]
      · split
        · exact hown
        · rw [deviceLoop_others cfg env _ hk, hown]
    · have hsame := HandlerEvent_others cfg env w hkind devClass
      have hremaining : (w.HandlerEvent cfg env k devClass).1.remaining devClass kind =
          w.remaining devClass kind := by
        unfold remaining
        rw [HandlerEvent_removes_others hkind w, hsame]
      have hlater := ih hrest (w.HandlerEvent cfg env k devClass).1
      rw [hremaining, hsame] at hlater
      unfold deviceLoop loopAsks
      dsimp only
      split
      · simpa [hkind] using hlater
      · split
        · simpa [hkind] using hsame
        · simpa [hkind] using hlater

theorem removedEntries_eq {order : List HandlerKind} (hnodup : order.Nodup)
    (w : World) (kind : HandlerKind) :
    removedEntries cfg env devClass order w kind =
      if kind ∈ asks cfg env devClass order w then
        w.goes devClass kind
      else [] := by
  have hkept : (w.entries kind).filter (· ∉ w.entries kind) = [] :=
    List.filter_eq_nil_iff.mpr fun e he => by simpa using he
  unfold removedEntries HandlePdmDevice asks
  split
  · simp
  · rw [deviceLoop_entries hremove hnodup]
    split
    · rfl
    · exact hkept

omit hremove

/-- Something is removed from the list of a handler that has something to remove. -/
theorem goes_ne_nil {w : World} {kind : HandlerKind}
    (hfound : (w.removes kind devClass).isSome) :
    w.goes devClass kind ≠ [] := by
  obtain ⟨d, hd⟩ := Option.isSome_iff_exists.mp hfound
  refine List.ne_nil_of_mem (a := d) (List.mem_filter.mpr ⟨removes_mem hd, ?_⟩)
  unfold remaining removePointer
  rw [hd]
  simp

theorem goes_eq_nil {w : World} {kind : HandlerKind}
    (hnone : ¬ (w.removes kind devClass).isSome) :
    w.goes devClass kind = [] := by
  have hremaining : w.remaining devClass kind = w.entries kind := by
    unfold remaining
    rw [Option.not_isSome_iff_eq_none.mp hnone]
  unfold goes
  rw [hremaining]
  exact List.filter_eq_nil_iff.mpr fun e he => by simpa using he

/-! ### Any order -/

/-- What a handler removes is a function of its list and the event. -/
theorem removes_congr {w w' : World} (hsame : ∀ kind, w.entries kind = w'.entries kind)
    (kind : HandlerKind) : w.removes kind devClass = w'.removes kind devClass := by
  have hstorage : w.storage.storageList = w'.storage.storageList :=
    List.map_injective_iff.mpr (fun _ _ => Entry.storage.inj) (hsame .storage)
  cases kind with
  | storage =>
    unfold removes StorageDeviceHandler.removedDevice
    rw [hstorage]
  | _ => simp only [removes, hsame]

theorem goes_congr {w w' : World} (hsame : ∀ kind, w.entries kind = w'.entries kind)
    (kind : HandlerKind) : w.goes devClass kind = w'.goes devClass kind := by
  unfold goes remaining
  rw [removes_congr hsame, hsame]

section Orders

variable {handlers order : List HandlerKind} (hnodup : handlers.Nodup) {w : World}

theorem asks_of_concerned (hremove : devClass.action = "remove")
    (hbl : ¬ toInt devClass.idBlackList ≠ 0) (hu : w.Undisturbed devClass handlers)
    (hnodup : handlers.Nodup) (hperm : order.Perm handlers) {kind : HandlerKind}
    (hmem : kind ∈ handlers) (hconcerned : w.Concerned devClass kind) :
    kind ∈ asks cfg env devClass order w := by
  unfold Undisturbed at hu
  unfold asks
  rw [if_neg hbl] at hu ⊢
  refine mem_loopAsks hremove (hperm.nodup_iff.mpr hnodup) (hperm.mem_iff.mpr hmem)
    (hu.imp_right fun h s hs hends => ?_)
  exact h s (hperm.mem_iff.mp hs) hends kind hmem hconcerned

/-- What an event removes from an undisturbed state, in whatever order it comes. -/
theorem removedEntries_of_undisturbed (hremove : devClass.action = "remove")
    (hu : w.Undisturbed devClass handlers) (hnodup : handlers.Nodup)
    (hperm : order.Perm handlers) (kind : HandlerKind) :
    removedEntries cfg env devClass order w kind =
      if toInt devClass.idBlackList ≠ 0 then []
      else if kind ∈ handlers then w.goes devClass kind else [] := by
  rw [removedEntries_eq hremove (hperm.nodup_iff.mpr hnodup)]
  by_cases hbl : toInt devClass.idBlackList ≠ 0
  · simp [asks, hbl]
  · rw [if_neg hbl]
    by_cases hmem : kind ∈ handlers
    · rw [if_pos hmem]
      by_cases hfound : (w.removes kind devClass).isSome
      · rw [if_pos (asks_of_concerned hremove hbl hu hnodup hperm hmem (Or.inl hfound))]
      · simp [goes_eq_nil hfound]
    · have hnot : kind ∉ asks cfg env devClass order w := by
        unfold asks
        rw [if_neg hbl]
        exact fun h => hmem (hperm.mem_iff.mp (loopAsks_subset w order h))
      rw [if_neg hmem, if_neg hnot]

/-- A handler that ends the loop before one that is concerned makes two orders differ. -/
theorem undisturbed_of_orders (hremove : devClass.action = "remove") (hnodup : handlers.Nodup)
    (hremoved : ∀ order order', order.Perm handlers → order'.Perm handlers →
      removedEntries cfg env devClass order w = removedEntries cfg env devClass order' w)
    (hreached : .storage ∈ handlers → ∀ order, order.Perm handlers →
      w.TracksDisk devClass → .storage ∈ asks cfg env devClass order w) :
    w.Undisturbed devClass handlers := by
  unfold Undisturbed
  by_cases hbl : toInt devClass.idBlackList ≠ 0
  · rw [if_pos hbl]
    intro hstorage htracks
    have hasks := hreached hstorage handlers (List.Perm.refl _) htracks
    simp [asks, hbl] at hasks
  · rw [if_neg hbl]
    by_contra hnot
    obtain ⟨husb, hall⟩ := not_or.mp hnot
    push Not at hall
    obtain ⟨s, hs, hends, r, hr, hconcerned, hne⟩ := hall
    -- With `s` first nobody else is asked; with `r` first `r` is.
    have hfirst : (s :: handlers.erase s).Perm handlers := (List.perm_cons_erase hs).symm
    have hsecond : (r :: handlers.erase r).Perm handlers := (List.perm_cons_erase hr).symm
    have hasks : asks cfg env devClass (s :: handlers.erase s) w = [s] := by
      unfold asks
      rw [if_neg hbl]
      exact loopAsks_of_ends hremove husb hends _
    have hnotasked : r ∉ asks cfg env devClass (s :: handlers.erase s) w := by
      rw [hasks]
      simpa using hne
    rcases hconcerned with hfound | ⟨rfl, htracks⟩
    · have hasked : r ∈ asks cfg env devClass (r :: handlers.erase r) w := by
        unfold asks
        rw [if_neg hbl]
        exact mem_loopAsks_head w r _
      have heq := congrFun (hremoved _ _ hfirst hsecond) r
      rw [removedEntries_eq hremove (hfirst.nodup_iff.mpr hnodup), if_neg hnotasked,
        removedEntries_eq hremove (hsecond.nodup_iff.mpr hnodup), if_pos hasked] at heq
      exact goes_ne_nil hfound heq.symm
    · exact hnotasked (hreached hr _ hfirst htracks)

end Orders

/-- **Two states with the same lists lose the same in every order, and the storage handler
is reached, exactly when both are undisturbed.** -/
theorem independent_iff_undisturbed (cfg : Config) {devClass : DeviceClass}
    (hremove : devClass.action = "remove") {handlers : List HandlerKind}
    (hnodup : handlers.Nodup) {w w' : World}
    (hsame : ∀ kind, w.entries kind = w'.entries kind) :
    Independent cfg devClass handlers w w' ↔
      w.Undisturbed devClass handlers ∧ w'.Undisturbed devClass handlers := by
  constructor
  · intro h
    have hperm : handlers.Perm handlers := List.Perm.refl _
    refine ⟨@undisturbed_of_orders cfg {} _ _ _ hremove hnodup ?_ ?_,
      @undisturbed_of_orders cfg {} _ _ _ hremove hnodup ?_ ?_⟩
    · intro order order' ho ho'
      exact (h.removed order handlers {} {} ho hperm).trans
        (h.removed order' handlers {} {} ho' hperm).symm
    · exact fun hmem order ho => (h.reached hmem order {} ho).1
    · intro order order' ho ho'
      exact (h.removed handlers order {} {} hperm ho).symm.trans
        (h.removed handlers order' {} {} hperm ho')
    · exact fun hmem order ho => (h.reached hmem order {} ho).2
  · rintro ⟨hu, hu'⟩
    refine ⟨fun order order' env env' ho ho' => ?_, fun hmem order env ho => ?_⟩
    · funext kind
      rw [removedEntries_of_undisturbed hremove hu hnodup ho,
        removedEntries_of_undisturbed hremove hu' hnodup ho', goes_congr hsame]
    · have hasked : ∀ v : World, v.Undisturbed devClass handlers → v.TracksDisk devClass →
          .storage ∈ asks cfg env devClass order v := by
        intro v hv htracks
        by_cases hbl : toInt devClass.idBlackList ≠ 0
        · unfold Undisturbed at hv
          rw [if_pos hbl] at hv
          exact absurd htracks (hv hmem)
        · exact asks_of_concerned hremove hbl hv hnodup ho hmem (Or.inr ⟨rfl, htracks⟩)
      exact ⟨hasked w hu, hasked w' hu'⟩

/-- **After two runs that reach the same lists, a remove event removes the same in every
order of the handlers, and a disk's removal reaches the storage handler, exactly when
neither state has a handler that ends the loop before another that is concerned.** -/
theorem removals_independent_iff (cfg : Config) {handlers : List HandlerKind}
    (hnodup : handlers.Nodup) (order order' : List HandlerKind)
    (inputs inputs' : List (Env × ManagerInput))
    (hsame : ∀ kind, (Runs.run (managerStep cfg order) {} inputs).entries kind =
      (Runs.run (managerStep cfg order') {} inputs').entries kind)
    {devClass : DeviceClass} (hremove : devClass.action = "remove") :
    Independent cfg devClass handlers (Runs.run (managerStep cfg order) {} inputs)
        (Runs.run (managerStep cfg order') {} inputs') ↔
      Undisturbed devClass handlers (Runs.run (managerStep cfg order) {} inputs) ∧
        Undisturbed devClass handlers (Runs.run (managerStep cfg order') {} inputs') :=
  independent_iff_undisturbed cfg hremove hnodup hsame

/-- A card reader with two slots is plugged. -/
def plugReader : List (Env × ManagerInput) :=
  [({}, .uevent (StorageSystem.stickEvent "/devices/usb1/1-1")),
    ({}, .uevent (StorageSystem.diskEvent "/devices/usb1/1-1/block/sda" "sda")),
    ({}, .uevent (StorageSystem.diskEvent "/devices/usb1/1-1/block/sdb" "sdb"))]

/-- An NFC device is plugged and unplugged. -/
def useNfc : List (Env × ManagerInput) :=
  [({}, .uevent
      { action := "add", devType := "usb_device", interfaceClass := ":0b0000:"
        devPath := "/devices/usb1/1-2" }),
    ({}, .uevent { action := "remove", devType := "usb_device", devPath := "/devices/usb1/1-2" })]

/-- The second slot goes. -/
def slotEvent : DeviceClass where
  action := "remove"
  devType := "disk"
  subsystemName := "block"
  devPath := "/devices/usb1/1-1/block/sdb"
  devName := "sdb"

theorem plugReader_same (kind : HandlerKind) :
    (Runs.run (managerStep .tmpUsb [.nfc, .storage]) {} (plugReader ++ useNfc)).entries kind =
      (Runs.run (managerStep .tmpUsb [.nfc, .storage]) {} plugReader).entries kind := by
  cases kind <;> decide

theorem removals_independent_iff_reader :
    Independent .tmpUsb slotEvent [.nfc, .storage]
        (Runs.run (managerStep .tmpUsb [.nfc, .storage]) {} (plugReader ++ useNfc))
        (Runs.run (managerStep .tmpUsb [.nfc, .storage]) {} plugReader) ↔
      Undisturbed slotEvent [.nfc, .storage]
          (Runs.run (managerStep .tmpUsb [.nfc, .storage]) {} (plugReader ++ useNfc)) ∧
        Undisturbed slotEvent [.nfc, .storage]
          (Runs.run (managerStep .tmpUsb [.nfc, .storage]) {} plugReader) :=
  removals_independent_iff .tmpUsb (by decide) _ _ _ _ plugReader_same rfl

/-- Once an NFC device has been removed, the slot's removal ends with the NFC handler. -/
theorem nfc_takes_slot :
    (∀ kind,
        (Runs.run (managerStep .tmpUsb [.nfc, .storage]) {} (plugReader ++ useNfc)).entries kind =
          (Runs.run (managerStep .tmpUsb [.nfc, .storage]) {} plugReader).entries kind) ∧
      ¬ Independent .tmpUsb slotEvent [.nfc, .storage]
        (Runs.run (managerStep .tmpUsb [.nfc, .storage]) {} (plugReader ++ useNfc))
        (Runs.run (managerStep .tmpUsb [.nfc, .storage]) {} plugReader) := by
  refine ⟨plugReader_same, fun h => ?_⟩
  have hreached := (h.reached (by decide) [.nfc, .storage] {} (List.Perm.refl _)).1
  revert hreached
  unfold TracksDisk
  decide

end World

end Pdm
