/-
When a removal takes out what is gone and nothing else.

Stored paths and names are compared with the event's as strings, so an entry may match
whose node the event's path does not lead to: a sibling port, or the parent of a node
that went away.  The foremost match is what goes.  **A removal is precise exactly when
every match that must stay stands behind another match.**
-/
import Pdm.Lib.Foremost
import Pdm.Lib.PathOrder
import Pdm.Lib.Runs
import Pdm.Proofs.Removal

namespace Pdm

open PathOrder

namespace World

/-- Only entries at or below the path go, and only such a device is announced as
removed; every other entry is still there, unchanged. -/
structure RemovesPrecisely (w w' : World) (kind : HandlerKind) (path : String) : Prop where
  stays : ∀ e ∈ w.entries kind, ¬ AtOrBelow path (base e).node → e ∈ w'.entries kind
  announced : ∀ r ∈ w'.sys.calls, ∀ deviceType a, r.call = .notify deviceType .remove (some a) →
    ∀ e ∈ w.entries kind, (base e).address = a → AtOrBelow path (base e).node

/-- A step that delivers a remove event removes precisely. -/
def PreciseStep (cfg : Config) (w : World) (i : Env × Input) : Prop :=
  ∀ kind devClass, i.2 = .uevent kind devClass → devClass.action = "remove" →
    RemovesPrecisely w (w.step cfg i) kind devClass.devPath

/-- What an entry has stored matches a remove event: its path is the front of the event's,
or, for a disk event of the storage handler, its name.  The sound and video handlers take
no event of another subsystem, the storage handler none of a partition. -/
def Matches (kind : HandlerKind) (devClass : DeviceClass) (e : Entry) : Prop :=
  match kind with
  | .storage =>
    (devClass.devType = USB_DEVICE ∧ startsWith devClass.devPath (base e).devicePath = true) ∨
      (devClass.devType = DISK ∧ startsWith devClass.devName (base e).deviceName = true)
  | .sound =>
    (devClass.devType = USB_DEVICE ∨ devClass.subsystemName = "sound") ∧
      startsWith devClass.devPath (base e).devicePath = true
  | .video =>
    (devClass.devType = USB_DEVICE ∨ devClass.subsystemName = "video4linux") ∧
      startsWith devClass.devPath (base e).devicePath = true
  | _ => startsWith devClass.devPath (base e).devicePath = true

/-- A disk event takes nothing but a further card slot. -/
def MayTake (kind : HandlerKind) (devClass : DeviceClass) (e : Entry) : Prop :=
  kind = .storage → devClass.devType = DISK → e.isExtraSdCard = true

/-- The device of the entry, under one of its entries, is not at or below the path. -/
def MustStay (w : World) (kind : HandlerKind) (path : String) (e : Entry) : Prop :=
  ∃ e' ∈ w.entries kind, (base e').address = (base e).address ∧ ¬ AtOrBelow path (base e').node

/-- A remove event matches no entry that it may take and that must stay, or another entry
that it matches stands ahead of that one. -/
def Sheltered (w : World) (i : Env × Input) : Prop :=
  ∀ kind devClass, i.2 = .uevent kind devClass → devClass.action = "remove" →
    ∀ ahead e behind, w.entries kind = ahead ++ e :: behind →
      Matches kind devClass e → MayTake kind devClass e → w.MustStay kind devClass.devPath e →
        ∃ b ∈ ahead, Matches kind devClass b

/-- A search by path finds the foremost entry whose stored path matches. -/
theorem getDeviceWithPath_iff {α : Type} [IDevice α] {l : List α} {devPath : String} {d : α} :
    getDeviceWithPath l devPath = some d ↔
      Foremost (fun d => startsWith devPath (base d).devicePath = true) l d :=
  Foremost.iff_find?.symm

/-- A search by name finds the foremost entry whose stored name matches. -/
theorem getDeviceWithName_iff {α : Type} [IDevice α] {l : List α} {devName : String} {d : α} :
    getDeviceWithName l devName = some d ↔
      Foremost (fun d => startsWith devName (base d).deviceName = true) l d :=
  Foremost.iff_find?.symm

/-- A search that is made on a condition only. -/
theorem search_iff {P : Prop} [Decidable P] {l : List Entry} {devPath : String} {e : Entry} :
    (if P then getDeviceWithPath l devPath else none) = some e ↔
      Foremost (fun e => P ∧ startsWith devPath (base e).devicePath = true) l e := by
  by_cases hP : P
  · rw [if_pos hP, getDeviceWithPath_iff]
    exact Foremost.congr fun b _ => (and_iff_right hP).symm
  · rw [if_neg hP]
    refine ⟨fun h => absurd h (by simp), fun h => absurd h.holds.1 hP⟩

/-- What a removal takes out of the storage list. -/
theorem storage_removes_iff (w : World) (devClass : DeviceClass) (e : Entry) :
    w.removes .storage devClass = some e ↔
      Foremost (Matches .storage devClass) (w.entries .storage) e ∧
        MayTake .storage devClass e := by
  have hbase : ∀ d : StorageDevice, base (Entry.storage d) = base d := fun _ => rfl
  have husbDisk : USB_DEVICE ≠ DISK := by decide
  show (w.storage.removedDevice devClass).map Entry.storage = some e ↔ _
  unfold StorageDeviceHandler.removedDevice
  by_cases husb : devClass.devType = USB_DEVICE
  · have hdisk : devClass.devType ≠ DISK := by rw [husb]; exact husbDisk
    have hmay : MayTake .storage devClass e := fun _ h => absurd h hdisk
    rw [if_pos husb, ← getDeviceWithPath_map hbase, getDeviceWithPath_iff, and_iff_left hmay]
    refine Foremost.congr fun b _ => ?_
    show _ ↔ (devClass.devType = USB_DEVICE ∧ _) ∨ (devClass.devType = DISK ∧ _)
    simp [husb, husbDisk]
  · rw [if_neg husb]
    by_cases hdisk : devClass.devType = DISK
    · -- The foremost match by name goes, when it is a further slot.
      have hmatches : ∀ {d : Entry},
          Foremost (Matches .storage devClass) (w.entries .storage) d ↔
            (getDeviceWithName w.storage.storageList devClass.devName).map .storage = some d := by
        intro d
        rw [← getDeviceWithName_map hbase, getDeviceWithName_iff]
        refine Foremost.congr fun b _ => ?_
        show (devClass.devType = USB_DEVICE ∧ _) ∨ (devClass.devType = DISK ∧ _) ↔ _
        simp [hdisk, husbDisk.symm]
      rw [if_pos hdisk, hmatches]
      cases getDeviceWithName w.storage.storageList devClass.devName with
      | none => simp
      | some d =>
        dsimp only [Option.map_some]
        constructor
        · intro h
          split at h
          · next hextra =>
            rw [Option.map_some, Option.some.injEq] at h
            subst h
            exact ⟨rfl, fun _ _ => hextra⟩
          · exact absurd h (by simp)
        · intro h
          obtain ⟨hd, hmay⟩ := h
          rw [Option.some.injEq] at hd
          subst hd
          have hextra : d.isExtraSdCard = true := hmay rfl hdisk
          rw [if_pos hextra, Option.map_some]
    · rw [if_neg hdisk]
      refine ⟨fun h => absurd h (by simp), fun h => ?_⟩
      rcases h.1.holds with h | h
      · exact absurd h.1 husb
      · exact absurd h.1 hdisk

/-- What a removal takes is the foremost match, when it may. -/
theorem removes_iff (w : World) (kind : HandlerKind) (devClass : DeviceClass) (e : Entry) :
    w.removes kind devClass = some e ↔
      Foremost (Matches kind devClass) (w.entries kind) e ∧ MayTake kind devClass e := by
  have hother : kind ≠ .storage → (Foremost (Matches kind devClass) (w.entries kind) e ∧
      MayTake kind devClass e ↔ Foremost (Matches kind devClass) (w.entries kind) e) :=
    fun hkind => and_iff_left fun h => absurd h hkind
  cases kind with
  | storage => exact storage_removes_iff w devClass e
  | sound => exact search_iff.trans (hother (by simp)).symm
  | video => exact search_iff.trans (hother (by simp)).symm
  | mtp => exact getDeviceWithPath_iff.trans (hother (by simp)).symm
  | ptp => exact getDeviceWithPath_iff.trans (hother (by simp)).symm
  | hid => exact getDeviceWithPath_iff.trans (hother (by simp)).symm
  | nfc => exact getDeviceWithPath_iff.trans (hother (by simp)).symm
  | gamepad => exact getDeviceWithPath_iff.trans (hother (by simp)).symm
  | bluetooth => exact getDeviceWithPath_iff.trans (hother (by simp)).symm
  | cdc => exact getDeviceWithPath_iff.trans (hother (by simp)).symm

theorem step_remove (cfg : Config) (w : World) (env : Env) (kind : HandlerKind)
    {devClass : DeviceClass} (hremove : devClass.action = "remove") :
    Removed (w.removes kind devClass) w.clear.sys (w.step cfg (env, .uevent kind devClass)).sys
      (w.entries kind) ((w.step cfg (env, .uevent kind devClass)).entries kind) := by
  have h := HandlerEvent_remove env hremove cfg w.clear kind
  rwa [clear_entries, clear_removes] at h

theorem preciseStep_iff (cfg : Config) (w : World) (i : Env × Input) :
    w.PreciseStep cfg i ↔ w.Sheltered i := by
  obtain ⟨env, input⟩ := i
  refine forall_congr' fun kind => forall_congr' fun devClass => forall_congr' fun hi =>
    forall_congr' fun hremove => ?_
  dsimp only at hi
  subst hi
  have hr := step_remove cfg w env kind hremove
  constructor
  · intro hprecise ahead e behind hl hmatch hmay hstay
    by_contra hnone
    have hfound : w.removes kind devClass = some e := by
      refine (removes_iff w kind devClass e).mpr ⟨⟨ahead, behind, hl, hmatch, ?_⟩, hmay⟩
      intro b hb hbm
      exact hnone ⟨b, hb, hbm⟩
    obtain ⟨e', he', haddr, hnot⟩ := hstay
    have hmem := hprecise.stays e' he' hnot
    rw [hr.list, hfound] at hmem
    unfold removePointer at hmem
    exact absurd haddr (by simpa using (List.mem_filter.mp hmem).2)
  · intro hsheltered
    have hgone : ∀ d, w.removes kind devClass = some d → ∀ e ∈ w.entries kind,
        (base e).address = (base d).address → AtOrBelow devClass.devPath (base e).node := by
      intro d hd e he haddr
      obtain ⟨⟨ahead, behind, hl, hmatch, hahead⟩, hmay⟩ := (removes_iff w kind devClass d).mp hd
      by_contra hnot
      obtain ⟨b, hb, hbm⟩ := hsheltered ahead d behind hl hmatch hmay ⟨e, he, haddr, hnot⟩
      exact hahead b hb hbm
    refine ⟨fun e he hnot => ?_, fun r hrec deviceType a hcall e he haddr => ?_⟩
    · rw [hr.list]
      cases hd : w.removes kind devClass with
      | none => exact he
      | some d =>
        refine List.mem_filter.mpr ⟨he, decide_eq_true fun haddr => hnot ?_⟩
        exact hgone d hd e he haddr
    · have hann := hr.announced.forall_of_nil rfl r hrec (by rw [hcall]; rfl)
      obtain ⟨d, hd, hda⟩ := hann deviceType a hcall
      exact hgone d hd e he (haddr.trans hda.symm)

/-- **Removals are precise along a run exactly when every match that must stay stands
behind another one.** -/
theorem removals_precise_iff (cfg : Config) (w : World) (inputs : List (Env × Input)) :
    Runs.StepsAll (World.step cfg) (PreciseStep cfg) w inputs ↔
      Runs.StepsAll (World.step cfg) Sheltered w inputs :=
  Runs.stepsAll_congr (I := fun _ => True) (fun _ _ _ _ => trivial)
    (fun w i _ => preciseStep_iff cfg w i) trivial

/-- The port `1-1` is plugged, then the port `1-10` unplugged. -/
def siblingPorts : List (Env × Input) :=
  [({}, .uevent .hid
      { action := "add", devType := "usb_device", interfaceClass := ":030101:"
        devPath := "/devices/usb1/1-1" }),
    ({}, .uevent .hid
      { action := "remove", devType := "usb_device", devPath := "/devices/usb1/1-10" })]

/-- The device on port `1-1` goes too. -/
theorem sibling_port_removed :
    ¬ Runs.StepsAll (World.step .tmpUsb) (PreciseStep .tmpUsb) {} siblingPorts := by
  intro h
  have hstays := (h.2.1 .hid _ rfl rfl).stays
  revert hstays
  decide

end World

end Pdm
