/-
What one step of the daemon can do.

A step goes to the storage handler, to a streaming handler or to one of the handlers
without a file system, and leaves what the other handlers have as it is.
`StepOutcome` says so for every input, in terms of what the handler's own module says of
it; the lists of the streaming handlers are looked at as lists of `Storage`.
-/
import Pdm.Proofs.QuietHandlers

namespace Pdm

/-- Addresses stay distinct in a streaming handler's list. -/
theorem StreamOutcome.addresses {env : Env} {s t : Sys} {l l' : List Storage}
    {joining : Option Joining} {leaving : Option Storage}
    (ho : StreamOutcome env s l joining leaving t l') (hnodup : (l.map (·.address)).Nodup)
    (hgiven : ∀ d ∈ l, d.address < s.next) :
    s.next ≤ t.next ∧ (l'.map (·.address)).Nodup ∧ ∀ d ∈ l', d.address < t.next := by
  cases ho with
  | ignored _ _ ht hl =>
    rw [ht, hl]
    exact ⟨Nat.le_refl _, hnodup, hgiven⟩
  | joined j e _ _ haddr hseat _ _ _ _ hnext hl =>
    have he : e.address = s.next := (Storage.seat_eq_iff.mp hseat).1.trans haddr
    rw [hnext, hl]
    refine ⟨by omega, ?_, fun d hd => ?_⟩
    · rw [List.map_append, List.map_singleton, he]
      refine List.nodup_append'.mpr ⟨hnodup, by simp, fun a ha ha' => ?_⟩
      obtain ⟨d, hd, rfl⟩ := List.mem_map.mp ha
      have hlt := hgiven d hd
      rw [List.mem_singleton] at ha'
      omega
    · rcases List.mem_append.mp hd with hd | hd
      · have hlt := hgiven d hd
        omega
      · rw [List.mem_singleton.mp hd, he]
        omega
  | failed j _ _ _ _ _ hnext hl =>
    rw [hnext, hl]
    exact ⟨by omega, hnodup, fun d hd => Nat.lt_succ_of_lt (hgiven d hd)⟩
  | left d _ _ _ _ _ hnext hl =>
    rw [hnext, hl]
    exact ⟨Nat.le_refl _, hnodup.sublist (List.filter_sublist.map _),
      fun e he => hgiven e (List.mem_filter.mp he).1⟩

/-- An input of the storage handler is one of the daemon. -/
def StorageInput.toInput : StorageInput → Input
  | .uevent devClass => .uevent .storage devClass
  | .command cmdtypes => .command .storage cmdtypes
  | .pluginEvent eventType => .pluginEvent .storage eventType
  | .fsckThread device partition => .fsckThread device partition
  | .timeout device => .timeout device

namespace World

variable (cfg : Config) (env : Env)

/-- The devices of a streaming handler. -/
def streams (w : World) : HandlerKind → List Storage
  | .mtp => w.mtp.mtpList.map (·.toStorage)
  | .ptp => w.ptp.sList.map (·.toStorage)
  | _ => []

/-- The device that an event makes a streaming handler mount. -/
def joining (w : World) (devClass : DeviceClass) : HandlerKind → Option Joining
  | .mtp => MTPDeviceHandler.joining cfg env devClass w.sys.next
  | .ptp => PTPDeviceHandler.joining cfg env devClass w.sys.next
  | _ => none

/-- What a step with an input leaves. -/
inductive StepOutcome (w : World) (input : Input) (t : World) : Prop
  /-- The storage handler takes it. -/
  | storage (i : StorageInput) (hi : input = i.toInput)
      (ht : t.toStorageSystem = w.toStorageSystem.deliver cfg env i)
      (hs : ∀ kind, t.streams kind = w.streams kind)
  /-- It is a uevent of a streaming handler. -/
  | streamEvent (kind : HandlerKind) (devClass : DeviceClass) (hi : input = .uevent kind devClass)
      (ho : StreamOutcome env w.sys (w.streams kind) (w.joining cfg env devClass kind)
        (leaving (w.streams kind) devClass) t.sys (t.streams kind))
      (hs : ∀ other, other ≠ kind → t.streams other = w.streams other)
      (hst : t.storage = w.storage)
  /-- It is a command or a plugin event of a streaming handler. -/
  | streamRest (kind : HandlerKind)
      (hk : StreamKept w.sys (w.streams kind) t.sys (t.streams kind))
      (hs : ∀ other, other ≠ kind → t.streams other = w.streams other)
      (hst : t.storage = w.storage)
  /-- A handler without a file system takes it. -/
  | chatter (hc : Chatter w.sys t.sys) (hs : ∀ kind, t.streams kind = w.streams kind)
      (hst : t.storage = w.storage)

/-- All addresses have been given, and those of a handler's devices are distinct. -/
structure Addressed (w : World) : Prop where
  storage : w.toStorageSystem.Valid
  nodup : ∀ kind, ((w.streams kind).map (·.address)).Nodup
  given : ∀ kind, ∀ d ∈ w.streams kind, d.address < w.sys.next

variable {cfg env} {w : World}

theorem Addressed.mtp_nodup (hw : w.Addressed) :
    (w.mtp.mtpList.map fun d => (base d).address).Nodup := by
  have h := hw.nodup .mtp
  unfold streams at h
  rwa [List.map_map] at h

theorem Addressed.ptp_nodup (hw : w.Addressed) :
    (w.ptp.sList.map fun d => (base d).address).Nodup := by
  have h := hw.nodup .ptp
  unfold streams at h
  rwa [List.map_map] at h

theorem streams_others {t : World} {kind : HandlerKind}
    (hmtp : kind ≠ .mtp → t.mtp = w.mtp) (hptp : kind ≠ .ptp → t.ptp = w.ptp)
    (other : HandlerKind) (hne : other ≠ kind) : t.streams other = w.streams other := by
  cases other with
  | mtp => exact congrArg (fun h : MTPDeviceHandler => h.mtpList.map (·.toStorage)) (hmtp hne.symm)
  | ptp => exact congrArg (fun h : PTPDeviceHandler => h.sList.map (·.toStorage)) (hptp hne.symm)
  | _ => rfl

theorem uevent_outcome (kind : HandlerKind) (devClass : DeviceClass) :
    StepOutcome cfg env w (.uevent kind devClass) (w.HandlerEvent cfg env kind devClass).1 := by
  have hquiet : ∀ t : World, Chatter w.sys t.sys → t.mtp = w.mtp → t.ptp = w.ptp →
      t.storage = w.storage → StepOutcome cfg env w (.uevent kind devClass) t := by
    intro t hc hmtp hptp hst
    refine .chatter hc (fun other => ?_) hst
    cases other with
    | mtp => exact congrArg (fun h : MTPDeviceHandler => h.mtpList.map (·.toStorage)) hmtp
    | ptp => exact congrArg (fun h : PTPDeviceHandler => h.sList.map (·.toStorage)) hptp
    | _ => rfl
  cases kind with
  | storage => exact .storage (.uevent devClass) rfl rfl fun other => by cases other <;> rfl
  | mtp =>
    exact .streamEvent .mtp devClass rfl (w.mtp.HandlerEvent_outcome cfg env w.sys devClass)
      (streams_others (fun h => absurd rfl h) fun _ => rfl) rfl
  | ptp =>
    exact .streamEvent .ptp devClass rfl (w.ptp.HandlerEvent_outcome cfg env w.sys devClass)
      (streams_others (fun _ => rfl) fun h => absurd rfl h) rfl
  | hid => exact hquiet _ (hid_chatter env devClass w.sys w.hid) rfl rfl rfl
  | nfc => exact hquiet _ (nfc_chatter env devClass w.sys w.nfc) rfl rfl rfl
  | sound => exact hquiet _ (sound_chatter env devClass w.sys w.sound) rfl rfl rfl
  | video => exact hquiet _ (video_chatter env devClass w.sys w.video) rfl rfl rfl
  | gamepad => exact hquiet _ (gamepad_chatter env devClass w.sys w.gamepad) rfl rfl rfl
  | bluetooth => exact hquiet _ (bluetooth_chatter env devClass w.sys w.bluetooth) rfl rfl rfl
  | cdc => exact hquiet _ (cdc_chatter env devClass w.sys w.cdc) rfl rfl rfl

/-- **What one input can do.** -/
theorem deliver_outcome (hw : w.Addressed) (input : Input) :
    StepOutcome cfg env w input (w.deliver cfg env input) := by
  cases input with
  | uevent kind devClass => exact uevent_outcome kind devClass
  | command kind cmdtypes =>
    cases kind with
    | storage => exact .storage (.command cmdtypes) rfl rfl fun other => by cases other <;> rfl
    | mtp =>
      exact .streamRest .mtp
        (MTPDeviceHandler.HandlerCommand_kept env w.sys (hw.nodup .mtp) cmdtypes)
        (streams_others (fun h => absurd rfl h) fun _ => rfl) rfl
    | ptp =>
      exact .streamRest .ptp
        (PTPDeviceHandler.HandlerCommand_kept env w.sys (hw.nodup .ptp) cmdtypes)
        (streams_others (fun _ => rfl) fun h => absurd rfl h) rfl
    | _ => exact .chatter (Chatter.refl w.sys) (fun _ => rfl) rfl
  | pluginEvent kind eventType =>
    cases kind with
    | storage => exact .storage (.pluginEvent eventType) rfl rfl fun other => by cases other <;> rfl
    | mtp =>
      exact .streamRest .mtp (w.mtp.HandlePluginEvent_kept env w.sys eventType)
        (streams_others (fun h => absurd rfl h) fun _ => rfl) rfl
    | ptp =>
      exact .streamRest .ptp (w.ptp.HandlePluginEvent_kept env w.sys eventType)
        (streams_others (fun _ => rfl) fun h => absurd rfl h) rfl
    | _ => exact .chatter (Chatter.refl w.sys) (fun other => by cases other <;> rfl) rfl
  | fsckThread device partition =>
    exact .storage (.fsckThread device partition) rfl rfl fun other => by cases other <;> rfl
  | timeout device => exact .storage (.timeout device) rfl rfl fun other => by cases other <;> rfl

/-! ### Addresses -/

/-- The streaming lists have changed in what their handlers do not look at. -/
theorem Addressed.of_streams {t : World} (hw : w.Addressed) (hvalid : t.toStorageSystem.Valid)
    (hnext : w.sys.next ≤ t.sys.next)
    (hs : ∀ kind, (t.streams kind).map (·.address) = (w.streams kind).map (·.address)) :
    t.Addressed := by
  refine ⟨hvalid, fun kind => by rw [hs]; exact hw.nodup kind, fun kind d hd => ?_⟩
  have hmem : d.address ∈ (w.streams kind).map (·.address) := by
    rw [← hs]
    exact List.mem_map_of_mem hd
  obtain ⟨e, he, hed⟩ := List.mem_map.mp hmem
  have hgiven := hw.given kind e he
  omega

/-- The storage handler's list is the same, and no address was taken back. -/
theorem Addressed.later {t : World} (hw : w.Addressed) (hst : t.storage = w.storage)
    (hnext : w.sys.next ≤ t.sys.next) : t.toStorageSystem.Valid := by
  unfold StorageSystem.Valid
  rw [hst]
  exact hw.storage.later hnext

/-- **Addresses stay distinct in every step.** -/
theorem deliver_addressed (hw : w.Addressed) (input : Input) :
    (w.deliver cfg env input).Addressed := by
  have ho : StepOutcome cfg env w input (w.deliver cfg env input) := deliver_outcome hw input
  generalize w.deliver cfg env input = t at ho
  cases ho with
  | storage i _ ht hs =>
    refine hw.of_streams ?_ ?_ fun kind => by rw [hs]
    · rw [ht]
      exact StorageSystem.deliver_valid hw.storage i
    · rw [ht]
      exact w.toStorageSystem.deliver_next cfg env i
  | streamEvent kind devClass _ ho hs hst =>
    obtain ⟨hnext, hnodup, hgiven⟩ := ho.addresses (hw.nodup kind) (hw.given kind)
    refine ⟨hw.later hst hnext, fun other => ?_, fun other => ?_⟩
    · by_cases hkind : other = kind
      · rw [hkind]
        exact hnodup
      · rw [hs other hkind]
        exact hw.nodup other
    · by_cases hkind : other = kind
      · rw [hkind]
        exact hgiven
      · rw [hs other hkind]
        exact fun d hd => Nat.lt_of_lt_of_le (hw.given other d hd) hnext
  | streamRest kind hk hs hst =>
    have hnext := Nat.le_of_eq hk.next.symm
    refine hw.of_streams (hw.later hst hnext) hnext fun other => ?_
    by_cases hkind : other = kind
    · rw [hkind]
      have hseats := congrArg (List.map Prod.fst) hk.seats
      rwa [List.map_map, List.map_map] at hseats
    · rw [hs other hkind]
  | chatter hc hs hst =>
    exact hw.of_streams (hw.later hst hc.next) hc.next fun kind => by rw [hs]

/-- Starting a step gives no address. -/
theorem Addressed.clear (hw : w.Addressed) : w.clear.Addressed :=
  ⟨⟨hw.storage.nodup, hw.storage.given, hw.storage.parts⟩, hw.nodup, hw.given⟩

theorem init_addressed : ({} : World).Addressed := by
  refine ⟨StorageSystem.init_valid, fun kind => ?_, fun kind d hd => ?_⟩
  · cases kind <;> simp [streams]
  · cases kind <;> simp [streams] at hd

end World

end Pdm
