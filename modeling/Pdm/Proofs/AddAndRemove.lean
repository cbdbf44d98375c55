/-
ADD and REMOVE for one device.

`Watch` runs the storage handler and keeps, for every device, whether an ADD of it is
outstanding.  ADD and REMOVE alternate exactly in the runs in which every announcement finds
the medium withdrawn, every withdrawal finds it announced, and a device goes while it is
announced or was never announced at all: the flag that the removal asks is set by an ADD
and never cleared.
-/
import Pdm.Proofs.DeviceSignals

namespace Pdm

open StorageDevice StorageDeviceHandler
open Runs (StepsAll)
open Alternation (Alternates level)

/-- The storage handler, and the devices of which an ADD is outstanding. -/
structure Watch where
  system : StorageSystem := {}
  announced : Nat → Bool := fun _ => false

namespace Watch

variable (cfg : Config)

/-- One step of the handler, watched. -/
def step (W : Watch) (i : Env × StorageInput) : Watch where
  system := W.system.step cfg i
  announced a := level (W.announced a) (W.system.signals cfg i a)

/-- The signals of the step about each device alternate with those before it. -/
def Proper (W : Watch) (i : Env × StorageInput) : Prop :=
  ∀ a, Alternates (W.announced a) (W.system.signals cfg i a)

/-- An ADD of the device is outstanding when the device goes. -/
def Outstanding (W : Watch) (i : Env × StorageInput) (d : StorageDevice) : Prop :=
  W.announced d.address = true ∨ true ∈ W.system.signals cfg i d.address

/-- A device that goes is sent a REMOVE if an ADD is outstanding, and is said to be removed
before it was mounted if not. -/
def LeavesRight (W : Watch) (i : Env × StorageInput) : Prop :=
  ∀ d ∈ W.system.leaving i.2,
    (W.Outstanding cfg i d → false ∈ W.system.signals cfg i d.address) ∧
    (¬ W.Outstanding cfg i d → false ∉ W.system.signals cfg i d.address ∧
      ∃ r ∈ (W.system.step cfg i).sys.calls,
        r.call = .notify .storageDevice .removeBeforeMount (some d.address))

/-- What an event is handed to is announced once, and withdrawn once announced. -/
def TimelyEvent (W : Watch) (env : Env) (devClass : DeviceClass) : Prop :=
  ∀ d ∈ (target cfg W.system.sys.next W.system.storage devClass).told,
    (d.announces env devClass = true → W.announced d.address = false) ∧
    (d.DropsParts env devClass → W.announced d.address = true)

/-- A device that goes is announced by its last check only if it is not announced, and then
or before if it ever was. -/
def TimelyRemoval (W : Watch) (env : Env) (d : StorageDevice) : Prop :=
  (d.announcesLate env = true → W.announced d.address = false) ∧
  (d.isDevAddEventNotified = true → W.announced d.address = true ∨ d.announcesLate env = true)

/-- **The condition on an input.** -/
def Timely (W : Watch) (i : Env × StorageInput) : Prop :=
  match i.2 with
  | .uevent devClass => W.TimelyEvent cfg i.1 devClass ∧
      ∀ d ∈ W.system.leaving i.2, W.TimelyRemoval i.1 d
  | .fsckThread device partition =>
    ∀ d ∈ W.system.storage.storageList.find? (·.address = device), partition ∈ d.fsckThreadArray →
      { d with fsckThreadArray := d.fsckThreadArray.erase partition }.endsRound i.1 partition = true →
        W.announced device = false
  | _ => True

end Watch

/-! ### Whole runs -/

namespace Watch

open StorageSystem

variable (cfg : Config)

/-- A device of which an ADD is outstanding remembers it, and none is outstanding of a device
yet to come. -/
structure Tracked (W : Watch) : Prop where
  valid : W.system.Valid
  remembered : ∀ d ∈ W.system.storage.storageList, W.announced d.address = true →
    d.isDevAddEventNotified = true
  fresh : ∀ a, W.system.sys.next ≤ a → W.announced a = false

theorem init_tracked : ({} : Watch).Tracked := ⟨init_valid, by simp, fun _ _ => rfl⟩

variable {cfg} {W : Watch}

theorem level_true {on : Bool} {bs : List Bool} (h : level on bs = true) :
    on = true ∨ true ∈ bs := by
  induction bs generalizing on with
  | nil => exact Or.inl h
  | cons b bs ih =>
      rcases ih h with hb | hbs
      · exact Or.inr (List.mem_cons.mpr (Or.inl hb.symm))
      · exact Or.inr (List.mem_cons_of_mem b hbs)

theorem Tracked.about (h : W.Tracked) {i : Env × StorageInput} {d : StorageDevice} {bs : List Bool}
    (hd : W.announced d.address = true → d.isDevAddEventNotified = true)
    (habout : W.system.About cfg i d bs) : (W.step cfg i).Tracked := by
  have hother : ∀ a, a ≠ d.address → (W.step cfg i).announced a = W.announced a := by
    intro a ha
    show level _ _ = _
    rw [habout.said, if_neg ha]
    rfl
  refine ⟨step_valid h.valid i, fun e he hannounced => ?_, fun a ha => ?_⟩
  · rcases habout.listed e he with ⟨haddress, hremembers⟩ | ⟨hmem, hne⟩
    · rw [haddress] at hannounced
      have hlevel : level (W.announced d.address) bs = true := by
        have := hannounced
        unfold Watch.step at this
        dsimp only at this
        rw [habout.said, if_pos rfl] at this
        exact this
      exact hremembers ((level_true hlevel).imp_left hd)
    · rw [hother e.address hne] at hannounced
      exact h.remembered e hmem hannounced
  · have hne : a ≠ d.address := fun hda => by
      have := habout.given
      have hle : (W.system.step cfg i).sys.next ≤ a := ha
      omega
    rw [hother a hne]
    exact h.fresh a (Nat.le_trans (deliver_next cfg i.1 W.system.clear i.2) ha)

theorem Tracked.silent (h : W.Tracked) {i : Env × StorageInput} (hsilent : W.system.Silent cfg i) :
    (W.step cfg i).Tracked := by
  have hsame : ∀ a, (W.step cfg i).announced a = W.announced a := by
    intro a
    show level _ _ = _
    rw [hsilent.said]
    rfl
  refine ⟨step_valid h.valid i, fun e he hannounced => ?_, fun a ha => ?_⟩
  · obtain ⟨d, hd, haddress, hkept⟩ := hsilent.listed e he
    rw [hsame, haddress] at hannounced
    exact hkept (h.remembered d hd hannounced)
  · rw [hsame]
    exact h.fresh a (Nat.le_trans (deliver_next cfg i.1 W.system.clear i.2) ha)

/-- Only the device a step is about can fall out of step. -/
theorem proper_of_about {i : Env × StorageInput} {d : StorageDevice} {bs : List Bool}
    (habout : W.system.About cfg i d bs) :
    W.Proper cfg i ↔ Alternates (W.announced d.address) bs := by
  unfold Proper
  refine ⟨fun h => ?_, fun h a => ?_⟩
  · have hd := h d.address
    rw [habout.said, if_pos rfl] at hd
    exact hd
  · rw [habout.said]
    by_cases ha : a = d.address
    · rw [if_pos ha, ha]
      exact h
    · rw [if_neg ha]
      trivial

theorem proper_of_silent {i : Env × StorageInput} (hsilent : W.system.Silent cfg i) :
    W.Proper cfg i := fun a => by
  rw [hsilent.said]
  trivial

/-- An event that a device is told of makes none leave. -/
theorem leaving_of_told {w : StorageSystem} {devClass : DeviceClass} {d : StorageDevice}
    (hd : d ∈ (target cfg w.sys.next w.storage devClass).told) :
    w.leaving (.uevent devClass) = none := by
  unfold leaving
  dsimp only
  refine if_neg fun hremove => ?_
  have hnot : takes devClass = false := by simp [takes, hremove]
  rw [show target cfg w.sys.next w.storage devClass = .nobody by simp [target, hnot]] at hd
  exact absurd hd (by simp [Target.told])

/-- A device that is told of an event is listed, or new. -/
theorem Tracked.told (h : W.Tracked) {devClass : DeviceClass} {d : StorageDevice}
    (hd : d ∈ (target cfg W.system.sys.next W.system.storage devClass).told) :
    W.announced d.address = true → d.isDevAddEventNotified = true := by
  cases W.system.storage.HandlerEvent_outcome cfg {} W.system.sys devClass with
  | ignored htarget _ _ =>
    rw [htarget] at hd
    exact absurd hd (by simp [Target.told])
  | handed e htarget hmem _ _ =>
    rw [htarget] at hd
    obtain rfl : e = d := Option.some.inj hd
    exact h.remembered e hmem
  | created reader htarget _ _ =>
    rw [htarget] at hd
    obtain rfl := Option.some.inj hd
    intro hannounced
    rw [newDevice_address, h.fresh _ (Nat.le_refl _)] at hannounced
    exact absurd hannounced (by simp)
  | dropped e hremove _ _ _ =>
    have hnot : takes devClass = false := by simp [takes, hremove]
    rw [show target cfg W.system.sys.next W.system.storage devClass = .nobody by
      simp [target, hnot]] at hd
    exact absurd hd (by simp [Target.told])

/-- A removal goes right exactly when it is timely. -/
theorem removal_iff (h : W.Tracked) {env : Env} {devClass : DeviceClass} {d : StorageDevice}
    (hd : d ∈ W.system.leaving (.uevent devClass)) :
    W.Proper cfg (env, .uevent devClass) ∧ W.LeavesRight cfg (env, .uevent devClass) ↔
      W.TimelyRemoval env d := by
  obtain ⟨habout, hbefore⟩ := about_removal cfg env W.system h.valid hd
  have hsaid : W.system.signals cfg (env, .uevent devClass) d.address = d.removalSignals env := by
    rw [habout.said, if_pos rfl]
  rw [proper_of_about habout, alternates_removalSignals]
  refine and_iff_left_of_imp fun hproper e he => ?_
  obtain rfl : d = e := Option.some.inj ((Option.mem_def.mp hd).symm.trans he)
  obtain ⟨htrue, hfalse⟩ := mem_removalSignals env d
  have hremembered : W.announced d.address = true → d.isDevAddEventNotified = true :=
    h.remembered d (by
      have hmem := Option.mem_def.mp hd
      unfold leaving at hmem
      dsimp only at hmem
      split at hmem
      · exact removedDevice_mem hmem
      · exact absurd hmem (by simp))
  unfold Outstanding
  rw [hsaid, htrue, hfalse]
  refine ⟨fun hout => hout.imp_left hremembered, fun hnot => ?_⟩
  have hquiet : ¬ d.isDevAddEventNotified = true := fun hnotified => hnot (hproper.2 hnotified)
  have hlate : ¬ d.announcesLate env = true := fun hlate => hnot (Or.inr hlate)
  exact ⟨fun hor => hor.elim hquiet hlate,
    hbefore (Bool.eq_false_iff.mpr hquiet) (Bool.eq_false_iff.mpr hlate)⟩

/-- **One step.** -/
theorem step_tracked (h : W.Tracked) (i : Env × StorageInput) :
    (W.step cfg i).Tracked ∧ (W.Proper cfg i ∧ W.LeavesRight cfg i ↔ W.Timely cfg i) := by
  obtain ⟨env, input⟩ := i
  -- A step without a signal, in which nothing leaves.
  have hsilent : ∀ input, W.system.Silent cfg (env, input) → W.system.leaving input = none →
      W.Timely cfg (env, input) → (W.step cfg (env, input)).Tracked ∧
        (W.Proper cfg (env, input) ∧ W.LeavesRight cfg (env, input) ↔ W.Timely cfg (env, input)) :=
    fun input hs hstays htimely => ⟨h.silent hs, iff_of_true
      ⟨proper_of_silent hs, fun d hd => absurd (hstays.symm.trans hd) (by simp)⟩ htimely⟩
  cases input with
  | uevent devClass =>
    cases htold : (target cfg W.system.sys.next W.system.storage devClass).told with
    | some d =>
      have hstays := leaving_of_told htold
      have habout := about_event cfg env W.system h.valid htold
      refine ⟨h.about (h.told htold) habout, ?_⟩
      rw [proper_of_about habout, alternates_eventSignals]
      refine ⟨fun hright => ⟨fun e he => ?_, fun e he => ?_⟩, fun htimely => ⟨?_, fun e he => ?_⟩⟩
      · obtain rfl : d = e := Option.some.inj (htold.symm.trans he)
        exact hright.1
      · exact absurd (hstays.symm.trans he) (by simp)
      · exact htimely.1 d htold
      · exact absurd (hstays.symm.trans he) (by simp)
    | none =>
      have hnobody : W.TimelyEvent cfg env devClass := fun e he =>
        absurd (htold.symm.trans he) (by simp)
      cases hleaving : W.system.leaving (.uevent devClass) with
      | none =>
        exact hsilent _ (silent_event cfg env W.system htold hleaving) hleaving
          ⟨hnobody, fun e he => absurd (hleaving.symm.trans he) (by simp)⟩
      | some d =>
        have habout := (about_removal cfg env W.system h.valid hleaving).1
        have hmem : d ∈ W.system.storage.storageList := by
          have hfound := hleaving
          unfold leaving at hfound
          dsimp only at hfound
          split at hfound
          · exact removedDevice_mem hfound
          · exact absurd hfound (by simp)
        refine ⟨h.about (h.remembered d hmem) habout, (removal_iff h hleaving).trans ?_⟩
        refine ⟨fun hremoval => ⟨hnobody, fun e he => ?_⟩, fun htimely => htimely.2 d hleaving⟩
        obtain rfl : d = e := Option.some.inj (hleaving.symm.trans he)
        exact hremoval
  | fsckThread device partition =>
    cases hd : W.system.storage.storageList.find? (·.address = device) with
    | none =>
      exact hsilent _ (silent_thread cfg env W.system hd) rfl
        fun e he => absurd (hd.symm.trans he) (by simp)
    | some d =>
      have habout : W.system.About cfg (env, .fsckThread device partition) d _ :=
        about_thread cfg env W.system h.valid hd
      have haddress : d.address = device := by simpa using List.find?_some hd
      refine ⟨h.about (h.remembered d (List.mem_of_find?_eq_some hd)) habout, ?_⟩
      rw [proper_of_about habout, alternates_threadSignals, haddress]
      refine ⟨fun hright e he => ?_, fun htimely => ⟨htimely d hd, fun e he => ?_⟩⟩
      · obtain rfl : d = e := Option.some.inj (hd.symm.trans he)
        exact hright.1
      · exact absurd he (by simp [leaving])
  | command cmdtypes => exact hsilent _ (silent_command cfg env W.system cmdtypes) rfl trivial
  | pluginEvent eventType =>
    exact hsilent _ (silent_pluginEvent cfg env W.system eventType) rfl trivial
  | timeout device => exact hsilent _ (silent_timeout cfg env W.system device) rfl trivial

/-- The signals of a run alternate when those of each step do, with those before it. -/
theorem alternates_history (is : List (Env × StorageInput)) :
    ∀ W : Watch, (∀ a, Alternates (W.announced a) (history cfg a W.system is)) ↔
      StepsAll (Watch.step cfg) (Watch.Proper cfg) W is := by
  induction is with
  | nil => intro W; exact iff_of_true (fun a => trivial) trivial
  | cons i is ih =>
      intro W
      refine Iff.trans ?_ (and_congr_right fun _ => ih (W.step cfg i))
      unfold Proper
      rw [← forall_and]
      exact forall_congr' fun a => Alternation.alternates_append _ _ _

/-- **ADD and REMOVE alternate, and a device leaves as it should, exactly in the runs whose
steps are timely.** -/
theorem notices_iff (cfg : Config) (is : List (Env × StorageInput)) :
    ((∀ a, Alternates false (history cfg a {} is)) ∧
        StepsAll (Watch.step cfg) (Watch.LeavesRight cfg) {} is) ↔
      StepsAll (Watch.step cfg) (Watch.Timely cfg) {} is := by
  rw [show (∀ a, Alternates false (history cfg a {} is)) ↔
      StepsAll (Watch.step cfg) (Watch.Proper cfg) {} is from alternates_history is {},
    ← Runs.stepsAll_and]
  exact Runs.stepsAll_congr (I := Tracked) (fun W i hW _ => (step_tracked hW i).1)
    (fun W i hW => (step_tracked hW i).2) init_tracked

/-- A card reader is plugged with a card in it, the card is taken out, and then the reader
is unplugged. -/
def cardThenReader : List (Env × StorageInput) :=
  let reader := { diskEvent "/devices/usb1/1-1/block/sda" "sda" with isCardReader := YES }
  [({}, .uevent (stickEvent "/devices/usb1/1-1")),
    (onePartition, .uevent reader),
    ({}, .uevent (partitionEvent "/devices/usb1/1-1/block/sda/sda1" "sda1")),
    ({}, .fsckThread 0 1),
    ({}, .uevent { reader with action := "change" }),
    ({}, .uevent { stickEvent "/devices/usb1/1-1" with action := "remove" })]

/-- The reader's flag is still set from the card's ADD, so REMOVE is sent twice. -/
theorem removed_twice : ¬ ∀ a, Alternates false (history .tmpUsb a {} cardThenReader) := by
  intro h
  exact absurd (h 0) (by decide)

/-- A stick that is plugged and unplugged is announced once and withdrawn once. -/
example : history .tmpUsb 0 {} (plugStick ++
    [(({} : Env), .uevent { stickEvent "/devices/usb1/1-1" with action := "remove" })]) =
      [true, false] := by decide

end Watch

end Pdm
