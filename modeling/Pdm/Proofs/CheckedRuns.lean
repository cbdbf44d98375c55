/-
What is checked and formatted while the threads run.

`Permitted` says of an input when it is harmless.  A command may unmount only what the
kernel lets go, may check or format no partition whose check is outstanding, and
mountandFullFsck is not asked for a partition that is flagged and whose last check has
timed out.  A uevent may start, mount or drop no partition whose check is outstanding, and
starts no check of one that is flagged.

**In every run of such inputs, however the threads run beside them, no partition is
checked or formatted while it is mounted.**  `InOrder` carries this: the partitions are
tied and the outstanding checks of every device are in order.
-/
import Pdm.Proofs.MountFlags
import Pdm.Proofs.SplitChecks

namespace Pdm

open Visit (visit)
open StorageDevice

/-! ### The listed devices -/

namespace StorageDeviceHandler

section Lists

variable {h : StorageDeviceHandler} {checking : List (Nat × Nat)} (env : Env) {s : Sys}
  (hall : ∀ d ∈ h.storageList, d.Orderly checking)
include hall

/-- One device was acted on and has its checks in order. -/
theorem setDevice_orderly {e : StorageDevice} (he : e.Orderly checking) :
    ∀ x ∈ (h.setDevice e).storageList, x.Orderly checking := by
  intro x hx
  rcases WellFormed.mem_writeBack hx with rfl | ⟨hx, -⟩
  · exact he
  · exact hall x hx

theorem onDevice_orderly {found : Option StorageDevice} {notFound : PdmDevStatus}
    {method : Sys → StorageDevice → Out StorageDevice PdmDevStatus}
    (hfound : ∀ d, found = some d → d ∈ h.storageList)
    (hmethod : ∀ d, found = some d → Quiet checking d (method s d).obj) :
    ∀ x ∈ (onDevice s h found method notFound).obj.storageList, x.Orderly checking := by
  unfold onDevice
  cases found with
  | none => exact hall
  | some d => exact setDevice_orderly hall ((hall d (hfound d rfl)).quiet (hmethod d rfl))

/-- **A command that does not stop between its unmount and a tool keeps the outstanding
checks in order**; only a forced check could disturb them. -/
theorem HandlerCommand_orderly {cmdtypes : CommandType} (htool : h.toolOf cmdtypes = none)
    (hforced : ∀ needFsck mountName, cmdtypes = .mountFsck needFsck mountName →
      ∀ d ∈ getDeviceWithName h.storageList mountName, ∀ p ∈ d.diskPartitionList,
        Enforced needFsck p → ¬ d.Outstanding checking p.address) :
    ∀ x ∈ (h.HandlerCommand env s cmdtypes).obj.storageList, x.Orderly checking := by
  have hwritable : ∀ {driveName : String}, h.writableDrive driveName = none →
      ∀ d, getDeviceWithName h.storageList driveName = some d →
        ∀ p, d.findPartition driveName = some p → d.isReadOnly = true := by
    intro driveName hnone d hd p hp
    unfold writableDrive at hnone
    rw [hd] at hnone
    simpa [hp] using hnone
  cases cmdtypes with
  | format driveName fsType volumeLabel =>
    have hnone : h.writableDrive driveName = none := by simpa [toolOf] using htool
    refine onDevice_orderly hall (mem_of_name h) fun d hd => ?_
    unfold formatDiskStart
    cases hp : d.findPartition driveName with
    | none => exact Quiet.refl d
    | some p =>
      dsimp only
      unfold formatOn
      rw [hwritable hnone d hd p hp]
      exact Quiet.refl d
  | fsck driveName =>
    have hnone : h.writableDrive (removeBlanks driveName) = none := by simpa [toolOf] using htool
    refine onDevice_orderly hall (mem_of_name h) fun d hd => ?_
    unfold StorageDevice.fsck
    cases hp : d.findPartition (removeBlanks driveName) with
    | none => exact Quiet.refl d
    | some p =>
      dsimp only
      unfold fsckOn
      rw [hwritable hnone d hd p hp]
      exact Quiet.refl d
  | eject deviceNumber =>
    exact onDevice_orderly hall (fun d hd => List.mem_of_find?_eq_some hd)
      fun d _ => eject_quiet env s d
  | setVolumeLabel driveName volumeLabel =>
    exact onDevice_orderly hall (mem_of_name h)
      fun d _ => setPartitionVolumeLabel_quiet env s d driveName volumeLabel
  | mountFsck needFsck mountName =>
    exact onDevice_orderly hall (mem_of_name h)
      fun d hd => enforceFsckAndMount_quiet env s (hforced needFsck mountName rfl d hd)
  | isWritableDrive driveName =>
    unfold HandlerCommand isWritableDrive
    dsimp only
    cases getDeviceWithName h.storageList driveName with
    | none => exact hall
    | some d => exact hall
  | spaceInfo directCheck driveName =>
    unfold HandlerCommand getSpaceInfo
    dsimp only
    cases hd : getDeviceWithName h.storageList driveName with
    | none => exact hall
    | some d =>
      have hw := setDevice_orderly hall ((hall d (mem_of_name h d hd)).quiet
        (getSpaceInfo_quiet env d driveName directCheck))
      dsimp only
      split
      · exact hw
      · exact hw
  | umountAllDrive =>
    unfold HandlerCommand umountAllDrive
    dsimp only
    split
    · exact hall
    · intro x hx
      obtain ⟨d, hd, hq⟩ := Visit.visit_mem (R := fun d e => Quiet checking d e)
        (fun s d => umountAllPartition_quiet env s d false) h.storageList s x hx
      exact (hall d hd).quiet hq
  | other => exact hall

theorem runTimeout_orderly (device : Nat) :
    ∀ x ∈ (h.runTimeout s device).obj.storageList, x.Orderly checking := by
  unfold runTimeout deviceTask
  cases hd : h.storageList.find? (·.address = device) with
  | none => exact hall
  | some d =>
    refine setDevice_orderly hall ((hall d (List.mem_of_find?_eq_some hd)).quiet ?_)
    dsimp only
    split
    · exact notifyStorageConnecting_quiet s d
    · exact Quiet.refl d

/-- **A uevent keeps the outstanding checks in order.** -/
theorem event_orderly {cfg : Config} {devClass : DeviceClass} {t : Sys} {l : List StorageDevice}
    (hwf : WellFormed s h.storageList) (ho : EventOutcome cfg env s h devClass t l)
    (hlisted : ∀ c ∈ checking, ∃ d ∈ h.storageList, d.address = c.1)
    (hclear : ∀ d ∈ (target cfg s.next h devClass).told, d.EventClear env checking devClass) :
    ∀ x ∈ l, x.Orderly checking := by
  cases ho with
  | ignored _ _ hl =>
    rw [hl]
    exact hall
  | handed d htarget hmem _ hl =>
    have hd := setDeviceInfo_orderly env s devClass (hall d hmem) (hwf.parts d hmem)
      (hclear d (by rw [htarget]; rfl))
    rw [hl]
    exact setDevice_orderly hall hd
  | created reader htarget _ hl =>
    have hfree : (newDevice cfg s.next devClass reader).Free checking := by
      refine ⟨by cases reader <;> rfl, fun c hc heq => ?_⟩
      obtain ⟨d, hd, hdc⟩ := hlisted c hc
      rw [newDevice_address] at heq
      exact absurd (hwf.given d hd) (by omega)
    have hnew := setDeviceInfo_orderly env s.alloc devClass (Orderly.of_free hfree)
      ⟨by simp [addresses], by simp [addresses]⟩ (hclear _ (by rw [htarget]; rfl))
    rw [hl]
    intro x hx
    rcases List.mem_append.mp hx with hx | hx
    · exact hall x hx
    · rw [List.mem_singleton.mp hx]
      exact hnew
  | dropped d _ _ _ hl =>
    rw [hl]
    exact fun x hx => hall x (List.mem_filter.mp hx).1

end Lists

end StorageDeviceHandler

/-- An unmount that answers success leaves the flag down. -/
theorem StorageDevice.umountPartition_unflags (env : Env) (s : Sys) (p : DiskPartitionInfo)
    (lazyUnmount : Bool) (hret : (umountPartition env s p lazyUnmount).ret = .success) :
    (umountPartition env s p lazyUnmount).obj.mounted = false := by
  cases hflag : p.mounted with
  | false =>
    rw [umountPartition_unflagged env s p hflag]
    exact hflag
  | true =>
    by_cases hidle : lazyUnmount = true ∨ env.busy p = false
    · exact (umountPartition_try env s p hflag hidle).1
    · obtain ⟨hlazy, hbusy⟩ := not_or.mp hidle
      rw [Bool.not_eq_true] at hlazy
      rw [Bool.not_eq_false] at hbusy
      subst hlazy
      rw [(umountPartition_busy env s p hflag hbusy).2.2] at hret
      exact absurd hret (by decide)

/-! ### The conditions -/

namespace StorageThreads

open StorageDeviceHandler

/-- FORMAT or FSCK of a drive that can be written to: the unmount is not tried or succeeds,
and no check of the partition is outstanding. -/
def Workable (env : Env) (t : StorageThreads) (driveName : String) : Prop :=
  ∀ drive ∈ t.system.storage.writableDrive driveName,
    UmountKept env t.system.sys.mounted drive.2 false ∧
      ¬ drive.1.Outstanding t.checking drive.2.address

def CommandPermitted (env : Env) (t : StorageThreads) : CommandType → Prop
  | .format driveName _ _ => t.Workable env driveName
  | .fsck driveName => t.Workable env (removeBlanks driveName)
  | .eject deviceNumber => ∀ d ∈ getDeviceWithNum t.devices deviceNumber,
      ∀ p ∈ d.diskPartitionList, UmountKept env t.system.sys.mounted p false
  | .umountAllDrive => ∀ d ∈ t.devices,
      ∀ p ∈ d.diskPartitionList, UmountKept env t.system.sys.mounted p false
  | .mountFsck needFsck mountName => ∀ d ∈ getDeviceWithName t.devices mountName,
      ∀ p ∈ d.diskPartitionList, (Enforced needFsck p → ¬ d.Outstanding t.checking p.address) ∧
        (p.fsckStatus = PdmDevStatus.fsckTimeout.code → p.mounted = false)
  | _ => True

/-- The input is harmless in the state it is taken in. -/
def Permitted (cfg : Config) (t : StorageThreads) (i : Env × ThreadInput) : Prop :=
  match i.2 with
  | .uevent devClass =>
    ∀ d ∈ (target cfg t.system.sys.next t.system.storage devClass).told,
      AdditionKept i.1 t.system.sys.mounted t.devices d devClass ∧
        d.EventClear i.1 t.checking devClass
  | .command cmdtypes => t.CommandPermitted i.1 cmdtypes
  | _ => True

/-! ### The invariant -/

/-- The partitions that are being worked on: by the command and by the threads. -/
def underway (t : StorageThreads) : List (Nat × Nat) :=
  (t.work.map fun k => (k.device, k.partition)).toList ++ t.checking

/-- The partitions are tied, and what is outstanding is in order, device by device. -/
structure InOrder (t : StorageThreads) : Prop where
  tied : t.system.TiedState False
  orderly : ∀ d ∈ t.devices, d.Orderly t.underway
  nodup : t.underway.Nodup
  listed : ∀ c ∈ t.underway, ∃ d ∈ t.devices, d.address = c.1

variable {cfg : Config} {env : Env} {t u : StorageThreads}

theorem init_inOrder : InOrder {} :=
  ⟨StorageSystem.init_tiedState, by simp [devices], List.nodup_nil, by simp [underway]⟩

theorem InOrder.clear (h : t.InOrder) : t.clear.InOrder :=
  ⟨⟨⟨h.tied.valid.nodup, h.tied.valid.given, h.tied.valid.parts⟩,
      ⟨h.tied.tied.empty, h.tied.tied.ties, h.tied.tied.apart⟩⟩, h.orderly, h.nodup, h.listed⟩

namespace InOrder

variable (h : t.InOrder)
include h

theorem ready {d : StorageDevice} (hd : d ∈ t.devices) : Ready False t.system.sys d :=
  h.tied.tied.ready h.tied.valid hd

/-- **One device was acted on**, and the work under way has changed for that device only. -/
theorem act {d e : StorageDevice} {s : Sys} (hd : d ∈ t.devices)
    (hk : Keeps False True t.system.sys d s e)
    (hsystem : u.system = ⟨s, t.system.storage.setDevice e⟩) (horderly : e.Orderly u.underway)
    (hothers : ∀ c, c.1 ≠ d.address → (c ∈ u.underway ↔ c ∈ t.underway))
    (hnodup : u.underway.Nodup) : u.InOrder ∧ Sys.Adds ChecksClear t.system.sys u.system.sys := by
  have hstays := h.tied.tied.write h.tied.valid hd hk
  have haddr : e.address = d.address := address_of_core hk.within.core
  have hvalid := h.tied.valid.within (WithinList.write hk.within hd)
  have hdevices : u.devices = writeBack t.devices e := by
    unfold devices
    rw [hsystem]
    rfl
  have hlisted : ∀ a, (∃ x ∈ u.devices, x.address = a) ↔ ∃ x ∈ t.devices, x.address = a := by
    intro a
    rw [← List.mem_map, ← List.mem_map, hdevices, WellFormed.writeBack_addresses]
  refine ⟨⟨⟨?_, ?_⟩, fun x hx => ?_, hnodup, fun c hc => ?_⟩, ?_⟩
  · unfold StorageSystem.Valid
    rw [hsystem]
    exact hvalid
  · rw [hsystem]
    exact hstays.tied
  · rw [hdevices] at hx
    rcases WellFormed.mem_writeBack hx with rfl | ⟨hx, hne⟩
    · exact horderly
    · rw [haddr] at hne
      exact (h.orderly x hx).others fun b => hothers _ hne
  · rw [hlisted]
    by_cases hc' : c.1 = d.address
    · exact ⟨d, hd, hc'.symm⟩
    · exact h.listed c ((hothers c hc').mp hc)
  · rw [hsystem]
    exact hstays.clear trivial

/-- The handler took an input as a whole, and every device is listed for which something is
under way. -/
theorem whole {i : StorageInput} (hkeep : t.system.KeepsFlags False True cfg (env, i))
    (hu : u = { t with system := t.system.deliver cfg env i })
    (horderly : ∀ d ∈ (t.system.deliver cfg env i).storage.storageList, d.Orderly t.underway)
    (hlisted : ∀ c ∈ t.underway, ∃ d ∈ (t.system.deliver cfg env i).storage.storageList,
      d.address = c.1) : u.InOrder ∧ Sys.Adds ChecksClear t.system.sys u.system.sys := by
  subst hu
  have hstays := StorageSystem.deliver_tied h.tied.valid h.tied.tied hkeep
  exact ⟨⟨⟨StorageSystem.deliver_valid h.tied.valid i, hstays.tied⟩, horderly, h.nodup, hlisted⟩,
    hstays.clear trivial⟩

/-- What is no uevent lists the devices that were listed. -/
theorem listed_within {input : StorageInput} (hinput : ∀ devClass, input ≠ .uevent devClass) :
    ∀ c ∈ t.underway, ∃ d ∈ (t.system.deliver cfg env input).storage.storageList,
      d.address = c.1 := by
  intro c hc
  rw [← List.mem_map, (t.system.deliver_within cfg env hinput).listed, List.mem_map]
  exact h.listed c hc

theorem uevent {devClass : DeviceClass} (hok : t.Permitted cfg (env, .uevent devClass))
    (hu : t.deliver cfg env (.uevent devClass) = some u) :
    u.InOrder ∧ Sys.Adds ChecksClear t.system.sys u.system.sys := by
  unfold deliver at hu
  dsimp only at hu
  split at hu
  · exact absurd hu (by simp)
  · rename_i hready
    obtain ⟨hwork, hwaits⟩ := not_or.mp hready
    have hunder : t.underway = t.checking := by
      unfold underway
      rw [Option.not_isSome_iff_eq_none.mp hwork]
      rfl
    have hfree : devClass.action = "remove" →
        ∀ d ∈ removedDevice t.system.storage devClass, d.Free t.checking := by
      intro haction d hd
      by_contra hnot
      exact hwaits ⟨haction, d, hd, hnot⟩
    have ho := t.system.storage.HandlerEvent_outcome cfg env t.system.sys devClass
    refine h.whole (i := .uevent devClass) ⟨fun d hd => (hok d hd).1, ?_⟩
      (Option.some.inj hu).symm ?_ fun c hc => ?_
    · intro _ haction d hd p _ hp
      rw [(hfree haction d hd).1] at hp
      exact absurd hp List.not_mem_nil
    · rw [hunder]
      have horderly := h.orderly
      have hlisted := h.listed
      rw [hunder] at horderly hlisted
      exact event_orderly env horderly h.tied.valid ho hlisted fun d hd => (hok d hd).2
    · obtain ⟨d, hd, hdc⟩ := h.listed c hc
      rw [hunder] at hc
      show ∃ d ∈ (t.system.storage.HandlerEvent cfg env t.system.sys devClass).obj.storageList, _
      revert ho
      generalize (t.system.storage.HandlerEvent cfg env t.system.sys devClass).obj.storageList = l
      intro ho
      cases ho with
      | ignored _ _ hl =>
        rw [hl]
        exact ⟨d, hd, hdc⟩
      | handed e _ _ _ hl =>
        rw [← List.mem_map, hl, WellFormed.writeBack_addresses, List.mem_map]
        exact ⟨d, hd, hdc⟩
      | created reader _ _ hl =>
        rw [hl]
        exact ⟨d, List.mem_append_left _ hd, hdc⟩
      | dropped e haction hfound _ hl =>
        rw [hl]
        have hne := (hfree haction e hfound).2 c hc
        rw [← hdc] at hne
        exact ⟨d, List.mem_filter.mpr ⟨hd, decide_eq_true hne⟩, hdc⟩

theorem timeout {device : Nat} (hu : t.deliver cfg env (.timeout device) = some u) :
    u.InOrder ∧ Sys.Adds ChecksClear t.system.sys u.system.sys :=
  h.whole (i := .timeout device) trivial (Option.some.inj hu).symm
    (runTimeout_orderly h.orderly device) (h.listed_within (by simp))

omit h in
theorem underway_idle (hwork : t.work = none) : t.underway = t.checking := by
  unfold underway
  rw [hwork]
  rfl

/-- A command that is done at once. -/
theorem command_whole {cmdtypes : CommandType} (hok : t.CommandPermitted env cmdtypes)
    (hwork : t.work = none) (htool : t.system.storage.toolOf cmdtypes = none)
    (hu : u = { t with system := t.system.deliver cfg env (.command cmdtypes) }) :
    u.InOrder ∧ Sys.Adds ChecksClear t.system.sys u.system.sys := by
  have horderly := h.orderly
  have hunder := underway_idle hwork
  have hnever : ∀ {driveName : String}, t.system.storage.writableDrive driveName = none →
      UnmountsNamed env t.system.sys.mounted t.system.storage driveName := by
    intro driveName hnone d hd p hp hro
    unfold writableDrive at hnone
    rw [Option.mem_def.mp hd] at hnone
    simp [Option.mem_def.mp hp, hro] at hnone
  have hkeep : t.system.storage.CommandKeeps True env t.system.sys.mounted cmdtypes := by
    cases cmdtypes with
    | format driveName fsType volumeLabel => exact hnever (by simpa [toolOf] using htool)
    | fsck driveName => exact hnever (by simpa [toolOf] using htool)
    | eject deviceNumber => exact hok
    | umountAllDrive => exact hok
    | mountFsck needFsck mountName =>
      intro d hd p hp htimeout hmem
      have hflag := (hok d hd p hp).2 htimeout
      have htie := (h.ready (mem_of_name t.system.storage d hd)).ties p hp
      rw [htie.seen hmem] at hflag
      exact absurd hflag (by decide)
    | setVolumeLabel | isWritableDrive | spaceInfo | other => trivial
  refine h.whole (i := .command cmdtypes) hkeep hu ?_ (h.listed_within (by simp))
  rw [hunder] at horderly ⊢
  refine HandlerCommand_orderly env horderly htool fun needFsck mountName heq d hd p hp => ?_
  subst heq
  exact (hok d hd p hp).1

/-- FORMAT and FSCK unmount their partition, and go on where that has succeeded. -/
theorem command_unmount {cmdtypes : CommandType} {d : StorageDevice} {p : DiskPartitionInfo}
    {tool : Tool} (hok : t.CommandPermitted env cmdtypes) (hwork : t.work = none)
    (htool : t.system.storage.toolOf cmdtypes = some ((d, p), tool))
    (hu : u = { t with
      system := ⟨(umountPartition env t.system.sys p false).state,
        t.system.storage.setDevice (d.setPartition (umountPartition env t.system.sys p false).obj)⟩
      work := if (umountPartition env t.system.sys p false).ret = .success then
        some ⟨d.address, p.address, tool⟩ else none }) :
    u.InOrder ∧ Sys.Adds ChecksClear t.system.sys u.system.sys := by
  obtain ⟨hkept, hnot⟩ : UmountKept env t.system.sys.mounted p false ∧
      ¬ d.Outstanding t.checking p.address := by
    obtain ⟨driveName, hdrive, ⟨fsType, volumeLabel, rfl, -⟩ | ⟨name, rfl, rfl, -⟩⟩ := toolOf_some htool
    · exact hok _ hdrive
    · exact hok _ hdrive
  obtain ⟨driveName, hdrive, -⟩ := toolOf_some htool
  obtain ⟨hfound, hpart, -⟩ := writableDrive_some hdrive
  have hd : d ∈ t.devices := mem_of_name t.system.storage d hfound
  have hp := (d.findPartition_mem hpart).1
  have hunder := underway_idle hwork
  have horderly := (h.orderly d hd).quiet (unmount_quiet env t.system.sys hp false)
  have hnodup := h.nodup
  rw [hunder] at horderly hnodup
  have hk := unmount_keeps (g := True) env (h.ready hd) hp hkept
  by_cases hret : (umountPartition env t.system.sys p false).ret = .success
  · rw [if_pos hret] at hu
    have hnew : u.underway = (d.address, p.address) :: t.checking := by rw [hu]; rfl
    refine h.act hd hk (by rw [hu]) ?_ (fun c hc => ?_) ?_
    · have haddr := address_of_ident (umountPartition_ident env t.system.sys p false)
      have hmem : (umountPartition env t.system.sys p false).obj ∈
          (d.setPartition (umountPartition env t.system.sys p false).obj).diskPartitionList := by
        rw [setPartition_list]
        exact List.mem_map.mpr ⟨p, hp, if_pos haddr.symm⟩
      rw [hnew]
      refine horderly.takes hmem (hk.ready (h.ready hd)).nodup
        (umountPartition_unflags env t.system.sys p false hret) ?_ fun c => ?_
      · rw [haddr]
        exact hnot
      · rw [List.mem_cons, haddr]
        exact or_comm
    · rw [hnew, hunder, List.mem_cons]
      exact ⟨fun hmem => hmem.resolve_left fun heq => hc (by rw [heq]), Or.inr⟩
    · rw [hnew]
      exact List.nodup_cons.mpr ⟨fun hmem => hnot (Or.inr hmem), hnodup⟩
  · rw [if_neg hret] at hu
    have hnew : u.underway = t.checking := by rw [hu]; rfl
    refine h.act hd hk (by rw [hu]) (by rw [hnew]; exact horderly) (fun c _ => ?_)
      (by rw [hnew]; exact hnodup)
    rw [hnew, hunder]

theorem command {cmdtypes : CommandType} (hok : t.CommandPermitted env cmdtypes)
    (hu : t.deliver cfg env (.command cmdtypes) = some u) :
    u.InOrder ∧ Sys.Adds ChecksClear t.system.sys u.system.sys := by
  unfold deliver at hu
  dsimp only at hu
  split at hu
  · exact absurd hu (by simp)
  · rename_i hwork
    rw [Option.not_isSome_iff_eq_none] at hwork
    cases htool : t.system.storage.toolOf cmdtypes with
    | none =>
      rw [htool] at hu
      exact h.command_whole hok hwork htool (Option.some.inj hu).symm
    | some drive =>
      rw [htool] at hu
      exact h.command_unmount hok hwork htool (Option.some.inj hu).symm

/-- FORMAT and FSCK call their tool. -/
theorem tool (hu : t.deliver cfg env .tool = some u) :
    u.InOrder ∧ Sys.Adds ChecksClear t.system.sys u.system.sys := by
  unfold deliver at hu
  obtain ⟨k, hwork, hu⟩ := Option.bind_eq_some_iff.mp hu
  obtain ⟨d, hfind, hu⟩ := Option.bind_eq_some_iff.mp hu
  obtain ⟨p, hpart, rfl⟩ := Option.map_eq_some_iff.mp hu
  have hd := List.mem_of_find?_eq_some hfind
  have hdk : d.address = k.device := by simpa using List.find?_some hfind
  have hp := List.mem_of_find?_eq_some hpart
  have hpk : p.address = k.partition := by simpa using List.find?_some hpart
  have hunder : t.underway = (d.address, p.address) :: t.checking := by
    unfold underway
    rw [hwork, hdk, hpk]
    rfl
  have hnodup := h.nodup
  have horderly := h.orderly d hd
  rw [hunder] at hnodup horderly
  obtain ⟨hnew, hnodup⟩ := List.nodup_cons.mp hnodup
  have hflag := horderly.idle p hp (Or.inr (List.mem_cons_self ..))
  have hfree : p.mountName ∉ t.system.sys.mounted := by
    intro hmem
    rw [((h.ready hd).ties p hp).seen hmem] at hflag
    exact absurd hflag (by decide)
  have hothers : ∀ c, c ∈ t.checking ↔
      c ∈ (d.address, p.address) :: t.checking ∧ c ≠ (d.address, p.address) := by
    intro c
    rw [List.mem_cons]
    exact ⟨fun hc => ⟨Or.inr hc, fun heq => hnew (heq ▸ hc)⟩, fun hc => hc.1.resolve_left hc.2⟩
  obtain ⟨hended, hnot⟩ := horderly.ends (List.mem_cons_self ..) hothers
  refine h.act (u := _) hd (runTool_keeps env (h.ready hd) hp hfree k.tool) rfl ?_ ?_ hnodup
  · exact hended.quiet (runTool_quiet env _ hp hnot k.tool)
  · intro c hc
    show c ∈ t.checking ↔ _
    rw [hunder, List.mem_cons]
    exact ⟨Or.inr, fun hmem => hmem.resolve_left fun heq => hc (by rw [heq])⟩

/-- A thread calls the checker. -/
theorem checkBegins {device partition : Nat} {freed : DiskPartitionInfo}
    (hu : t.deliver cfg env (.checkBegins device partition freed) = some u) :
    u.InOrder ∧ Sys.Adds ChecksClear t.system.sys u.system.sys := by
  unfold deliver at hu
  obtain ⟨d, hfind, hu⟩ := Option.bind_eq_some_iff.mp hu
  split at hu
  · rename_i hpending
    have hd := List.mem_of_find?_eq_some hfind
    obtain rfl : d.address = device := by simpa using List.find?_some hfind
    have horderly := h.orderly d hd
    obtain ⟨p, hp, rfl⟩ := List.mem_map.mp (horderly.known _ (Or.inl hpending))
    have hflag := horderly.idle p hp (Or.inl hpending)
    have hnew : u.underway = t.underway ++ [(d.address, p.address)] := by
      rw [← Option.some.inj hu]
      exact (List.append_assoc ..).symm
    have hready := h.ready hd
    have hstart : Keeps False True t.system.sys d t.system.sys
        { d with fsckThreadArray := d.fsckThreadArray.erase p.address } :=
      Keeps.of_untouched hready (Untouched.refl _) rfl rfl
    have hmore : ∀ c, c ∈ u.underway ↔ c ∈ t.underway ∨ c = (d.address, p.address) := by
      intro c
      rw [hnew, List.mem_append, List.mem_singleton]
    have hbegun := horderly.begins hpending hmore
    refine h.act hd (hstart.trans (checkBegins_keeps t.system.sys (hstart.ready hready) hp hflag freed))
      (by rw [← Option.some.inj hu]) ?_ (fun c hc => ?_) ?_
    · exact hbegun.quiet (checkBegins_quiet t.system.sys
        (d := { d with fsckThreadArray := d.fsckThreadArray.erase p.address }) hp hready.nodup freed)
    · rw [hnew, List.mem_append, List.mem_singleton]
      exact ⟨fun hmem => hmem.resolve_right fun heq => hc (by rw [heq]), Or.inl⟩
    · rw [hnew]
      refine List.nodup_append'.mpr ⟨h.nodup, List.nodup_singleton _, fun c hc hc' => ?_⟩
      rw [List.mem_singleton.mp hc'] at hc
      exact horderly.apart _ hpending hc
  · exact absurd hu (by simp)

/-- The checker has answered a thread. -/
theorem checkEnds {device partition : Nat} {freed : DiskPartitionInfo}
    (hu : t.deliver cfg env (.checkEnds device partition freed) = some u) :
    u.InOrder ∧ Sys.Adds ChecksClear t.system.sys u.system.sys := by
  unfold deliver at hu
  dsimp only at hu
  split at hu
  · rename_i hchecking
    obtain ⟨d, hfind, rfl⟩ := Option.map_eq_some_iff.mp hu
    have hd := List.mem_of_find?_eq_some hfind
    obtain rfl : d.address = device := by simpa using List.find?_some hfind
    have horderly := h.orderly d hd
    have hunder : (d.address, partition) ∈ t.underway := List.mem_append_right _ hchecking
    obtain ⟨p, hp, rfl⟩ := List.mem_map.mp (horderly.known _ (Or.inr hunder))
    have hflag := horderly.idle p hp (Or.inr hunder)
    have hready := h.ready hd
    -- The command works on another partition, so only the thread's entry goes.
    have hnew : (t.work.map fun k => (k.device, k.partition)).toList ++
        t.checking.erase (d.address, p.address) = t.underway.erase (d.address, p.address) := by
      have hdisjoint := (List.nodup_append'.mp h.nodup).2.2
      exact (List.erase_append_right _ fun hmem => hdisjoint hmem hchecking).symm
    have hothers : ∀ c, c ∈ t.underway.erase (d.address, p.address) ↔
        c ∈ t.underway ∧ c ≠ (d.address, p.address) := by
      intro c
      rw [h.nodup.mem_erase_iff]
      exact and_comm
    obtain ⟨hended, hnot⟩ := horderly.ends hunder hothers
    refine h.act hd (checkEnds_keeps env t.system.sys hready hp hflag freed) rfl ?_ (fun c hc => ?_) ?_
    · unfold underway
      rw [hnew]
      exact hended.quiet (checkEnds_quiet env t.system.sys hp hnot hready.nodup freed)
    · unfold underway
      rw [hnew, h.nodup.mem_erase_iff]
      exact ⟨fun hmem => hmem.2, fun hmem => ⟨fun heq => hc (by rw [heq]), hmem⟩⟩
    · unfold underway
      rw [hnew]
      exact h.nodup.erase _
  · exact absurd hu (by simp)

/-- **Every harmless step keeps the invariant, and its checks are clear.** -/
theorem deliver {input : ThreadInput} (hok : t.Permitted cfg (env, input))
    (hu : t.deliver cfg env input = some u) :
    u.InOrder ∧ Sys.Adds ChecksClear t.system.sys u.system.sys := by
  cases input with
  | uevent devClass => exact h.uevent hok hu
  | command cmdtypes => exact h.command hok hu
  | tool => exact h.tool hu
  | checkBegins device partition freed => exact h.checkBegins hu
  | checkEnds device partition freed => exact h.checkEnds hu
  | timeout device => exact h.timeout hu

end InOrder

/-! ### Evaluating the conditions -/

section Evaluation

instance (needFsck : Bool) (p : DiskPartitionInfo) : Decidable (Enforced needFsck p) :=
  inferInstanceAs (Decidable (_ ∨ _))

instance (env : Env) (d : StorageDevice) (devClass : DeviceClass) :
    Decidable (d.StartsChecks env devClass) :=
  inferInstanceAs (Decidable (∃ d₀ ∈ receiver env d devClass, _))

theorem eventClear_iff {env : Env} {checking : List (Nat × Nat)} {d : StorageDevice}
    {devClass : DeviceClass} : d.EventClear env checking devClass ↔
      (d.StartsReadOnly env devClass → ∀ p ∈ d.diskPartitionList, p.isSupportedFs = true →
        ¬ d.Outstanding checking p.address) ∧
      (d.StartsChecks env devClass → ∀ p ∈ d.diskPartitionList, p.isSupportedFs = true →
        p.mounted = false ∧ ¬ d.Outstanding checking p.address) ∧
      (d.DropsParts env devClass → d.Free checking) :=
  ⟨fun h => ⟨h.mounts, h.starts, h.drops⟩, fun h => ⟨h.1, h.2.1, h.2.2⟩⟩

instance (env : Env) (checking : List (Nat × Nat)) (d : StorageDevice) (devClass : DeviceClass) :
    Decidable (d.EventClear env checking devClass) :=
  decidable_of_iff _ eventClear_iff.symm

/-- The mount point of what a call checks or formats. -/
def workedOn : Call → Option String
  | .formatDrive _ mountName | .fsck _ mountName => some mountName
  | _ => none

theorem checksClear_iff {r : CallRecord} :
    ChecksClear r ↔ ∀ mountName ∈ workedOn r.call, mountName ∉ r.mounted := by
  unfold ChecksClear
  cases r.call with
  | formatDrive driveName mountName => simp [workedOn]
  | fsck driveName mountName => simp [workedOn]
  | execShellCmd | runCommand | mount | umount2 | createDir | removeDirRecursive | notify =>
    simp [workedOn]

instance (r : CallRecord) : Decidable (ChecksClear r) :=
  decidable_of_iff _ checksClear_iff.symm

instance (env : Env) (t : StorageThreads) (driveName : String) : Decidable (t.Workable env driveName) :=
  inferInstanceAs (Decidable (∀ drive ∈ t.system.storage.writableDrive driveName, _))

instance (env : Env) (t : StorageThreads) :
    (cmdtypes : CommandType) → Decidable (t.CommandPermitted env cmdtypes)
  | .format driveName _ _ => inferInstanceAs (Decidable (t.Workable env driveName))
  | .fsck driveName => inferInstanceAs (Decidable (t.Workable env (removeBlanks driveName)))
  | .eject deviceNumber => inferInstanceAs (Decidable (∀ d ∈ getDeviceWithNum t.devices deviceNumber, _))
  | .umountAllDrive => inferInstanceAs (Decidable (∀ d ∈ t.devices, _))
  | .mountFsck _ mountName =>
    inferInstanceAs (Decidable (∀ d ∈ getDeviceWithName t.devices mountName, _))
  | .setVolumeLabel _ _ | .isWritableDrive _ | .spaceInfo _ _ | .other =>
    inferInstanceAs (Decidable True)

instance (cfg : Config) (t : StorageThreads) :
    (i : Env × ThreadInput) → Decidable (t.Permitted cfg i)
  | (_, .uevent devClass) => inferInstanceAs (Decidable
      (∀ d ∈ (target cfg t.system.sys.next t.system.storage devClass).told, _))
  | (env, .command cmdtypes) => inferInstanceAs (Decidable (t.CommandPermitted env cmdtypes))
  | (_, .tool) | (_, .checkBegins ..) | (_, .checkEnds ..) | (_, .timeout _) =>
    inferInstanceAs (Decidable True)

end Evaluation

/-! ### Runs -/

/-- Whatever is checked or formatted in the step is not mounted at that moment. -/
def ChecksUnmounted (cfg : Config) (t : StorageThreads) (i : Env × ThreadInput) : Prop :=
  ∀ u ∈ step cfg t i, ∀ r ∈ u.system.sys.calls, ChecksClear r

instance (cfg : Config) (t : StorageThreads) (i : Env × ThreadInput) :
    Decidable (t.ChecksUnmounted cfg i) :=
  inferInstanceAs (Decidable (∀ u ∈ step cfg t i, _))

theorem step_inOrder {i : Env × ThreadInput} (h : t.InOrder) (hok : t.Permitted cfg i)
    (hu : step cfg t i = some u) :
    u.InOrder ∧ Sys.Adds ChecksClear t.clear.system.sys u.system.sys := by
  obtain ⟨env, input⟩ := i
  exact h.clear.deliver hok hu

theorem checksUnmounted_of_permitted {i : Env × ThreadInput} (h : t.InOrder)
    (hok : t.Permitted cfg i) : t.ChecksUnmounted cfg i := by
  intro u hu r hr driveName mountName hcall
  refine (step_inOrder h hok hu).2.forall_of_nil rfl r hr ?_ driveName mountName hcall
  rcases hcall with hcall | hcall
  · rw [hcall]
    rfl
  · rw [hcall]
    rfl

/-- What is left where a partition was. -/
def leftover : DiskPartitionInfo := .new 0 "" ""

/-- A stick is plugged: the device, its disk and its one partition. -/
def plugged : List (Env × ThreadInput) :=
  [(({} : Env), .uevent (StorageSystem.stickEvent "/devices/usb1/1-1")),
    (StorageSystem.onePartition, .uevent (StorageSystem.diskEvent "/devices/usb1/1-1/block/sda" "sda")),
    ({}, .uevent (StorageSystem.partitionEvent "/devices/usb1/1-1/block/sda/sda1" "sda1"))]

/-- The stick is checked while the connecting timeout fires, then formatted, ejected and
pulled. -/
def stickUsed : List (Env × ThreadInput) :=
  plugged ++ [(({} : Env), .checkBegins 0 1 leftover), ({}, .timeout 0), ({}, .checkEnds 0 1 leftover),
    ({}, .command (.format "sda1" "vfat" "")), ({}, .tool), ({}, .command (.mountFsck true "sda")),
    ({}, .command (.eject 0)),
    ({}, .uevent { StorageSystem.stickEvent "/devices/usb1/1-1" with action := "remove" })]

/-- The kernel refuses to unmount the stick's partition for a format, and the format is
tried once more. -/
def formatTwice : List (Env × ThreadInput) :=
  plugged ++ [(({} : Env), .checkBegins 0 1 leftover), ({}, .checkEnds 0 1 leftover),
    ({ umount2 := fun _ _ => false }, .command (.format "sda1" "vfat" "")),
    ({}, .command (.format "sda1" "vfat" "")), ({}, .tool)]

/-- The stick's check times out, and its mount is asked for twice. -/
def mountTwice : List (Env × ThreadInput) :=
  plugged ++ [(({} : Env), .checkBegins 0 1 leftover),
    ({ runCommand := fun _ => 124 }, .checkEnds 0 1 leftover),
    ({}, .command (.mountFsck false "sda")), ({}, .command (.mountFsck false "sda"))]

/-- The stick is formatted while its check is under way. -/
def formatEarly : List (Env × ThreadInput) :=
  plugged ++ [(({} : Env), .checkBegins 0 1 leftover), ({}, .command (.format "sda1" "vfat" "")),
    ({}, .checkEnds 0 1 leftover), ({}, .tool)]

end StorageThreads

end Pdm
