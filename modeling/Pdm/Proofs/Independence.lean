/-
Storage devices do not interfere between uevents.

A command is for one device, the first that its search finds, or for all; a plugin event
is for all, a thread or a timeout for the device it belongs to.  Nothing of it reaches
another device, as long as no two listed devices have a mount point in common, and what it
does to its own device depends on that device and on what is mounted at its mount points
alone.  So a device, its mounts and the answers to its commands come out the same however
the inputs of the other devices are mixed in with its own.  Here every command returns: the
join of `commandNotification`, where a command can wait for ever, is left out.
-/
import Pdm.Framework.DeviceManager
import Pdm.Proofs.Commands
import Pdm.Proofs.Locality

namespace Pdm

open Visit (visit)

/-! ### Which device an input is for -/

namespace CommandType

/-- The device a command about one device is for. -/
def seeks (l : List StorageDevice) : CommandType → Option StorageDevice
  | .format driveName _ _ => getDeviceWithName l driveName
  | .eject deviceNumber => getDeviceWithNum l deviceNumber
  | .fsck driveName => getDeviceWithName l (removeBlanks driveName)
  | .setVolumeLabel driveName _ => getDeviceWithName l driveName
  | .isWritableDrive driveName => getDeviceWithName l driveName
  | .mountFsck _ mountName => getDeviceWithName l mountName
  | .spaceInfo _ driveName => getDeviceWithName l driveName
  | .umountAllDrive => none
  | .other => none

/-- What a command about one device does to it, and what it answers. -/
def method (env : Env) (s : Sys) (d : StorageDevice) :
    CommandType → Out StorageDevice CommandResponse
  | .format driveName fsType volumeLabel =>
    let r := d.formatDiskStart env s driveName fsType volumeLabel
    ⟨r.state, r.obj, { result := r.ret }⟩
  | .eject _ =>
    let r := d.eject env s
    ⟨r.state.notify .storageDevice .unmountAll none, r.obj, { result := r.ret }⟩
  | .fsck driveName =>
    let r := d.fsck env s (removeBlanks driveName)
    ⟨r.state, r.obj, { result := r.ret }⟩
  | .setVolumeLabel driveName volumeLabel =>
    let r := d.setPartitionVolumeLabel env s driveName volumeLabel
    ⟨r.state, r.obj, { result := r.ret }⟩
  | .isWritableDrive driveName =>
    let r := d.isWritable env s driveName
    ⟨r.2, d, StorageDeviceHandler.writableResponse r.1⟩
  | .mountFsck needFsck _ =>
    let r := d.enforceFsckAndMount env s needFsck
    ⟨r.state, r.obj, { result := r.ret }⟩
  | .spaceInfo directCheck driveName =>
    let r := d.getSpaceInfo env driveName directCheck
    ⟨s, r.1, (r.2.map StorageDeviceHandler.spaceResponse).getD { result := .driveNotMounted }⟩
  | .umountAllDrive => ⟨s, d, { result := .success }⟩
  | .other => ⟨s, d, { result := .success }⟩

end CommandType

/-- What a thread or a timeout of a device does to it. -/
def StorageInput.task (env : Env) (s : Sys) (d : StorageDevice) :
    StorageInput → Out StorageDevice Unit
  | .fsckThread _ partition =>
    if partition ∈ d.fsckThreadArray then
      StorageDevice.fsckOnDeviceAddThread env s
        { d with fsckThreadArray := d.fsckThreadArray.erase partition } partition
    else ⟨s, d, ()⟩
  | .timeout _ =>
    if d.timeoutPending then StorageDevice.notifyStorageConnecting s d else ⟨s, d, ()⟩
  | _ => ⟨s, d, ()⟩

/-- What a plugin event does to a device. -/
def StorageDevice.onPluginEvent (env : Env) (s : Sys) (d : StorageDevice) :
    PluginEvent → Out StorageDevice Unit
  | .powerProcessRequestSuspend => ⟨s, d.suspendRequest, ()⟩
  | .powerProcessPrepareResume => d.resumeRequest env s
  | .powerProcessRequestUmountAll => ⟨(d.suspendUmountAllPartitions env s false).2, d, ()⟩
  | .powerProcessPrepareSuspend => ⟨(d.suspendUmountAllPartitions env s true).2, d, ()⟩
  | _ => ⟨s, d, ()⟩

/-- Whether an input is for the device at `address`, maybe among others. -/
def StorageInput.concerns (l : List StorageDevice) (address : Nat) : StorageInput → Bool
  | .uevent _ => true
  | .command .umountAllDrive => true
  | .command cmdtypes => (cmdtypes.seeks l).any (·.address = address)
  | .pluginEvent _ => true
  | .fsckThread device _ => device = address
  | .timeout device => device = address

namespace StorageSystem

/-- The reply to a command about one device. -/
def reply (w : StorageSystem) (i : Env × StorageInput) : Option CommandResponse :=
  match i.2 with
  | .command .umountAllDrive => none
  | .command cmdtypes => (w.storage.HandlerCommand i.1 w.clear.sys cmdtypes).ret.2
  | _ => none

/-- The device at an address. -/
def deviceAt (w : StorageSystem) (address : Nat) : Option StorageDevice :=
  w.storage.storageList.find? (·.address = address)

/-- No two listed devices have a mount point in common. -/
def Apart (w : StorageSystem) : Prop :=
  ∀ d ∈ w.storage.storageList, ∀ e ∈ w.storage.storageList, d.address ≠ e.address →
    ∀ p ∈ d.diskPartitionList, ∀ q ∈ e.diskPartitionList, p.mountName ≠ q.mountName

instance Apart.decidable (w : StorageSystem) : Decidable w.Apart :=
  inferInstanceAs (Decidable (∀ d ∈ w.storage.storageList, ∀ e ∈ w.storage.storageList,
    d.address ≠ e.address →
      ∀ p ∈ d.diskPartitionList, ∀ q ∈ e.diskPartitionList, p.mountName ≠ q.mountName))

/-- What there is to be seen of the device at `address` is the same: the device itself, and
what is mounted at its mount points. -/
def Sees (address : Nat) (w v : StorageSystem) : Prop :=
  w.deviceAt address = v.deviceAt address ∧
    ∀ d, w.deviceAt address = some d → Sys.AgreeOn d.Owns w.sys v.sys

theorem sees_equivalence (address : Nat) : Equivalence (Sees address) where
  refl w := ⟨rfl, fun d _ => (Sys.AgreeOn.equivalence d.Owns).refl w.sys⟩
  symm h := ⟨h.1.symm, fun d hd => (Sys.AgreeOn.equivalence d.Owns).symm (h.2 d (h.1.trans hd))⟩
  trans h k := ⟨h.1.trans k.1, fun d hd =>
    (Sys.AgreeOn.equivalence d.Owns).trans (h.2 d hd) (k.2 d (h.1.symm.trans hd))⟩

end StorageSystem

/-! ### Commands about one device -/

namespace StorageDeviceHandler

variable {env : Env} {s : Sys} {h : StorageDeviceHandler} {d : StorageDevice}

theorem onDevice_missing {found : Option StorageDevice} {notFound : PdmDevStatus}
    {f : Sys → StorageDevice → Out StorageDevice PdmDevStatus} (hd : found = none) :
    (onDevice s h found f notFound).state = s ∧ (onDevice s h found f notFound).obj = h := by
  subst hd
  exact ⟨rfl, rfl⟩

theorem onDevice_found {found : Option StorageDevice} {notFound : PdmDevStatus}
    {f : Sys → StorageDevice → Out StorageDevice PdmDevStatus} (hd : found = some d) :
    (onDevice s h found f notFound).state = (f s d).state ∧
      (onDevice s h found f notFound).obj = h.setDevice (f s d).obj ∧
      some (onDevice s h found f notFound).ret.2 = some { result := (f s d).ret } := by
  subst hd
  exact ⟨rfl, rfl, rfl⟩

variable (env s)

/-- Where no device is found nothing is done. -/
theorem HandlerCommand_missing {cmdtypes : CommandType} (hall : cmdtypes ≠ .umountAllDrive)
    (hd : cmdtypes.seeks h.storageList = none) :
    (h.HandlerCommand env s cmdtypes).state = s ∧ (h.HandlerCommand env s cmdtypes).obj = h := by
  cases cmdtypes with
  | format driveName fsType volumeLabel => exact onDevice_missing hd
  | eject deviceNumber => exact onDevice_missing hd
  | fsck driveName => exact onDevice_missing hd
  | setVolumeLabel driveName volumeLabel => exact onDevice_missing hd
  | mountFsck needFsck mountName => exact onDevice_missing hd
  | isWritableDrive driveName =>
    change (isWritableDrive env s h driveName).state = s ∧
      (isWritableDrive env s h driveName).obj = h
    unfold isWritableDrive
    rw [show getDeviceWithName h.storageList driveName = none from hd]
    exact ⟨rfl, rfl⟩
  | spaceInfo directCheck driveName =>
    change (getSpaceInfo env s h directCheck driveName).state = s ∧
      (getSpaceInfo env s h directCheck driveName).obj = h
    unfold getSpaceInfo
    rw [show getDeviceWithName h.storageList driveName = none from hd]
    exact ⟨rfl, rfl⟩
  | umountAllDrive => exact absurd rfl hall
  | other => exact ⟨rfl, rfl⟩

theorem seeks_mem {cmdtypes : CommandType} (hd : cmdtypes.seeks h.storageList = some d) :
    d ∈ h.storageList := by
  cases cmdtypes with
  | umountAllDrive => cases hd
  | other => cases hd
  | _ => exact List.mem_of_find?_eq_some hd

/-- **A command about one device runs its method on the device that is found.** -/
theorem HandlerCommand_found (hwf : WellFormed s h.storageList) {cmdtypes : CommandType}
    (hd : cmdtypes.seeks h.storageList = some d) :
    (h.HandlerCommand env s cmdtypes).state = (cmdtypes.method env s d).state ∧
      (h.HandlerCommand env s cmdtypes).obj = h.setDevice (cmdtypes.method env s d).obj ∧
      (h.HandlerCommand env s cmdtypes).ret.2 = some (cmdtypes.method env s d).ret := by
  cases cmdtypes with
  | format driveName fsType volumeLabel => exact onDevice_found hd
  | eject deviceNumber => exact onDevice_found hd
  | fsck driveName => exact onDevice_found hd
  | setVolumeLabel driveName volumeLabel => exact onDevice_found hd
  | mountFsck needFsck mountName => exact onDevice_found hd
  | isWritableDrive driveName =>
    have hself := setDevice_self s h hwf (seeks_mem hd)
    change (isWritableDrive env s h driveName).state = _ ∧
      (isWritableDrive env s h driveName).obj = h.setDevice d ∧
      some (isWritableDrive env s h driveName).ret.2 = _
    unfold isWritableDrive
    rw [show getDeviceWithName h.storageList driveName = some d from hd, hself]
    exact ⟨rfl, rfl, rfl⟩
  | spaceInfo directCheck driveName =>
    change (getSpaceInfo env s h directCheck driveName).state = s ∧
      (getSpaceInfo env s h directCheck driveName).obj =
        h.setDevice (d.getSpaceInfo env driveName directCheck).1 ∧
      some (getSpaceInfo env s h directCheck driveName).ret.2 = some
        (((d.getSpaceInfo env driveName directCheck).2.map spaceResponse).getD
          { result := .driveNotMounted })
    unfold getSpaceInfo
    rw [show getDeviceWithName h.storageList driveName = some d from hd]
    dsimp only
    generalize d.getSpaceInfo env driveName directCheck = r
    obtain ⟨e, found⟩ := r
    cases found with
    | none => exact ⟨rfl, rfl, rfl⟩
    | some diskInfo => exact ⟨rfl, rfl, rfl⟩
  | umountAllDrive => cases hd
  | other => cases hd

end StorageDeviceHandler

namespace CommandType

variable (env : Env) {s t : Sys} {d : StorageDevice} (cmdtypes : CommandType)

open StorageDevice

theorem method_within :
    Within s d (cmdtypes.method env s d).state (cmdtypes.method env s d).obj := by
  cases cmdtypes with
  | format driveName fsType volumeLabel =>
    exact formatDiskStart_within env s d driveName fsType volumeLabel
  | eject deviceNumber =>
    exact (eject_within env s d).trans
      (Within.of_untouched (notify_untouched _ .storageDevice .unmountAll) rfl rfl)
  | fsck driveName => exact fsck_within env s d (removeBlanks driveName)
  | setVolumeLabel driveName volumeLabel =>
    exact setPartitionVolumeLabel_within env s d driveName volumeLabel
  | isWritableDrive driveName =>
    exact Within.of_untouched (isWritable_untouched env s d driveName) rfl rfl
  | mountFsck needFsck mountName => exact enforceFsckAndMount_within env s d needFsck
  | spaceInfo directCheck driveName => exact getSpaceInfo_within env s d driveName directCheck
  | umountAllDrive => exact Within.refl s d
  | other => exact Within.refl s d

theorem method_alike (hagree : Sys.AgreeOn d.Owns s t) :
    Out.AgreeOn d.Owns (cmdtypes.method env s d) (cmdtypes.method env t d) := by
  have hM : ∀ p ∈ d.diskPartitionList, d.Owns p.mountName := fun p hp => ⟨p, hp, rfl⟩
  let answer (result : PdmDevStatus) : CommandResponse := { result := result }
  cases cmdtypes with
  | format driveName fsType volumeLabel =>
    exact (formatDiskStart_alike env hM hagree driveName fsType volumeLabel).map
      answer
  | eject deviceNumber =>
    have h := (eject_alike env hM hagree).map answer
    exact ⟨h.obj, h.ret, h.state.congr rfl rfl⟩
  | fsck driveName =>
    exact (fsck_alike env hM hagree (removeBlanks driveName)).map answer
  | setVolumeLabel driveName volumeLabel =>
    exact (setPartitionVolumeLabel_alike env (d := d) hagree driveName volumeLabel).map
      answer
  | isWritableDrive driveName =>
    obtain ⟨hret, hstate⟩ := isWritable_alike env (d := d) hagree driveName
    exact ⟨rfl, congrArg StorageDeviceHandler.writableResponse hret, hstate⟩
  | mountFsck needFsck mountName =>
    exact (enforceFsckAndMount_alike env (d := d) hagree needFsck).map answer
  | spaceInfo directCheck driveName => exact ⟨rfl, rfl, hagree⟩
  | umountAllDrive => exact ⟨rfl, rfl, hagree⟩
  | other => exact ⟨rfl, rfl, hagree⟩

/-- Who a command is for hangs on what no command changes in a device. -/
theorem seeks_core (l : List StorageDevice) :
    (cmdtypes.seeks l).map core = cmdtypes.seeks (l.map core) := by
  have hname : ∀ name : String, (getDeviceWithName l name).map core =
      getDeviceWithName (l.map core) name := by
    intro name
    unfold getDeviceWithName
    rw [List.find?_map]
    rfl
  cases cmdtypes with
  | eject deviceNumber =>
    change (getDeviceWithNum l deviceNumber).map core = getDeviceWithNum (l.map core) deviceNumber
    unfold getDeviceWithNum
    rw [List.find?_map]
    rfl
  | umountAllDrive => rfl
  | other => rfl
  | _ => exact hname _

end CommandType

namespace StorageInput

open StorageDevice

theorem task_within (env : Env) (s : Sys) (d : StorageDevice) (input : StorageInput) :
    Within s d (input.task env s d).state (input.task env s d).obj := by
  unfold task
  cases input with
  | fsckThread device partition =>
    dsimp only
    split
    · have hstart : Within s d s { d with fsckThreadArray := d.fsckThreadArray.erase partition } :=
        Within.of_untouched (Untouched.refl s) rfl rfl
      exact hstart.trans (fsckOnDeviceAddThread_within env s _ partition)
    · exact Within.refl s d
  | timeout device =>
    dsimp only
    split
    · exact notifyStorageConnecting_within s d
    · exact Within.refl s d
  | _ => exact Within.refl s d

theorem task_alike (env : Env) {s t : Sys} {d : StorageDevice} (input : StorageInput)
    (hagree : Sys.AgreeOn d.Owns s t) :
    Out.AgreeOn d.Owns (input.task env s d) (input.task env t d) := by
  unfold task
  cases input with
  | fsckThread device partition =>
    dsimp only
    split
    · exact fsckOnDeviceAddThread_alike env hagree partition
    · exact ⟨rfl, rfl, hagree⟩
  | timeout device =>
    dsimp only
    split
    · exact ⟨rfl, rfl, hagree.congr (by simp [notifyStorageConnecting])
        (by simp [notifyStorageConnecting])⟩
    · exact ⟨rfl, rfl, hagree⟩
  | _ => exact ⟨rfl, rfl, hagree⟩

end StorageInput

namespace StorageDevice

variable (env : Env) (eventType : PluginEvent)

theorem onPluginEvent_within (s : Sys) (d : StorageDevice) :
    Within s d (onPluginEvent env s d eventType).state (onPluginEvent env s d eventType).obj := by
  cases eventType with
  | powerProcessRequestSuspend => exact suspendRequest_within s d
  | powerProcessPrepareResume => exact resumeRequest_within env s d
  | powerProcessRequestUmountAll => exact suspendUmountAllPartitions_within env s d false
  | powerProcessPrepareSuspend => exact suspendUmountAllPartitions_within env s d true
  | _ => exact Within.refl s d

theorem onPluginEvent_alike {s t : Sys} {d : StorageDevice} (hagree : Sys.AgreeOn d.Owns s t) :
    Out.AgreeOn d.Owns (onPluginEvent env s d eventType) (onPluginEvent env t d eventType) := by
  have hM : ∀ p ∈ d.diskPartitionList, d.Owns p.mountName := fun p hp => ⟨p, hp, rfl⟩
  cases eventType with
  | powerProcessRequestSuspend => exact ⟨rfl, rfl, hagree⟩
  | powerProcessPrepareResume => exact resumeRequest_alike env hagree
  | powerProcessRequestUmountAll =>
    exact ⟨rfl, rfl, suspendUmountLoop_alike env false hM true hagree⟩
  | powerProcessPrepareSuspend =>
    exact ⟨rfl, rfl, suspendUmountLoop_alike env true hM true hagree⟩
  | _ => exact ⟨rfl, rfl, hagree⟩

end StorageDevice

/-! ### The device at an address -/

namespace StorageSystem

open StorageDevice

theorem find_address {l : List StorageDevice} (hnodup : (l.map (·.address)).Nodup)
    {d : StorageDevice} (hd : d ∈ l) : l.find? (·.address = d.address) = some d := by
  cases hfind : l.find? (·.address = d.address) with
  | none => exact absurd (List.find?_eq_none.mp hfind d hd) (by simp)
  | some e =>
    have haddress : e.address = d.address := by simpa using List.find?_some hfind
    rw [List.inj_on_of_nodup_map hnodup (List.mem_of_find?_eq_some hfind) hd haddress]

variable {w v : StorageSystem} {address : Nat} {d e : StorageDevice} {s t : Sys}

theorem deviceAt_mem (hd : w.deviceAt address = some d) :
    d ∈ w.storage.storageList ∧ d.address = address :=
  ⟨List.mem_of_find?_eq_some hd, by simpa using List.find?_some hd⟩

/-- A device is written back: it is what is at its address. -/
theorem deviceAt_acted (hw : w.Valid) (hd : d ∈ w.storage.storageList)
    (haddress : e.address = d.address) :
    (⟨s, w.storage.setDevice e⟩ : StorageSystem).deviceAt d.address = some e := by
  rw [← haddress]
  have hnodup : ((writeBack w.storage.storageList e).map (·.address)).Nodup := by
    rw [WellFormed.writeBack_addresses]
    exact hw.nodup
  exact find_address hnodup ((WellFormed.mem_handed hd haddress).mpr (Or.inl rfl))

/-- What is at other addresses stays. -/
theorem deviceAt_other (haddress : e.address ≠ address) :
    (⟨s, w.storage.setDevice e⟩ : StorageSystem).deviceAt address = w.deviceAt address := by
  have hsame : (fun x : StorageDevice => decide (x.address = address)) ∘
      (fun x => if x.address = e.address then e else x) =
        fun x => decide (x.address = address) := by
    funext x
    rw [Function.comp_apply]
    split
    · next hx => rw [hx]
    · rfl
  unfold deviceAt
  change (w.storage.storageList.map fun x => if x.address = e.address then e else x).find?
    (fun x => decide (x.address = address)) = _
  rw [List.find?_map, hsame]
  cases hfind : w.storage.storageList.find? (fun x => decide (x.address = address)) with
  | none => rfl
  | some x =>
    have hx : x.address = address := by simpa using List.find?_some hfind
    rw [Option.map_some, if_neg (fun hxe => haddress (hxe.symm.trans hx))]

/-- The mount points of other devices are not this one's. -/
theorem Apart.owns (h : w.Apart) (hd : d ∈ w.storage.storageList) (he : e ∈ w.storage.storageList)
    (hne : d.address ≠ e.address) (m : String) (hm : d.Owns m) : ¬ e.Owns m := by
  intro hem
  obtain ⟨p, hp, rfl⟩ := hm
  obtain ⟨q, hq, hqp⟩ := hem
  exact h d hd e he hne p hp q hq hqp.symm

/-! ### One device is acted on -/

/-- The other devices see nothing of it. -/
theorem sees_other (hapart : w.Apart) (hd : d ∈ w.storage.storageList)
    (hne : d.address ≠ address) (hwithin : Within w.sys d s e) :
    Sees address w ⟨s, w.storage.setDevice e⟩ := by
  have haddress : e.address = d.address := address_of_core hwithin.core
  refine ⟨(deviceAt_other (by rw [haddress]; exact hne)).symm, fun f hf => ?_⟩
  obtain ⟨hmem, rfl⟩ := deviceAt_mem hf
  exact Sys.AgreeOn.of_outside hwithin.outside (hapart.owns hmem hd (Ne.symm hne))

/-- The device itself sees the same, where it saw the same before. -/
theorem sees_own (hw : w.Valid) (hv : v.Valid) (hd : d ∈ w.storage.storageList)
    (hd' : d ∈ v.storage.storageList) (hwithin : Within w.sys d s e)
    (hagree : Sys.AgreeOn d.Owns s t) :
    Sees d.address ⟨s, w.storage.setDevice e⟩ ⟨t, v.storage.setDevice e⟩ := by
  have haddress : e.address = d.address := address_of_core hwithin.core
  refine ⟨(deviceAt_acted hw hd haddress).trans (deviceAt_acted hv hd' haddress).symm,
    fun f hf => ?_⟩
  obtain rfl : e = f := Option.some.inj ((deviceAt_acted hw hd haddress).symm.trans hf)
  exact hagree.mono (Owns.mono hwithin.idents)

/-! ### All devices are acted on in turn -/

section Loop

variable {ρ : Type} {f : Sys → StorageDevice → Out StorageDevice ρ}
  (hwithin : ∀ s d, Within s d (f s d).state (f s d).obj)
  (halike : ∀ {s t d}, Sys.AgreeOn d.Owns s t → Out.AgreeOn d.Owns (f s d) (f t d))
include hwithin halike

/-- A loop does to a device what the call on it alone does. -/
theorem visited (hw : w.Valid) (hapart : w.Apart) (hd : d ∈ w.storage.storageList) :
    (⟨t, { storageList := (visit f w.sys w.storage.storageList).obj }⟩ :
        StorageSystem).deviceAt d.address = some (f w.sys d).obj ∧
      Sys.AgreeOn d.Owns (f w.sys d).state (visit f w.sys w.storage.storageList).state := by
  have hkeys : (visit f w.sys w.storage.storageList).obj.map (·.address) =
      w.storage.storageList.map (·.address) :=
    (WithinList.loop hwithin w.sys w.storage.storageList).listed
  have hnodup := hw.nodup
  rw [← hkeys] at hnodup
  obtain ⟨as, bs, hl⟩ := List.append_of_mem hd
  have hothers : ∀ (s : Sys), ∀ x ∈ as ++ bs, Sys.AgreeOn d.Owns s (f s x).state := by
    intro s x hx
    have hne : d.address ≠ x.address := by
      have hdistinct := hw.nodup
      rw [hl, List.map_append, List.map_cons, List.nodup_middle, ← List.map_append] at hdistinct
      intro heq
      exact (List.nodup_cons.mp hdistinct).1 (heq ▸ List.mem_map_of_mem hx)
    have hmem : x ∈ w.storage.storageList := by
      rw [hl]
      simp only [List.mem_append, List.mem_cons] at hx ⊢
      tauto
    exact Sys.AgreeOn.of_outside (hwithin s x).outside (hapart.owns hd hmem hne)
  obtain ⟨⟨as', bs', hobj⟩, hstate⟩ := Noninterference.visit_alone
    (Sys.AgreeOn.equivalence d.Owns) hothers
    (fun s t h => ⟨(halike h).obj, (halike h).state⟩) w.sys
  rw [← hl] at hobj hstate
  refine ⟨?_, hstate⟩
  have haddress : (f w.sys d).obj.address = d.address := address_of_core (hwithin w.sys d).core
  rw [← haddress]
  refine find_address hnodup ?_
  rw [hobj]
  simp

/-- So the device sees the same after the loop, where it saw the same before. -/
theorem sees_visited (hw : w.Valid) (hv : v.Valid) (hwa : w.Apart) (hva : v.Apart)
    (hd : d ∈ w.storage.storageList) (hd' : d ∈ v.storage.storageList)
    (hagree : Sys.AgreeOn d.Owns w.sys v.sys)
    (hs : s.mounted = (visit f w.sys w.storage.storageList).state.mounted)
    (ht : t.mounted = (visit f v.sys v.storage.storageList).state.mounted) :
    Sees d.address ⟨s, { storageList := (visit f w.sys w.storage.storageList).obj }⟩
      ⟨t, { storageList := (visit f v.sys v.storage.storageList).obj }⟩ := by
  obtain ⟨hat, hstate⟩ := visited (t := s) hwithin halike hw hwa hd
  obtain ⟨hat', hstate'⟩ := visited (t := t) hwithin halike hv hva hd'
  have hown := halike hagree
  have hR := Sys.AgreeOn.equivalence d.Owns
  have hlast : Sys.AgreeOn d.Owns s t :=
    (hR.trans (hR.symm hstate) (hR.trans hown.state hstate')).congr hs ht
  refine ⟨by rw [hat, hat', hown.obj], fun e he => ?_⟩
  obtain rfl : (f w.sys d).obj = e := Option.some.inj (hat.symm.trans he)
  exact hlast.mono (Owns.mono (hwithin w.sys d).idents)

end Loop

/-- The loop that unmounts everything for a suspend writes to no device. -/
theorem umountAllDriveLoop_eq (env : Env) (lazyUnmount : Bool) {l : List StorageDevice} :
    ∀ (s : Sys) (ret : Bool),
      (StorageDeviceHandler.umountAllDriveLoop env lazyUnmount s ret l).2 =
          (visit (fun s d => (⟨(suspendUmountAllPartitions env s d lazyUnmount).2, d, ()⟩ :
            Out StorageDevice Unit)) s l).state ∧
        (visit (fun s d => (⟨(suspendUmountAllPartitions env s d lazyUnmount).2, d, ()⟩ :
            Out StorageDevice Unit)) s l).obj = l := by
  induction l with
  | nil => intro s ret; exact ⟨rfl, rfl⟩
  | cons d ds ih =>
      intro s ret
      obtain ⟨hstate, hobj⟩ := ih (suspendUmountAllPartitions env s d lazyUnmount).2
        (if (suspendUmountAllPartitions env s d lazyUnmount).1 = false then false else ret)
      rw [Visit.visit_cons, hobj]
      exact ⟨hstate, rfl⟩

/-! ### One input -/

theorem deviceTask_missing {task : Sys → StorageDevice → Out StorageDevice Unit}
    (hd : w.deviceAt address = none) :
    after (w.storage.deviceTask w.sys address task) = w := by
  unfold StorageDeviceHandler.deviceTask
  rw [show w.storage.storageList.find? (·.address = address) = none from hd]
  rfl

theorem deviceTask_found {task : Sys → StorageDevice → Out StorageDevice Unit}
    (hd : w.deviceAt address = some d) :
    after (w.storage.deviceTask w.sys address task) =
      ⟨(task w.sys d).state, w.storage.setDevice (task w.sys d).obj⟩ := by
  unfold StorageDeviceHandler.deviceTask
  rw [show w.storage.storageList.find? (·.address = address) = some d from hd]
  rfl

variable {cfg : Config} {env : Env} {input : StorageInput}

/-- A command about one device concerns the device that is found. -/
theorem concerns_command {cmdtypes : CommandType} (hall : cmdtypes ≠ .umountAllDrive)
    (l : List StorageDevice) :
    (StorageInput.command cmdtypes).concerns l address =
      (cmdtypes.seeks l).any (·.address = address) := by
  cases cmdtypes <;> first | rfl | exact absurd rfl hall

/-- **An input that does not concern a device is not seen by it.** -/
theorem deliver_others (hw : w.Valid) (hapart : w.Apart)
    (hevent : ∀ devClass, input ≠ .uevent devClass)
    (hc : input.concerns w.storage.storageList address = false) :
    Sees address w (w.deliver cfg env input) := by
  have htask : ∀ device, device ≠ address →
      Sees address w (after (w.storage.deviceTask w.sys device (input.task env))) := by
    intro device hne
    cases hd : w.deviceAt device with
    | none =>
      rw [deviceTask_missing hd]
      exact (sees_equivalence address).refl w
    | some d =>
      obtain ⟨hmem, rfl⟩ := deviceAt_mem hd
      rw [deviceTask_found hd]
      exact sees_other hapart hmem hne (input.task_within env w.sys d)
  cases input with
  | uevent devClass => exact absurd rfl (hevent devClass)
  | pluginEvent eventType => cases hc
  | fsckThread device partition => exact htask device (of_decide_eq_false hc)
  | timeout device => exact htask device (of_decide_eq_false hc)
  | command cmdtypes =>
    by_cases hall : cmdtypes = .umountAllDrive
    · rw [hall] at hc
      cases hc
    rw [concerns_command hall] at hc
    change Sees address w ⟨(w.storage.HandlerCommand env w.sys cmdtypes).state,
      (w.storage.HandlerCommand env w.sys cmdtypes).obj⟩
    cases hd : cmdtypes.seeks w.storage.storageList with
    | none =>
      obtain ⟨hstate, hobj⟩ := StorageDeviceHandler.HandlerCommand_missing env w.sys hall hd
      rw [hstate, hobj]
      exact (sees_equivalence address).refl w
    | some d =>
      rw [hd] at hc
      obtain ⟨hstate, hobj, -⟩ := StorageDeviceHandler.HandlerCommand_found env w.sys hw hd
      rw [hstate, hobj]
      exact sees_other hapart (StorageDeviceHandler.seeks_mem hd) (by simpa using hc)
        (cmdtypes.method_within env)

variable (cfg env) in
/-- **A plugin event does to a device what it does to the device alone.** -/
theorem plugin_alone (hw : w.Valid) (hapart : w.Apart) (hd : w.deviceAt address = some d)
    (eventType : PluginEvent) :
    (w.deliver cfg env (.pluginEvent eventType)).deviceAt address =
        some (d.onPluginEvent env w.sys eventType).obj ∧
      Sys.AgreeOn d.Owns (d.onPluginEvent env w.sys eventType).state
        (w.deliver cfg env (.pluginEvent eventType)).sys := by
  obtain ⟨hmem, rfl⟩ := deviceAt_mem hd
  have hloop := fun t : Sys => visited (t := t)
    (f := fun s d => d.onPluginEvent env s eventType)
    (fun s d => onPluginEvent_within env eventType s d)
    (fun h => onPluginEvent_alike env eventType h) hw hapart hmem
  have hsuspend : ∀ lazyUnmount,
      (∀ (s : Sys) (d : StorageDevice), d.onPluginEvent env s eventType =
        ⟨(suspendUmountAllPartitions env s d lazyUnmount).2, d, ()⟩) →
      Sys.AgreeOn d.Owns (d.onPluginEvent env w.sys eventType).state
        (StorageDeviceHandler.umountAllDriveLoop env lazyUnmount w.sys true
          w.storage.storageList).2 := by
    intro lazyUnmount hevent
    rw [(umountAllDriveLoop_eq env lazyUnmount (l := w.storage.storageList) w.sys true).1,
      ← funext₂ hevent]
    exact (hloop w.sys).2
  cases eventType with
  | powerProcessRequestSuspend =>
    refine ⟨?_, fun m _ => Iff.rfl⟩
    change (w.storage.storageList.map (·.suspendRequest)).find? (·.address = d.address) =
      some d.suspendRequest
    rw [List.find?_map]
    exact congrArg (Option.map (·.suspendRequest)) hd
  | powerProcessPrepareResume => exact hloop _
  | powerProcessRequestUmountAll => exact ⟨hd, hsuspend false fun _ _ => rfl⟩
  | powerProcessPrepareSuspend => exact ⟨hd, hsuspend true fun _ _ => rfl⟩
  | _ => exact ⟨hd, fun m _ => Iff.rfl⟩

section Own

variable (hw : w.Valid) (hv : v.Valid) (hwa : w.Apart) (hva : v.Apart)
  (hd : w.deviceAt address = some d) (hsees : Sees address w v)
include hw hv hd hsees

/-- The device that is found is the one the input concerns. -/
theorem found_own {cmdtypes : CommandType} (hall : cmdtypes ≠ .umountAllDrive)
    (hcw : (StorageInput.command cmdtypes).concerns w.storage.storageList address = true)
    (hcv : (StorageInput.command cmdtypes).concerns v.storage.storageList address = true) :
    cmdtypes.seeks w.storage.storageList = some d ∧
      cmdtypes.seeks v.storage.storageList = some d := by
  have hfound : ∀ {u : StorageSystem}, u.Valid → u.deviceAt address = some d →
      (StorageInput.command cmdtypes).concerns u.storage.storageList address = true →
      cmdtypes.seeks u.storage.storageList = some d := by
    intro u hu hdu hcu
    rw [concerns_command hall] at hcu
    cases hx : cmdtypes.seeks u.storage.storageList with
    | none =>
      rw [hx] at hcu
      cases hcu
    | some x =>
      rw [hx] at hcu
      have haddress : x.address = address := of_decide_eq_true hcu
      have hat := find_address hu.nodup (StorageDeviceHandler.seeks_mem hx)
      rw [haddress] at hat
      exact hat.symm.trans hdu
  exact ⟨hfound hw hd hcw, hfound hv (hsees.1.symm.trans hd) hcv⟩

/-- **A command for a device is answered the same where the device sees the same.** -/
theorem reply_own {cmdtypes : CommandType} (hall : cmdtypes ≠ .umountAllDrive)
    (hcw : (StorageInput.command cmdtypes).concerns w.storage.storageList address = true)
    (hcv : (StorageInput.command cmdtypes).concerns v.storage.storageList address = true) :
    (w.storage.HandlerCommand env w.sys cmdtypes).ret.2 =
      (v.storage.HandlerCommand env v.sys cmdtypes).ret.2 := by
  obtain ⟨hx, hy⟩ := found_own hw hv hd hsees hall hcw hcv
  rw [(StorageDeviceHandler.HandlerCommand_found env w.sys hw hx).2.2,
    (StorageDeviceHandler.HandlerCommand_found env v.sys hv hy).2.2,
    (cmdtypes.method_alike env (hsees.2 d hd)).ret]

include hwa hva

/-- **What an input makes of a device it concerns hangs on what the device sees.** -/
theorem deliver_own (hevent : ∀ devClass, input ≠ .uevent devClass)
    (hcw : input.concerns w.storage.storageList address = true)
    (hcv : input.concerns v.storage.storageList address = true) :
    Sees address (w.deliver cfg env input) (v.deliver cfg env input) := by
  have hd' : v.deviceAt address = some d := hsees.1.symm.trans hd
  have hagree : Sys.AgreeOn d.Owns w.sys v.sys := hsees.2 d hd
  obtain ⟨hmem, rfl⟩ := deviceAt_mem hd
  have hmem' := (deviceAt_mem hd').1
  have hM : ∀ d : StorageDevice, ∀ p ∈ d.diskPartitionList, d.Owns p.mountName :=
    fun _ p hp => ⟨p, hp, rfl⟩
  have htask : Sees d.address (after (w.storage.deviceTask w.sys d.address (input.task env)))
      (after (v.storage.deviceTask v.sys d.address (input.task env))) := by
    have halike := input.task_alike env hagree
    rw [deviceTask_found hd, deviceTask_found hd', ← halike.obj]
    exact sees_own hw hv hmem hmem' (input.task_within env w.sys d) halike.state
  cases input with
  | uevent devClass => exact absurd rfl (hevent devClass)
  | fsckThread device partition =>
    obtain rfl : device = d.address := of_decide_eq_true hcw
    exact htask
  | timeout device =>
    obtain rfl : device = d.address := of_decide_eq_true hcw
    exact htask
  | pluginEvent eventType =>
    obtain ⟨hat, hstate⟩ := plugin_alone cfg env hw hwa hd eventType
    obtain ⟨hat', hstate'⟩ := plugin_alone cfg env hv hva hd' eventType
    have halike := onPluginEvent_alike env eventType hagree
    rw [← halike.obj] at hat'
    refine ⟨hat.trans hat'.symm, fun e he => ?_⟩
    obtain rfl := Option.some.inj (hat.symm.trans he)
    have hR := Sys.AgreeOn.equivalence d.Owns
    exact (hR.trans (hR.symm hstate) (hR.trans halike.state hstate')).mono
      (Owns.mono (onPluginEvent_within env eventType w.sys d).idents)
  | command cmdtypes =>
    by_cases hall : cmdtypes = .umountAllDrive
    · subst hall
      change Sees d.address ⟨(StorageDeviceHandler.umountAllDrive env w.sys w.storage).state,
          (StorageDeviceHandler.umountAllDrive env w.sys w.storage).obj⟩
        ⟨(StorageDeviceHandler.umountAllDrive env v.sys v.storage).state,
          (StorageDeviceHandler.umountAllDrive env v.sys v.storage).obj⟩
      unfold StorageDeviceHandler.umountAllDrive
      rw [if_neg (List.ne_nil_of_mem hmem), if_neg (List.ne_nil_of_mem hmem')]
      exact sees_visited (fun s d => umountAllPartition_within env s d false)
        (fun {_ _ d} h => umountAllPartition_alike env (hM d) h false)
        hw hv hwa hva hmem hmem' hagree rfl rfl
    · obtain ⟨hx, hy⟩ := found_own hw hv hd hsees hall hcw hcv
      have halike := cmdtypes.method_alike env hagree
      obtain ⟨hstate, hobj, -⟩ := StorageDeviceHandler.HandlerCommand_found env w.sys hw hx
      obtain ⟨hstate', hobj', -⟩ := StorageDeviceHandler.HandlerCommand_found env v.sys hv hy
      change Sees d.address ⟨(w.storage.HandlerCommand env w.sys cmdtypes).state,
          (w.storage.HandlerCommand env w.sys cmdtypes).obj⟩
        ⟨(v.storage.HandlerCommand env v.sys cmdtypes).state,
          (v.storage.HandlerCommand env v.sys cmdtypes).obj⟩
      rw [hstate, hobj, hstate', hobj', ← halike.obj]
      exact sees_own hw hv hmem hmem' (cmdtypes.method_within env) halike.state

end Own

/-! ### Runs -/

/-- The devices of `w₀`, whatever has been done to them since. -/
structure Cast (w₀ w : StorageSystem) : Prop where
  valid : w.Valid
  apart : w.Apart
  cores : w.storage.storageList.map core = w₀.storage.storageList.map core

namespace Cast

variable {w₀ : StorageSystem}

theorem clear (h : Cast w₀ w) : Cast w₀ w.clear :=
  ⟨⟨h.valid.nodup, h.valid.given, h.valid.parts⟩, h.apart, h.cores⟩

/-- What an input concerns does not change. -/
theorem concerns (h : Cast w₀ w) (input : StorageInput) (address : Nat) :
    input.concerns w.storage.storageList address =
      input.concerns w₀.storage.storageList address := by
  cases input with
  | command cmdtypes =>
    by_cases hall : cmdtypes = .umountAllDrive
    · subst hall
      rfl
    · have hcore : ∀ found : Option StorageDevice,
          (found.map core).any (·.address = address) = found.any (·.address = address) := by
        intro found
        cases found <;> rfl
      have hfound : (cmdtypes.seeks w.storage.storageList).map core =
          (cmdtypes.seeks w₀.storage.storageList).map core := by
        rw [cmdtypes.seeks_core, cmdtypes.seeks_core, h.cores]
      rw [concerns_command hall, concerns_command hall, ← hcore, hfound, hcore]
  | _ => rfl

/-- A listed device stays listed. -/
theorem listed (h : Cast w₀ w) (hd : d ∈ w₀.storage.storageList) :
    ∃ e, w.deviceAt d.address = some e := by
  have hcore : d.core ∈ w.storage.storageList.map core := by
    rw [h.cores]
    exact List.mem_map_of_mem hd
  obtain ⟨e, he, hed⟩ := List.mem_map.mp hcore
  have hat := find_address h.valid.nodup he
  rw [address_of_core hed] at hat
  exact ⟨e, hat⟩

theorem step {i : Env × StorageInput} (h : Cast w₀ w)
    (hevent : ∀ devClass, i.2 ≠ .uevent devClass) : Cast w₀ (StorageSystem.step cfg w i) := by
  have hwithin := w.clear.deliver_within cfg i.1 hevent
  refine ⟨step_valid h.valid i, fun d hd e he hne p hp q hq hpq => ?_, ?_⟩
  · obtain ⟨d', hd', hcore, -, hidents⟩ := hwithin.each d hd
    obtain ⟨e', he', hcore', -, hidents'⟩ := hwithin.each e he
    rw [address_of_core hcore, address_of_core hcore'] at hne
    have howns := Owns.mono hidents _ ⟨p, hp, rfl⟩
    exact h.apart.owns hd' he' hne _ howns (Owns.mono hidents' _ ⟨q, hq, hpq.symm⟩)
  · refine (Keyed.map_eq_of_each (fun d : StorageDevice => d.address) core h.valid.nodup
      hwithin.listed fun e he => ?_).trans h.cores
    obtain ⟨d, hd, hcore, -, -⟩ := hwithin.each e he
    exact ⟨d, hd, address_of_core hcore, hcore⟩

end Cast

theorem reply_command {cmdtypes : CommandType} (hall : cmdtypes ≠ .umountAllDrive) :
    w.reply (env, .command cmdtypes) =
      (w.storage.HandlerCommand env w.clear.sys cmdtypes).ret.2 := by
  unfold reply
  cases cmdtypes <;> first | rfl | exact absurd rfl hall

/-- The storage handler unwinds for every listed device. -/
theorem unwinds (cfg : Config) {w₀ : StorageSystem} (hd : d ∈ w₀.storage.storageList) :
    Noninterference.Unwinds (step cfg) reply
      (fun i => i.2.concerns w₀.storage.storageList d.address) (Sees d.address) (Cast w₀)
      (fun i => ∀ devClass, i.2 ≠ .uevent devClass) where
  equiv := sees_equivalence d.address
  keeps _ _ hw hevent := hw.step hevent
  others w i hw hevent hc := by
    rw [← hw.concerns] at hc
    exact deliver_others (w := w.clear) hw.clear.valid hw.clear.apart hevent hc
  own w v i hw hv hevent hc hsees := by
    obtain ⟨e, he⟩ := hw.listed hd
    exact deliver_own (w := w.clear) (v := v.clear) hw.clear.valid hv.clear.valid hw.clear.apart
      hv.clear.apart he hsees hevent ((hw.concerns i.2 d.address).trans hc)
      ((hv.concerns i.2 d.address).trans hc)
  answered w v i hw hv hevent hc hsees := by
    obtain ⟨e, he⟩ := hw.listed hd
    obtain ⟨env, input⟩ := i
    cases input with
    | command cmdtypes =>
      by_cases hall : cmdtypes = .umountAllDrive
      · subst hall
        rfl
      · rw [reply_command hall, reply_command hall]
        exact reply_own (w := w.clear) (v := v.clear) hw.clear.valid hv.clear.valid he hsees hall
          ((hw.concerns _ d.address).trans hc) ((hv.concerns _ d.address).trans hc)
    | _ => rfl

/-- **Devices do not interfere between uevents.**  From any state that is reached in which no
two devices have a mount point in common: what becomes of a device and of its mounts, and how
its commands are answered, is the same for any two sequences of commands, plugin events,
threads and timeouts that agree on the inputs that concern the device. -/
theorem devices_independent (cfg : Config) (history is js : List (Env × StorageInput))
    (hapart : (Runs.run (step cfg) {} history).Apart)
    (hevent : ∀ i ∈ is ++ js, ∀ devClass, i.2 ≠ .uevent devClass)
    (hd : d ∈ (Runs.run (step cfg) {} history).storage.storageList) :
    let w := Runs.run (step cfg) {} history
    let concerns := fun i : Env × StorageInput =>
      i.2.concerns w.storage.storageList d.address
    is.filter concerns = js.filter concerns →
      (∃ e, (Runs.run (step cfg) w is).deviceAt d.address = some e ∧
        (Runs.run (step cfg) w js).deviceAt d.address = some e ∧
        ∀ m, e.Owns m → (m ∈ (Runs.run (step cfg) w is).sys.mounted ↔
          m ∈ (Runs.run (step cfg) w js).sys.mounted)) ∧
      Noninterference.answers (step cfg) reply concerns w is =
        Noninterference.answers (step cfg) reply concerns w js := by
  intro w concerns hsame
  have hvalid : w.Valid := Runs.run_invariant (I := Valid) (fun _ i h => step_valid h i) init_valid
  have hunwinds := unwinds cfg hd
  have hcast : Cast w w := ⟨hvalid, hapart, rfl⟩
  have his := fun i hi => hevent i (List.mem_append_left js hi)
  have hjs := fun j hj => hevent j (List.mem_append_right is hj)
  obtain ⟨⟨hat, hmounts⟩, hanswers⟩ := hunwinds.same hcast his hjs hsame
  obtain ⟨e, he⟩ := (hunwinds.run_keeps hcast his).listed hd
  exact ⟨⟨e, he, hat.symm.trans he, hmounts e he⟩, hanswers⟩

/-- Two sticks are plugged. -/
def plugTwoSticks : List (Env × StorageInput) :=
  plugStick ++
    [({}, .uevent (stickEvent "/devices/usb1/1-2")),
      (onePartition, .uevent (diskEvent "/devices/usb1/1-2/block/sdb" "sdb")),
      ({}, .uevent (partitionEvent "/devices/usb1/1-2/block/sdb/sdb1" "sdb1")),
      ({}, .fsckThread 2 3)]

/-- The first stick is formatted before the second is checked, or after it. -/
theorem devices_independent_two_sticks :
    let w := Runs.run (step .tmpUsb) {} plugTwoSticks
    ∃ e, (Runs.run (step .tmpUsb) w [({}, .command (.format "sda1" "ext4" "")),
        ({}, .command (.fsck "sdb1"))]).deviceAt 0 = some e ∧
      (Runs.run (step .tmpUsb) w [({}, .command (.fsck "sdb1")),
        ({}, .command (.format "sda1" "ext4" ""))]).deviceAt 0 = some e := by
  obtain ⟨d, hd, haddress⟩ :
      ∃ d ∈ (Runs.run (step .tmpUsb) {} plugTwoSticks).storage.storageList, d.address = 0 := by
    decide
  have h := devices_independent .tmpUsb plugTwoSticks
    [({}, .command (.format "sda1" "ext4" "")), ({}, .command (.fsck "sdb1"))]
    [({}, .command (.fsck "sdb1")), ({}, .command (.format "sda1" "ext4" ""))]
    (by decide) (by simp) hd
  rw [haddress] at h
  obtain ⟨⟨e, he, he', -⟩, -⟩ := h rfl
  exact ⟨e, he, he'⟩

end StorageSystem

end Pdm
