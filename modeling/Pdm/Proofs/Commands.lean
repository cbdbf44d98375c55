/-
Which partition a command acts on.

A command that names a drive goes to the first device whose name the drive's name
starts with, and that device looks for a partition with exactly the name.  `commandOn`
is what the command does to a given partition of a given device.  **A command reaches the
drive it names exactly when no device with a shorter name, or with no name yet, stands
ahead of the holder.**
-/
import Pdm.Lib.Foremost
import Pdm.Proofs.WellFormed

namespace Pdm

open StorageDevice

/-! ### Commands about one drive -/

namespace CommandType

/-- The drive a command about one drive names. -/
def drive : CommandType → Option String
  | .format driveName _ _ => some driveName
  | .fsck driveName => some driveName
  | .setVolumeLabel driveName _ => some driveName
  | .isWritableDrive driveName => some driveName
  | .spaceInfo _ driveName => some driveName
  | _ => none

/-- The name that is looked for: FSCK drops its blanks. -/
def sought (cmdtypes : CommandType) (driveName : String) : String :=
  match cmdtypes with
  | .fsck _ => removeBlanks driveName
  | _ => driveName

/-- The answer when no device is found. -/
def noDevice : CommandType → PdmDevStatus
  | .isWritableDrive _ => .error
  | _ => .driveNotFound

/-- The answer when the device found has no such partition. -/
def noPartition : CommandType → PdmDevStatus
  | .spaceInfo _ _ => .driveNotMounted
  | _ => .partitionNotFound

end CommandType

namespace StorageDeviceHandler

variable (env : Env) (s : Sys) (h : StorageDeviceHandler)

/-- Take over what a method of a device leaves, and answer with its status. -/
def answered (h : StorageDeviceHandler) (r : Out StorageDevice PdmDevStatus) :
    Out StorageDeviceHandler (Bool × Option CommandResponse) :=
  ⟨r.state, h.setDevice r.obj, (true, some { result := r.ret })⟩

/-- A command about one drive, carried out on the partition `p` of the device `d`. -/
def commandOn (d : StorageDevice) (p : DiskPartitionInfo) :
    CommandType → Out StorageDeviceHandler (Bool × Option CommandResponse)
  | .format _ fsType volumeLabel => h.answered (d.formatOn env s p fsType volumeLabel)
  | .fsck _ => h.answered (d.fsckOn env s p)
  | .setVolumeLabel _ volumeLabel => h.answered (d.setVolumeLabelOn env s p volumeLabel)
  | .isWritableDrive _ =>
    let r := PdmFs.isWritable env s p
    ⟨r.2, h, (true, some (writableResponse r.1))⟩
  | .spaceInfo directCheck _ =>
    let r := d.getSpaceInfoOn env p directCheck
    ⟨s, h.setDevice r.1, (true, some (spaceResponse r.2))⟩
  | _ => ⟨s, h, (false, none)⟩

/-- The device and the partition at which the two searches of a command end. -/
def actedOn (h : StorageDeviceHandler) (cmdtypes : CommandType) (driveName : String) :
    Option (StorageDevice × DiskPartitionInfo) :=
  (getDeviceWithName h.storageList (cmdtypes.sought driveName)).bind fun d =>
    (d.findPartition (cmdtypes.sought driveName)).map fun p => (d, p)

/-- Writing a listed device back as it is changes nothing. -/
theorem setDevice_self (hwf : WellFormed s h.storageList) {d : StorageDevice}
    (hd : d ∈ h.storageList) : h.setDevice d = h := by
  have hself : writeBack h.storageList d = h.storageList :=
    Keyed.put_self (fun x : StorageDevice => x.address) hwf.nodup hd
  unfold setDevice
  rw [hself]

/-- What a command about one drive does, for the partition its searches end at. -/
def driveAnswer (cmdtypes : CommandType) (driveName : String) :
    Out StorageDeviceHandler (Bool × Option CommandResponse) :=
  match getDeviceWithName h.storageList (cmdtypes.sought driveName) with
  | none => ⟨s, h, (false, some { result := cmdtypes.noDevice })⟩
  | some d =>
    match d.findPartition (cmdtypes.sought driveName) with
    | none => ⟨s, h, (true, some { result := cmdtypes.noPartition })⟩
    | some p => commandOn env s h d p cmdtypes

theorem driveAnswer_found {cmdtypes : CommandType} {driveName : String} {d : StorageDevice}
    {p : DiskPartitionInfo} (hacted : h.actedOn cmdtypes driveName = some (d, p)) :
    driveAnswer env s h cmdtypes driveName = commandOn env s h d p cmdtypes := by
  obtain ⟨e, he, hep⟩ := Option.bind_eq_some_iff.mp hacted
  obtain ⟨q, hq, hpair⟩ := Option.map_eq_some_iff.mp hep
  obtain ⟨rfl, rfl⟩ := Prod.mk.inj hpair
  unfold driveAnswer
  rw [he]
  dsimp only
  rw [hq]

theorem driveAnswer_missed {cmdtypes : CommandType} {driveName : String}
    (hacted : h.actedOn cmdtypes driveName = none) :
    ∃ ret, driveAnswer env s h cmdtypes driveName = ⟨s, h, ret⟩ := by
  unfold actedOn at hacted
  unfold driveAnswer
  cases hd : getDeviceWithName h.storageList (cmdtypes.sought driveName) with
  | none => exact ⟨_, rfl⟩
  | some d =>
    rw [hd, Option.bind_some, Option.map_eq_none_iff] at hacted
    dsimp only
    rw [hacted]
    exact ⟨_, rfl⟩

/-- **What a command about one drive does**, in terms of the two searches. -/
theorem HandlerCommand_drive (hwf : WellFormed s h.storageList) {cmdtypes : CommandType}
    {driveName : String} (hdrive : cmdtypes.drive = some driveName) :
    h.HandlerCommand env s cmdtypes = driveAnswer env s h cmdtypes driveName := by
  have hself := fun name d (hd : getDeviceWithName h.storageList name = some d) =>
    setDevice_self s h hwf (mem_of_name h d hd)
  unfold HandlerCommand driveAnswer commandOn
  cases cmdtypes with
  | format name fsType volumeLabel =>
    obtain rfl : name = driveName := Option.some.inj hdrive
    dsimp only [CommandType.sought, format, onDevice, formatDiskStart]
    cases hd : getDeviceWithName h.storageList name with
    | none => rfl
    | some d =>
      dsimp only
      cases d.findPartition name with
      | none =>
        dsimp only
        rw [hself name d hd]
        rfl
      | some p => rfl
  | fsck name =>
    obtain rfl : name = driveName := Option.some.inj hdrive
    dsimp only [CommandType.sought, fsck, onDevice, StorageDevice.fsck]
    cases hd : getDeviceWithName h.storageList (removeBlanks name) with
    | none => rfl
    | some d =>
      dsimp only
      cases d.findPartition (removeBlanks name) with
      | none =>
        dsimp only
        rw [hself _ d hd]
        rfl
      | some p => rfl
  | setVolumeLabel name volumeLabel =>
    obtain rfl : name = driveName := Option.some.inj hdrive
    dsimp only [CommandType.sought, setVolumeLabel, onDevice, setPartitionVolumeLabel]
    cases hd : getDeviceWithName h.storageList name with
    | none => rfl
    | some d =>
      dsimp only
      cases d.findPartition name with
      | none =>
        dsimp only
        rw [hself name d hd]
        rfl
      | some p => rfl
  | isWritableDrive name =>
    obtain rfl : name = driveName := Option.some.inj hdrive
    dsimp only [CommandType.sought, isWritableDrive, StorageDevice.isWritable]
    cases getDeviceWithName h.storageList name with
    | none => rfl
    | some d =>
      dsimp only
      cases d.findPartition name with
      | none => rfl
      | some p => rfl
  | spaceInfo directCheck name =>
    obtain rfl : name = driveName := Option.some.inj hdrive
    dsimp only [CommandType.sought, getSpaceInfo, StorageDevice.getSpaceInfo]
    cases hd : getDeviceWithName h.storageList name with
    | none => rfl
    | some d =>
      dsimp only
      cases d.findPartition name with
      | none =>
        dsimp only
        rw [hself name d hd]
        rfl
      | some p => rfl
  | eject deviceNumber => exact absurd hdrive (by simp [CommandType.drive])
  | mountFsck needFsck mountName => exact absurd hdrive (by simp [CommandType.drive])
  | umountAllDrive => exact absurd hdrive (by simp [CommandType.drive])
  | other => exact absurd hdrive (by simp [CommandType.drive])

/-- A command that acts on a partition has found it, and says so. -/
theorem commandOn_found {cmdtypes : CommandType} {driveName : String}
    (hdrive : cmdtypes.drive = some driveName) (d : StorageDevice) (p : DiskPartitionInfo) :
    ∃ response, (commandOn env s h d p cmdtypes).ret = (true, some response) ∧
      response.result ≠ .partitionNotFound ∧ response.result ≠ .driveNotFound := by
  cases cmdtypes with
  | format name fsType volumeLabel =>
    refine ⟨_, rfl, ?_⟩
    dsimp only
    unfold formatOn
    split
    · simp
    · dsimp only
      split
      · simp
      · -- Whether the format fails or the mount after it, the answer is the same.
        split
        · split <;> simp
        · simp
  | fsck name =>
    refine ⟨_, rfl, ?_⟩
    dsimp only
    unfold fsckOn
    split
    · simp
    · dsimp only
      split
      · simp
      · dsimp only
        split <;> simp
  | setVolumeLabel name volumeLabel =>
    refine ⟨_, rfl, ?_⟩
    dsimp only [setVolumeLabelOn]
    unfold PdmFs.setVolumeLabel
    split
    · simp
    · dsimp only
      split
      · simp
      · split <;> simp
  | isWritableDrive name =>
    refine ⟨_, rfl, ?_⟩
    dsimp only [writableResponse]
    unfold PdmFs.isWritable
    dsimp only
    split <;> simp
  | spaceInfo directCheck name =>
    refine ⟨_, rfl, ?_⟩
    unfold spaceResponse
    split <;> simp
  | eject deviceNumber => exact absurd hdrive (by simp [CommandType.drive])
  | mountFsck needFsck mountName => exact absurd hdrive (by simp [CommandType.drive])
  | umountAllDrive => exact absurd hdrive (by simp [CommandType.drive])
  | other => exact absurd hdrive (by simp [CommandType.drive])

end StorageDeviceHandler

/-! ### Reaching the drive that is named -/

/-- The device holds a partition with this name. -/
def StorageDevice.Holds (d : StorageDevice) (driveName : String) : Prop :=
  ∃ p ∈ d.diskPartitionList, p.driveName = driveName

theorem StorageDevice.Holds.find {d : StorageDevice} {driveName : String} (h : d.Holds driveName)
    (hname : driveName ≠ "") : ∃ p, d.findPartition driveName = some p :=
  Option.isSome_iff_exists.mp ((d.findPartition_isSome hname).mpr (List.mem_map.mpr h))

theorem StorageDevice.ne_empty_of_findPartition {d : StorageDevice} {driveName : String}
    {p : DiskPartitionInfo} (h : d.findPartition driveName = some p) : driveName ≠ "" := by
  intro hname
  rw [hname, findPartition_empty] at h
  exact absurd h (by simp)

theorem handlerCb_calls_ne_nil (s : Sys) (event : EventType) (device : Option Nat) :
    (handlerCb s event device).calls ≠ [] := by
  unfold handlerCb
  split <;> simp [Sys.notify, Sys.record]

/-- FSCK of a partition of a device that can be written to leaves a trace: the search for
its users, a notice, or the check itself. -/
theorem StorageDevice.fsckOn_calls (env : Env) (s : Sys) (d : StorageDevice)
    (p : DiskPartitionInfo) (hwritable : d.isReadOnly = false) :
    (d.fsckOn env s p).state.calls ≠ [] := by
  have humount : (umountPartition env s p false).ret ≠ .success →
      (umountPartition env s p false).state.calls ≠ [] := by
    intro hret
    unfold umountPartition driveInTheWay PdmFs.isDriveBusy at hret ⊢
    by_cases hmounted : p.mounted = false
    · rw [if_pos hmounted] at hret
      exact absurd rfl hret
    · rw [if_neg hmounted] at hret ⊢
      simp only [Bool.false_eq_true, if_false]
      split
      · simp [Sys.execShellCmd, Sys.record]
      · split
        · exact handlerCb_calls_ne_nil _ _ _
        · exact handlerCb_calls_ne_nil _ _ _
  unfold fsckOn
  rw [hwritable, if_neg Bool.false_ne_true]
  dsimp only
  by_cases hret : (umountPartition env s p false).ret ≠ .success
  · rw [if_pos hret]
    exact humount hret
  · rw [if_neg hret]
    exact handlerCb_calls_ne_nil _ _ _

namespace StorageSystem

/-- Some device holds a partition with this name. -/
def Held (w : StorageSystem) (driveName : String) : Prop :=
  ∃ d ∈ w.storage.storageList, d.Holds driveName

/-- Of the devices whose name the given name starts with, the one listed foremost is `d`,
and `d` holds a partition with exactly that name. -/
def LeadsTo (w : StorageSystem) (driveName : String) (d : StorageDevice) : Prop :=
  driveName ≠ "" ∧ d.Holds driveName ∧
    Foremost (fun d => startsWith driveName d.deviceName = true) w.storage.storageList d

/-- The command is carried out on a partition with the name, of a device that holds one,
and is answered as one that found it. -/
def ActsOnNamed (w : StorageSystem) (env : Env) (cmdtypes : CommandType) (driveName : String) :
    Prop :=
  ∃ d ∈ w.storage.storageList, ∃ p ∈ d.diskPartitionList, p.driveName = driveName ∧
    w.storage.actedOn cmdtypes driveName = some (d, p) ∧
    w.storage.HandlerCommand env w.sys cmdtypes = w.storage.commandOn env w.sys d p cmdtypes ∧
    ∀ response, (w.storage.HandlerCommand env w.sys cmdtypes).ret.2 = some response →
      response.result ≠ .partitionNotFound ∧ response.result ≠ .driveNotFound

/-- A command about a drive acts on the partition with that name, and where no device
holds one, changes nothing and calls nothing. -/
def Reaches (w : StorageSystem) (i : Env × StorageInput) : Prop :=
  ∀ cmdtypes driveName, i.2 = .command cmdtypes → cmdtypes.drive = some driveName →
    (w.Held driveName → w.clear.ActsOnNamed i.1 cmdtypes driveName) ∧
    (¬ w.Held driveName → w.clear.deliver .tmpUsb i.1 i.2 = w.clear)

/-- The names and their order lead to the drive: where some device holds the name, no
device with a prefix of it for a name stands ahead of a holder that has one too, and FSCK
is given the name without blanks.  Where none does, the name that FSCK makes of it leads
to no drive, or to one of a device that cannot be written to. -/
def NamesReach (w : StorageSystem) (i : Env × StorageInput) : Prop :=
  ∀ cmdtypes driveName, i.2 = .command cmdtypes → cmdtypes.drive = some driveName →
    (w.Held driveName → cmdtypes.sought driveName = driveName ∧ ∃ d, w.LeadsTo driveName d) ∧
    (¬ w.Held driveName →
      ∀ d, w.LeadsTo (cmdtypes.sought driveName) d → d.isReadOnly = true)

/-- The two searches of a command end in a device exactly where the name leads to it. -/
theorem actedOn_iff {w : StorageSystem} {cmdtypes : CommandType} {driveName : String}
    {d : StorageDevice} :
    (∃ p, w.storage.actedOn cmdtypes driveName = some (d, p)) ↔
      w.LeadsTo (cmdtypes.sought driveName) d := by
  unfold StorageDeviceHandler.actedOn LeadsTo
  rw [Foremost.iff_find?]
  constructor
  · intro h
    obtain ⟨p, hp⟩ := h
    obtain ⟨e, he, hep⟩ := Option.bind_eq_some_iff.mp hp
    obtain ⟨q, hq, hpair⟩ := Option.map_eq_some_iff.mp hep
    obtain ⟨rfl, rfl⟩ := Prod.mk.inj hpair
    exact ⟨ne_empty_of_findPartition hq, ⟨q, e.findPartition_mem hq⟩, he⟩
  · intro h
    obtain ⟨hname, hholds, hd⟩ := h
    obtain ⟨p, hp⟩ := hholds.find hname
    exact ⟨p, Option.bind_eq_some_iff.mpr ⟨d, hd, Option.map_eq_some_iff.mpr ⟨p, hp, rfl⟩⟩⟩

/-- The partition that a command ends at has the name that is looked for. -/
theorem actedOn_holds {w : StorageSystem} {cmdtypes : CommandType} {driveName : String}
    {d : StorageDevice} {p : DiskPartitionInfo}
    (h : w.storage.actedOn cmdtypes driveName = some (d, p)) :
    d ∈ w.storage.storageList ∧ p ∈ d.diskPartitionList ∧
      p.driveName = cmdtypes.sought driveName := by
  unfold StorageDeviceHandler.actedOn at h
  obtain ⟨e, he, hep⟩ := Option.bind_eq_some_iff.mp h
  obtain ⟨q, hq, hpair⟩ := Option.map_eq_some_iff.mp hep
  obtain ⟨rfl, rfl⟩ := Prod.mk.inj hpair
  exact ⟨List.mem_of_find?_eq_some he, e.findPartition_mem hq⟩

/-- A name held by no device that the searches find all the same is the one FSCK makes by
dropping blanks. -/
theorem fsck_of_sought_held {w : StorageSystem} {cmdtypes : CommandType} {driveName : String}
    (hdrive : cmdtypes.drive = some driveName) (hnot : ¬ w.Held driveName) {d : StorageDevice}
    (hlead : w.LeadsTo (cmdtypes.sought driveName) d) : cmdtypes = .fsck driveName := by
  have hheld : w.Held (cmdtypes.sought driveName) := ⟨d, hlead.2.2.mem, hlead.2.1⟩
  cases cmdtypes with
  | fsck name =>
    obtain rfl : name = driveName := Option.some.inj hdrive
    rfl
  | _ => exact absurd hheld hnot

/-- **A name that leads to its drive reaches it.** -/
theorem reaches_of_namesReach {w : StorageSystem} (hwf : w.Valid) {i : Env × StorageInput}
    (h : w.NamesReach i) : w.Reaches i := by
  obtain ⟨env, input⟩ := i
  intro cmdtypes driveName hi hdrive
  dsimp only at hi
  subst hi
  have hclear : w.clear.Valid := ⟨hwf.nodup, hwf.given, hwf.parts⟩
  have hcommand := StorageDeviceHandler.HandlerCommand_drive env w.clear.sys w.clear.storage
    hclear hdrive
  obtain ⟨hheld, hnot⟩ := h cmdtypes driveName rfl hdrive
  constructor
  · intro hh
    obtain ⟨hsought, d, hlead⟩ := hheld hh
    rw [← hsought] at hlead
    obtain ⟨p, hp⟩ := actedOn_iff.mpr hlead
    obtain ⟨hd, hpd, hname⟩ := actedOn_holds hp
    have hcmd : w.clear.storage.HandlerCommand env w.clear.sys cmdtypes =
        w.clear.storage.commandOn env w.clear.sys d p cmdtypes := by
      rw [hcommand]
      exact StorageDeviceHandler.driveAnswer_found env _ _ hp
    refine ⟨d, hd, p, hpd, hname.trans hsought, hp, hcmd, fun response hresp => ?_⟩
    obtain ⟨response', hret, hfound⟩ := StorageDeviceHandler.commandOn_found env w.clear.sys
      w.clear.storage hdrive d p
    rw [hcmd, hret, Option.some.injEq] at hresp
    rw [← hresp]
    exact hfound
  · intro hh
    show StorageSystem.after (w.clear.storage.HandlerCommand env w.clear.sys cmdtypes) = w.clear
    rw [hcommand]
    cases hacted : w.storage.actedOn cmdtypes driveName with
    | none =>
      obtain ⟨ret, hret⟩ := StorageDeviceHandler.driveAnswer_missed env w.clear.sys
        w.clear.storage hacted
      rw [hret]
      rfl
    | some found =>
      -- Only FSCK gets here, and it turns down a device that is read-only.
      obtain ⟨d, p⟩ := found
      have hlead := actedOn_iff.mp ⟨p, hacted⟩
      obtain rfl := fsck_of_sought_held hdrive hh hlead
      have hreadOnly := hnot hh d hlead
      rw [StorageDeviceHandler.driveAnswer_found env w.clear.sys w.clear.storage hacted]
      show StorageSystem.after (w.clear.storage.answered (d.fsckOn env w.clear.sys p)) = w.clear
      unfold fsckOn StorageDeviceHandler.answered
      rw [if_pos hreadOnly]
      dsimp only
      rw [StorageDeviceHandler.setDevice_self w.clear.sys w.clear.storage hclear
        (actedOn_holds hacted).1]
      rfl

/-- Only a name that leads to its drive reaches it. -/
theorem namesReach_of_reaches {w : StorageSystem} (hwf : w.Valid) {i : Env × StorageInput}
    (h : w.Reaches i) : w.NamesReach i := by
  obtain ⟨env, input⟩ := i
  intro cmdtypes driveName hi hdrive
  dsimp only at hi
  subst hi
  have hclear : w.clear.Valid := ⟨hwf.nodup, hwf.given, hwf.parts⟩
  obtain ⟨hheld, hnot⟩ := h cmdtypes driveName rfl hdrive
  constructor
  · intro hh
    obtain ⟨d, -, p, -, hname, hacted, -, -⟩ := hheld hh
    have hsought : cmdtypes.sought driveName = driveName :=
      (actedOn_holds (w := w.clear) hacted).2.2.symm.trans hname
    refine ⟨hsought, d, ?_⟩
    have hlead := actedOn_iff (w := w.clear).mp ⟨p, hacted⟩
    rw [hsought] at hlead
    exact hlead
  · intro hh d hlead
    obtain ⟨p, hacted⟩ := actedOn_iff.mpr hlead
    obtain rfl := fsck_of_sought_held hdrive hh hlead
    have hsame : StorageSystem.after (w.clear.storage.HandlerCommand env w.clear.sys
        (.fsck driveName)) = w.clear := hnot hh
    rw [StorageDeviceHandler.HandlerCommand_drive env w.clear.sys w.clear.storage hclear hdrive,
      StorageDeviceHandler.driveAnswer_found env w.clear.sys w.clear.storage hacted] at hsame
    by_contra hwritable
    rw [Bool.not_eq_true] at hwritable
    refine fsckOn_calls env w.clear.sys d p hwritable ?_
    have hcalls := congrArg (fun w : StorageSystem => w.sys.calls) hsame
    exact hcalls

/-- **Along every run, commands reach the drives they name exactly where the names and the
order of the devices lead there.** -/
theorem commands_reach_iff (cfg : Config) (inputs : List (Env × StorageInput)) :
    Runs.StepsAll (step cfg) Reaches {} inputs ↔ Runs.StepsAll (step cfg) NamesReach {} inputs :=
  Runs.stepsAll_congr (I := Valid) (fun _ i hw _ => step_valid hw i)
    (fun _ _ hw => ⟨namesReach_of_reaches hw, reaches_of_namesReach hw⟩) init_valid

/-- Two sticks are plugged, and the second one's disk and partition arrive before the
first one's disk.  The partition is given to the first stick, which has no name yet. -/
def formatAfterMixup : List (Env × StorageInput) :=
  [({}, .uevent (stickEvent "/devices/usb1/1-2")),
    ({}, .uevent (stickEvent "/devices/usb1/1-1")),
    (onePartition, .uevent (diskEvent "/devices/usb1/1-1/block/sda" "sda")),
    ({}, .uevent (partitionEvent "/devices/usb1/1-1/block/sda/sda1" "sda1")),
    (onePartition, .uevent (diskEvent "/devices/usb1/1-2/block/sdb" "sdb")),
    ({}, .command (.format "sda1" "vfat" ""))]

/-- The command goes to the second stick, and the partition is not found. -/
theorem format_misses_drive :
    ¬ Runs.StepsAll (step .tmpUsb) Reaches {} formatAfterMixup := by
  intro h
  have hlast := h.2.2.2.2.2.1 (.format "sda1" "vfat" "") "sda1" rfl rfl
  obtain ⟨d, -, p, -, -, -, -, hfound⟩ := hlast.1 (by unfold Held StorageDevice.Holds; decide)
  exact (hfound { result := .partitionNotFound } (by decide)).1 rfl

end StorageSystem

end Pdm
