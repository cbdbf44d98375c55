/-
What pdm knows of a partition's file system, and what a format leaves of it.

Whether the file system is supported is looked up once, when the partition is listed.  Of
the operations only a format gives a partition another file system, and it leaves the answer
as it was; nor does it clear the device's record of an unsupported medium, or a label that
was not asked for again.
-/
import Pdm.Proofs.DeviceRules
import Pdm.Proofs.FormatOutcomes

namespace Pdm

open Visit (visit)

/-! ### The partitions -/

namespace DiskPartitionInfo

/-- Whether pdm supports the partition's file system. -/
def supported (p : DiskPartitionInfo) : Bool :=
  PdmFs.isSupportedFileSystem p.fsType (sMapStorageType p.storageType)

/-- What pdm has noted of that is true. -/
def SupportKnown (p : DiskPartitionInfo) : Prop := p.isSupportedFs = p.supported

instance (p : DiskPartitionInfo) : Decidable p.SupportKnown :=
  inferInstanceAs (Decidable (_ = _))

/-- The partition will be given a file system that is supported exactly when its own is. -/
def FormatsAlike (p : DiskPartitionInfo) (fsType : String) : Prop :=
  PdmFs.isSupportedFileSystem (p.formatFsType fsType) (sMapStorageType p.storageType) = p.supported

/-- A format never leaves a partition without a file system. -/
theorem formatFsType_ne_empty (p : DiskPartitionInfo) (fsType : String) :
    p.formatFsType fsType ≠ "" := by
  unfold formatFsType
  by_cases hsupported :
      PdmFs.isSupportedFileSystem fsType (sMapStorageType p.storageType) = true
  · rw [if_pos hsupported]
    intro hempty
    rw [hempty] at hsupported
    exact absurd hsupported (by simp [PdmFs.isSupportedFileSystem])
  · rw [if_neg hsupported]
    unfold PdmFs.setDefaultFsForFormat
    dsimp only
    split
    · simp
    · split
      · simp
      · split
        · simp
        · split
          · simp
          · assumption

theorem formatted_fsType (p : DiskPartitionInfo) (fsType label : String) :
    (p.formatted fsType label).fsType = p.formatFsType fsType := by
  have hfs : (p.setFsType (p.formatFsType fsType)).fsType = p.formatFsType fsType := by
    unfold setFsType
    rw [if_neg (p.formatFsType_ne_empty fsType)]
  unfold formatted setVolumeLabel
  split
  · exact hfs
  · exact hfs

theorem formatted_volumeLabel (p : DiskPartitionInfo) (fsType label : String) :
    (p.formatted fsType label).volumeLabel = if label = "" then p.volumeLabel else label := by
  have hfs : (p.setFsType (p.formatFsType fsType)).volumeLabel = p.volumeLabel := by
    unfold setFsType
    split <;> rfl
  unfold formatted setVolumeLabel
  split
  · exact hfs
  · rfl

/-- An operation leaves the file system, and what is known of it. -/
structure SameFileSystem (p q : DiskPartitionInfo) : Prop where
  support : q.support = p.support
  fsType : q.fsType = p.fsType

theorem fsType_of_tag {p q : DiskPartitionInfo} (h : q.tag = p.tag) : q.fsType = p.fsType :=
  congrArg (fun t : String × String × String × String × String × Bool => t.2.2.2.2.1) h

theorem volumeLabel_of_tag {p q : DiskPartitionInfo} (h : q.tag = p.tag) :
    q.volumeLabel = p.volumeLabel :=
  congrArg (fun t : String × String × String × String × String × Bool => t.2.1) h

theorem SameFileSystem.of_tag {p q : DiskPartitionInfo} (hsupport : q.support = p.support)
    (htag : q.tag = p.tag) : SameFileSystem p q :=
  ⟨hsupport, fsType_of_tag htag⟩

theorem SameFileSystem.supported_eq {p q : DiskPartitionInfo} (h : SameFileSystem p q) :
    q.supported = p.supported := by
  have hstorage : q.storageType = p.storageType :=
    congrArg (fun t : Bool × StorageInterfaceTypes => t.2) h.support
  unfold supported
  rw [h.fsType, hstorage]

theorem SameFileSystem.known {p q : DiskPartitionInfo} (h : SameFileSystem p q)
    (hp : p.SupportKnown) : q.SupportKnown := by
  have hbit : q.isSupportedFs = p.isSupportedFs :=
    congrArg (fun t : Bool × StorageInterfaceTypes => t.1) h.support
  unfold SupportKnown at hp ⊢
  rw [hbit, hp, h.supported_eq]

end DiskPartitionInfo

open DiskPartitionInfo (SameFileSystem)

namespace StorageDevice

variable (env : Env) (s : Sys) (d : StorageDevice) (p : DiskPartitionInfo)

theorem umountPartition_same : SameFileSystem p (umountPartition env s p false).obj :=
  .of_tag (umountPartition_support env s p) (umountPartition_leaves env s p).tag

theorem mountPartition_same (readOnly : Bool) :
    SameFileSystem p (mountPartition env s p readOnly).obj :=
  .of_tag (mountPartition_support env s p readOnly) (mountPartition_leaves env s p readOnly).tag

theorem fsckPartition_same (fsckMode : String) :
    SameFileSystem p (fsckPartition env s p fsckMode).obj :=
  .of_tag (fsckPartition_support env s p fsckMode) (fsckPartition_leaves env s p fsckMode).tag

theorem mountSupported_same (readOnly : Bool) :
    SameFileSystem p (mountSupported env readOnly s p).obj := by
  unfold mountSupported
  split
  · exact mountPartition_same env s p readOnly
  · exact ⟨rfl, rfl⟩

theorem enforcePartition_same (needFsck : Bool) :
    SameFileSystem p (enforcePartition env needFsck s p).obj := by
  unfold enforcePartition
  split
  · exact mountPartition_same env s p false
  · split
    · exact fsckPartition_same env s p PdmFsck.FORCE
    · exact ⟨rfl, rfl⟩

/-! ### The devices -/

/-- What pdm has noted of the partitions' file systems is true. -/
def FsKnown (d : StorageDevice) : Prop := ∀ p ∈ d.diskPartitionList, p.SupportKnown

variable {d}

theorem fsKnown_of_list {e : StorageDevice} (hd : d.FsKnown)
    (hlist : e.diskPartitionList = d.diskPartitionList) : e.FsKnown := by
  intro p hp
  rw [hlist] at hp
  exact hd p hp

/-- A loop over the partitions. -/
theorem fsKnown_visit {e : StorageDevice} {ρ : Type}
    {f : Sys → DiskPartitionInfo → Visit.Out Sys DiskPartitionInfo ρ} (hd : d.FsKnown)
    (hf : ∀ s p, SameFileSystem p (f s p).obj)
    (hlist : e.diskPartitionList = (visit f s d.diskPartitionList).obj) : e.FsKnown := by
  intro q hq
  rw [hlist] at hq
  obtain ⟨p, hp, hsame⟩ := Visit.visit_mem hf d.diskPartitionList s q hq
  exact hsame.known (hd p hp)

/-- One partition is written back. -/
theorem fsKnown_setPartition_iff (hd : d.FsKnown) {q : DiskPartitionInfo}
    (hp : p ∈ d.diskPartitionList) (hq : q.address = p.address) :
    (d.setPartition q).FsKnown ↔ q.SupportKnown := by
  constructor
  · intro h
    exact h q (List.mem_map.mpr ⟨p, hp, if_pos hq.symm⟩)
  · intro h r hr
    rcases mem_setPartition d hr with rfl | ⟨hr, -⟩
    · exact h
    · exact hd r hr

theorem fsKnown_setPartition (hd : d.FsKnown) {q : DiskPartitionInfo}
    (hp : p ∈ d.diskPartitionList) (hq : q.address = p.address) (hsame : SameFileSystem p q) :
    (d.setPartition q).FsKnown :=
  (fsKnown_setPartition_iff p hd hp hq).mpr (hsame.known (hd p hp))

/-! ### Events -/

theorem startPartitions_fsKnown (hd : d.FsKnown) : (startPartitions env s d).obj.FsKnown := by
  unfold startPartitions
  split
  · split
    · have hmount : (mountAllPartition env s d).obj.FsKnown :=
        fsKnown_visit s hd (fun s p => mountSupported_same env s p d.isReadOnly) rfl
      exact fsKnown_of_list hmount (storageDeviceNotification_list _ _)
    · exact fsKnown_of_list hd rfl
  · exact fsKnown_of_list hd rfl

/-- A partition is looked up when it is listed. -/
theorem setPartitionInfo_fsKnown (hd : d.FsKnown) (devClass : DeviceClass) :
    (setPartitionInfo env s d devClass).obj.FsKnown := by
  have hadd : (addPartition env s d devClass).obj.FsKnown := by
    intro q hq
    rw [addPartition_list, List.mem_append, List.mem_singleton] at hq
    rcases hq with hq | rfl
    · exact hd q hq
    · rfl
  unfold setPartitionInfo
  split
  · exact hd
  · dsimp only
    split
    · exact startPartitions_fsKnown env _ hadd
    · exact hadd

theorem setDeviceInfo_fsKnown (hd : d.FsKnown) (devClass : DeviceClass) :
    (setDeviceInfo env s d devClass).obj.FsKnown := by
  cases setDeviceInfo_cases env s d devClass with
  | added d₀ s₀ hd₀ hs₀ hr =>
    have hknown := fsKnown_of_list hd (receiver_list env d devClass hd₀).1
    exact fsKnown_of_list (setPartitionInfo_fsKnown env s₀ hknown devClass) hr.parts
  | kept hnone hr => exact fsKnown_of_list hd hr.parts
  | dropped hnone hname hdrops t ht hr =>
    intro q hq
    rw [hr.parts] at hq
    exact absurd hq (by simp)

/-! ### Threads, commands and power -/

theorem fsckOnDeviceAddThread_fsKnown (hd : d.FsKnown) (partition : Nat) :
    (fsckOnDeviceAddThread env s d partition).obj.FsKnown := by
  unfold fsckOnDeviceAddThread fsckPartitionAt
  cases hfind : d.diskPartitionList.find? (·.address = partition) with
  | none => exact fsKnown_of_list hd (storageDeviceFsckNotification_list _ _)
  | some p =>
    have hput := fsKnown_setPartition p hd (List.mem_of_find?_eq_some hfind)
      (DiskPartitionInfo.ident_eq_iff.mp (fsckPartition_ident env s p PdmFsck.AUTO)).1
      (fsckPartition_same env s p PdmFsck.AUTO)
    exact fsKnown_of_list hput (storageDeviceFsckNotification_list _ _)

theorem fsckOn_fsKnown (hd : d.FsKnown) (hp : p ∈ d.diskPartitionList) :
    (fsckOn env s d p).obj.FsKnown := by
  have huident := (DiskPartitionInfo.ident_eq_iff.mp (umountPartition_ident env s p false)).1
  have husame := umountPartition_same env s p
  unfold fsckOn
  split
  · exact hd
  · dsimp only
    split
    · exact fsKnown_setPartition p hd hp huident husame
    · have hfident := (DiskPartitionInfo.ident_eq_iff.mp (fsckPartition_ident env
        (umountPartition env s p false).state (umountPartition env s p false).obj PdmFsck.AUTO)).1
      have hfsame := fsckPartition_same env (umountPartition env s p false).state
        (umountPartition env s p false).obj PdmFsck.AUTO
      exact fsKnown_setPartition p hd hp (hfident.trans huident)
        ⟨hfsame.support.trans husame.support, hfsame.fsType.trans husame.fsType⟩

theorem setVolumeLabelOn_fsKnown (hd : d.FsKnown) (hp : p ∈ d.diskPartitionList)
    (volumeLabel : String) : (setVolumeLabelOn env s d p volumeLabel).obj.FsKnown := by
  have hobj := setVolumeLabel_obj env s p volumeLabel
  have haddress : (PdmFs.setVolumeLabel env s p volumeLabel).obj.address = p.address := by
    rw [hobj]
    split <;> rfl
  refine fsKnown_setPartition p hd hp haddress ?_
  rw [hobj]
  split <;> exact ⟨rfl, rfl⟩

theorem getSpaceInfoOn_fsKnown (hd : d.FsKnown) (hp : p ∈ d.diskPartitionList)
    (directCheck : Bool) : (getSpaceInfoOn env d p directCheck).1.FsKnown := by
  unfold getSpaceInfoOn
  split
  · cases PdmFs.calculateSpaceInfo env p.mountName with
    | none => exact hd
    | some space => exact fsKnown_setPartition (q := p.setSpace space) p hd hp rfl ⟨rfl, rfl⟩
  · exact hd

theorem fsKnown_setPowerStatus (hd : d.FsKnown) (status : Bool) {e : StorageDevice}
    (hlist : e.diskPartitionList = d.diskPartitionList.map (·.setPowerStatus status)) :
    e.FsKnown := by
  intro q hq
  rw [hlist] at hq
  obtain ⟨p, hp, rfl⟩ := List.mem_map.mp hq
  exact SameFileSystem.known (p := p) ⟨rfl, rfl⟩ (hd p hp)

theorem resumeRequest_fsKnown (hd : d.FsKnown) : (resumeRequest env s d).obj.FsKnown := by
  have hpower : ({ d with
      diskPartitionList := d.diskPartitionList.map (·.setPowerStatus true)
      isPowerOnConnect := true } : StorageDevice).FsKnown := fsKnown_setPowerStatus hd true rfl
  unfold resumeRequest
  dsimp only
  split
  · exact hpower
  · have hmount : (mountAllPartition env s { d with
        diskPartitionList := d.diskPartitionList.map (·.setPowerStatus true)
        isPowerOnConnect := true }).obj.FsKnown :=
      fsKnown_visit s hpower (fun s p => mountSupported_same env s p d.isReadOnly) rfl
    split
    · exact fsKnown_of_list hmount rfl
    · exact hmount

/-! ### Formatting -/

/-- `mkfs` will be run on the partition, and will succeed. -/
def FormatRuns (env : Env) (s : Sys) (d : StorageDevice) (p : DiskPartitionInfo)
    (fsType label : String) : Prop :=
  d.isReadOnly = false ∧ env.frees s p ∧ env.formats p fsType label = true

theorem formatOn_fsKnown_iff (hd : d.FsKnown) (hnodup : d.addresses.Nodup)
    (hp : p ∈ d.diskPartitionList) (fsType label : String) :
    (formatOn env s d p fsType label).obj.FsKnown ↔
      (FormatRuns env s d p fsType label → p.FormatsAlike fsType) := by
  obtain ⟨q, hq⟩ := formatOn_leaves env s d p hnodup hp fsType label
  have hput := fsKnown_setPartition_iff p hd hp hq.address
  have hlist : (formatOn env s d p fsType label).obj.FsKnown ↔ (d.setPartition q).FsKnown := by
    unfold FsKnown
    rw [hq.list]
  have hknown : p.isSupportedFs = p.supported := hd p hp
  refine hlist.trans (hput.trans ?_)
  by_cases hruns : FormatRuns env s d p fsType label
  · have htag := hq.tag
    rw [if_pos (show _ ∧ _ ∧ _ from hruns)] at htag
    have hfsType := (DiskPartitionInfo.fsType_of_tag htag).trans (p.formatted_fsType fsType label)
    have hbit : q.isSupportedFs = p.isSupportedFs :=
      congrArg (fun t : Bool × StorageInterfaceTypes => t.1) hq.support
    have hstorage : q.storageType = p.storageType :=
      congrArg (fun t : Bool × StorageInterfaceTypes => t.2) hq.support
    unfold DiskPartitionInfo.SupportKnown DiskPartitionInfo.FormatsAlike
    rw [hbit, hknown]
    show p.supported = PdmFs.isSupportedFileSystem q.fsType (sMapStorageType q.storageType) ↔ _
    rw [hfsType, hstorage]
    exact ⟨fun h _ => h.symm, fun h => (h hruns).symm⟩
  · have htag := hq.tag
    rw [if_neg (show ¬ (_ ∧ _ ∧ _) from hruns)] at htag
    exact iff_of_true ((SameFileSystem.of_tag hq.support htag).known hknown) fun h => absurd h hruns

end StorageDevice

/-- The command line of a `runCommand`. -/
def Call.argv? : Call → Option (List String)
  | .runCommand argv => some argv
  | _ => none

/-- The commands that were run. -/
def Sys.commands (s : Sys) : List (List String) := s.calls.filterMap (·.call.argv?)

theorem Sys.record_commands (s : Sys) (call : Call) :
    (s.record call).commands = s.commands ++ call.argv?.toList := by
  unfold Sys.commands Sys.record
  rw [List.filterMap_append]
  cases call <;> rfl

theorem Sys.record_commands_other (s : Sys) (call : Call) (h : call.argv? = none) :
    (s.record call).commands = s.commands := by
  rw [Sys.record_commands, h]
  exact List.append_nil _

theorem handlerCb_commands (s : Sys) (event : EventType) (device : Option Nat) :
    (handlerCb s event device).commands = s.commands := by
  unfold handlerCb
  split <;> exact s.record_commands_other (.notify _ event device) rfl

namespace StorageDevice

variable (env : Env) (s : Sys) (d : StorageDevice) (p : DiskPartitionInfo)

theorem umountPartition_commands :
    (umountPartition env s p false).state.commands = s.commands := by
  have hbusy : (driveInTheWay env s p false).2.commands = s.commands :=
    s.record_commands_other (.execShellCmd _) rfl
  have humount : ∀ (t : Sys) (flags : Nat),
      (t.umount2 env p.mountName flags).2.commands = t.commands := by
    intro t flags
    unfold Sys.umount2
    dsimp only
    split <;> exact t.record_commands_other (.umount2 p.mountName flags) rfl
  have hfs : ∀ t : Sys, (PdmFs.umount env t p false).2.commands = t.commands := fun t => humount t _
  unfold umountPartition
  split
  · rfl
  · dsimp only
    split
    · exact hbusy
    · split
      · rw [handlerCb_commands, hfs, handlerCb_commands, hbusy]
      · rw [handlerCb_commands, hfs, handlerCb_commands, hbusy]

theorem mountPartition_commands (readOnly : Bool) :
    (mountPartition env s p readOnly).state.commands = s.commands := by
  have hmount : ∀ (t : Sys) (call : MountCall), (t.mount env call).2.commands = t.commands := by
    intro t call
    unfold Sys.mount
    dsimp only
    split <;> exact t.record_commands_other (.mount call) rfl
  have hretry : ∀ (t : Sys) (call : MountCall),
      (PdmFs.mountRetry env t call).2.commands = t.commands := by
    intro t call
    unfold PdmFs.mountRetry
    dsimp only
    split
    · rw [hmount, hmount]
    · exact hmount t call
  have hfs : ∀ t q, (PdmFs.mountPartition env t q readOnly).state.commands = t.commands := by
    intro t q
    unfold PdmFs.mountPartition
    split
    · rfl
    · dsimp only
      split
      · cases PdmFs.calculateSpaceInfo env q.mountName with
        | none => exact hretry _ _
        | some space => exact hretry _ _
      · exact hretry _ _
  unfold mountPartition
  dsimp only
  split
  · rw [handlerCb_commands, hfs, handlerCb_commands]
  · rw [handlerCb_commands, hfs, handlerCb_commands]

/-- A format that succeeds has run `mkfs` and nothing else. -/
theorem formatFs_commands (fsType label : String)
    (hret : (PdmFs.format env s p fsType label).ret = .success) :
    (PdmFs.format env s p fsType label).state.commands =
      s.commands ++ [DiskFormat.formatCommand p.driveName (p.formatFsType fsType) label] := by
  have hdrive : ∀ (t : Sys) (fs : String),
      (DiskFormat.formatDrive env t p.driveName fs label).1 = .success →
        (DiskFormat.formatDrive env t p.driveName fs label).2.commands =
          t.commands ++ [DiskFormat.formatCommand p.driveName fs label] := by
    intro t fs hok
    unfold DiskFormat.formatDrive at hok ⊢
    dsimp only at hok ⊢
    split
    · rename_i hnone
      rw [if_pos hnone] at hok
      exact absurd hok (by simp)
    · rename_i hsome
      rw [if_neg hsome] at hok
      split
      · rename_i hfail
        rw [if_pos hfail] at hok
        exact absurd hok (by simp)
      · rename_i hrun
        unfold Sys.runCommand at hrun ⊢
        split
        · rename_i hempty
          rw [if_pos hempty] at hrun
          exact absurd (show (-1 : Int) ≠ 0 by omega) hrun
        · exact t.record_commands _
  have hformat := hdrive (s.record (.formatDrive p.driveName p.mountName)) (p.formatFsType fsType)
  rw [s.record_commands_other (.formatDrive p.driveName p.mountName) rfl] at hformat
  have hdefault : (if PdmFs.isSupportedFileSystem fsType (sMapStorageType p.storageType) = true then
      fsType else PdmFs.setDefaultFsForFormat p) = p.formatFsType fsType := rfl
  unfold PdmFs.format at hret ⊢
  dsimp only at hret ⊢
  rw [hdefault] at hret ⊢
  by_cases hok : (DiskFormat.formatDrive env (s.record (.formatDrive p.driveName p.mountName))
      p.driveName (p.formatFsType fsType) label).1 = .success
  · rw [if_pos hok]
    exact hformat hok
  · rw [if_neg hok] at hret
    exact absurd hret hok

theorem formatOn_commands (fsType label : String)
    (hret : (formatOn env s d p fsType label).ret = .success) :
    (formatOn env s d p fsType label).state.commands =
      s.commands ++ [DiskFormat.formatCommand p.driveName (p.formatFsType fsType) label] := by
  have husame := umountPartition_same env s p
  have hudrive : (umountPartition env s p false).obj.driveName = p.driveName :=
    congrArg (fun t : String × String × String × String × String × Bool => t.2.2.2.1)
      (umountPartition_leaves env s p).tag
  have hufs : (umountPartition env s p false).obj.formatFsType fsType = p.formatFsType fsType := by
    have hstorage : (umountPartition env s p false).obj.storageType = p.storageType :=
      congrArg (fun t : Bool × StorageInterfaceTypes => t.2) husame.support
    unfold DiskPartitionInfo.formatFsType PdmFs.setDefaultFsForFormat
    rw [hstorage, husame.fsType]
  have hucommands := umountPartition_commands env s p
  unfold formatOn at hret ⊢
  split
  · rename_i hreadOnly
    rw [if_pos hreadOnly] at hret
    exact absurd hret (by simp)
  · rename_i hwritable
    rw [if_neg hwritable] at hret
    dsimp only at hret ⊢
    generalize umountPartition env s p false = u at *
    split
    · rename_i hbusy
      rw [if_pos hbusy] at hret
      exact absurd hret (by simp)
    · rename_i hfree
      rw [if_neg hfree] at hret
      have hfs := formatFs_commands env (handlerCb u.state .formatStarted (some p.address)) u.obj
        fsType label
      rw [handlerCb_commands, hucommands, hudrive, hufs] at hfs
      generalize PdmFs.format env (handlerCb u.state .formatStarted (some p.address)) u.obj fsType
        label = f at *
      by_cases hok : f.ret = .success
      · simp only [if_pos hok] at hret ⊢
        have hmount := mountPartition_commands env f.state f.obj false
        split
        · rw [handlerCb_commands, hmount, hfs hok]
        · rw [handlerCb_commands, hmount, hfs hok]
      · simp only [if_neg hok] at hret
        exact absurd hret (by simp)

/-- The device reports an unsupported file system: in its error reason, or when it is removed. -/
def ReportsUnsupported (d : StorageDevice) : Prop :=
  d.errorReason = .unsupportFs ∨
    ∃ r ∈ (checkRemovalNotifications {} d).calls,
      r.call = .notify .storageDevice .removeUnsupportedFs (some d.address)

theorem reportsUnsupported_iff {d : StorageDevice} (hreason : d.errorReason ≠ .unsupportFs) :
    d.ReportsUnsupported ↔ d.isDevAddEventNotified = true ∧ d.hasUnsupportedFs = true := by
  unfold ReportsUnsupported checkRemovalNotifications
  rw [or_iff_right hreason]
  cases d.isDevAddEventNotified <;> cases d.hasUnsupportedFs <;>
    simp [handlerCb, Sys.notify, Sys.record]

/-- A partition of the device other than this one has a file system pdm does not support. -/
def OtherUnsupported (d : StorageDevice) (p : DiskPartitionInfo) : Prop :=
  ∃ q ∈ d.diskPartitionList, q.address ≠ p.address ∧ q.supported = false

/-- What a format with `label` that succeeds is to leave of the device and its partition `p`. -/
structure FormatTruthful (s : Sys) (p : DiskPartitionInfo) (label : String)
    (out : Out StorageDevice PdmDevStatus) : Prop where
  /-- `mkfs` was run with the file system that the partition now has. -/
  fsType : ∀ q ∈ out.obj.diskPartitionList, q.address = p.address →
    out.state.commands = s.commands ++ [DiskFormat.formatCommand p.driveName q.fsType label]
  label : ∀ q ∈ out.obj.diskPartitionList, q.address = p.address → q.volumeLabel = label
  reported : out.obj.ReportsUnsupported → out.obj.OtherUnsupported p

/-- The label is given anew, and an unsupported file system that the device has reported is not
the only one. -/
structure FormatClears (d : StorageDevice) (p : DiskPartitionInfo) (label : String) : Prop where
  label : label = "" → p.volumeLabel = ""
  reported : d.isDevAddEventNotified = true → d.hasUnsupportedFs = true → d.OtherUnsupported p

theorem formatOn_notified (fsType label : String) :
    (formatOn env s d p fsType label).obj.isDevAddEventNotified = d.isDevAddEventNotified := by
  unfold formatOn
  split
  · rfl
  · dsimp only
    split
    · rfl
    · split
      · split <;> rfl
      · rfl

theorem otherUnsupported_setPartition {q : DiskPartitionInfo} (hq : q.address = p.address) :
    (d.setPartition q).OtherUnsupported p ↔ d.OtherUnsupported p := by
  constructor
  · rintro ⟨r, hr, haddress, hsupported⟩
    rcases mem_setPartition d hr with rfl | ⟨hr, -⟩
    · exact absurd hq haddress
    · exact ⟨r, hr, haddress, hsupported⟩
  · rintro ⟨r, hr, haddress, hsupported⟩
    refine ⟨r, List.mem_map.mpr ⟨r, hr, if_neg ?_⟩, haddress, hsupported⟩
    rw [hq]
    exact haddress

theorem formatTruthful_iff (hnodup : d.addresses.Nodup) (hp : p ∈ d.diskPartitionList)
    {fsType label : String} (hret : (formatOn env s d p fsType label).ret = .success) :
    FormatTruthful s p label (formatOn env s d p fsType label) ↔ FormatClears d p label := by
  obtain ⟨q, hq⟩ := formatOn_leaves env s d p hnodup hp fsType label
  obtain ⟨hwritable, hfree, hformats, -⟩ := hq.success.mp hret
  have htag := hq.tag
  rw [if_pos ⟨hwritable, hfree, hformats⟩] at htag
  have hfsType := (DiskPartitionInfo.fsType_of_tag htag).trans (p.formatted_fsType fsType label)
  have hlabel := (DiskPartitionInfo.volumeLabel_of_tag htag).trans
    (p.formatted_volumeLabel fsType label)
  have hcommands := formatOn_commands env s d p fsType label hret
  have hreason := hq.errorReason
  rw [if_pos hret] at hreason
  have hreports := reportsUnsupported_iff
    (d := (formatOn env s d p fsType label).obj) (by rw [hreason]; simp)
  rw [formatOn_notified, hq.unsupported] at hreports
  have hother : (formatOn env s d p fsType label).obj.OtherUnsupported p ↔ d.OtherUnsupported p := by
    refine Iff.trans ?_ (otherUnsupported_setPartition d p hq.address)
    unfold OtherUnsupported
    rw [hq.list]
  -- The partition is the one that was put back.
  have hself : q ∈ (formatOn env s d p fsType label).obj.diskPartitionList := by
    rw [hq.list]
    exact List.mem_map.mpr ⟨p, hp, if_pos hq.address.symm⟩
  have honly : ∀ r ∈ (formatOn env s d p fsType label).obj.diskPartitionList,
      r.address = p.address → r = q := by
    intro r hr haddress
    rw [hq.list] at hr
    rcases mem_setPartition d hr with rfl | ⟨-, hne⟩
    · rfl
    · exact absurd (haddress.trans hq.address.symm) hne
  constructor
  · intro h
    refine ⟨fun hempty => ?_, fun hnotified hunsupported => ?_⟩
    · have hq' := h.label q hself hq.address
      rw [hlabel, if_pos hempty] at hq'
      exact hq'.trans hempty
    · exact hother.mp (h.reported (hreports.mpr ⟨hnotified, hunsupported⟩))
  · intro h
    refine ⟨fun r hr haddress => ?_, fun r hr haddress => ?_, fun hreported => ?_⟩
    · rw [honly r hr haddress, hfsType]
      exact hcommands
    · rw [honly r hr haddress, hlabel]
      by_cases hempty : label = ""
      · rw [if_pos hempty, hempty]
        exact h.label hempty
      · exact if_neg hempty
    · obtain ⟨hnotified, hunsupported⟩ := hreports.mp hreported
      exact hother.mpr (h.reported hnotified hunsupported)

end StorageDevice

open StorageDevice

/-! ### Runs -/

/-- Only a format of a partition that is supported differently after it makes the note of the
support wrong. -/
def supportRules : DeviceRules FsKnown where
  event _ _ _ := True
  thread _ _ _ := True
  format env s d driveName fsType volumeLabel :=
    ∀ p ∈ d.findPartition driveName,
      FormatRuns env s d p fsType volumeLabel → p.FormatsAlike fsType
  fsck _ _ _ _ := True
  umountAll _ _ := True
  enforce _ _ _ := True
  resume _ _ := True
  new_keeps cfg address devClass reader := by
    intro p hp
    rw [StorageDeviceHandler.newDevice_list] at hp
    exact absurd hp (by simp)
  event_iff {env s _ devClass} hd _ := iff_of_true (setDeviceInfo_fsKnown env s hd devClass) trivial
  thread_iff {env s d partition} hd _ ts := by
    have hd' : ({ d with fsckThreadArray := ts } : StorageDevice).FsKnown := fsKnown_of_list hd rfl
    exact iff_of_true (fsckOnDeviceAddThread_fsKnown env s hd' partition) trivial
  timeout_keeps hd := fsKnown_of_list hd rfl
  format_iff {env s d driveName fsType volumeLabel} hd hnodup := by
    unfold formatDiskStart
    cases hfind : d.findPartition driveName with
    | none => exact iff_of_true hd fun p hp => absurd hp (by simp)
    | some p =>
      refine (formatOn_fsKnown_iff env s p hd hnodup (d.findPartition_mem hfind).1 fsType
        volumeLabel).trans ?_
      exact ⟨fun h q hq => Option.some.inj hq ▸ h, fun h => h p rfl⟩
  fsck_iff {env s d driveName} hd _ := by
    refine iff_of_true ?_ trivial
    unfold StorageDevice.fsck
    cases hfind : d.findPartition driveName with
    | none => exact hd
    | some p => exact fsckOn_fsKnown env s p hd (d.findPartition_mem hfind).1
  eject_iff {env s d} hd := by
    refine iff_of_true ?_ trivial
    have humount : (umountAllPartition env s d false).obj.FsKnown :=
      fsKnown_visit s hd (fun s p => umountPartition_same env s p) rfl
    unfold eject
    dsimp only
    split
    · exact fsKnown_of_list humount rfl
    · exact humount
  umountAll_iff {env s _} hd :=
    iff_of_true (fsKnown_visit s hd (fun s p => umountPartition_same env s p) rfl) trivial
  enforce_iff {env s _ needFsck} hd :=
    iff_of_true (fsKnown_visit s hd (fun s p => enforcePartition_same env s p needFsck)
      (enforceFsckAndMount_list env s _ needFsck)) trivial
  label_keeps {env s d driveName volumeLabel} hd _ := by
    unfold setPartitionVolumeLabel
    cases hfind : d.findPartition driveName with
    | none => exact hd
    | some p => exact setVolumeLabelOn_fsKnown env s p hd (d.findPartition_mem hfind).1 volumeLabel
  measure_keeps {env d driveName directCheck} hd _ := by
    unfold StorageDevice.getSpaceInfo
    cases hfind : d.findPartition driveName with
    | none => exact hd
    | some p => exact getSpaceInfoOn_fsKnown env p hd (d.findPartition_mem hfind).1 directCheck
  suspend_keeps hd := fsKnown_setPowerStatus hd false rfl
  resume_iff {env s _} hd := iff_of_true (resumeRequest_fsKnown env s hd) trivial

/-- What a format that the step runs and that succeeds leaves is true. -/
def FormatsTruthfully (w : StorageSystem) (i : Env × StorageInput) : Prop :=
  match i.2 with
  | .command (.format driveName fsType volumeLabel) =>
    ∀ d ∈ getDeviceWithName w.storage.storageList driveName,
      ∀ p ∈ d.findPartition driveName,
        (d.formatDiskStart i.1 w.clear.sys driveName fsType volumeLabel).ret = .success →
          FormatTruthful w.clear.sys p volumeLabel
            (d.formatDiskStart i.1 w.clear.sys driveName fsType volumeLabel)
  | _ => True

/-- A format that the step runs gives its partition a file system that is supported exactly
when the old one was, and if it succeeds clears what is to be cleared. -/
def FormatsCleanly (w : StorageSystem) (i : Env × StorageInput) : Prop :=
  match i.2 with
  | .command (.format driveName fsType volumeLabel) =>
    ∀ d ∈ getDeviceWithName w.storage.storageList driveName,
      ∀ p ∈ d.findPartition driveName,
        (FormatRuns i.1 w.clear.sys d p fsType volumeLabel → p.FormatsAlike fsType) ∧
          (FormatSucceeds i.1 w.clear.sys d p fsType volumeLabel → FormatClears d p volumeLabel)
  | _ => True

/-- The condition of `supportRules` is about formats alone. -/
theorem supportRules_condition (cfg : Config) (w : StorageSystem) (i : Env × StorageInput) :
    supportRules.Condition cfg w i ↔
      match i.2 with
      | .command (.format driveName fsType volumeLabel) =>
        ∀ d ∈ getDeviceWithName w.storage.storageList driveName,
          ∀ p ∈ d.findPartition driveName,
            FormatRuns i.1 w.clear.sys d p fsType volumeLabel → p.FormatsAlike fsType
      | _ => True := by
  obtain ⟨env, input⟩ := i
  cases input with
  | uevent devClass => exact iff_of_true (fun _ _ => trivial) trivial
  | command cmdtypes =>
    cases cmdtypes with
    | format driveName fsType volumeLabel => exact Iff.rfl
    | setVolumeLabel driveName volumeLabel => exact Iff.rfl
    | spaceInfo directCheck driveName => exact Iff.rfl
    | isWritableDrive driveName => exact Iff.rfl
    | other => exact Iff.rfl
    | _ => exact iff_of_true (fun _ _ => trivial) trivial
  | pluginEvent eventType =>
    cases eventType with
    | powerProcessPrepareResume => exact iff_of_true (fun _ _ => trivial) trivial
    | _ => exact Iff.rfl
  | fsckThread device partition => exact iff_of_true (fun _ _ _ _ => trivial) trivial
  | timeout device => exact Iff.rfl

theorem step_facts_iff {cfg : Config} {w : StorageSystem} (hvalid : w.Valid)
    (hknown : DeviceRules.All FsKnown w) (i : Env × StorageInput) :
    DeviceRules.All FsKnown (w.step cfg i) ∧ FormatsTruthfully w i ↔ FormatsCleanly w i := by
  rw [supportRules.step_iff hvalid hknown i, supportRules_condition cfg w i]
  obtain ⟨env, input⟩ := i
  cases input with
  | command cmdtypes =>
    cases cmdtypes with
    | format driveName fsType volumeLabel =>
      unfold FormatsTruthfully FormatsCleanly
      dsimp only
      rw [← forall₂_and]
      refine forall₂_congr fun d hd => ?_
      rw [← forall₂_and]
      refine forall₂_congr fun p hp => and_congr_right fun _ => ?_
      have hdev := StorageDeviceHandler.mem_of_name w.storage d hd
      have hpart := (d.findPartition_mem hp).1
      have hnodup := (hvalid.parts d hdev).nodup
      have hon : d.formatDiskStart env w.clear.sys driveName fsType volumeLabel =
          formatOn env w.clear.sys d p fsType volumeLabel := by
        unfold formatDiskStart
        rw [show d.findPartition driveName = some p from hp]
      rw [hon]
      obtain ⟨q, hq⟩ := formatOn_leaves env w.clear.sys d p hnodup hpart fsType volumeLabel
      constructor
      · intro h hsucceeds
        have hret := hq.success.mpr hsucceeds
        exact (formatTruthful_iff env _ d p hnodup hpart hret).mp (h hret)
      · intro h hret
        exact (formatTruthful_iff env _ d p hnodup hpart hret).mpr (h (hq.success.mp hret))
    | _ => exact and_self_iff
  | _ => exact and_self_iff

/-- **File-system facts.**  Along a run, the note of every partition's support is true at every
step and what every successful format leaves is true, exactly when every format of the run
formats cleanly. -/
theorem fileSystem_facts_iff (cfg : Config) (is : List (Env × StorageInput)) :
    Runs.StepsAll (StorageSystem.step cfg)
        (fun w i => (∀ d ∈ (w.step cfg i).storage.storageList, ∀ p ∈ d.diskPartitionList,
            p.isSupportedFs =
              PdmFs.isSupportedFileSystem p.fsType (sMapStorageType p.storageType)) ∧
          FormatsTruthfully w i) {} is ↔
      Runs.StepsAll (StorageSystem.step cfg) FormatsCleanly {} is :=
  Runs.stepsAll_congr (I := fun w => w.Valid ∧ DeviceRules.All FsKnown w)
    (fun _ i hw hP => ⟨StorageSystem.step_valid hw.1 i, hP.1⟩)
    (fun _ i hw => step_facts_iff hw.1 hw.2 i)
    ⟨StorageSystem.init_valid, fun d hd => absurd hd (by simp)⟩

/-- A stick with a file system pdm does not support is plugged in and formatted with `vfat`. -/
def formatForeign : List (Env × StorageInput) :=
  [({}, .uevent (StorageSystem.stickEvent "/devices/usb1/1-1")),
    (StorageSystem.onePartition,
      .uevent (StorageSystem.diskEvent "/devices/usb1/1-1/block/sda" "sda")),
    ({}, .uevent { StorageSystem.partitionEvent "/devices/usb1/1-1/block/sda/sda1" "sda1" with
      fsType := "exfat" }),
    ({}, .command (.format "sda1" "vfat" "DATA"))]

/-- The partition has `vfat` then, and is still noted as unsupported. -/
theorem formatted_stick_unsupported :
    ¬ Runs.StepsAll (StorageSystem.step .tmpUsb)
        (fun w i => (∀ d ∈ (w.step .tmpUsb i).storage.storageList, ∀ p ∈ d.diskPartitionList,
            p.isSupportedFs =
              PdmFs.isSupportedFileSystem p.fsType (sMapStorageType p.storageType)) ∧
          FormatsTruthfully w i) {} formatForeign := by
  intro h
  have hlast := h.2.2.2.1.1
  revert hlast
  decide

end Pdm
