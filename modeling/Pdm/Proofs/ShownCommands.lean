/-
What the list shows of a device before and after a command.

A command that does not post leaves the list stale when it changes anything shown.  For each
method the condition that it does not is stated of the device as it was and of the system's
answers; formatting, which posts in the middle, is compared with what it posted.
-/
import Pdm.Proofs.ShownDevices
import Pdm.Proofs.ShownPartitions

namespace Pdm

open Visit (visit)

/-! ### The system's answers -/

/-- The file system that the partition will be formatted with. -/
def DiskPartitionInfo.formatFsType (p : DiskPartitionInfo) (fsType : String) : String :=
  if PdmFs.isSupportedFileSystem fsType (sMapStorageType p.storageType) then fsType
  else PdmFs.setDefaultFsForFormat p

/-- The partition, as a format that succeeds leaves it. -/
def DiskPartitionInfo.formatted (p : DiskPartitionInfo) (fsType label : String) :
    DiskPartitionInfo :=
  (p.setFsType (p.formatFsType fsType)).setVolumeLabel label

/-- The format of the partition will succeed. -/
def Env.formats (env : Env) (p : DiskPartitionInfo) (fsType label : String) : Bool :=
  (DiskFormat.formatDrive env {} p.driveName (p.formatFsType fsType) label).1 = .success

/-- The partition will be given the label. -/
def Env.labels (env : Env) (p : DiskPartitionInfo) (volLabel : String) : Bool :=
  let sysCommand := PdmFs.volumeLabelCommand p.fsType p.driveName volLabel
  volLabel ≠ "" && sysCommand ≠ [] && (Sys.runCommand env {} sysCommand).1 = 0

/-- `enforceFsckAndMount` will succeed on the partition. -/
def Env.enforces (env : Env) (needFsck : Bool) (p : DiskPartitionInfo) : Bool :=
  if needFsck = false ∧ p.mounted = false then env.mounts p false
  else if p.fsckStatus = PdmDevStatus.fsckTimeout.code then env.recovers p PdmFsck.FORCE
  else true

theorem Sys.runCommand_fst (env : Env) (s : Sys) (argv : List String) :
    (s.runCommand env argv).1 = (Sys.runCommand env {} argv).1 := by
  unfold Sys.runCommand
  split <;> rfl

namespace StorageDevice

variable (env : Env) (s : Sys) (d : StorageDevice) (p : DiskPartitionInfo)

/-! ### `fsck` -/

/-- The list shows nothing of a check of the partition. -/
def FsckUnseen (env : Env) (s : Sys) (d : StorageDevice) (p : DiskPartitionInfo) : Prop :=
  d.isReadOnly = true ∨
    if env.frees s p then
      Unseen env p (env.recovers p PdmFsck.AUTO) (env.recovers p PdmFsck.AUTO)
    else Unseen env p (p.mounted && env.busy p) false

instance : Decidable (FsckUnseen env s d p) := inferInstanceAs (Decidable (_ ∨ _))

theorem fsckOn_shown (hnodup : d.addresses.Nodup) (hp : p ∈ d.diskPartitionList) :
    (fsckOn env s d p).obj.shown = d.shown ↔ FsckUnseen env s d p := by
  have humount := umountPartition_leaves env s p
  have huident := (DiskPartitionInfo.ident_eq_iff.mp (umountPartition_ident env s p false)).1
  unfold fsckOn FsckUnseen
  by_cases hreadOnly : d.isReadOnly = true
  · rw [if_pos hreadOnly]
    exact iff_of_true rfl (Or.inl hreadOnly)
  · rw [if_neg hreadOnly, or_iff_right hreadOnly]
    dsimp only
    by_cases hfree : env.frees s p
    · rw [if_neg (not_not_intro ((umountPartition_frees env s p).mpr hfree)), if_pos hfree]
      have hcheck := fsckPartition_freed env s p hfree (umountPartition env s p false).state
        PdmFsck.AUTO
      have hfident := (DiskPartitionInfo.ident_eq_iff.mp (fsckPartition_ident env
        (umountPartition env s p false).state (umountPartition env s p false).obj PdmFsck.AUTO)).1
      rw [shown_setPartition_iff d hnodup hp (hfident.trans huident)]
      exact hcheck.unseen_iff
    · rw [if_pos (mt (umountPartition_frees env s p).mp hfree), if_neg hfree,
        shown_setPartition_iff d hnodup hp huident]
      exact humount.unseen_iff

/-! ### `setVolumeLabel` -/

theorem setVolumeLabel_obj (volLabel : String) :
    (PdmFs.setVolumeLabel env s p volLabel).obj =
      if env.labels p volLabel then { p with volumeLabel := volLabel } else p := by
  unfold PdmFs.setVolumeLabel Env.labels
  by_cases hempty : volLabel = ""
  · simp [hempty]
  · rw [if_neg hempty]
    dsimp only
    by_cases hnone : PdmFs.volumeLabelCommand p.fsType p.driveName volLabel = []
    · rw [if_pos hnone]
      simp [hnone]
    · rw [if_neg hnone, Sys.runCommand_fst]
      by_cases hrun : (Sys.runCommand env {}
          (PdmFs.volumeLabelCommand p.fsType p.driveName volLabel)).1 = 0
      · rw [if_neg (not_not_intro hrun)]
        simp [hempty, hnone, hrun, DiskPartitionInfo.setVolumeLabel]
      · rw [if_pos hrun]
        simp [hrun]

theorem setVolumeLabelOn_shown (hnodup : d.addresses.Nodup) (hp : p ∈ d.diskPartitionList)
    (volLabel : String) :
    (setVolumeLabelOn env s d p volLabel).obj.shown = d.shown ↔
      (env.labels p volLabel = true → volLabel = p.volumeLabel) := by
  show (d.setPartition (PdmFs.setVolumeLabel env s p volLabel).obj).shown = d.shown ↔ _
  have hident := (DiskPartitionInfo.ident_eq_iff.mp
    (show (PdmFs.setVolumeLabel env s p volLabel).obj.ident = p.ident by
      rw [setVolumeLabel_obj]; split <;> rfl)).1
  rw [shown_setPartition_iff d hnodup hp hident, setVolumeLabel_obj]
  by_cases hlabels : env.labels p volLabel = true
  · rw [if_pos hlabels]
    refine ⟨fun h _ => congrArg (·.volumeLabel) h, fun h => ?_⟩
    rw [h hlabels]
  · rw [if_neg hlabels]
    exact iff_of_true rfl fun h => absurd h hlabels

/-! ### `format` -/

/-- The list that formatting posts shows all that formatting changes. -/
def FormatUnseen (env : Env) (s : Sys) (d : StorageDevice) (p : DiskPartitionInfo)
    (fsType label : String) : Prop :=
  d.isReadOnly = true ∨
    if env.frees s p then
      env.formats p fsType label = true → env.mounts (p.formatted fsType label) false = true ∨
        (p.formatted fsType label).tag = p.tag
    else Unseen env p (p.mounted && env.busy p) false

instance (fsType label : String) : Decidable (FormatUnseen env s d p fsType label) :=
  inferInstanceAs (Decidable (_ ∨ _))

theorem umountPartition_sameFs :
    (umountPartition env s p false).obj.storageType = p.storageType := by
  unfold umountPartition
  split
  · rfl
  · dsimp only
    split
    · rfl
    · split <;> rfl

/-- What a format does depends on what is shown of the partition and on its storage. -/
theorem formatted_congr {p q : DiskPartitionInfo} (htag : q.tag = p.tag)
    (hstorage : q.storageType = p.storageType) (fsType label : String) :
    (q.formatted fsType label).tag = (p.formatted fsType label).tag ∧
      env.formats q fsType label = env.formats p fsType label := by
  simp only [DiskPartitionInfo.tag, Prod.mk.injEq] at htag
  obtain ⟨hname, hlabel, huuid, hdrive, hfs, hpower⟩ := htag
  have htype : q.formatFsType fsType = p.formatFsType fsType := by
    unfold DiskPartitionInfo.formatFsType PdmFs.setDefaultFsForFormat
    rw [hstorage, hfs]
  refine ⟨?_, ?_⟩
  · unfold DiskPartitionInfo.formatted DiskPartitionInfo.setFsType DiskPartitionInfo.setVolumeLabel
    rw [htype]
    split <;> split <;>
      simp only [DiskPartitionInfo.tag, hname, hlabel, huuid, hdrive, hfs, hpower]
  · unfold Env.formats
    rw [hdrive, htype]

theorem formatted_space (fsType label : String) : (p.formatted fsType label).space = p.space := by
  unfold DiskPartitionInfo.formatted DiskPartitionInfo.setFsType DiskPartitionInfo.setVolumeLabel
  split <;> split <;> rfl

theorem formatted_power (fsType label : String) :
    (p.formatted fsType label).powerStatus = p.powerStatus := by
  unfold DiskPartitionInfo.formatted DiskPartitionInfo.setFsType DiskPartitionInfo.setVolumeLabel
  split <;> split <;> rfl

theorem formatted_ident (fsType label : String) :
    (p.formatted fsType label).ident = p.ident := by
  unfold DiskPartitionInfo.formatted
  rw [DiskPartitionInfo.setVolumeLabel_ident, DiskPartitionInfo.setFsType_ident]

theorem formatFs_outcome (fsType label : String) :
    ((PdmFs.format env s p fsType label).ret = .success ↔ env.formats p fsType label = true) ∧
      (PdmFs.format env s p fsType label).obj =
        if env.formats p fsType label = true then p.formatted fsType label else p := by
  have hdrive : ∀ (t : Sys) (fs : String), (DiskFormat.formatDrive env t p.driveName fs label).1 =
      (DiskFormat.formatDrive env {} p.driveName fs label).1 := by
    intro t fs
    unfold DiskFormat.formatDrive
    dsimp only
    split
    · rfl
    · rw [Sys.runCommand_fst]
      split <;> rfl
  unfold PdmFs.format Env.formats DiskPartitionInfo.formatted DiskPartitionInfo.formatFsType
  dsimp only
  generalize (if PdmFs.isSupportedFileSystem fsType (sMapStorageType p.storageType) = true
    then fsType else PdmFs.setDefaultFsForFormat p) = fs
  rw [hdrive]
  by_cases hok : (DiskFormat.formatDrive env {} p.driveName fs label).1 = .success
  · rw [if_pos hok, decide_eq_true hok]
    exact ⟨iff_of_true hok rfl, (if_pos rfl).symm⟩
  · rw [if_neg hok, decide_eq_false hok]
    exact ⟨iff_of_false hok (by simp), (if_neg (by simp)).symm⟩

/-- What a format comes to is not changed by unmounting the partition first. -/
theorem formatFs_unmounted (t : Sys) (fsType label : String) :
    let u := (umountPartition env s p false).obj
    (u.formatted fsType label).tag = (p.formatted fsType label).tag ∧
      ((PdmFs.format env t u fsType label).ret = .success ↔
        env.formats p fsType label = true) ∧
      (PdmFs.format env t u fsType label).obj =
        if env.formats p fsType label = true then u.formatted fsType label else u := by
  intro u
  obtain ⟨htag, hformats⟩ := formatted_congr env (umountPartition_leaves env s p).tag
    (umountPartition_sameFs env s p) fsType label
  rw [← hformats]
  exact ⟨htag, formatFs_outcome env t u fsType label⟩

/-- Two partitions that look alike and hide the flag alike have one tag. -/
theorem tag_of_driveInfo {p q : DiskPartitionInfo} (h : q.driveInfo = p.driveInfo)
    (hpower : q.powerStatus = p.powerStatus) : q.tag = p.tag := by
  simp only [DiskPartitionInfo.tag, Prod.mk.injEq]
  exact ⟨congrArg (·.mountName) h, congrArg (·.volumeLabel) h, congrArg (·.uuid) h,
    congrArg (·.driveName) h, congrArg (·.fsType) h, hpower⟩

/-- A format whose mount fails leaves a partition that looks as its tag does. -/
theorem format_unmounted_driveInfo {u : DiskPartitionInfo} (hfreed : u.mounted = false)
    (fsType label : String) (t : Sys) (hmount : env.mounts (u.formatted fsType label) false = false) :
    u.driveInfo = (mountPartition env t (u.formatted fsType label) false).obj.driveInfo ↔
      (u.formatted fsType label).tag = u.tag := by
  have hleaves := mountPartition_leaves env t (u.formatted fsType label) false
  rw [hmount] at hleaves
  have hpower : (mountPartition env t (u.formatted fsType label) false).obj.powerStatus =
      u.powerStatus := by
    have htag := hleaves.tag
    simp only [DiskPartitionInfo.tag, Prod.mk.injEq] at htag
    rw [htag.2.2.2.2.2, formatted_power]
  refine ⟨fun h => ?_, fun h => ?_⟩
  · rw [← hleaves.tag]
    exact tag_of_driveInfo h.symm hpower
  · refine ((DiskPartitionInfo.driveInfo_eq_iff (hleaves.tag.trans h)).mpr ⟨fun _ => ?_, ?_⟩).symm
    · rw [hfreed, hleaves.mounted]
    · have hspace : (mountPartition env t (u.formatted fsType label) false).obj.space = u.space :=
        hleaves.space.trans (formatted_space u fsType label)
      rw [hspace]

theorem formatOn_shown (hnodup : d.addresses.Nodup) (hp : p ∈ d.diskPartitionList)
    (fsType label : String) :
    ((d.formatOnPosts env s p fsType label).getD d).shown =
        (formatOn env s d p fsType label).obj.shown ↔ FormatUnseen env s d p fsType label := by
  have huident := (DiskPartitionInfo.ident_eq_iff.mp (umountPartition_ident env s p false)).1
  have huleaves := umountPartition_leaves env s p
  unfold formatOnPosts formatOn FormatUnseen
  by_cases hreadOnly : d.isReadOnly = true
  · rw [if_pos hreadOnly, if_pos hreadOnly]
    exact iff_of_true rfl (Or.inl hreadOnly)
  · rw [if_neg hreadOnly, if_neg hreadOnly, or_iff_right hreadOnly]
    dsimp only
    by_cases hfree : env.frees s p
    · have hret := (umountPartition_frees env s p).mpr hfree
      rw [if_neg (not_not_intro hret), if_neg (not_not_intro hret), if_pos hfree]
      have hfreed := umountPartition_freed env s p hfree
      generalize (umountPartition env s p false).state = t
      obtain ⟨htag, hfret, hfobj⟩ := formatFs_unmounted env s p
        (handlerCb t .formatStarted (some p.address)) fsType label
      generalize (umountPartition env s p false).obj = u at *
      generalize PdmFs.format env (handlerCb t .formatStarted (some p.address)) u fsType label = f
        at *
      by_cases hok : env.formats p fsType label = true
      · rw [if_pos (hfret.mpr hok)]
        rw [if_pos hok] at hfobj
        have hmret := (mountPartition_eq env f.state f.obj false).2.2
        rw [hfobj, env.mounts_congr htag] at hmret
        rw [hfobj]
        by_cases hmounts : env.mounts (p.formatted fsType label) false = true
        · rw [if_pos (hmret.mpr hmounts), if_pos (hmret.mpr hmounts)]
          exact iff_of_true rfl fun _ => Or.inl hmounts
        · have hunmounted : env.mounts (u.formatted fsType label) false = false := by
            rw [env.mounts_congr htag]
            exact Bool.eq_false_iff.mpr hmounts
          have hmident := (DiskPartitionInfo.ident_eq_iff.mp
            (mountPartition_ident env f.state (u.formatted fsType label) false)).1
          have hfident := (DiskPartitionInfo.ident_eq_iff.mp (formatted_ident u fsType label)).1
          rw [if_neg (mt hmret.mp hmounts), if_neg (mt hmret.mp hmounts)]
          show (d.setPartition u).shown = (d.setPartition _).shown ↔ _
          rw [shown_setPartition d hnodup hp huident (hmident.trans (hfident.trans huident)),
            format_unmounted_driveInfo env hfreed fsType label f.state hunmounted, htag,
            huleaves.tag]
          exact ⟨fun h _ => Or.inr h, fun h => (h hok).resolve_left hmounts⟩
      · have hfail := mt hfret.mp hok
        rw [if_neg hfail, if_neg hfail, if_neg hfail, hfobj, if_neg hok]
        exact iff_of_true rfl fun h => absurd h hok
    · have hret := mt (umountPartition_frees env s p).mp hfree
      rw [if_pos hret, if_pos hret, if_neg hfree]
      show d.shown = (d.setPartition (umountPartition env s p false).obj).shown ↔ _
      rw [eq_comm, shown_setPartition_iff d hnodup hp huident]
      exact huleaves.unseen_iff

theorem formatDiskStartPosts_address (driveName fsType label : String) :
    ∀ e ∈ d.formatDiskStartPosts env s driveName fsType label, e.address = d.address := by
  unfold formatDiskStartPosts
  intro e he
  split at he
  · exact absurd he (by simp)
  · unfold formatOnPosts at he
    split at he
    · exact absurd he (by simp)
    · dsimp only at he
      split at he
      · exact absurd he (by simp)
      -- The first split is on the format's answer, the next on the mount's.
      · split at he
        · split at he
          · rw [← Option.some.inj he]
            rfl
          · rw [← Option.some.inj he]
            rfl
        · rw [← Option.some.inj he]
          rfl

/-! ### `mountandFullFsck` -/

/-- The list shows nothing of what `enforceFsckAndMount` does to the partition. -/
def EnforceUnseen (env : Env) (needFsck : Bool) (p : DiskPartitionInfo) : Prop :=
  if needFsck = false ∧ p.mounted = false then
    Unseen env p (env.mounts p false) (env.mounts p false)
  else if p.fsckStatus = PdmDevStatus.fsckTimeout.code then
    Unseen env p (env.mountedAfterFsck p PdmFsck.FORCE) (env.recovers p PdmFsck.FORCE)
  else True

instance (needFsck : Bool) : Decidable (EnforceUnseen env needFsck p) := by
  unfold EnforceUnseen
  infer_instance

theorem enforcePartition_shown (needFsck : Bool) :
    (enforcePartition env needFsck s p).obj.driveInfo = p.driveInfo ↔
      EnforceUnseen env needFsck p := by
  unfold enforcePartition EnforceUnseen
  by_cases hmount : needFsck = false ∧ p.mounted = false
  · rw [if_pos hmount, if_pos hmount]
    exact (mountPartition_leaves env s p false).unseen_iff
  · rw [if_neg hmount, if_neg hmount]
    by_cases htimeout : p.fsckStatus = PdmDevStatus.fsckTimeout.code
    · rw [if_pos htimeout, if_pos htimeout]
      exact (fsckPartition_leaves env s p PdmFsck.FORCE).unseen_iff
    · rw [if_neg htimeout, if_neg htimeout]
      exact iff_of_true rfl trivial

theorem fsckPartition_recovers (fsckMode : String) :
    (fsckPartition env s p fsckMode).ret = .success ↔ env.recovers p fsckMode = true := by
  have hret := (fsckFs_eq env (handlerCb s .fsckStarted none) p fsckMode).1
  have htag := (fsckFs_leaves env (handlerCb s .fsckStarted none) p fsckMode).tag
  unfold fsckPartition Env.recovers
  dsimp only
  rw [hret]
  by_cases hok : env.checkStatus p fsckMode = .success
  · rw [if_pos hok, decide_eq_true hok, Bool.true_and, (mountPartition_eq env _ _ false).2.2,
      env.mounts_congr htag]
  · rw [if_neg hok, hret, decide_eq_false hok, Bool.false_and]
    exact iff_of_false hok (by simp)

theorem enforcePartition_enforces (needFsck : Bool) :
    (enforcePartition env needFsck s p).ret = .success ↔ env.enforces needFsck p = true := by
  unfold enforcePartition Env.enforces
  by_cases hmount : needFsck = false ∧ p.mounted = false
  · rw [if_pos hmount, if_pos hmount]
    exact (mountPartition_eq env s p false).2.2
  · rw [if_neg hmount, if_neg hmount]
    by_cases htimeout : p.fsckStatus = PdmDevStatus.fsckTimeout.code
    · rw [if_pos htimeout, if_pos htimeout]
      exact fsckPartition_recovers env s p PdmFsck.FORCE
    · rw [if_neg htimeout, if_neg htimeout]
      exact iff_of_true rfl rfl

/-- The list shows nothing of `enforceFsckAndMount` on the device. -/
def MountFsckUnseen (env : Env) (needFsck : Bool) (d : StorageDevice) : Prop :=
  d.diskPartitionList = [] ∨
    (∀ p ∈ d.diskPartitionList, EnforceUnseen env needFsck p) ∧
      ((∀ p ∈ d.diskPartitionList, env.enforces needFsck p = true) → d.errorReason = .nothing)

instance (needFsck : Bool) : Decidable (MountFsckUnseen env needFsck d) :=
  inferInstanceAs (Decidable (_ ∨ _ ∧ _))

theorem enforcePartition_driveInfo (needFsck : Bool) :
    (enforcePartition env needFsck s p).obj.driveInfo =
      (enforcePartition env needFsck {} p).obj.driveInfo := by
  unfold enforcePartition
  split
  · rw [mountPartition_obj]
  · split
    · rw [fsckPartition_obj]
    · rfl

theorem enforceFsckAndMount_shown (needFsck : Bool) :
    (enforceFsckAndMount env s d needFsck).obj.shown = d.shown ↔ MountFsckUnseen env needFsck d := by
  have hlist : (enforceFsckAndMount env s d needFsck).obj.diskPartitionList.map (·.driveInfo) =
      d.diskPartitionList.map (·.driveInfo) ↔
        ∀ p ∈ d.diskPartitionList, EnforceUnseen env needFsck p := by
    rw [enforceFsckAndMount_list, Visit.visit_image
      (fun s p => enforcePartition_driveInfo env s p needFsck), List.map_inj_left]
    exact forall₂_congr fun p _ => enforcePartition_shown env {} p needFsck
  have hret : (∀ r ∈ (visit (enforcePartition env needFsck) s d.diskPartitionList).ret,
      r = .success) ↔ ∀ p ∈ d.diskPartitionList, env.enforces needFsck p = true :=
    Visit.visit_ret_iff (fun s p => enforcePartition_enforces env s p needFsck) _ s
  have hface : (enforceFsckAndMount env s d needFsck).obj.face = d.face ↔
      ((∀ p ∈ d.diskPartitionList, env.enforces needFsck p = true) → d.errorReason = .nothing) := by
    rw [← hret, ← worst_success (show PdmDevStatus.error ≠ .success by decide)]
    unfold enforceFsckAndMount
    dsimp only
    by_cases hall : (d.afterLoop (visit (enforcePartition env needFsck) s d.diskPartitionList)
        .error).ret = .success
    · rw [if_pos hall]
      refine ⟨fun h _ => (congrArg (·.errorReason) h).symm, fun h => ?_⟩
      have hnothing := h hall
      show ({ d.face with errorReason := .nothing } : StorageDeviceInfo) = d.face
      rw [← hnothing]
      rfl
    · rw [if_neg hall]
      exact iff_of_true rfl fun h => absurd h hall
  have hempty : (enforceFsckAndMount env s d needFsck).obj.diskPartitionList = [] ↔
      d.diskPartitionList = [] := by
    rw [enforceFsckAndMount_list]
    cases d.diskPartitionList <;> simp [Visit.visit_cons]
  unfold MountFsckUnseen
  by_cases hparts : d.diskPartitionList = []
  · rw [shown_none hparts, shown_none (hempty.mpr hparts)]
    exact iff_of_true rfl (Or.inl hparts)
  · rw [shown_some hparts, shown_some (mt hempty.mp hparts), Option.some.injEq, deviceInfo_eq_iff,
      or_iff_right hparts]
    exact and_congr hlist hface

/-! ### `getSpaceInfo` -/

theorem getSpaceInfoOn_shown (hnodup : d.addresses.Nodup) (hp : p ∈ d.diskPartitionList)
    (directCheck : Bool) :
    (getSpaceInfoOn env d p directCheck).1.shown = d.shown ↔
      (p.mounted = true ∧ directCheck = true →
        toInt32 (env.measured p).driveSize = toInt32 p.space.driveSize) := by
  unfold getSpaceInfoOn Env.measured
  by_cases hdirect : p.mounted = true ∧ directCheck = true
  · rw [if_pos (by simp [hdirect]), imp_iff_right hdirect]
    cases PdmFs.calculateSpaceInfo env p.mountName with
    | none => exact iff_of_true rfl rfl
    | some spaceData =>
      show (d.setPartition (p.setSpace spaceData)).shown = d.shown ↔ _
      rw [shown_setPartition_iff d hnodup hp (q := p.setSpace spaceData) rfl,
        DiskPartitionInfo.driveInfo_eq_iff (p := p) (q := p.setSpace spaceData) rfl]
      exact and_iff_right fun _ => rfl
  · rw [if_neg (by simpa using hdirect)]
    exact iff_of_true rfl fun h => absurd h hdirect

/-! ### `suspendRequest` -/

/-- The list shows nothing of the power being taken away. -/
def SuspendUnseen (d : StorageDevice) : Prop :=
  ∀ p ∈ d.diskPartitionList, p.powerStatus = true → p.mounted = false

instance : Decidable d.SuspendUnseen := inferInstanceAs (Decidable (∀ p ∈ _, _))

theorem suspendRequest_shown : d.suspendRequest.shown = d.shown ↔ d.SuspendUnseen := by
  have hpart : ∀ q : DiskPartitionInfo, (q.setPowerStatus false).driveInfo = q.driveInfo ↔
      (q.powerStatus = true → q.mounted = false) := by
    intro q
    have hoff : (q.setPowerStatus false).driveInfo = { q.driveInfo with isMounted := false } := rfl
    have hflag : q.driveInfo.isMounted = if q.powerStatus then q.mounted else false := rfl
    rw [hoff]
    refine ⟨fun h hpower => ?_, fun h => ?_⟩
    · have hshown := congrArg (·.isMounted) h
      dsimp only at hshown
      rw [hflag, if_pos hpower] at hshown
      exact hshown.symm
    · have hdark : q.driveInfo.isMounted = false := by
        rw [hflag, ite_eq_right_iff]
        exact h
      rw [← hdark]
  have hlist : d.suspendRequest.diskPartitionList.map (·.driveInfo) =
      d.diskPartitionList.map (·.driveInfo) ↔ d.SuspendUnseen := by
    show (d.diskPartitionList.map (·.setPowerStatus false)).map (·.driveInfo) = _ ↔ _
    rw [List.map_map, List.map_inj_left]
    exact forall₂_congr fun q _ => hpart q
  by_cases hparts : d.diskPartitionList = []
  · have hnone : d.suspendRequest.diskPartitionList = [] := List.map_eq_nil_iff.mpr hparts
    rw [shown_none hparts, shown_none hnone]
    exact iff_of_true rfl fun p hp => absurd (hparts ▸ hp) (by simp)
  · have hsome : d.suspendRequest.diskPartitionList ≠ [] := mt List.map_eq_nil_iff.mp hparts
    rw [shown_some hparts, shown_some hsome, Option.some.injEq, deviceInfo_eq_iff, hlist]
    exact and_iff_left rfl

/-! ### A thread -/

/-- The list shows nothing of the thread's check, or is posted after it. -/
def ThreadUnseen (env : Env) (d : StorageDevice) (partition : Nat) : Prop :=
  d.endsRound env partition = true ∨
    ∀ p ∈ d.diskPartitionList, p.address = partition →
      Unseen env p (env.mountedAfterFsck p PdmFsck.AUTO) (env.recovers p PdmFsck.AUTO)

instance (partition : Nat) : Decidable (d.ThreadUnseen env partition) :=
  inferInstanceAs (Decidable (_ ∨ ∀ p ∈ _, _))

theorem fsckOnDeviceAddThread_shown (hnodup : d.addresses.Nodup) (partition : Nat) :
    ((d.fsckOnDeviceAddThreadPosts env s partition).getD d).shown =
        (fsckOnDeviceAddThread env s d partition).obj.shown ↔ d.ThreadUnseen env partition := by
  have hposted := fsckOnDeviceAddThread_posted env s d partition
  unfold ThreadUnseen
  by_cases hends : d.endsRound env partition = true
  · rw [hends] at hposted
    obtain ⟨e, he⟩ := Option.isSome_iff_exists.mp hposted.announced
    rw [he]
    exact iff_of_true (hposted.shown e he) (Or.inl hends)
  · rw [Bool.not_eq_true] at hends
    rw [hends] at hposted ⊢
    have hnone : d.fsckOnDeviceAddThreadPosts env s partition = none := by
      cases hposts : d.fsckOnDeviceAddThreadPosts env s partition with
      | none => rfl
      | some e => exact absurd (hposts ▸ hposted.announced) (by simp)
    rw [hnone, or_iff_right (by simp)]
    show d.shown = _ ↔ _
    rw [fsckOnDeviceAddThread_unposted env s d hends]
    unfold fsckPartitionAt
    cases hfind : d.diskPartitionList.find? (·.address = partition) with
    | none =>
      refine iff_of_true rfl fun p hp haddress => ?_
      exact absurd haddress (by simpa using List.find?_eq_none.mp hfind p hp)
    | some p =>
      have hp := List.mem_of_find?_eq_some hfind
      have haddress : p.address = partition := by simpa using List.find?_some hfind
      have hident := (DiskPartitionInfo.ident_eq_iff.mp (fsckPartition_ident env {} p
        PdmFsck.AUTO)).1
      dsimp only
      rw [eq_comm, shown_setPartition_iff d hnodup hp hident,
        (fsckPartition_leaves env {} p PdmFsck.AUTO).unseen_iff]
      refine ⟨fun h q hq hqaddress => ?_, fun h => h p hp haddress⟩
      rw [List.inj_on_of_nodup_map hnodup hq hp (hqaddress.trans haddress.symm)]
      exact h

end StorageDevice

end Pdm
