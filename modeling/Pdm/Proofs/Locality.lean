/-
What an operation looks at.

An operation on a partition asks the mount table one thing at most, whether something is
mounted at the partition's own mount point.  So in two states whose tables agree there it
makes the same of the partition, answers the same and leaves tables that agree there again
(`Out.AgreeOn`).  The same goes for the methods of a device and the mount points of its
partitions, and for a method that is run on all devices in turn.
-/
import Pdm.Lib.Noninterference
import Pdm.Proofs.Methods

namespace Pdm

open Visit (visit)

/-! ### Two states -/

/-- The mount tables agree at the mount points with `M`. -/
def Sys.AgreeOn (M : String → Prop) (s t : Sys) : Prop :=
  ∀ m, M m → (m ∈ s.mounted ↔ m ∈ t.mounted)

namespace Sys.AgreeOn

variable {M N : String → Prop} {s t u s' t' : Sys}

theorem equivalence (M : String → Prop) : Equivalence (Sys.AgreeOn M) where
  refl _ _ _ := Iff.rfl
  symm h m hm := (h m hm).symm
  trans h k m hm := (h m hm).trans (k m hm)

theorem mono (h : AgreeOn M s t) (hNM : ∀ m, N m → M m) : AgreeOn N s t :=
  fun m hm => h m (hNM m hm)

/-- Calls that leave the mount table alone do not matter. -/
theorem congr (h : AgreeOn M s t) (hs : s'.mounted = s.mounted) (ht : t'.mounted = t.mounted) :
    AgreeOn M s' t' := by
  intro m hm
  rw [hs, ht]
  exact h m hm

/-- Something is mounted at the same place in both, or in neither. -/
theorem insert {n : String} {c : Bool} (h : AgreeOn M s t)
    (hs : s'.mounted = if c then Insert.insert n s.mounted else s.mounted)
    (ht : t'.mounted = if c then Insert.insert n t.mounted else t.mounted) : AgreeOn M s' t' := by
  cases c with
  | false => exact h.congr hs ht
  | true =>
    intro m hm
    rw [hs, ht, if_pos rfl, if_pos rfl, Finset.mem_insert, Finset.mem_insert, h m hm]

theorem erase {n : String} {c : Bool} (h : AgreeOn M s t)
    (hs : s'.mounted = if c then s.mounted.erase n else s.mounted)
    (ht : t'.mounted = if c then t.mounted.erase n else t.mounted) : AgreeOn M s' t' := by
  cases c with
  | false => exact h.congr hs ht
  | true =>
    intro m hm
    rw [hs, ht, if_pos rfl, if_pos rfl, Finset.mem_erase, Finset.mem_erase, h m hm]

/-- What is done elsewhere is not seen. -/
theorem of_outside (h : Sys.SameOutside N s t) (hapart : ∀ m, M m → ¬ N m) : AgreeOn M s t :=
  fun m hm => (h.others m (hapart m hm)).symm

end Sys.AgreeOn

/-- Two outcomes that differ at most in what is not at `M`. -/
structure Out.AgreeOn {α ρ : Type} (M : String → Prop) (a b : Out α ρ) : Prop where
  obj : a.obj = b.obj
  ret : a.ret = b.ret
  state : Sys.AgreeOn M a.state b.state

theorem Out.AgreeOn.map {α ρ τ : Type} {M : String → Prop} {a b : Out α ρ} (h : Out.AgreeOn M a b)
    (f : ρ → τ) : Out.AgreeOn M (⟨a.state, a.obj, f a.ret⟩ : Out α τ) ⟨b.state, b.obj, f b.ret⟩ :=
  ⟨h.obj, congrArg f h.ret, h.state⟩

namespace StorageDevice

variable (env : Env) {M : String → Prop} {s t : Sys}

/-! ### One partition -/

section Partition

variable {p : DiskPartitionInfo}

theorem setVolumeLabel_alike (hagree : Sys.AgreeOn M s t) (volLabel : String) :
    Out.AgreeOn M (PdmFs.setVolumeLabel env s p volLabel)
      (PdmFs.setVolumeLabel env t p volLabel) := by
  unfold PdmFs.setVolumeLabel
  split
  · exact ⟨rfl, rfl, hagree⟩
  · dsimp only
    split
    · exact ⟨rfl, rfl, hagree⟩
    · have hret : ∀ argv, (s.runCommand env argv).1 = (t.runCommand env argv).1 := by
        intro argv
        unfold Sys.runCommand
        split <;> rfl
      rw [hret]
      split
      · exact ⟨rfl, rfl, hagree.congr (by simp) (by simp)⟩
      · exact ⟨rfl, rfl, hagree.congr (by simp) (by simp)⟩

theorem formatFs_alike (hagree : Sys.AgreeOn M s t) (fsType label : String) :
    Out.AgreeOn M (PdmFs.format env s p fsType label) (PdmFs.format env t p fsType label) := by
  have hstate : Sys.AgreeOn M (PdmFs.format env s p fsType label).state
      (PdmFs.format env t p fsType label).state :=
    hagree.congr (formatFs_eq env s p fsType label).1 (formatFs_eq env t p fsType label).1
  have hret : ∀ (u v : Sys) (fs : String),
      (DiskFormat.formatDrive env u p.driveName fs label).1 =
        (DiskFormat.formatDrive env v p.driveName fs label).1 := by
    intro u v fs
    unfold DiskFormat.formatDrive
    dsimp only
    split
    · rfl
    · have hrun : (u.runCommand env (DiskFormat.formatCommand p.driveName fs label)).1 =
          (v.runCommand env (DiskFormat.formatCommand p.driveName fs label)).1 := by
        unfold Sys.runCommand
        split <;> rfl
      rw [hrun]
      split <;> rfl
  unfold PdmFs.format at hstate ⊢
  dsimp only at hstate ⊢
  generalize (if PdmFs.isSupportedFileSystem fsType (sMapStorageType p.storageType) = true then
    fsType else PdmFs.setDefaultFsForFormat p) = fs at hstate ⊢
  rw [hret _ (t.record (.formatDrive p.driveName p.mountName))] at hstate ⊢
  refine ⟨?_, ?_, hstate⟩
  · split <;> rfl
  · split <;> rfl

theorem fsckFs_alike (hagree : Sys.AgreeOn M s t) (fsckMode : String) :
    Out.AgreeOn M (PdmFs.fsck env s p fsckMode) (PdmFs.fsck env t p fsckMode) := by
  have hs := fsckFs_eq env s p fsckMode
  have ht := fsckFs_eq env t p fsckMode
  refine ⟨?_, hs.1.trans ht.1.symm, hagree.congr hs.2.1 ht.2.1⟩
  have hret : (PdmFsck.fsck env (s.record (.fsck p.driveName p.mountName)) fsckMode p.fsType
        p.driveName).1 =
      (PdmFsck.fsck env (t.record (.fsck p.driveName p.mountName)) fsckMode p.fsType
        p.driveName).1 :=
    (fsck_status env _ p fsckMode).trans (fsck_status env _ p fsckMode).symm
  unfold PdmFs.fsck
  dsimp only [DiskPartitionInfo.setFsckStatus]
  rw [hret]
  split <;> rfl

theorem mountFs_alike (hagree : Sys.AgreeOn M s t) (readOnly : Bool) :
    Out.AgreeOn M (PdmFs.mountPartition env s p readOnly)
      (PdmFs.mountPartition env t p readOnly) := by
  have hs := mountFs_eq env s p readOnly
  have ht := mountFs_eq env t p readOnly
  refine ⟨?_, hs.1.trans ht.1.symm, hagree.insert hs.2.1 ht.2.1⟩
  have hret : (PdmFs.mountRetry env s (PdmFs.mountCall p readOnly)).1 =
      (PdmFs.mountRetry env t (PdmFs.mountCall p readOnly)).1 :=
    (mountRetry_eq env s _).1.trans (mountRetry_eq env t _).1.symm
  unfold PdmFs.mountPartition
  split
  · rfl
  · dsimp only
    rw [hret]
    split
    · cases PdmFs.calculateSpaceInfo env p.mountName <;> rfl
    · rfl

theorem mountPartition_alike (hagree : Sys.AgreeOn M s t) (readOnly : Bool) :
    Out.AgreeOn M (mountPartition env s p readOnly) (mountPartition env t p readOnly) := by
  have hcb : Sys.AgreeOn M (handlerCb s .mount none) (handlerCb t .mount none) :=
    hagree.congr (by simp) (by simp)
  have hfs := mountFs_alike env (p := p.setDriveStatus .isMounting) hcb readOnly
  unfold mountPartition
  dsimp only
  rw [hfs.ret, hfs.obj]
  split
  · exact ⟨rfl, rfl, hfs.state.congr (by simp) (by simp)⟩
  · exact ⟨rfl, rfl, hfs.state.congr (by simp) (by simp)⟩

theorem fsckPartition_alike (hagree : Sys.AgreeOn M s t) (fsckMode : String) :
    Out.AgreeOn M (fsckPartition env s p fsckMode) (fsckPartition env t p fsckMode) := by
  have hcb : Sys.AgreeOn M (handlerCb s .fsckStarted none) (handlerCb t .fsckStarted none) :=
    hagree.congr (by simp) (by simp)
  have hfs := fsckFs_alike env (p := p) hcb fsckMode
  have hmount := mountPartition_alike env
    (p := (PdmFs.fsck env (handlerCb t .fsckStarted none) p fsckMode).obj) hfs.state false
  unfold fsckPartition
  dsimp only
  rw [hfs.ret, hfs.obj]
  split
  · exact ⟨hmount.obj, hmount.ret, hmount.state.congr (by simp) (by simp)⟩
  · exact ⟨hfs.obj, hfs.ret, hfs.state.congr (by simp) (by simp)⟩

theorem mountSupported_alike (hagree : Sys.AgreeOn M s t) (readOnly : Bool) :
    Out.AgreeOn M (mountSupported env readOnly s p) (mountSupported env readOnly t p) := by
  unfold mountSupported
  split
  · exact mountPartition_alike env hagree readOnly
  · exact ⟨rfl, rfl, hagree⟩

theorem enforcePartition_alike (hagree : Sys.AgreeOn M s t) (needFsck : Bool) :
    Out.AgreeOn M (enforcePartition env needFsck s p) (enforcePartition env needFsck t p) := by
  unfold enforcePartition
  split
  · exact mountPartition_alike env hagree false
  · split
    · exact fsckPartition_alike env hagree PdmFsck.FORCE
    · exact ⟨rfl, rfl, hagree⟩

/-- `umount2` is where the mount table is asked. -/
theorem umount_alike (hagree : Sys.AgreeOn M s t) (hp : M p.mountName) (lazyUnmount : Bool) :
    (PdmFs.umount env s p lazyUnmount).1 = (PdmFs.umount env t p lazyUnmount).1 ∧
      Sys.AgreeOn M (PdmFs.umount env s p lazyUnmount).2 (PdmFs.umount env t p lazyUnmount).2 := by
  have hs := umount_eq env s p lazyUnmount
  have ht := umount_eq env t p lazyUnmount
  refine ⟨?_, hagree.erase hs.2.1 ht.2.1⟩
  rw [hs.1, ht.1, decide_eq_decide.mpr (hagree _ hp)]

theorem umountPartition_alike (hagree : Sys.AgreeOn M s t) (hp : M p.mountName)
    (lazyUnmount : Bool) :
    Out.AgreeOn M (umountPartition env s p lazyUnmount) (umountPartition env t p lazyUnmount) := by
  have hcb : Sys.AgreeOn M (handlerCb (driveInTheWay env s p lazyUnmount).2 .umount none)
      (handlerCb (driveInTheWay env t p lazyUnmount).2 .umount none) :=
    hagree.congr (by simp) (by simp)
  obtain ⟨hret, hstate⟩ := umount_alike env hcb hp lazyUnmount
  unfold umountPartition
  split
  · exact ⟨rfl, rfl, hagree⟩
  · dsimp only
    rw [driveInTheWay_fst, driveInTheWay_fst, hret]
    split
    · exact ⟨rfl, rfl, hagree.congr (by simp) (by simp)⟩
    · split
      · exact ⟨rfl, rfl, hstate.congr (by simp) (by simp)⟩
      · exact ⟨rfl, rfl, hstate.congr (by simp) (by simp)⟩

end Partition

/-! ### One device -/

section Device

variable {d : StorageDevice} (hM : ∀ p ∈ d.diskPartitionList, M p.mountName)

/-- A loop over the partitions. -/
theorem afterLoop_alike (hagree : Sys.AgreeOn M s t)
    {g : Sys → DiskPartitionInfo → Out DiskPartitionInfo PdmDevStatus}
    (hg : ∀ s t, ∀ p ∈ d.diskPartitionList, Sys.AgreeOn M s t → Out.AgreeOn M (g s p) (g t p))
    (failure : PdmDevStatus) :
    Out.AgreeOn M (d.afterLoop (visit g s d.diskPartitionList) failure)
      (d.afterLoop (visit g t d.diskPartitionList) failure) := by
  obtain ⟨hobj, hret, hstate⟩ := Noninterference.visit_same (R := Sys.AgreeOn M)
    (fun s t p hp h => ⟨(hg s t p hp h).obj, (hg s t p hp h).ret, (hg s t p hp h).state⟩) hagree
  unfold afterLoop
  rw [hobj, hret]
  exact ⟨rfl, rfl, hstate⟩

theorem mountAllPartition_alike (hagree : Sys.AgreeOn M s t) :
    Out.AgreeOn M (mountAllPartition env s d) (mountAllPartition env t d) :=
  afterLoop_alike (g := mountSupported env d.isReadOnly) hagree
    (fun _ _ _ _ h => mountSupported_alike env h d.isReadOnly) .mountAllFail

theorem enforceFsckAndMount_alike (hagree : Sys.AgreeOn M s t) (needFsck : Bool) :
    Out.AgreeOn M (enforceFsckAndMount env s d needFsck)
      (enforceFsckAndMount env t d needFsck) := by
  have hloop := afterLoop_alike (d := d) (g := enforcePartition env needFsck) hagree
    (fun _ _ _ _ h => enforcePartition_alike env h needFsck) .error
  unfold enforceFsckAndMount
  dsimp only
  rw [hloop.ret, hloop.obj]
  split
  · exact ⟨rfl, rfl, hloop.state⟩
  · exact hloop

theorem storageDeviceNotification_alike (d : StorageDevice) (hagree : Sys.AgreeOn M s t) :
    Out.AgreeOn M (storageDeviceNotification s d) (storageDeviceNotification t d) := by
  refine ⟨?_, rfl, hagree.congr (by simp) (by simp)⟩
  unfold storageDeviceNotification
  split
  · rfl
  · split <;> rfl

theorem storageDeviceFsckNotification_alike (d : StorageDevice) (hagree : Sys.AgreeOn M s t) :
    Out.AgreeOn M (storageDeviceFsckNotification s d) (storageDeviceFsckNotification t d) := by
  refine ⟨?_, rfl, hagree.congr (by simp) (by simp)⟩
  unfold storageDeviceFsckNotification
  dsimp only
  split
  · rw [(storageDeviceNotification_alike _ hagree).obj]
  · rfl

theorem fsckOnDeviceAddThread_alike (hagree : Sys.AgreeOn M s t) (partition : Nat) :
    Out.AgreeOn M (fsckOnDeviceAddThread env s d partition)
      (fsckOnDeviceAddThread env t d partition) := by
  unfold fsckOnDeviceAddThread fsckPartitionAt
  cases d.diskPartitionList.find? (·.address = partition) with
  | none => exact storageDeviceFsckNotification_alike _ (hagree.congr (by simp) (by simp))
  | some p =>
    have hcheck := fsckPartition_alike env (p := p) hagree PdmFsck.AUTO
    dsimp only
    rw [hcheck.obj]
    exact storageDeviceFsckNotification_alike _ hcheck.state

theorem suspendUmountLoop_alike (lazyUnmount : Bool) {l : List DiskPartitionInfo}
    (hl : ∀ p ∈ l, M p.mountName) :
    ∀ {s t : Sys} (ret : Bool), Sys.AgreeOn M s t →
      Sys.AgreeOn M (suspendUmountLoop env lazyUnmount s ret l).2
        (suspendUmountLoop env lazyUnmount t ret l).2 := by
  induction l with
  | nil => intro s t ret h; exact h
  | cons p ps ih =>
      intro s t ret h
      have hway : Sys.AgreeOn M (driveInTheWay env s p lazyUnmount).2
          (driveInTheWay env t p lazyUnmount).2 := h.congr (by simp) (by simp)
      obtain ⟨hret, hstate⟩ := umount_alike env hway (hl p (by simp)) lazyUnmount
      unfold suspendUmountLoop
      dsimp only
      rw [driveInTheWay_fst, driveInTheWay_fst, hret]
      split
      · exact hway
      · exact ih (fun q hq => hl q (by simp [hq])) _ hstate

theorem setPartitionVolumeLabel_alike (hagree : Sys.AgreeOn M s t)
    (driveName volumeLabel : String) :
    Out.AgreeOn M (setPartitionVolumeLabel env s d driveName volumeLabel)
      (setPartitionVolumeLabel env t d driveName volumeLabel) := by
  unfold setPartitionVolumeLabel
  cases d.findPartition driveName with
  | none => exact ⟨rfl, rfl, hagree⟩
  | some p =>
    have hlabel := setVolumeLabel_alike env (p := p) hagree volumeLabel
    dsimp only
    unfold setVolumeLabelOn
    dsimp only
    rw [hlabel.obj, hlabel.ret]
    exact ⟨rfl, rfl, hlabel.state⟩

theorem isWritable_alike (hagree : Sys.AgreeOn M s t) (driveName : String) :
    (isWritable env s d driveName).1 = (isWritable env t d driveName).1 ∧
      Sys.AgreeOn M (isWritable env s d driveName).2 (isWritable env t d driveName).2 := by
  refine ⟨?_, hagree.congr (isWritable_untouched env s d driveName).mounted
    (isWritable_untouched env t d driveName).mounted⟩
  unfold isWritable PdmFs.isWritable PdmFs.isDriveBusy
  cases d.findPartition driveName with
  | none => rfl
  | some p =>
    dsimp only
    rw [Sys.execShellCmd_fst, Sys.execShellCmd_fst]
    split <;> rfl

theorem resumeRequest_alike (hagree : Sys.AgreeOn M s t) :
    Out.AgreeOn M (resumeRequest env s d) (resumeRequest env t d) := by
  unfold resumeRequest
  dsimp only
  split
  · exact ⟨rfl, rfl, hagree⟩
  · have hloop := mountAllPartition_alike env (d := { d with
      diskPartitionList := d.diskPartitionList.map (·.setPowerStatus true)
      isPowerOnConnect := true }) hagree
    rw [hloop.obj]
    split
    · exact ⟨rfl, rfl, hloop.state⟩
    · exact ⟨rfl, rfl, hloop.state⟩

include hM

theorem umountAllPartition_alike (hagree : Sys.AgreeOn M s t) (lazyUnmount : Bool) :
    Out.AgreeOn M (umountAllPartition env s d lazyUnmount)
      (umountAllPartition env t d lazyUnmount) :=
  afterLoop_alike (g := fun s p => umountPartition env s p lazyUnmount) hagree
    (fun _ _ p hp h => umountPartition_alike env h (hM p hp) lazyUnmount) .umountAllFail

theorem eject_alike (hagree : Sys.AgreeOn M s t) :
    Out.AgreeOn M (eject env s d) (eject env t d) := by
  have hloop := umountAllPartition_alike env hM hagree false
  unfold eject
  dsimp only
  rw [hloop.ret, hloop.obj]
  split
  · exact ⟨rfl, rfl, hloop.state⟩
  · exact ⟨rfl, rfl, hloop.state⟩

theorem fsck_alike (hagree : Sys.AgreeOn M s t) (driveName : String) :
    Out.AgreeOn M (fsck env s d driveName) (fsck env t d driveName) := by
  unfold fsck
  cases hp : d.findPartition driveName with
  | none => exact ⟨rfl, rfl, hagree⟩
  | some p =>
    have humount := umountPartition_alike env hagree (hM p (d.findPartition_mem hp).1) false
    have hcheck := fsckPartition_alike env (p := (umountPartition env t p false).obj)
      humount.state PdmFsck.AUTO
    dsimp only
    unfold fsckOn
    split
    · exact ⟨rfl, rfl, hagree⟩
    · dsimp only
      rw [humount.ret, humount.obj]
      split
      · exact ⟨rfl, rfl, humount.state⟩
      · exact ⟨by rw [hcheck.obj], by rw [hcheck.ret], hcheck.state⟩

theorem formatDiskStart_alike (hagree : Sys.AgreeOn M s t)
    (driveName fsType volumeLabel : String) :
    Out.AgreeOn M (formatDiskStart env s d driveName fsType volumeLabel)
      (formatDiskStart env t d driveName fsType volumeLabel) := by
  unfold formatDiskStart
  cases hp : d.findPartition driveName with
  | none => exact ⟨rfl, rfl, hagree⟩
  | some p =>
    have humount := umountPartition_alike env hagree (hM p (d.findPartition_mem hp).1) false
    dsimp only
    unfold formatOn
    split
    · exact ⟨rfl, rfl, hagree⟩
    · dsimp only
      rw [humount.ret, humount.obj]
      split
      · exact ⟨rfl, rfl, humount.state⟩
      · have hcb : Sys.AgreeOn M
            (handlerCb (umountPartition env s p false).state .formatStarted (some p.address))
            (handlerCb (umountPartition env t p false).state .formatStarted (some p.address)) :=
          humount.state.congr (by simp) (by simp)
        have hformat := formatFs_alike env (p := (umountPartition env t p false).obj) hcb fsType
          volumeLabel
        generalize PdmFs.format env (handlerCb (umountPartition env s p false).state .formatStarted
          (some p.address)) (umountPartition env t p false).obj fsType volumeLabel = f at hformat ⊢
        generalize PdmFs.format env (handlerCb (umountPartition env t p false).state .formatStarted
          (some p.address)) (umountPartition env t p false).obj fsType volumeLabel = g at hformat ⊢
        have hmount : Out.AgreeOn M
            (if f.ret = .success then mountPartition env f.state f.obj false else f)
            (if g.ret = .success then mountPartition env g.state g.obj false else g) := by
          rw [hformat.ret, hformat.obj]
          split
          · exact mountPartition_alike env hformat.state false
          · exact hformat
        generalize (if f.ret = .success then mountPartition env f.state f.obj false else f) = m
          at hmount ⊢
        generalize (if g.ret = .success then mountPartition env g.state g.obj false else g) = n
          at hmount ⊢
        rw [hmount.ret, hmount.obj]
        split
        · exact ⟨rfl, rfl, hmount.state.congr (by simp) (by simp)⟩
        · exact ⟨rfl, rfl, hmount.state.congr (by simp) (by simp)⟩

end Device

end StorageDevice

end Pdm
