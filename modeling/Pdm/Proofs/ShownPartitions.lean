/-
What the list shows of a partition before and after an operation on it.

Mounting, unmounting and checking change two things that are shown: whether the partition
is mounted and, when a mount has measured it, its size.  `Leaves` says what an operation
makes of the two, and `Unseen`, of the partition as it was and of the system's answers, that
the list shows neither.
-/
import Pdm.Framework.StorageList
import Pdm.Proofs.PartitionOutcomes

namespace Pdm

namespace DiskPartitionInfo

/-- What is shown of a partition, but for the flag and the size, with what hides the flag. -/
def tag (p : DiskPartitionInfo) : String × String × String × String × String × Bool :=
  (p.mountName, p.volumeLabel, p.uuid, p.driveName, p.fsType, p.powerStatus)

/-- Whether a partition is shown as mounted. -/
theorem isMounted_eq_iff {p q : DiskPartitionInfo} (hpower : q.powerStatus = p.powerStatus) :
    q.driveInfo.isMounted = p.driveInfo.isMounted ↔ (p.powerStatus = true → p.mounted = q.mounted) := by
  show (if q.powerStatus = true then q.mounted else false) =
    (if p.powerStatus = true then p.mounted else false) ↔ _
  rw [hpower]
  by_cases h : p.powerStatus = true
  · rw [if_pos h, if_pos h, eq_comm]
    exact ⟨fun heq _ => heq, fun heq => heq h⟩
  · rw [if_neg h, if_neg h]
    exact iff_of_true rfl fun hpower => absurd hpower h

/-- Two partitions of one tag look alike when the flag, where it shows, and the size do. -/
theorem driveInfo_eq_iff {p q : DiskPartitionInfo} (htag : q.tag = p.tag) :
    q.driveInfo = p.driveInfo ↔
      (p.powerStatus = true → p.mounted = q.mounted) ∧
        toInt32 q.space.driveSize = toInt32 p.space.driveSize := by
  simp only [tag, Prod.mk.injEq] at htag
  obtain ⟨hname, hlabel, huuid, hdrive, hfs, hpower⟩ := htag
  refine ⟨fun h => ⟨(isMounted_eq_iff hpower).mp (congrArg (·.isMounted) h),
    congrArg (·.driveSize) h⟩, ?_⟩
  rintro ⟨hflag, hsize⟩
  have hshown := (isMounted_eq_iff hpower).mpr hflag
  cases p
  cases q
  simp_all [driveInfo]

end DiskPartitionInfo

/-- The space that a mount of the partition will find, or the one that is known. -/
def Env.measured (env : Env) (p : DiskPartitionInfo) : SpaceInfo :=
  (PdmFs.calculateSpaceInfo env p.mountName).getD p.space

/-- An operation leaves the flag at `mounted`, and has measured the partition or not. -/
structure Leaves (env : Env) (p q : DiskPartitionInfo) (mounted measured : Bool) : Prop where
  tag : q.tag = p.tag
  mounted : q.mounted = mounted
  space : q.space = if measured then env.measured p else p.space

/-- The list shows nothing of a flag left at `mounted`, and nothing of the measuring. -/
def Unseen (env : Env) (p : DiskPartitionInfo) (mounted measured : Bool) : Prop :=
  (p.powerStatus = true → p.mounted = mounted) ∧
    (measured = true → toInt32 (env.measured p).driveSize = toInt32 p.space.driveSize)

instance (env : Env) (p : DiskPartitionInfo) (mounted measured : Bool) :
    Decidable (Unseen env p mounted measured) := inferInstanceAs (Decidable (_ ∧ _))

namespace Leaves

variable {env : Env} {p q r : DiskPartitionInfo} {mounted measured : Bool}

theorem refl (env : Env) (p : DiskPartitionInfo) : Leaves env p p p.mounted false := ⟨rfl, rfl, rfl⟩

theorem unseen_iff (h : Leaves env p q mounted measured) :
    q.driveInfo = p.driveInfo ↔ Unseen env p mounted measured := by
  rw [DiskPartitionInfo.driveInfo_eq_iff h.tag, h.mounted, h.space]
  refine and_congr_right fun _ => ?_
  cases measured with
  | true => exact ⟨fun heq _ => heq, fun heq => heq rfl⟩
  | false => exact iff_of_true rfl fun hfalse => absurd hfalse (by simp)

/-- An operation after one that measured nothing. -/
theorem trans {b : Bool} (h : Leaves env p q b false) (h' : Leaves env q r mounted measured) :
    Leaves env p r mounted measured := by
  have hname : q.mountName = p.mountName := congrArg Prod.fst h.tag
  refine ⟨h'.tag.trans h.tag, h'.mounted, ?_⟩
  have hspace : q.space = p.space := h.space
  rw [h'.space]
  unfold Env.measured
  rw [hname, hspace]

end Leaves

/-! ### The operations -/

/-- The partition will be free to be checked or formatted: it is not mounted, or it is not in
use and the kernel lets go. -/
def Env.frees (env : Env) (s : Sys) (p : DiskPartitionInfo) : Prop :=
  p.mounted = true → env.busy p = false ∧ p.mountName ∈ s.mounted ∧ env.letsGo p false = true

instance (env : Env) (s : Sys) (p : DiskPartitionInfo) : Decidable (env.frees s p) :=
  inferInstanceAs (Decidable (_ → _))

/-- The check of the partition will succeed and so will the mount after it. -/
def Env.recovers (env : Env) (p : DiskPartitionInfo) (fsckMode : String) : Bool :=
  env.checkStatus p fsckMode = .success && env.mounts p false

/-- Whether the partition will be mounted after it is checked. -/
def Env.mountedAfterFsck (env : Env) (p : DiskPartitionInfo) (fsckMode : String) : Bool :=
  if env.checkStatus p fsckMode = .success then env.mounts p false
  else if env.checkStatus p fsckMode = .fsckTimeout then false
  else p.mounted

section Congr

variable (env : Env) {p q : DiskPartitionInfo} (htag : q.tag = p.tag)

include htag

theorem Env.mounts_congr {readOnly : Bool} : env.mounts q readOnly = env.mounts p readOnly := by
  simp only [DiskPartitionInfo.tag, Prod.mk.injEq] at htag
  unfold Env.mounts PdmFs.mountCall
  rw [htag.1, htag.2.2.2.1, htag.2.2.2.2.1]

theorem Env.recovers_congr {fsckMode : String} : env.recovers q fsckMode = env.recovers p fsckMode := by
  unfold Env.recovers
  rw [env.mounts_congr htag]
  simp only [DiskPartitionInfo.tag, Prod.mk.injEq] at htag
  unfold Env.checkStatus
  rw [htag.2.2.2.1, htag.2.2.2.2.1]

end Congr

namespace StorageDevice

variable (env : Env) (s : Sys) (p : DiskPartitionInfo)

theorem umountPartition_leaves :
    Leaves env p (umountPartition env s p false).obj (p.mounted && env.busy p) false := by
  unfold umountPartition
  by_cases hmounted : p.mounted = false
  · rw [if_pos hmounted]
    exact ⟨rfl, by simp [hmounted], rfl⟩
  · rw [if_neg hmounted]
    rw [Bool.not_eq_false] at hmounted
    dsimp only
    rw [driveInTheWay_fst, hmounted]
    by_cases hbusy : env.busy p = true
    · rw [if_pos (by simp [hbusy]), hbusy]
      exact ⟨rfl, hmounted, rfl⟩
    · rw [if_neg (by simp [hbusy]), Bool.eq_false_iff.mpr hbusy]
      split
      · exact ⟨rfl, by simp, rfl⟩
      · exact ⟨rfl, by simp, rfl⟩

theorem umountPartition_frees :
    (umountPartition env s p false).ret = .success ↔ env.frees s p := by
  unfold Env.frees
  by_cases hmounted : p.mounted = true
  · by_cases hbusy : env.busy p = true
    · rw [(umountPartition_busy env s p hmounted hbusy).2.2]
      simp [hmounted, hbusy]
    · rw [Bool.not_eq_true] at hbusy
      rw [(umountPartition_try env s p hmounted (Or.inr hbusy)).2.2]
      simp [hmounted, hbusy]
  · rw [Bool.not_eq_true] at hmounted
    rw [umountPartition_unflagged env s p hmounted]
    simp [hmounted]

/-- A partition that was freed is not flagged mounted. -/
theorem umountPartition_freed (hfree : env.frees s p) :
    (umountPartition env s p false).obj.mounted = false := by
  rw [(umountPartition_leaves env s p).mounted]
  by_cases hmounted : p.mounted = true
  · rw [(hfree hmounted).1, Bool.and_false]
  · rw [Bool.eq_false_iff.mpr hmounted, Bool.false_and]

theorem mountFs_leaves (readOnly : Bool) :
    Leaves env p (PdmFs.mountPartition env s p readOnly).obj p.mounted (env.mounts p readOnly) := by
  have hret := (mountFs_eq env s p readOnly).1
  have hretry := (mountRetry_eq env s (PdmFs.mountCall p readOnly)).1
  unfold Env.mounts at hret ⊢
  unfold PdmFs.mountPartition at hret ⊢
  split
  · rename_i hdir
    rw [if_pos hdir] at hret
    rw [← hret]
    exact Leaves.refl env p
  · rename_i hdir
    rw [if_neg hdir] at hret
    dsimp only at hret ⊢
    rw [hretry] at hret ⊢
    split
    · rename_i hzero
      have hmeasured : env.measured p = (PdmFs.calculateSpaceInfo env p.mountName).getD p.space := rfl
      rw [if_pos hzero] at hret
      cases hspace : PdmFs.calculateSpaceInfo env p.mountName with
      | none =>
        rw [hspace] at hret hmeasured
        rw [← hret]
        exact ⟨rfl, rfl, hmeasured.symm⟩
      | some space =>
        rw [hspace] at hret hmeasured
        rw [← hret]
        exact ⟨rfl, rfl, hmeasured.symm⟩
    · rename_i hzero
      rw [if_neg hzero] at hret
      rw [← hret]
      exact Leaves.refl env p

theorem mountPartition_leaves (readOnly : Bool) :
    Leaves env p (mountPartition env s p readOnly).obj (env.mounts p readOnly)
      (env.mounts p readOnly) := by
  have hflag := (mountPartition_eq env s p readOnly).1
  have hfs := mountFs_leaves env (handlerCb s .mount none) (p.setDriveStatus .isMounting) readOnly
  have hmounts : env.mounts (p.setDriveStatus .isMounting) readOnly = env.mounts p readOnly := rfl
  have hmeasured : env.measured (p.setDriveStatus .isMounting) = env.measured p := rfl
  have hspace := hfs.space
  rw [hmounts, hmeasured] at hspace
  refine ⟨?_, hflag, ?_⟩
  · unfold mountPartition
    dsimp only
    split
    · exact hfs.tag
    · exact hfs.tag
  · unfold mountPartition
    dsimp only
    split
    · exact hspace
    · exact hspace

theorem fsckFs_leaves (fsckMode : String) :
    Leaves env p (PdmFs.fsck env s p fsckMode).obj
      (if env.checkStatus p fsckMode = .fsckTimeout then false else p.mounted) false := by
  refine ⟨?_, (fsckFs_eq env s p fsckMode).2.2.2.2.2.1, ?_⟩
  · unfold PdmFs.fsck
    dsimp only
    split <;> rfl
  · unfold PdmFs.fsck
    dsimp only
    split <;> rfl

theorem fsckPartition_leaves (fsckMode : String) :
    Leaves env p (fsckPartition env s p fsckMode).obj (env.mountedAfterFsck p fsckMode)
      (env.recovers p fsckMode) := by
  have hret := (fsckFs_eq env (handlerCb s .fsckStarted none) p fsckMode).1
  have hfs := fsckFs_leaves env (handlerCb s .fsckStarted none) p fsckMode
  unfold fsckPartition Env.mountedAfterFsck Env.recovers
  dsimp only
  rw [hret]
  by_cases hok : env.checkStatus p fsckMode = .success
  · rw [if_pos hok, if_pos hok, decide_eq_true hok, Bool.true_and]
    have hmount := mountPartition_leaves env
      (PdmFs.fsck env (handlerCb s .fsckStarted none) p fsckMode).state
      (PdmFs.fsck env (handlerCb s .fsckStarted none) p fsckMode).obj false
    rw [env.mounts_congr hfs.tag] at hmount
    exact hfs.trans hmount
  · rw [if_neg hok, if_neg hok, decide_eq_false hok, Bool.false_and]
    exact hfs

/-- A check of a partition that is free again: only the check's own mount mounts it. -/
theorem fsckPartition_freed (hfree : env.frees s p) (t : Sys) (fsckMode : String) :
    Leaves env p (fsckPartition env t (umountPartition env s p false).obj fsckMode).obj
      (env.recovers p fsckMode) (env.recovers p fsckMode) := by
  have humount := umountPartition_leaves env s p
  have hfreed := umountPartition_freed env s p hfree
  have hcheck := fsckPartition_leaves env t (umountPartition env s p false).obj fsckMode
  have hrecovers : env.recovers (umountPartition env s p false).obj fsckMode =
      env.recovers p fsckMode := env.recovers_congr humount.tag
  have hflag : env.mountedAfterFsck (umountPartition env s p false).obj fsckMode =
      env.recovers (umountPartition env s p false).obj fsckMode := by
    unfold Env.mountedAfterFsck Env.recovers
    rw [hfreed]
    by_cases hok : env.checkStatus (umountPartition env s p false).obj fsckMode = .success
    · rw [if_pos hok, decide_eq_true hok, Bool.true_and]
    · rw [if_neg hok, ite_self, decide_eq_false hok, Bool.false_and]
  rw [hflag, hrecovers] at hcheck
  exact humount.trans hcheck

end StorageDevice

end Pdm
