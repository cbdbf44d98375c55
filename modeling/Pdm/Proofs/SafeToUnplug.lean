/-
When a device is answered to be safe to unplug.

`eject` and `UMOUNT_ALL_DRIVE` unmount the partitions that are flagged mounted and skip
the others, and they answer from what their own unmounts returned.  The answer is about
the kernel only as far as the flags are: **it is right exactly when some mounted
partition was found in use or kept by the kernel, or the flags tell the same story as
the mount table in both directions**.
-/
import Pdm.Lib.Release
import Pdm.Lib.Runs
import Pdm.Proofs.Devices
import Pdm.Framework.DeviceManager

namespace Pdm

open Visit (visit)

/-- An unmount of the partition lets go of its mount point, if something is mounted
there. -/
def Env.releases (env : Env) (p : DiskPartitionInfo) (lazyUnmount : Bool) : Bool :=
  p.mounted && (lazyUnmount || !env.busy p) && env.letsGo p lazyUnmount

namespace StorageDevice

variable (env : Env) (s : Sys)

/-! ### One partition -/

/-- The two effects of an unmount, whatever the partition's flag. -/
theorem umountPartition_eq (p : DiskPartitionInfo) (lazyUnmount : Bool) :
    (umountPartition env s p lazyUnmount).state.mounted =
        (if env.releases p lazyUnmount then s.mounted.erase p.mountName else s.mounted) ∧
      ((umountPartition env s p lazyUnmount).ret = .success ↔
        (p.mounted = true → env.releases p lazyUnmount = true ∧ p.mountName ∈ s.mounted)) := by
  unfold Env.releases
  cases hflag : p.mounted with
  | false =>
    rw [umountPartition_unflagged env s p hflag]
    simp
  | true =>
    by_cases hidle : lazyUnmount = true ∨ env.busy p = false
    · obtain ⟨-, hm, hret⟩ := umountPartition_try env s p hflag hidle
      have htry : (lazyUnmount || !env.busy p) = true := by simpa using hidle
      rw [hm, hret, htry]
      simp [and_comm]
    · obtain ⟨hlazy, hbusy⟩ := not_or.mp hidle
      rw [Bool.not_eq_true] at hlazy
      rw [Bool.not_eq_false] at hbusy
      subst hlazy
      obtain ⟨hm, -, hret⟩ := umountPartition_busy env s p hflag hbusy
      rw [hm, hret]
      simp [hbusy]

/-- An unmount counts on the mount point of a partition that is flagged. -/
theorem umountPartition_step (p : DiskPartitionInfo) (lazyUnmount : Bool) :
    Release.Step s.mounted (umountPartition env s p lazyUnmount).state.mounted
      ((umountPartition env s p lazyUnmount).ret = .success)
      (p.mounted = true → env.releases p lazyUnmount = true)
      (if p.mounted then [p.mountName] else [])
      (fun m => env.releases p lazyUnmount = true ∧ p.mountName = m) := by
  obtain ⟨hm, hret⟩ := umountPartition_eq env s p lazyUnmount
  refine ⟨fun m => ?_, ?_, fun hwilling m => ?_⟩
  · rw [hm]
    by_cases hrel : env.releases p lazyUnmount = true
    · simp [hrel, eq_comm, and_comm]
    · simp [hrel]
  · rw [hret]
    cases p.mounted with
    | false => simp
    | true => simp
  · cases hflag : p.mounted with
    | false => simp [Env.releases, hflag]
    | true => simp [hwilling hflag, eq_comm]

/-! ### The loop -/

/-- The partitions that are flagged mounted. -/
def flagged (l : List DiskPartitionInfo) : List DiskPartitionInfo := l.filter (·.mounted)

theorem mem_flagged {p : DiskPartitionInfo} {l : List DiskPartitionInfo} :
    p ∈ flagged l ↔ p ∈ l ∧ p.mounted = true := List.mem_filter

theorem flagged_names (l : List DiskPartitionInfo) :
    (l.flatMap fun p => if p.mounted then [p.mountName] else []) =
      (flagged l).map (·.mountName) := by
  unfold flagged
  induction l with
  | nil => rfl
  | cons p ps ih =>
      rw [List.flatMap_cons, List.filter_cons, ih]
      by_cases hflag : p.mounted = true
      · simp [hflag]
      · simp [hflag]

/-- The loop counts on the mount points of the flagged partitions. -/
theorem umountLoop_step (lazyUnmount : Bool) (l : List DiskPartitionInfo) :
    Release.Step s.mounted
      (visit (fun s p => umountPartition env s p lazyUnmount) s l).state.mounted
      (∀ r ∈ (visit (fun s p => umountPartition env s p lazyUnmount) s l).ret, r = .success)
      (∀ p ∈ l, p.mounted = true → env.releases p lazyUnmount = true)
      ((flagged l).map (·.mountName))
      (fun m => ∃ p ∈ l, env.releases p lazyUnmount = true ∧ p.mountName = m) := by
  rw [← flagged_names]
  exact Release.Step.visit (f := fun s p => umountPartition env s p lazyUnmount)
    (K := Sys.mounted) (· = PdmDevStatus.success)
    (fun s p => umountPartition_step env s p lazyUnmount) l s

/-- After the loop, what is still mounted is what no released partition was mounted at. -/
theorem umountLoop_mounted (lazyUnmount : Bool) (l : List DiskPartitionInfo) (m : String) :
    m ∈ (visit (fun s p => umountPartition env s p lazyUnmount) s l).state.mounted ↔
      m ∈ s.mounted ∧ ∀ p ∈ l, env.releases p lazyUnmount = true → p.mountName ≠ m := by
  rw [(umountLoop_step env s lazyUnmount l).left]
  simp

/-- All unmounts succeed when every flagged partition is mounted, at a place of its own,
and will be released. -/
theorem umountLoop_success (lazyUnmount : Bool) (l : List DiskPartitionInfo) :
    (∀ r ∈ (visit (fun s p => umountPartition env s p lazyUnmount) s l).ret, r = .success) ↔
      (∀ p ∈ flagged l, env.releases p lazyUnmount = true ∧ p.mountName ∈ s.mounted) ∧
        ((flagged l).map (·.mountName)).Nodup := by
  rw [(umountLoop_step env s lazyUnmount l).answer, List.forall_mem_map, ← and_assoc]
  refine and_congr_left fun _ => ?_
  simp only [mem_flagged, and_imp]
  exact ⟨fun h p hp hflag => ⟨h.1 p hp hflag, h.2 p hp hflag⟩,
    fun h => ⟨fun p hp hflag => (h p hp hflag).1, fun p hp hflag => (h p hp hflag).2⟩⟩

end StorageDevice

/-! ### Flags and the mount table -/

open StorageDevice

section Flags

variable (env : Env) (K : Finset String) (l : List DiskPartitionInfo)

/-- A flagged partition that is mounted was found in use, or the kernel keeps it. -/
def Withheld : Prop := ∃ p ∈ flagged l, p.mountName ∈ K ∧ env.releases p false = false

/-- What is flagged mounted is mounted, each partition at a place of its own. -/
def FlagsTrue : Prop := (∀ p ∈ flagged l, p.mountName ∈ K) ∧ ((flagged l).map (·.mountName)).Nodup

/-- Where something is mounted, a partition is flagged. -/
def FlagsComplete : Prop :=
  ∀ p ∈ l, p.mountName ∈ K → ∃ q ∈ flagged l, q.mountName = p.mountName

/-- A mounted partition is withheld, or the flags are true as far as they are complete. -/
def FlagsTell : Prop := Withheld env K l ∨ (FlagsTrue K l ↔ FlagsComplete K l)

end Flags

/-- Whether a flagged partition is released depends on its mount point alone. -/
theorem Env.releases_congr (env : Env) {p q : DiskPartitionInfo} (lazyUnmount : Bool)
    (hp : p.mounted = true) (hq : q.mounted = true) (hname : p.mountName = q.mountName) :
    env.releases p lazyUnmount = env.releases q lazyUnmount := by
  unfold Env.releases Env.busy Env.letsGo
  rw [hp, hq, hname]

/-- **A loop of unmounts answers truthfully exactly when the flags tell the truth.** -/
theorem umountLoop_truthful_iff (env : Env) (s : Sys) (l : List DiskPartitionInfo) :
    ((∀ r ∈ (visit (fun s p => umountPartition env s p false) s l).ret, r = .success) ↔
        ∀ p ∈ l, p.mountName ∉
          (visit (fun s p => umountPartition env s p false) s l).state.mounted) ↔
      FlagsTell env s.mounted l := by
  rw [umountLoop_success]
  simp only [umountLoop_mounted]
  by_cases hheld : Withheld env s.mounted l
  · obtain ⟨p, hp, hmem, hkept⟩ := hheld
    -- The withheld partition makes the answer a failure and stays mounted.
    refine iff_of_true (iff_of_false ?_ ?_) (Or.inl ⟨p, hp, hmem, hkept⟩)
    · rintro ⟨hall, -⟩
      rw [(hall p hp).1] at hkept
      exact absurd hkept (by simp)
    · intro hclean
      refine hclean p (mem_flagged.mp hp).1 ⟨hmem, fun q hq hrel hname => ?_⟩
      have hqflag : q.mounted = true := by
        unfold Env.releases at hrel
        simp only [Bool.and_eq_true] at hrel
        exact hrel.1.1
      rw [env.releases_congr false hqflag (mem_flagged.mp hp).2 hname, hkept] at hrel
      exact absurd hrel (by simp)
  · have hrel : ∀ p ∈ flagged l, p.mountName ∈ s.mounted → env.releases p false = true := by
      intro p hp hmem
      by_contra hkept
      exact hheld ⟨p, hp, hmem, by simpa using hkept⟩
    have htrue : ((∀ p ∈ flagged l, env.releases p false = true ∧ p.mountName ∈ s.mounted) ∧
        ((flagged l).map (·.mountName)).Nodup) ↔ FlagsTrue s.mounted l :=
      and_congr_left fun _ =>
        ⟨fun h p hp => (h p hp).2, fun h p hp => ⟨hrel p hp (h p hp), h p hp⟩⟩
    have hcomplete : (∀ p ∈ l, ¬ (p.mountName ∈ s.mounted ∧
        ∀ q ∈ l, env.releases q false = true → q.mountName ≠ p.mountName)) ↔
        FlagsComplete s.mounted l := by
      constructor
      · intro h p hp hmem
        by_contra hnone
        refine h p hp ⟨hmem, fun q hq hqrel hname => hnone ⟨q, mem_flagged.mpr ⟨hq, ?_⟩, hname⟩⟩
        unfold Env.releases at hqrel
        simp only [Bool.and_eq_true] at hqrel
        exact hqrel.1.1
      · rintro h p hp ⟨hmem, hnone⟩
        obtain ⟨q, hq, hname⟩ := h p hp hmem
        exact hnone q (mem_flagged.mp hq).1 (hrel q hq (hname ▸ hmem)) hname
    rw [htrue, hcomplete]
    unfold FlagsTell
    rw [or_iff_right hheld]

/-! ### `eject` and `UMOUNT_ALL_DRIVE` -/

/-- The unmount of a device answers with success when all its partitions' unmounts do. -/
theorem umountAllPartition_success (env : Env) (s : Sys) (d : StorageDevice)
    (lazyUnmount : Bool) :
    (umountAllPartition env s d lazyUnmount).ret = .success ↔
      ∀ r ∈ (visit (fun s p => umountPartition env s p lazyUnmount) s d.diskPartitionList).ret,
        r = .success :=
  worst_success (by decide)

/-- The loop changes no partition's mount point. -/
theorem umountLoop_names (env : Env) (s : Sys) (l : List DiskPartitionInfo) (K : Finset String) :
    (∀ p ∈ (visit (fun s p => umountPartition env s p false) s l).obj, p.mountName ∉ K) ↔
      ∀ p ∈ l, p.mountName ∉ K := by
  have hmap := Visit.visit_map (g := fun p : DiskPartitionInfo => p.mountName)
    (fun s p => (DiskPartitionInfo.ident_eq_iff.mp
      (umountPartition_ident env s p false)).2.2.2.1) l s
  rw [← List.forall_mem_map (f := fun p : DiskPartitionInfo => p.mountName) (P := (· ∉ K)), hmap,
    List.forall_mem_map]

namespace StorageSystem

/-- The answer of a device's `eject` is true: it is success when no partition of the
device is left mounted, and only then. -/
def EjectTrue (env : Env) (s : Sys) (d : StorageDevice) : Prop :=
  (d.eject env s).ret = .success ↔
    ∀ p ∈ (d.eject env s).obj.diskPartitionList, p.mountName ∉ (d.eject env s).state.mounted

/-- The answer of `UMOUNT_ALL_DRIVE` is true: it is success when no partition of any
device is left mounted, and only then. -/
def UmountAllDriveTrue (env : Env) (s : Sys) (h : StorageDeviceHandler) : Prop :=
  (h.umountAllDrive env s).ret.2.result = .success ↔
    ∀ d ∈ (h.umountAllDrive env s).obj.storageList, ∀ p ∈ d.diskPartitionList,
      p.mountName ∉ (h.umountAllDrive env s).state.mounted

theorem ejectTrue_iff (env : Env) (s : Sys) (d : StorageDevice) :
    EjectTrue env s d ↔ FlagsTell env s.mounted d.diskPartitionList := by
  have hret : (d.eject env s).ret = .success ↔ (umountAllPartition env s d false).ret = .success := by
    unfold eject
    dsimp only
    split
    · rename_i h
      exact iff_of_true rfl h
    · rename_i h
      exact iff_of_false (by simp) h
  have hstate : (d.eject env s).state =
      (visit (fun s p => umountPartition env s p false) s d.diskPartitionList).state := by
    unfold eject
    dsimp only
    split <;> rfl
  have hobj : (d.eject env s).obj.diskPartitionList =
      (visit (fun s p => umountPartition env s p false) s d.diskPartitionList).obj := by
    unfold eject
    dsimp only
    split <;> rfl
  unfold EjectTrue
  rw [hret, umountAllPartition_success, hstate, hobj, umountLoop_names]
  exact umountLoop_truthful_iff env s d.diskPartitionList

theorem lastFailure_success (rets : List PdmDevStatus) :
    StorageDeviceHandler.lastFailure rets = .success ↔ ∀ r ∈ rets, r = .success := by
  have hfold : ∀ (l : List PdmDevStatus) (result : PdmDevStatus),
      l.foldl (fun result ret => if ret ≠ .success then ret else result) result = .success ↔
        result = .success ∧ ∀ r ∈ l, r = .success := by
    intro l
    induction l with
    | nil => intro result; simp
    | cons r rs ih =>
        intro result
        rw [List.foldl_cons, ih, List.forall_mem_cons]
        by_cases hr : r = .success
        · simp [hr]
        · simp [hr]
  unfold StorageDeviceHandler.lastFailure
  rw [hfold]
  simp

theorem umountAllDriveTrue_iff (env : Env) (s : Sys) (h : StorageDeviceHandler) :
    UmountAllDriveTrue env s h ↔
      FlagsTell env s.mounted (h.storageList.flatMap (·.diskPartitionList)) := by
  obtain ⟨hstate, hobj, hret⟩ := Visit.visit_flatMap
    (g := fun s d => umountAllPartition env s d false)
    (f := fun s p => umountPartition env s p false) (·.diskPartitionList)
    (· = .success) (· = .success) (fun s d => rfl) (fun s d => rfl)
    (fun s d => umountAllPartition_success env s d false) h.storageList s
  unfold UmountAllDriveTrue StorageDeviceHandler.umountAllDrive
  split
  · rename_i hnil
    simp [hnil, FlagsTell, FlagsTrue, FlagsComplete, flagged]
  · dsimp only
    rw [lastFailure_success, hret, Sys.notify_mounted, hstate]
    have hflat : (∀ d ∈ (visit (fun s d => umountAllPartition env s d false) s h.storageList).obj,
        ∀ p ∈ d.diskPartitionList, p.mountName ∉ (visit (fun s p => umountPartition env s p false) s
          (h.storageList.flatMap (·.diskPartitionList))).state.mounted) ↔ _ :=
      List.forall_mem_flatMap.symm
    rw [hflat, hobj, umountLoop_names]
    exact umountLoop_truthful_iff env s _

/-- Whatever is ejected, or all drives unmounted, in the state a step starts from, the
answer is true. -/
def AnswersTruly (w : StorageSystem) (i : Env × StorageInput) : Prop :=
  (∀ d ∈ w.storage.storageList, EjectTrue i.1 w.sys d) ∧ UmountAllDriveTrue i.1 w.sys w.storage

/-- The flags tell the truth, of each device and of all together. -/
def AllFlagsTell (w : StorageSystem) (i : Env × StorageInput) : Prop :=
  (∀ d ∈ w.storage.storageList, FlagsTell i.1 w.sys.mounted d.diskPartitionList) ∧
    FlagsTell i.1 w.sys.mounted (w.storage.storageList.flatMap (·.diskPartitionList))

/-- The kernel refuses to unmount the stick's partition, and the stick is ejected once
more. -/
def ejectTwice : List (Env × StorageInput) :=
  plugStick ++
    [({ umount2 := fun _ _ => false }, .command (.eject 0)), (({} : Env), .command (.eject 0))]

end StorageSystem

end Pdm
