/-
What a power cycle leaves of a storage device.

Before a suspend every mount point is given back, lazily, so that no busy drive stands in
the way; the flags of the partitions stay as they are.  After it every device is asked to
mount its partitions again, which a hard disk does only if it was ejected before: one that
was not is left with its flags and without its mounts.  The devices are asked in turn, and
as long as they keep apart each comes out of the cycle as if it were alone
(`Proofs/Independence.lean`).
-/
import Mathlib.Data.List.TakeWhile
import Pdm.Proofs.Independence
import Pdm.Proofs.MountedSummary
import Pdm.Proofs.Suspend

namespace Pdm

open Visit (visit)

/-! ### One device -/

namespace StorageDevice

variable (env : Env) (s : Sys) (d : StorageDevice)

/-- The flags of the partitions. -/
def flags : List Bool := d.diskPartitionList.map (·.mounted)

/-- Some partition is given back at `m` before a suspend. -/
def Yields (m : String) : Prop :=
  ∃ p ∈ d.diskPartitionList, env.letsGo p true = true ∧ p.mountName = m

/-- Some partition is mounted at `m` after one. -/
def Regains (m : String) : Prop :=
  ∃ p ∈ d.diskPartitionList,
    p.isSupportedFs = true ∧ env.mounts p d.isReadOnly = true ∧ p.mountName = m

theorem mountAllPartition_flags :
    (mountAllPartition env s d).obj.flags =
      d.diskPartitionList.map (env.mountedAfterMount · d.isReadOnly) :=
  Visit.visit_image (fun s p => mountSupported_mounted env s d.isReadOnly p) d.diskPartitionList s

theorem mountSupported_table (readOnly : Bool) (p : DiskPartitionInfo) (m : String) :
    m ∈ (mountSupported env readOnly s p).state.mounted ↔
      m ∈ s.mounted ∨
        (p.isSupportedFs = true ∧ env.mounts p readOnly = true ∧ p.mountName = m) := by
  unfold mountSupported
  by_cases hfs : p.isSupportedFs = true
  · rw [if_pos hfs, (mountPartition_eq env s p readOnly).2.1]
    by_cases hmounts : env.mounts p readOnly = true
    · rw [if_pos hmounts, Finset.mem_insert]
      simp [hfs, hmounts, or_comm, eq_comm]
    · rw [if_neg hmounts]
      simp [hmounts]
  · rw [if_neg hfs]
    simp [hfs]

theorem mountAllPartition_table (m : String) :
    m ∈ (mountAllPartition env s d).state.mounted ↔ m ∈ s.mounted ∨ d.Regains env m :=
  Visit.visit_gains (P := fun s m => m ∈ s.mounted)
    (fun s p m => mountSupported_table env s d.isReadOnly p m) d.diskPartitionList s m

/-- With no drive in the way the loop gets to every partition. -/
theorem suspended_table (m : String) :
    m ∈ (d.suspendUmountAllPartitions env s true).2.mounted ↔
      m ∈ s.mounted ∧ ¬ d.Yields env m := by
  have hall : d.diskPartitionList.takeWhile (!env.inTheWay true ·) = d.diskPartitionList := by
    refine List.takeWhile_eq_self_iff.mpr fun p _ => ?_
    simp [Env.inTheWay]
  refine ((suspendUmountLoop_step env true d.diskPartitionList s).left m).trans ?_
  unfold suspendFrees Yields
  rw [hall]

/-- The device at a resume, before it is asked to mount. -/
def poweredUp : StorageDevice :=
  { d with
    diskPartitionList := d.diskPartitionList.map (·.setPowerStatus true)
    isPowerOnConnect := true }

/-- The power status of a partition plays no part in what is done to it. -/
theorem poweredUp_regains (m : String) : d.poweredUp.Regains env m ↔ d.Regains env m := by
  unfold Regains poweredUp
  simp only [List.mem_map, exists_exists_and_eq_and]
  rfl

theorem suspendRequest_regains (m : String) : d.suspendRequest.Regains env m ↔ d.Regains env m := by
  unfold Regains suspendRequest
  simp only [List.mem_map, exists_exists_and_eq_and]
  rfl

theorem suspendRequest_yields (m : String) : d.suspendRequest.Yields env m ↔ d.Yields env m := by
  unfold Yields suspendRequest
  simp only [List.mem_map, exists_exists_and_eq_and]
  rfl

theorem suspendRequest_idents : d.suspendRequest.idents = d.idents := by
  unfold idents suspendRequest
  rw [List.map_map]
  rfl

theorem poweredUp_idents : d.poweredUp.idents = d.idents := by
  unfold idents poweredUp
  rw [List.map_map]
  rfl

theorem Owns.of_idents {d e : StorageDevice} (h : e.idents = d.idents) (m : String) :
    e.Owns m ↔ d.Owns m :=
  ⟨Owns.mono (fun _ hx => h ▸ hx) m, Owns.mono (fun _ hx => h ▸ hx) m⟩

/-- A resume, by the device before it. -/
theorem resumeRequest_eq :
    d.resumeRequest env s =
      if d.remounts then
        let r := mountAllPartition env s d.poweredUp
        if true ∈ r.obj.flags then
          ⟨r.state, { r.obj with errorReason := .nothing, deviceIsMounted := true }, ()⟩
        else ⟨r.state, r.obj, ()⟩
      else ⟨s, d.poweredUp, ()⟩ := by
  have hany : ∀ e : StorageDevice,
      e.diskPartitionList.any (·.mounted) = decide (true ∈ e.flags) := by
    intro e
    rw [Bool.eq_iff_iff, List.any_eq_true, decide_eq_true_iff]
    exact List.mem_map.symm
  unfold resumeRequest remounts
  dsimp only
  rw [hany]
  by_cases hhdd : d.storageType = .usbHdd ∧ d.errorReason ≠ .ejected
  · rw [if_pos hhdd, decide_eq_false (not_not_intro hhdd)]
    rfl
  · rw [if_neg hhdd, decide_eq_true hhdd, if_pos rfl]
    by_cases hflag : true ∈ (mountAllPartition env s d.poweredUp).obj.flags
    · rw [if_pos hflag]
      exact if_pos (decide_eq_true hflag)
    · rw [if_neg hflag]
      exact if_neg (mt of_decide_eq_true hflag)

theorem resumeRequest_idents : (d.resumeRequest env s).obj.idents = d.idents := by
  have hmount : (mountAllPartition env s d.poweredUp).obj.idents = d.poweredUp.idents :=
    Visit.visit_map (fun s p => (mountSupported_op env s p d.isReadOnly).ident)
      d.poweredUp.diskPartitionList s
  rw [resumeRequest_eq, ← poweredUp_idents d, ← hmount]
  split
  · dsimp only
    split
    · rfl
    · rfl
  · exact hmount.symm

/-- What the flags are after a resume. -/
def resumedFlags : List Bool :=
  if d.remounts then d.diskPartitionList.map (env.mountedAfterMount · d.isReadOnly) else d.flags

theorem resumeRequest_flags : (d.resumeRequest env s).obj.flags = d.resumedFlags env := by
  have hpower : ∀ f : DiskPartitionInfo → Bool, (∀ p, f (p.setPowerStatus true) = f p) →
      d.poweredUp.diskPartitionList.map f = d.diskPartitionList.map f := by
    intro f hf
    unfold poweredUp
    rw [List.map_map]
    exact List.map_congr_left fun p _ => hf p
  rw [resumeRequest_eq]
  unfold resumedFlags
  split
  · dsimp only
    have hflags := (mountAllPartition_flags env s d.poweredUp).trans (hpower _ fun p => rfl)
    split
    · exact hflags
    · exact hflags
  · exact hpower _ fun p => rfl

theorem suspendRequest_resumedFlags : d.suspendRequest.resumedFlags env = d.resumedFlags env := by
  have hpower : ∀ f : DiskPartitionInfo → Bool, (∀ p, f (p.setPowerStatus false) = f p) →
      d.suspendRequest.diskPartitionList.map f = d.diskPartitionList.map f := by
    intro f hf
    unfold suspendRequest
    rw [List.map_map]
    exact List.map_congr_left fun p _ => hf p
  unfold resumedFlags flags
  rw [hpower _ fun p => rfl, hpower _ fun p => rfl]
  rfl

theorem resumeRequest_errorReason :
    (d.resumeRequest env s).obj.errorReason =
      if d.remounts = true ∧ true ∈ d.resumedFlags env then .nothing else d.errorReason := by
  rw [← resumeRequest_flags env s, resumeRequest_eq]
  split
  · next hremounts =>
    dsimp only
    by_cases hflag : true ∈ (mountAllPartition env s d.poweredUp).obj.flags
    · rw [if_pos hflag, if_pos ⟨hremounts, hflag⟩]
    · rw [if_neg hflag, if_neg fun h => hflag h.2]
      rfl
  · next hremounts =>
    rw [if_neg fun h => hremounts h.1]
    rfl

theorem resumeRequest_table (m : String) :
    m ∈ (d.resumeRequest env s).state.mounted ↔
      m ∈ s.mounted ∨ (d.remounts = true ∧ d.Regains env m) := by
  have htable := (mountAllPartition_table env s d.poweredUp m).trans
    (or_congr_right (poweredUp_regains env d m))
  rw [resumeRequest_eq]
  split
  · next hremounts =>
    rw [hremounts]
    dsimp only
    split
    · simpa using htable
    · simpa using htable
  · next hremounts => simp [hremounts]

end StorageDevice

/-! ### The cycle -/

namespace StorageSystem

open StorageDevice

variable {w : StorageSystem} {d : StorageDevice}

/-- The plugin events of a suspend and a resume. -/
def powerCycle (e₁ e₂ e₃ : Env) : List (Env × StorageInput) :=
  [(e₁, .pluginEvent .powerProcessRequestSuspend), (e₂, .pluginEvent .powerProcessPrepareSuspend),
    (e₃, .pluginEvent .powerProcessPrepareResume)]

/-- What the cycle makes of a device of `w` and of its mount points. -/
structure Cycled (e₂ e₃ : Env) (d : StorageDevice) (w v : StorageSystem) : Prop where
  device : ∃ e, v.deviceAt d.address = some e ∧
    e.idents = d.idents ∧ e.flags = d.resumedFlags e₃ ∧
    e.errorReason = if d.remounts = true ∧ true ∈ d.resumedFlags e₃ then .nothing else d.errorReason
  mounts : ∀ m, d.Owns m → (m ∈ v.sys.mounted ↔
    (m ∈ w.sys.mounted ∧ ¬ d.Yields e₂ m) ∨ (d.remounts = true ∧ d.Regains e₃ m))

/-- The three events, one after the other. -/
theorem powerCycle_cycled (cfg : Config) (e₁ e₂ e₃ : Env) (hcast : Cast w w)
    (hd : w.deviceAt d.address = some d) :
    Cycled e₂ e₃ d w (Runs.run (step cfg) w (powerCycle e₁ e₂ e₃)) := by
  let asleep := step cfg w (e₁, .pluginEvent .powerProcessRequestSuspend)
  let freed := step cfg asleep (e₂, .pluginEvent .powerProcessPrepareSuspend)
  have hasleep : Cast w asleep := hcast.step nofun
  have hfreed : Cast w freed := hasleep.step nofun
  obtain ⟨hat₁, htable₁⟩ := plugin_alone cfg e₁ (w := w.clear) hcast.clear.valid
    hcast.clear.apart hd .powerProcessRequestSuspend
  obtain ⟨hat₂, htable₂⟩ := plugin_alone cfg e₂ (w := asleep.clear) hasleep.clear.valid
    hasleep.clear.apart hat₁ .powerProcessPrepareSuspend
  obtain ⟨hat₃, htable₃⟩ := plugin_alone cfg e₃ (w := freed.clear) hfreed.clear.valid
    hfreed.clear.apart hat₂ .powerProcessPrepareResume
  have hflags := resumeRequest_flags e₃ freed.clear.sys d.suspendRequest
  have hreason := resumeRequest_errorReason e₃ freed.clear.sys d.suspendRequest
  rw [suspendRequest_resumedFlags] at hflags hreason
  refine ⟨⟨_, hat₃, ?_, hflags, hreason⟩, fun m hm => ?_⟩
  · exact (resumeRequest_idents e₃ freed.clear.sys d.suspendRequest).trans (suspendRequest_idents d)
  · have hm' : d.suspendRequest.Owns m := (Owns.of_idents (suspendRequest_idents d) m).mpr hm
    have hgone : m ∈ freed.sys.mounted ↔ m ∈ w.sys.mounted ∧ ¬ d.Yields e₂ m := by
      refine (htable₂ m hm').symm.trans ?_
      refine (suspended_table e₂ asleep.clear.sys d.suspendRequest m).trans ?_
      rw [suspendRequest_yields]
      exact and_congr_left' (htable₁ m hm).symm
    rw [← hgone]
    refine (htable₃ m hm').symm.trans ?_
    refine (resumeRequest_table e₃ freed.clear.sys d.suspendRequest m).trans ?_
    rw [suspendRequest_regains]
    exact Iff.rfl

/-- **What a power cycle leaves.**  From any state that is reached in which no two devices have
a mount point in common, and whatever commands, threads and timeouts of other devices come in
between: a mount point of a device is in use afterwards exactly if it was in use and the kernel
did not let go of it, or the device mounts again and some supported partition can be mounted
there; a hard disk mounts again only if it was ejected, and its flags are left as they were. -/
theorem power_cycle (cfg : Config) (history is : List (Env × StorageInput)) (e₁ e₂ e₃ : Env)
    (hapart : (Runs.run (step cfg) {} history).Apart)
    (hevent : ∀ i ∈ is, ∀ devClass, i.2 ≠ .uevent devClass)
    (hd : d ∈ (Runs.run (step cfg) {} history).storage.storageList)
    (hcycle : is.filter (fun i => i.2.concerns
      (Runs.run (step cfg) {} history).storage.storageList d.address) = powerCycle e₁ e₂ e₃) :
    Cycled e₂ e₃ d (Runs.run (step cfg) {} history)
      (Runs.run (step cfg) (Runs.run (step cfg) {} history) is) := by
  generalize hw : Runs.run (step cfg) {} history = w at hapart hd hcycle ⊢
  have hvalid : w.Valid := hw ▸
    Runs.run_invariant (I := Valid) (fun _ i h => step_valid h i) init_valid
  have hcast : Cast w w := ⟨hvalid, hapart, rfl⟩
  have hat : w.deviceAt d.address = some d := find_address hvalid.nodup hd
  have hplugin : ∀ i ∈ powerCycle e₁ e₂ e₃, ∀ devClass, i.2 ≠ .uevent devClass := by
    simp [powerCycle]
  have hself : (powerCycle e₁ e₂ e₃).filter
      (fun i => i.2.concerns w.storage.storageList d.address) = powerCycle e₁ e₂ e₃ := rfl
  obtain ⟨⟨hsame, hmounts⟩, -⟩ := (unwinds cfg hd).same hcast hevent hplugin
    (hcycle.trans hself.symm)
  obtain ⟨⟨e, he, hidents, hflags, hreason⟩, htable⟩ := powerCycle_cycled cfg e₁ e₂ e₃ hcast hat
  have hat' := hsame.trans he
  refine ⟨⟨e, hat', hidents, hflags, hreason⟩, fun m hm => ?_⟩
  exact (hmounts e hat' m ((Owns.of_idents hidents m).mpr hm)).trans (htable m hm)

/-- Sticks are mounted again; the other one is asked about in between. -/
theorem power_cycle_two_sticks :
    let w := Runs.run (step .tmpUsb) {} plugTwoSticks
    ∃ d, d.address = 0 ∧ Cycled {} {} d w (Runs.run (step .tmpUsb) w
      [({}, .pluginEvent .powerProcessRequestSuspend), ({}, .command (.fsck "sdb1")),
        ({}, .pluginEvent .powerProcessPrepareSuspend), ({}, .command (.isWritableDrive "sdb1")),
        ({}, .pluginEvent .powerProcessPrepareResume)]) := by
  obtain ⟨d, hd, haddress⟩ :
      ∃ d ∈ (Runs.run (step .tmpUsb) {} plugTwoSticks).storage.storageList, d.address = 0 := by
    decide
  refine ⟨d, haddress, power_cycle .tmpUsb plugTwoSticks _ {} {} {} (by decide) (by simp) hd ?_⟩
  rw [haddress]
  rfl

end StorageSystem

end Pdm
