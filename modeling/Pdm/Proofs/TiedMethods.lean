/-
The methods of a device keep its partitions tied, each under the condition of the
operations it is made of.
-/
import Pdm.Framework.StorageThreads
import Pdm.Proofs.Ties

namespace Pdm

open Visit (visit)

namespace StorageDevice

/-! ### FORMAT and FSCK in two halves -/

section Halves

variable (env : Env) (s : Sys) (d : StorageDevice) {p q : DiskPartitionInfo}

theorem address_of_ident (h : q.ident = p.ident) : q.address = p.address :=
  (DiskPartitionInfo.ident_eq_iff.mp h).1

theorem setPartition_setPartition (h : q.address = p.address) :
    (d.setPartition p).setPartition q = d.setPartition q := by
  have hlist : ((d.setPartition p).setPartition q).diskPartitionList =
      (d.setPartition q).diskPartitionList :=
    Keyed.put_put (fun r : DiskPartitionInfo => r.address) h
  unfold setPartition at hlist ⊢
  dsimp only at hlist ⊢
  rw [hlist]

/-- FORMAT is an unmount, and the tool where that has succeeded. -/
theorem formatOn_split (p : DiskPartitionInfo) (fsType volumeLabel : String)
    (hro : d.isReadOnly = false) :
    formatOn env s d p fsType volumeLabel =
      (let u := umountPartition env s p false
      if u.ret ≠ .success then ⟨u.state, d.setPartition u.obj, .umountFail⟩
      else formatUnmounted env u.state (d.setPartition u.obj) u.obj fsType volumeLabel) := by
  have haddr := address_of_ident (umountPartition_ident env s p false)
  unfold formatOn formatUnmounted
  rw [hro]
  dsimp only
  simp only [Bool.false_eq_true, if_false]
  generalize umountPartition env s p false = u at haddr ⊢
  rw [haddr]
  have hformat := address_of_ident (formatFs_op env (handlerCb u.state .formatStarted
    (some p.address)) u.obj fsType volumeLabel).ident
  generalize PdmFs.format env (handlerCb u.state .formatStarted (some p.address)) u.obj fsType
    volumeLabel = f at hformat ⊢
  generalize hm : (if f.ret = .success then mountPartition env f.state f.obj false else f) = m
  have hmaddr : m.obj.address = u.obj.address := by
    rw [← hm]
    split
    · exact (address_of_ident (mountPartition_op env f.state f.obj false).ident).trans hformat
    · exact hformat
  rw [setPartition_setPartition d hmaddr]

/-- So is FSCK. -/
theorem fsckOn_split (p : DiskPartitionInfo) (hro : d.isReadOnly = false) :
    fsckOn env s d p =
      (let u := umountPartition env s p false
      if u.ret ≠ .success then ⟨u.state, d.setPartition u.obj, .umountFail⟩
      else fsckUnmounted env u.state (d.setPartition u.obj) u.obj) := by
  have hcheck := address_of_ident (fsckPartition_op env (umountPartition env s p false).state
    (umountPartition env s p false).obj PdmFsck.AUTO).ident
  unfold fsckOn fsckUnmounted
  rw [hro]
  dsimp only
  simp only [Bool.false_eq_true, if_false]
  rw [setPartition_setPartition d hcheck]

end Halves

variable {x g : Prop} (env : Env) {s : Sys} {d : StorageDevice} (hr : Ready x s d)
include hr

/-! ### Loops -/

theorem umountAllPartition_keeps {lazyUnmount : Bool}
    (hkept : ∀ p ∈ d.diskPartitionList, UmountKept env s.mounted p lazyUnmount) :
    Keeps x g s d (umountAllPartition env s d lazyUnmount).state
      (umountAllPartition env s d lazyUnmount).obj :=
  Keeps.loop (local_umountKept env lazyUnmount) (fun s p => umountPartition_op env s p lazyUnmount)
    (fun s p htie h => umountPartition_keeps env s p htie h) hr hkept

theorem mountAllPartition_keeps (hkept : ∀ p ∈ d.diskPartitionList, p.isSupportedFs = true →
      RemountKept env s.mounted p d.isReadOnly) :
    Keeps x g s d (mountAllPartition env s d).state (mountAllPartition env s d).obj := by
  refine Keeps.loop (C := fun K p => p.isSupportedFs = true → RemountKept env K p d.isReadOnly) ?_
    (fun s p => mountSupported_op env s p d.isReadOnly)
    (fun s p htie h => mountSupported_keeps env s p htie h) hr hkept
  exact fun K K' p hK h hsupp => local_remountKept env d.isReadOnly K K' p hK (h hsupp)

theorem enforceFsckAndMount_keeps {needFsck : Bool}
    (hkept : ∀ p ∈ d.diskPartitionList, EnforceKept env s.mounted p g) :
    Keeps x g s d (enforceFsckAndMount env s d needFsck).state
      (enforceFsckAndMount env s d needFsck).obj := by
  have hloop := Keeps.loop (local_enforceKept env g)
    (fun s p => enforcePartition_op env s p needFsck)
    (fun s p htie h => enforcePartition_keeps env s p htie needFsck h) hr hkept
  unfold enforceFsckAndMount
  dsimp only
  split
  · exact hloop.trans (Keeps.of_untouched (hloop.ready hr) (Untouched.refl _) rfl rfl)
  · exact hloop

theorem eject_keeps (hkept : ∀ p ∈ d.diskPartitionList, UmountKept env s.mounted p false) :
    Keeps x g s d (eject env s d).state (eject env s d).obj := by
  have hloop := umountAllPartition_keeps (g := g) env hr hkept
  unfold eject
  dsimp only
  split
  · exact hloop.trans (Keeps.of_untouched (hloop.ready hr) (Untouched.refl _) rfl rfl)
  · exact hloop

/-! ### Methods on one partition -/

section Partition

variable {p : DiskPartitionInfo} (hp : p ∈ d.diskPartitionList)
include hp

theorem setVolumeLabelOn_keeps (volumeLabel : String) :
    Keeps x g s d (setVolumeLabelOn env s d p volumeLabel).state
      (setVolumeLabelOn env s d p volumeLabel).obj :=
  Keeps.part hr (setVolumeLabel_keeps env s p (hr.ties p hp) volumeLabel) hp

theorem getSpaceInfoOn_keeps (directCheck : Bool) :
    Keeps x g s d s (getSpaceInfoOn env d p directCheck).1 := by
  unfold getSpaceInfoOn
  split
  · cases PdmFs.calculateSpaceInfo env p.mountName with
    | none => exact Keeps.refl hr
    | some space =>
      exact Keeps.part hr (KeepsTie.of_untouched (Untouched.refl s) (p.setSpace_ident space) rfl
        (hr.ties p hp)) hp
  · exact Keeps.refl hr

/-- The tool of FORMAT, on a partition that is not mounted. -/
theorem formatUnmounted_keeps (hfree : p.mountName ∉ s.mounted) (fsType volumeLabel : String) :
    Keeps x g s d (formatUnmounted env s d p fsType volumeLabel).state
      (formatUnmounted env s d p fsType volumeLabel).obj := by
  have hcb : ∀ (t : Sys) (q : DiskPartitionInfo) (event : EventType), event ≠ .remove →
      Tie x t.mounted q → KeepsTie x g t q (handlerCb t event (some p.address)) q :=
    fun t q event h htie =>
      KeepsTie.of_untouched (handlerCb_untouched t event _ (Or.inl h)) rfl rfl htie
  have hstart := hcb s p .formatStarted (by simp) (hr.ties p hp)
  rw [← handlerCb_mounted s .formatStarted (some p.address)] at hfree
  have hformat := formatFs_keeps (g := g) env (handlerCb s .formatStarted (some p.address)) p
    hstart.tie hfree fsType volumeLabel
  rw [← (formatFs_eq env (handlerCb s .formatStarted (some p.address)) p fsType volumeLabel).1,
    ← hformat.op.mountName] at hfree
  have hf := hstart.trans hformat
  unfold formatUnmounted
  dsimp only
  generalize PdmFs.format env (handlerCb s .formatStarted (some p.address)) p fsType volumeLabel = f
    at hf hfree ⊢
  generalize hm : (if f.ret = .success then mountPartition env f.state f.obj false else f) = m
  have hmkeep : KeepsTie x g s p m.state m.obj := by
    rw [← hm]
    split
    · exact hf.trans (mountPartition_keeps env f.state f.obj fun hmem => absurd hmem hfree)
    · exact hf
  split
  · have hend := Keeps.part hr
      (hmkeep.trans (hcb m.state m.obj .formatSuccess (by simp) hmkeep.tie)) hp
    exact hend.trans (Keeps.of_untouched (hend.ready hr) (Untouched.refl _) rfl rfl)
  · exact Keeps.part hr (hmkeep.trans (hcb m.state m.obj .formatFail (by simp) hmkeep.tie)) hp

theorem fsckUnmounted_keeps (hfree : p.mountName ∉ s.mounted) :
    Keeps x g s d (fsckUnmounted env s d p).state (fsckUnmounted env s d p).obj :=
  Keeps.part hr (fsckPartition_keeps env s p (hr.ties p hp) fun hmem => absurd hmem hfree) hp

theorem runTool_keeps (hfree : p.mountName ∉ s.mounted) (tool : Tool) :
    Keeps x g s d (runTool env s d p tool).state (runTool env s d p tool).obj := by
  cases tool with
  | format fsType volumeLabel => exact formatUnmounted_keeps env hr hp hfree fsType volumeLabel
  | fsck => exact fsckUnmounted_keeps env hr hp hfree

/-- The unmount that FORMAT and FSCK start with. -/
theorem unmount_keeps (hkept : UmountKept env s.mounted p false) :
    Keeps x g s d (umountPartition env s p false).state
      (d.setPartition (umountPartition env s p false).obj) :=
  Keeps.part hr (umountPartition_keeps env s p (hr.ties p hp) hkept) hp

/-- The tool follows an unmount that has succeeded, so it is clear. -/
theorem unmounted_keeps (hkept : UmountKept env s.mounted p false)
    (hret : (umountPartition env s p false).ret = .success) (tool : Tool) :
    Keeps x g (umountPartition env s p false).state
      (d.setPartition (umountPartition env s p false).obj)
      (runTool env (umountPartition env s p false).state
        (d.setPartition (umountPartition env s p false).obj)
        (umountPartition env s p false).obj tool).state
      (runTool env (umountPartition env s p false).state
        (d.setPartition (umountPartition env s p false).obj)
        (umountPartition env s p false).obj tool).obj := by
  have hop := umountPartition_op env s p false
  have hfree := umountPartition_unmounts env s p (hr.ties p hp) hret
  rw [← hop.mountName] at hfree
  have hready := (unmount_keeps (g := False) env hr hp hkept).ready hr
  refine runTool_keeps env hready ?_ hfree tool
  rw [setPartition_list]
  exact List.mem_map.mpr ⟨p, hp, if_pos (address_of_ident hop.ident).symm⟩

theorem fsckOn_keeps (hkept : d.isReadOnly = false → UmountKept env s.mounted p false) :
    Keeps x g s d (fsckOn env s d p).state (fsckOn env s d p).obj := by
  cases hro : d.isReadOnly with
  | true =>
    unfold fsckOn
    rw [hro]
    exact Keeps.refl hr
  | false =>
    rw [fsckOn_split env s d p hro]
    dsimp only
    split
    · exact unmount_keeps env hr hp (hkept hro)
    · rename_i hret
      exact (unmount_keeps env hr hp (hkept hro)).trans
        (unmounted_keeps env hr hp (hkept hro) (not_not.mp hret) .fsck)

theorem formatOn_keeps (fsType volumeLabel : String)
    (hkept : d.isReadOnly = false → UmountKept env s.mounted p false) :
    Keeps x g s d (formatOn env s d p fsType volumeLabel).state
      (formatOn env s d p fsType volumeLabel).obj := by
  cases hro : d.isReadOnly with
  | true =>
    unfold formatOn
    rw [hro]
    exact Keeps.refl hr
  | false =>
    rw [formatOn_split env s d p fsType volumeLabel hro]
    dsimp only
    split
    · exact unmount_keeps env hr hp (hkept hro)
    · rename_i hret
      exact (unmount_keeps env hr hp (hkept hro)).trans
        (unmounted_keeps env hr hp (hkept hro) (not_not.mp hret) (.format fsType volumeLabel))

end Partition

/-! ### Threads and timeouts -/

theorem fsckOnDeviceAddThread_keeps (partition : Nat)
    (hkept : ∀ p, d.diskPartitionList.find? (·.address = partition) = some p →
      CheckKept env s.mounted p g PdmFsck.AUTO) :
    Keeps x g s d (fsckOnDeviceAddThread env s d partition).state
      (fsckOnDeviceAddThread env s d partition).obj := by
  unfold fsckOnDeviceAddThread fsckPartitionAt
  cases hfind : d.diskPartitionList.find? (·.address = partition) with
  | none =>
    exact Keeps.of_untouched hr ⟨by simp, by simp, by simp [handlerCb_notables]⟩ (by simp) (by simp)
  | some p =>
    have hp := List.mem_of_find?_eq_some hfind
    have hpart := Keeps.part hr
      (fsckPartition_keeps (g := g) env s p (hr.ties p hp) (hkept p hfind)) hp
    exact hpart.trans (Keeps.of_untouched (hpart.ready hr) ⟨by simp, by simp, by simp⟩ (by simp)
      (by simp))

theorem notifyStorageConnecting_keeps :
    Keeps x g s d (notifyStorageConnecting s d).state (notifyStorageConnecting s d).obj :=
  Keeps.of_untouched hr (handlerCb_untouched s .connecting none (by simp)) rfl rfl

/-! ### Suspend and resume -/

/-- Setting the power status of all partitions. -/
theorem setPowerStatus_keeps (status : Bool) {e : StorageDevice} (hw : Within s d s e)
    (hlist : e.diskPartitionList = d.diskPartitionList.map (·.setPowerStatus status)) :
    Keeps x g s d s e := by
  refine ⟨hw, fun q hq => ?_, fun _ => Sys.Adds.of_eq rfl⟩
  rw [hlist] at hq
  obtain ⟨p, hp, rfl⟩ := List.mem_map.mp hq
  exact (hr.ties p hp).congr rfl rfl Iff.rfl

theorem suspendRequest_keeps : Keeps x g s d s d.suspendRequest :=
  setPowerStatus_keeps hr false (suspendRequest_within s d) rfl

theorem resumeRequest_keeps (hkept : ¬ (d.storageType = .usbHdd ∧ d.errorReason ≠ .ejected) →
      ∀ p ∈ d.diskPartitionList, p.isSupportedFs = true →
        RemountKept env s.mounted p d.isReadOnly) :
    Keeps x g s d (resumeRequest env s d).state (resumeRequest env s d).obj := by
  have hstatus := setPowerStatus_keeps (g := g) hr true (e := { d with
      diskPartitionList := d.diskPartitionList.map (·.setPowerStatus true)
      isPowerOnConnect := true }) (setPowerStatus_within s d true rfl rfl) rfl
  unfold resumeRequest
  dsimp only
  split
  · exact hstatus
  · rename_i hnot
    have hmount := hstatus.trans (mountAllPartition_keeps (g := g) env (hstatus.ready hr)
      fun q hq hsupp => by
        obtain ⟨p, hp, rfl⟩ := List.mem_map.mp hq
        exact hkept hnot p hp hsupp)
    split
    · exact hmount.trans (Keeps.of_untouched (hmount.ready hr) (Untouched.refl _) rfl rfl)
    · exact hmount

end StorageDevice

end Pdm
