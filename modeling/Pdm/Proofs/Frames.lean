/-
What an operation leaves alone.

An operation on a partition touches the mount table at the partition's own mount point
and nowhere else, changes nothing that tells partitions apart, allocates nothing and
puts only a check or a format of this partition on record (`PartOp`).  Methods of a
device that are not run by a uevent are made of such operations, so they stay within
the device in the same sense (`Within`), and commands, plugin events and threads stay
within the devices that are listed (`WithinList`).
-/
import Pdm.Proofs.Routing

namespace Pdm

open Visit (visit)

/-! ### The mount table outside some mount points -/

/-- The mount table has changed at most at mount points with `M`, and nothing is mounted
at the empty path that was not before. -/
structure Sys.SameOutside (M : String → Prop) (s t : Sys) : Prop where
  others : ∀ m, ¬ M m → (m ∈ t.mounted ↔ m ∈ s.mounted)
  noEmpty : "" ∉ s.mounted → "" ∉ t.mounted

namespace Sys.SameOutside

variable {M N : String → Prop} {s t u : Sys}

theorem of_eq (h : t.mounted = s.mounted) : SameOutside M s t :=
  ⟨fun m _ => by rw [h], fun he => by rw [h]; exact he⟩

theorem refl (s : Sys) : SameOutside M s s := of_eq rfl

theorem trans (hst : SameOutside M s t) (htu : SameOutside M t u) : SameOutside M s u :=
  ⟨fun m hm => (htu.others m hm).trans (hst.others m hm), fun he => htu.noEmpty (hst.noEmpty he)⟩

theorem mono (h : SameOutside M s t) (hMN : ∀ m, M m → N m) : SameOutside N s t :=
  ⟨fun m hm => h.others m fun hM => hm (hMN m hM), h.noEmpty⟩

theorem erase {m : String} (h : t.mounted = s.mounted.erase m) : SameOutside (· = m) s t := by
  refine ⟨fun n hn => ?_, fun he => ?_⟩
  · rw [h, Finset.mem_erase]
    exact and_iff_right hn
  · rw [h]
    exact fun hmem => he (Finset.mem_of_mem_erase hmem)

theorem insert {m : String} (hm : m ≠ "") (h : t.mounted = Insert.insert m s.mounted) :
    SameOutside (· = m) s t := by
  refine ⟨fun n hn => ?_, fun he => ?_⟩
  · rw [h, Finset.mem_insert]
    exact or_iff_right hn
  · rw [h, Finset.mem_insert, not_or]
    exact ⟨hm.symm, he⟩

/-- Nothing is mounted at an empty mount point, so what is the same elsewhere is the same
there. -/
theorem iff_of_empty {m : String} (h : SameOutside M s t) (hs : "" ∉ s.mounted)
    (hm : ¬ M m ∨ m = "") : m ∈ t.mounted ↔ m ∈ s.mounted := by
  rcases hm with hm | hm
  · exact h.others m hm
  · subst hm
    exact iff_of_false (h.noEmpty hs) hs

end Sys.SameOutside

/-! ### One partition -/

/-- A format or a check of the partition. -/
def DiskPartitionInfo.Worked (p : DiskPartitionInfo) (r : CallRecord) : Prop :=
  r.call = .formatDrive p.driveName p.mountName ∨ r.call = .fsck p.driveName p.mountName

/-- What every operation on a partition does at most. -/
structure PartOp (s : Sys) (p : DiskPartitionInfo) (t : Sys) (q : DiskPartitionInfo) : Prop where
  ident : q.ident = p.ident
  next : t.next = s.next
  outside : Sys.SameOutside (· = p.mountName) s t
  quiet : Sys.Adds p.Worked s t

namespace PartOp

variable {s t u : Sys} {p q r : DiskPartitionInfo}

theorem mountName (h : PartOp s p t q) : q.mountName = p.mountName :=
  (DiskPartitionInfo.ident_eq_iff.mp h.ident).2.2.2.1

theorem driveName (h : PartOp s p t q) : q.driveName = p.driveName :=
  (DiskPartitionInfo.ident_eq_iff.mp h.ident).2.2.1

theorem refl (s : Sys) (p : DiskPartitionInfo) : PartOp s p s p :=
  ⟨rfl, rfl, Sys.SameOutside.refl s, Sys.Adds.of_eq rfl⟩

theorem trans (h₁ : PartOp s p t q) (h₂ : PartOp t q u r) : PartOp s p u r := by
  refine ⟨h₂.ident.trans h₁.ident, h₂.next.trans h₁.next, h₁.outside.trans ?_,
    h₁.quiet.trans (h₂.quiet.mono fun rec hrec => ?_)⟩
  · exact h₂.outside.mono fun m hm => hm.trans h₁.mountName
  · unfold DiskPartitionInfo.Worked at hrec ⊢
    rwa [h₁.driveName, h₁.mountName] at hrec

/-- What only talks to the system leaves the partition alone. -/
theorem of_untouched (hs : StorageDevice.Untouched s t) (hq : q.ident = p.ident) :
    PartOp s p t q :=
  ⟨hq, hs.next, Sys.SameOutside.of_eq hs.mounted, Sys.Adds.of_eq hs.notables⟩

end PartOp

theorem handlerCb_untouched (s : Sys) (event : EventType) (device : Option Nat)
    (h : event ≠ .remove ∨ device = none) :
    StorageDevice.Untouched s (handlerCb s event device) :=
  ⟨handlerCb_mounted s event device, handlerCb_next s event device,
    handlerCb_notables s event device h⟩

theorem notify_untouched (s : Sys) (deviceType : DeviceEventType) (event : EventType) :
    StorageDevice.Untouched s (s.notify deviceType event none) := by
  refine ⟨rfl, rfl, ?_⟩
  rw [Sys.notify_notables]
  cases event <;> rfl

namespace StorageDevice

variable (env : Env) (s : Sys) (p : DiskPartitionInfo)

theorem umountPartition_op (lazyUnmount : Bool) :
    PartOp s p (umountPartition env s p lazyUnmount).state
      (umountPartition env s p lazyUnmount).obj := by
  refine ⟨by simp, by simp, ?_, Sys.Adds.of_eq (by simp)⟩
  cases hflag : p.mounted with
  | false =>
    rw [umountPartition_unflagged env s p hflag]
    exact Sys.SameOutside.refl s
  | true =>
    by_cases hidle : lazyUnmount = true ∨ env.busy p = false
    · obtain ⟨-, hm, -⟩ := umountPartition_try env s p hflag hidle
      by_cases hlets : env.letsGo p lazyUnmount = true
      · rw [if_pos hlets] at hm
        exact Sys.SameOutside.erase hm
      · rw [if_neg hlets] at hm
        exact Sys.SameOutside.of_eq hm
    · obtain ⟨hlazy, hbusy⟩ := not_or.mp hidle
      rw [Bool.not_eq_true] at hlazy
      rw [Bool.not_eq_false] at hbusy
      subst hlazy
      exact Sys.SameOutside.of_eq (umountPartition_busy env s p hflag hbusy).1

theorem mountName_ne_of_mounts {env : Env} {p : DiskPartitionInfo} {readOnly : Bool}
    (h : env.mounts p readOnly = true) : p.mountName ≠ "" := by
  unfold Env.mounts at h
  simp only [Bool.and_eq_true, decide_eq_true_eq] at h
  exact h.1.1

theorem mountPartition_op (readOnly : Bool) :
    PartOp s p (mountPartition env s p readOnly).state (mountPartition env s p readOnly).obj := by
  refine ⟨by simp, by simp, ?_, Sys.Adds.of_eq (by simp)⟩
  obtain ⟨-, hm, -⟩ := mountPartition_eq env s p readOnly
  by_cases h : env.mounts p readOnly = true
  · rw [if_pos h] at hm
    exact Sys.SameOutside.insert (mountName_ne_of_mounts h) hm
  · rw [if_neg h] at hm
    exact Sys.SameOutside.of_eq hm

theorem fsckPartition_op (fsckMode : String) :
    PartOp s p (fsckPartition env s p fsckMode).state (fsckPartition env s p fsckMode).obj := by
  refine ⟨by simp, by simp, ?_, Sys.Adds.single (fsckPartition_notables env s p fsckMode)
    (Or.inr rfl)⟩
  obtain ⟨-, hm⟩ := fsckPartition_eq env s p fsckMode
  by_cases h : env.checkStatus p fsckMode = .success ∧ env.mounts p false = true
  · rw [if_pos h] at hm
    exact Sys.SameOutside.insert (mountName_ne_of_mounts h.2) hm
  · rw [if_neg h] at hm
    exact Sys.SameOutside.of_eq hm

theorem formatFs_op (fsType label : String) :
    PartOp s p (PdmFs.format env s p fsType label).state
      (PdmFs.format env s p fsType label).obj := by
  obtain ⟨hm, hnext, hnot, hident, -⟩ := formatFs_eq env s p fsType label
  exact ⟨hident, hnext, Sys.SameOutside.of_eq hm, Sys.Adds.single hnot (Or.inl rfl)⟩

theorem setVolumeLabel_op (volLabel : String) :
    PartOp s p (PdmFs.setVolumeLabel env s p volLabel).state
      (PdmFs.setVolumeLabel env s p volLabel).obj := by
  unfold PdmFs.setVolumeLabel
  split
  · exact PartOp.refl s p
  · dsimp only
    split
    · exact PartOp.refl s p
    · split
      · exact PartOp.of_untouched ⟨by simp, by simp, by simp⟩ rfl
      · exact PartOp.of_untouched ⟨by simp, by simp, by simp⟩ (by simp)

theorem mountSupported_op (readOnly : Bool) :
    PartOp s p (mountSupported env readOnly s p).state (mountSupported env readOnly s p).obj := by
  unfold mountSupported
  split
  · exact mountPartition_op env s p readOnly
  · exact PartOp.refl s p

theorem enforcePartition_op (needFsck : Bool) :
    PartOp s p (enforcePartition env needFsck s p).state
      (enforcePartition env needFsck s p).obj := by
  unfold enforcePartition
  split
  · exact mountPartition_op env s p false
  · split
    · exact fsckPartition_op env s p PdmFsck.FORCE
    · exact PartOp.refl s p

theorem umount_op (lazyUnmount : Bool) :
    PartOp s p (PdmFs.umount env s p lazyUnmount).2 p := by
  obtain ⟨-, hm, hnext, hnot⟩ := umount_eq env s p lazyUnmount
  refine ⟨rfl, hnext, ?_, Sys.Adds.of_eq hnot⟩
  by_cases hlets : env.letsGo p lazyUnmount = true
  · rw [if_pos hlets] at hm
    exact Sys.SameOutside.erase hm
  · rw [if_neg hlets] at hm
    exact Sys.SameOutside.of_eq hm

end StorageDevice

/-! ### One device -/

namespace StorageDevice

/-- The addresses of the partitions. -/
def addresses (d : StorageDevice) : List Nat := d.diskPartitionList.map (·.address)

/-- A partition of the device has this mount point. -/
def Owns (d : StorageDevice) (m : String) : Prop := ∃ p ∈ d.diskPartitionList, p.mountName = m

/-- A format or a check of one of the device's partitions. -/
def Worked (d : StorageDevice) (r : CallRecord) : Prop :=
  ∃ p ∈ d.diskPartitionList, p.Worked r

theorem mem_idents {d : StorageDevice} {p : DiskPartitionInfo} (hp : p ∈ d.diskPartitionList) :
    p.ident ∈ d.idents :=
  List.mem_map_of_mem hp

/-- Two devices one of which lists no partition that the other does not. -/
theorem exists_ident {d e : StorageDevice} (h : e.idents ⊆ d.idents) {p : DiskPartitionInfo}
    (hp : p ∈ e.diskPartitionList) : ∃ q ∈ d.diskPartitionList, q.ident = p.ident :=
  List.mem_map.mp (h (mem_idents hp))

theorem Owns.mono {d e : StorageDevice} (h : e.idents ⊆ d.idents) (m : String)
    (hm : e.Owns m) : d.Owns m := by
  obtain ⟨p, hp, hpm⟩ := hm
  obtain ⟨q, hq, hqp⟩ := exists_ident h hp
  exact ⟨q, hq, (DiskPartitionInfo.ident_eq_iff.mp hqp).2.2.2.1.trans hpm⟩

theorem Worked.mono {d e : StorageDevice} (h : e.idents ⊆ d.idents) (r : CallRecord)
    (hr : e.Worked r) : d.Worked r := by
  obtain ⟨p, hp, hpr⟩ := hr
  obtain ⟨q, hq, hqp⟩ := exists_ident h hp
  obtain ⟨-, -, hdrive, hmount, -⟩ := DiskPartitionInfo.ident_eq_iff.mp hqp
  refine ⟨q, hq, ?_⟩
  unfold DiskPartitionInfo.Worked at hpr ⊢
  rwa [hdrive, hmount]

/-- **What every method does at most that no uevent runs.** -/
structure Within (s : Sys) (d : StorageDevice) (t : Sys) (e : StorageDevice) : Prop where
  core : e.core = d.core
  addresses : e.addresses = d.addresses
  idents : e.idents ⊆ d.idents
  next : t.next = s.next
  outside : Sys.SameOutside d.Owns s t
  quiet : Sys.Adds d.Worked s t

namespace Within

variable {s t u : Sys} {d e f : StorageDevice}

theorem trans (h₁ : Within s d t e) (h₂ : Within t e u f) : Within s d u f :=
  ⟨h₂.core.trans h₁.core, h₂.addresses.trans h₁.addresses,
    List.Subset.trans h₂.idents h₁.idents, h₂.next.trans h₁.next,
    h₁.outside.trans (h₂.outside.mono (Owns.mono h₁.idents)),
    h₁.quiet.trans (h₂.quiet.mono (Worked.mono h₁.idents))⟩

/-- The device has changed in nothing but its state of being announced and mounted. -/
theorem of_untouched (hs : Untouched s t) (hcore : e.core = d.core)
    (hlist : e.diskPartitionList = d.diskPartitionList) : Within s d t e := by
  refine ⟨hcore, ?_, ?_, hs.next, Sys.SameOutside.of_eq hs.mounted, Sys.Adds.of_eq hs.notables⟩
  · unfold StorageDevice.addresses
    rw [hlist]
  · unfold StorageDevice.idents
    rw [hlist]
    exact List.Subset.refl _

theorem refl (s : Sys) (d : StorageDevice) : Within s d s d :=
  of_untouched (Untouched.refl s) rfl rfl

/-- An operation on one partition, which is then put back. -/
theorem part {p q : DiskPartitionInfo} (h : PartOp s p t q) (hp : p ∈ d.diskPartitionList) :
    Within s d t (d.setPartition q) := by
  refine ⟨rfl, ?_, d.setPartition_idents_subset hp h.ident, h.next,
    h.outside.mono fun m hm => ⟨p, hp, hm.symm⟩, h.quiet.mono fun r hr => ⟨p, hp, hr⟩⟩
  exact Keyed.put_keys (fun r : DiskPartitionInfo => r.address) d.diskPartitionList q

/-- A loop over the partitions. -/
theorem loop {g : Sys → DiskPartitionInfo → Out DiskPartitionInfo PdmDevStatus}
    (hg : ∀ s p, PartOp s p (g s p).state (g s p).obj) :
    Within s d (visit g s d.diskPartitionList).state
      { d with diskPartitionList := (visit g s d.diskPartitionList).obj } := by
  have hidents : (visit g s d.diskPartitionList).obj.map (·.ident) =
      d.diskPartitionList.map (·.ident) :=
    Visit.visit_map (fun s p => (hg s p).ident) d.diskPartitionList s
  refine ⟨rfl, ?_, ?_, ?_, ?_, ?_⟩
  · exact Visit.visit_map (g := fun p : DiskPartitionInfo => p.address)
      (fun s p => (DiskPartitionInfo.ident_eq_iff.mp (hg s p).ident).1) d.diskPartitionList s
  · unfold StorageDevice.idents
    rw [hidents]
    exact List.Subset.refl _
  · exact Visit.visit_state (P := fun t : Sys => t.next = s.next)
      (fun t p _ h => (hg t p).next.trans h) rfl
  · exact Visit.visit_state (P := fun t : Sys => Sys.SameOutside d.Owns s t)
      (fun t p hp h => h.trans ((hg t p).outside.mono fun m hm => ⟨p, hp, hm.symm⟩))
      (Sys.SameOutside.refl s)
  · exact Visit.visit_state (P := fun t : Sys => Sys.Adds d.Worked s t)
      (fun t p hp h => h.trans ((hg t p).quiet.mono fun r hr => ⟨p, hp, hr⟩))
      (Sys.Adds.of_eq rfl)

end Within

end StorageDevice

end Pdm
