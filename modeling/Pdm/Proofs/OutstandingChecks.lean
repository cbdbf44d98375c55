/-
The checks of a device that have not ended.

A device starts a thread for a partition and goes on; the check is outstanding until the
thread has had the checker's answer.  `Orderly` is what must hold of it all the while: no
partition with an outstanding check is flagged as mounted, each has one such check at most,
and all of them are of partitions that the device lists.

What leaves the flags down keeps it (`Quiet`).  Whatever may mount a partition, or start
checks, or drop partitions, keeps it where no check of these partitions is outstanding.
-/
import Pdm.Framework.StorageThreads
import Pdm.Proofs.PartitionEvents
import Pdm.Proofs.TiedLists

namespace Pdm

open Visit (visit)

namespace StorageDevice

/-- A thread has been started for the partition and has not had its answer. -/
def Outstanding (checking : List (Nat × Nat)) (d : StorageDevice) (partition : Nat) : Prop :=
  partition ∈ d.fsckThreadArray ∨ (d.address, partition) ∈ checking

instance (checking : List (Nat × Nat)) (d : StorageDevice) (partition : Nat) :
    Decidable (d.Outstanding checking partition) :=
  inferInstanceAs (Decidable (_ ∨ _))

/-- The outstanding checks are of partitions of the device that are not flagged as mounted,
one for each. -/
structure Orderly (checking : List (Nat × Nat)) (d : StorageDevice) : Prop where
  idle : ∀ p ∈ d.diskPartitionList, d.Outstanding checking p.address → p.mounted = false
  known : ∀ a, d.Outstanding checking a → a ∈ d.addresses
  nodup : d.fsckThreadArray.Nodup
  apart : ∀ a ∈ d.fsckThreadArray, (d.address, a) ∉ checking

/-- The device has the partitions and the threads it had, and no partition is newly flagged
for which a check is outstanding. -/
structure Quiet (checking : List (Nat × Nat)) (d e : StorageDevice) : Prop where
  address : e.address = d.address
  threads : e.fsckThreadArray = d.fsckThreadArray
  addresses : e.addresses = d.addresses
  flags : ∀ q ∈ e.diskPartitionList, q.mounted = true → d.Outstanding checking q.address →
    ∃ p ∈ d.diskPartitionList, p.address = q.address ∧ p.mounted = true

variable {checking : List (Nat × Nat)} {d e f : StorageDevice} {p q : DiskPartitionInfo}

theorem Outstanding.congr (haddr : e.address = d.address)
    (hthreads : e.fsckThreadArray = d.fsckThreadArray) (a : Nat) :
    e.Outstanding checking a ↔ d.Outstanding checking a := by
  unfold Outstanding
  rw [haddr, hthreads]

theorem Free.not_outstanding (h : d.Free checking) (a : Nat) : ¬ d.Outstanding checking a := by
  rintro (hpending | hunder)
  · rw [h.1] at hpending
    exact absurd hpending List.not_mem_nil
  · exact h.2 _ hunder rfl

namespace Quiet

/-- The partitions are those it had. -/
theorem of_list (haddr : e.address = d.address) (hthreads : e.fsckThreadArray = d.fsckThreadArray)
    (hlist : e.diskPartitionList = d.diskPartitionList) : Quiet checking d e := by
  refine ⟨haddr, hthreads, ?_, fun q hq hflag _ => ?_⟩
  · unfold StorageDevice.addresses
    rw [hlist]
  · rw [hlist] at hq
    exact ⟨q, hq, rfl, hflag⟩

theorem refl (d : StorageDevice) : Quiet checking d d := of_list rfl rfl rfl

theorem trans (h : Quiet checking d e) (h' : Quiet checking e f) : Quiet checking d f := by
  refine ⟨h'.address.trans h.address, h'.threads.trans h.threads, h'.addresses.trans h.addresses,
    fun q hq hflag hout => ?_⟩
  obtain ⟨p, hp, hpq, hp'⟩ := h'.flags q hq hflag ((Outstanding.congr h.address h.threads _).mpr hout)
  obtain ⟨r, hr, hrp, hr'⟩ := h.flags p hp hp' (hpq ▸ hout)
  exact ⟨r, hr, hrp.trans hpq, hr'⟩

/-- One partition is put back, changed. -/
theorem set (hp : p ∈ d.diskPartitionList) (haddr : q.address = p.address)
    (hflag : q.mounted = true → d.Outstanding checking p.address → p.mounted = true) :
    Quiet checking d (d.setPartition q) := by
  refine ⟨rfl, rfl, ?_, fun r hr hr' hout => ?_⟩
  · unfold StorageDevice.addresses
    rw [setPartition_list, List.map_map]
    refine List.map_congr_left fun r _ => ?_
    rw [Function.comp_apply]
    split
    · next h => exact h.symm
    · rfl
  · rcases d.mem_setPartition hr with rfl | ⟨hr, -⟩
    · rw [haddr] at hout
      exact ⟨p, hp, haddr.symm, hflag hr' hout⟩
    · exact ⟨r, hr, rfl, hr'⟩

/-- A loop over the partitions that flags none but those with `A`. -/
theorem loop {ρ : Type} {A : DiskPartitionInfo → Prop}
    {g : Sys → DiskPartitionInfo → Out DiskPartitionInfo ρ}
    (haddr : ∀ s p, (g s p).obj.address = p.address)
    (hflag : ∀ s p, (g s p).obj.mounted = true → p.mounted = true ∨ A p)
    (hall : ∀ p ∈ d.diskPartitionList, A p → ¬ d.Outstanding checking p.address) (s : Sys) :
    Quiet checking d { d with diskPartitionList := (visit g s d.diskPartitionList).obj } := by
  refine ⟨rfl, rfl, Visit.visit_map haddr _ _, fun q hq hq' hout => ?_⟩
  obtain ⟨p, hp, hpq, hp'⟩ := Visit.visit_mem
    (R := fun p q => q.address = p.address ∧ (q.mounted = true → p.mounted = true ∨ A p))
    (fun s p => ⟨haddr s p, hflag s p⟩) d.diskPartitionList s q hq
  rw [hpq] at hout
  exact ⟨p, hp, hpq.symm, (hp' hq').resolve_right fun hA => hall p hp hA hout⟩

end Quiet

namespace Orderly

theorem quiet (h : Orderly checking d) (hq : Quiet checking d e) : Orderly checking e := by
  have hcongr : ∀ a, e.Outstanding checking a ↔ d.Outstanding checking a :=
    Outstanding.congr hq.address hq.threads
  refine ⟨fun q hqe hout => ?_, fun a hout => ?_, ?_, ?_⟩
  · by_contra hflag
    rw [Bool.not_eq_false] at hflag
    rw [hcongr] at hout
    obtain ⟨p, hp, hpq, hp'⟩ := hq.flags q hqe hflag hout
    rw [h.idle p hp (hpq ▸ hout)] at hp'
    exact absurd hp' (by decide)
  · rw [hq.addresses]
    exact h.known a ((hcongr a).mp hout)
  · rw [hq.threads]
    exact h.nodup
  · rw [hq.threads, hq.address]
    exact h.apart

/-- Nothing is outstanding. -/
theorem of_free (h : d.Free checking) : Orderly checking d :=
  ⟨fun p _ hout => absurd hout (h.not_outstanding p.address),
    fun a hout => absurd hout (h.not_outstanding a), by rw [h.1]; exact List.nodup_nil,
    fun a ha => by rw [h.1] at ha; exact absurd ha List.not_mem_nil⟩

end Orderly

/-! ### Methods that leave the flags down -/

section Methods

variable (env : Env) (s : Sys)

theorem umountPartition_flag {lazyUnmount : Bool} (p : DiskPartitionInfo)
    (h : (umountPartition env s p lazyUnmount).obj.mounted = true) : p.mounted = true := by
  by_contra hflag
  rw [Bool.not_eq_true] at hflag
  rw [umountPartition_unflagged env s p hflag, hflag] at h
  exact absurd h (by decide)

theorem umountAllPartition_quiet (d : StorageDevice) (lazyUnmount : Bool) :
    Quiet checking d (umountAllPartition env s d lazyUnmount).obj :=
  Quiet.loop (A := fun _ => False)
    (fun s p => address_of_ident (umountPartition_ident env s p lazyUnmount))
    (fun s p h => Or.inl (umountPartition_flag env s p h)) (fun _ _ hA => absurd hA not_false) s

theorem eject_quiet (d : StorageDevice) : Quiet checking d (eject env s d).obj := by
  have hloop : Quiet checking d (umountAllPartition env s d false).obj :=
    umountAllPartition_quiet env s d false
  unfold eject
  dsimp only
  split
  · exact hloop.trans (Quiet.of_list rfl rfl rfl)
  · exact hloop

theorem setPartitionVolumeLabel_quiet (d : StorageDevice) (driveName volumeLabel : String) :
    Quiet checking d (setPartitionVolumeLabel env s d driveName volumeLabel).obj := by
  unfold setPartitionVolumeLabel
  cases hp : d.findPartition driveName with
  | none => exact Quiet.refl d
  | some p =>
    have hlabel : (PdmFs.setVolumeLabel env s p volumeLabel).obj.ident = p.ident ∧
        (PdmFs.setVolumeLabel env s p volumeLabel).obj.mounted = p.mounted := by
      unfold PdmFs.setVolumeLabel
      split
      · exact ⟨rfl, rfl⟩
      · dsimp only
        split
        · exact ⟨rfl, rfl⟩
        · split
          · exact ⟨rfl, rfl⟩
          · exact ⟨by simp, by simp⟩
    exact Quiet.set (d.findPartition_mem hp).1 (address_of_ident hlabel.1)
      fun h _ => hlabel.2.symm.trans h

theorem getSpaceInfo_quiet (d : StorageDevice) (driveName : String) (directCheck : Bool) :
    Quiet checking d (getSpaceInfo env d driveName directCheck).1 := by
  unfold getSpaceInfo
  cases hp : d.findPartition driveName with
  | none => exact Quiet.refl d
  | some p =>
    dsimp only
    unfold getSpaceInfoOn
    split
    · cases PdmFs.calculateSpaceInfo env p.mountName with
      | none => exact Quiet.refl d
      | some space => exact Quiet.set (d.findPartition_mem hp).1 rfl fun h _ => h
    · exact Quiet.refl d

theorem notifyStorageConnecting_quiet (d : StorageDevice) :
    Quiet checking d (notifyStorageConnecting s d).obj := Quiet.of_list rfl rfl rfl

/-- The partition is mounted or checked by a forced check of the device. -/
def Enforced (needFsck : Bool) (p : DiskPartitionInfo) : Prop :=
  (needFsck = false ∧ p.mounted = false) ∨ p.fsckStatus = PdmDevStatus.fsckTimeout.code

theorem enforceFsckAndMount_quiet {needFsck : Bool}
    (hfree : ∀ p ∈ d.diskPartitionList, Enforced needFsck p → ¬ d.Outstanding checking p.address) :
    Quiet checking d (enforceFsckAndMount env s d needFsck).obj := by
  have hloop : Quiet checking d { d with
      diskPartitionList := (visit (enforcePartition env needFsck) s d.diskPartitionList).obj } := by
    refine Quiet.loop (A := Enforced needFsck)
      (fun s p => address_of_ident (enforcePartition_ident env s needFsck p)) (fun s p h => ?_)
      hfree s
    unfold enforcePartition at h
    split at h
    · rename_i hmount
      exact Or.inr (Or.inl hmount)
    · split at h
      · rename_i htime
        exact Or.inr (Or.inr htime)
      · exact Or.inl h
  unfold enforceFsckAndMount
  dsimp only
  split
  · exact hloop.trans (Quiet.of_list rfl rfl rfl)
  · exact hloop

theorem mountAllPartition_quiet
    (hfree : ∀ p ∈ d.diskPartitionList, p.isSupportedFs = true →
      ¬ d.Outstanding checking p.address) :
    Quiet checking d (mountAllPartition env s d).obj := by
  refine Quiet.loop (A := fun p => p.isSupportedFs = true)
    (fun s p => address_of_ident (mountSupported_ident env s d.isReadOnly p)) (fun s p h => ?_)
    hfree s
  unfold mountSupported at h
  split at h
  · rename_i hsupp
    exact Or.inr hsupp
  · exact Or.inl h

end Methods

/-! ### Events -/

/-- The event completes the medium of a device that can be written to, so its partitions are
to be checked. -/
def StartsChecks (env : Env) (d : StorageDevice) (devClass : DeviceClass) : Prop :=
  ∃ d₀, receiver env d devClass = some d₀ ∧ d.findPartition devClass.devName = none ∧
    d₀.isReadOnly = false ∧
    (d₀.partitionCount = 0 ∨ (d.diskPartitionList.length + 1 : Int) = d₀.partitionCount)

/-- An event mounts, checks or drops no partition for which a check is outstanding, and
starts none for one that is flagged as mounted. -/
structure EventClear (env : Env) (checking : List (Nat × Nat)) (d : StorageDevice)
    (devClass : DeviceClass) : Prop where
  mounts : d.StartsReadOnly env devClass → ∀ p ∈ d.diskPartitionList, p.isSupportedFs = true →
    ¬ d.Outstanding checking p.address
  starts : d.StartsChecks env devClass → ∀ p ∈ d.diskPartitionList, p.isSupportedFs = true →
    p.mounted = false ∧ ¬ d.Outstanding checking p.address
  drops : d.DropsParts env devClass → d.Free checking

section Events

variable (env : Env) (s : Sys) (devClass : DeviceClass)

theorem Orderly.congr (h : Orderly checking d) (haddr : e.address = d.address)
    (hlist : e.diskPartitionList = d.diskPartitionList)
    (hthreads : e.fsckThreadArray = d.fsckThreadArray) : Orderly checking e :=
  h.quiet (Quiet.of_list haddr hthreads hlist)

/-- A partition is listed, under an address that no thread knows. -/
theorem addPartition_orderly (h : Orderly checking d) (hdist : Distinct s.next d) :
    Orderly checking (addPartition env s d devClass).obj ∧
      ∀ p ∈ (addPartition env s d devClass).obj.diskPartitionList,
        p ∈ d.diskPartitionList ∨ (p.mounted = false ∧ ¬ d.Outstanding checking p.address) := by
  have hlist := addPartition_list env s d devClass
  have hnew : ¬ d.Outstanding checking s.next := fun hout =>
    Nat.lt_irrefl _ (hdist.given _ (h.known _ hout))
  have hmem : ∀ p ∈ (addPartition env s d devClass).obj.diskPartitionList,
      p ∈ d.diskPartitionList ∨ (p.mounted = false ∧ ¬ d.Outstanding checking p.address) := by
    intro p hp
    rw [hlist, List.mem_append, List.mem_singleton] at hp
    refine hp.imp_right fun heq => ?_
    subst heq
    exact ⟨rfl, hnew⟩
  refine ⟨⟨fun p hp hout => ?_, fun a hout => ?_, h.nodup, h.apart⟩, hmem⟩
  · rcases hmem p hp with hold | ⟨hflag, -⟩
    · exact h.idle p hold hout
    · exact hflag
  · rw [addPartition_addresses]
    exact List.mem_append_left _ (h.known a hout)

/-- The checks of a medium start. -/
theorem startPartitions_orderly (h : Orderly checking d) (hnodup : d.addresses.Nodup)
    (hmounts : d.isReadOnly = true → ∀ p ∈ d.diskPartitionList, p.isSupportedFs = true →
      ¬ d.Outstanding checking p.address)
    (hstarts : d.isReadOnly = false → ∀ p ∈ d.diskPartitionList, p.isSupportedFs = true →
      p.mounted = false ∧ ¬ d.Outstanding checking p.address) :
    Orderly checking (startPartitions env s d).obj := by
  unfold startPartitions
  split
  · split
    · rename_i hro
      have hmount := h.quiet (mountAllPartition_quiet env s (hmounts hro))
      exact hmount.congr (address_of_core (by simp)) (by simp)
        (storageDeviceNotification_same _ _).2
    · rename_i hro
      rw [Bool.not_eq_true] at hro
      have hclear := hstarts hro
      have hstarted : ∀ a ∈ (d.diskPartitionList.filter (·.isSupportedFs)).map (·.address),
          ∃ p ∈ d.diskPartitionList, p.address = a ∧ p.mounted = false ∧
            ¬ d.Outstanding checking a := by
        intro a ha
        obtain ⟨p, hp, rfl⟩ := List.mem_map.mp ha
        obtain ⟨hp, hsupp⟩ := List.mem_filter.mp hp
        exact ⟨p, hp, rfl, hclear p hp hsupp⟩
      have hsplit : ∀ a, (a ∈ d.fsckThreadArray ++
          (d.diskPartitionList.filter (·.isSupportedFs)).map (·.address) ∨
            (d.address, a) ∈ checking) →
          d.Outstanding checking a ∨
            a ∈ (d.diskPartitionList.filter (·.isSupportedFs)).map (·.address) := by
        rintro a (hthread | hunder)
        · rcases List.mem_append.mp hthread with hold | hnew
          · exact Or.inl (Or.inl hold)
          · exact Or.inr hnew
        · exact Or.inl (Or.inr hunder)
      refine ⟨fun p hp hout => ?_, fun a hout => ?_, ?_, fun a ha => ?_⟩
      · rcases hsplit p.address hout with hold | hnew
        · exact h.idle p hp hold
        · obtain ⟨q, hq, heq, hflag, -⟩ := hstarted _ hnew
          rw [List.inj_on_of_nodup_map hnodup hp hq heq.symm]
          exact hflag
      · rcases hsplit a hout with hold | hnew
        · exact h.known a hold
        · obtain ⟨q, hq, rfl, -⟩ := hstarted a hnew
          exact List.mem_map_of_mem hq
      · refine List.nodup_append'.mpr ⟨h.nodup, ?_, fun a hold hnew => ?_⟩
        · exact hnodup.sublist (List.filter_sublist.map _)
        · obtain ⟨-, -, -, -, hnot⟩ := hstarted a hnew
          exact hnot (Or.inl hold)
      · rcases List.mem_append.mp ha with hold | hnew
        · exact h.apart a hold
        · obtain ⟨-, -, -, -, hnot⟩ := hstarted a hnew
          exact fun hunder => hnot (Or.inr hunder)
  · exact h.congr rfl rfl rfl

theorem setPartitionInfo_orderly (h : Orderly checking d) (hdist : Distinct s.next d)
    (hmounts : d.findPartition devClass.devName = none → d.isReadOnly = true →
      (d.partitionCount = 0 ∨ (d.diskPartitionList.length + 1 : Int) = d.partitionCount) →
      ∀ p ∈ d.diskPartitionList, p.isSupportedFs = true → ¬ d.Outstanding checking p.address)
    (hstarts : d.findPartition devClass.devName = none → d.isReadOnly = false →
      (d.partitionCount = 0 ∨ (d.diskPartitionList.length + 1 : Int) = d.partitionCount) →
      ∀ p ∈ d.diskPartitionList, p.isSupportedFs = true →
        p.mounted = false ∧ ¬ d.Outstanding checking p.address) :
    Orderly checking (setPartitionInfo env s d devClass).obj := by
  unfold setPartitionInfo
  cases hfind : d.findPartition devClass.devName with
  | some p => exact h
  | none =>
    simp only [Option.isSome_none, Bool.false_eq_true, if_false]
    obtain ⟨hadd, hmem⟩ := addPartition_orderly env s devClass h hdist
    split
    · rename_i hall
      have hcount : d.partitionCount = 0 ∨
          (d.diskPartitionList.length + 1 : Int) = d.partitionCount := by
        rw [addPartition_list, List.length_append, List.length_singleton] at hall
        exact_mod_cast hall
      refine startPartitions_orderly env _ hadd ?_ (fun hro p hp hsupp => ?_)
        fun hro p hp hsupp => ?_
      · rw [addPartition_addresses]
        refine List.nodup_append'.mpr ⟨hdist.nodup, by simp, fun a ha ha' => ?_⟩
        rw [List.mem_singleton.mp ha'] at ha
        exact absurd (hdist.given _ ha) (Nat.lt_irrefl _)
      · rcases hmem p hp with hold | ⟨-, hnot⟩
        · exact hmounts hfind hro hcount p hold hsupp
        · exact hnot
      · rcases hmem p hp with hold | hnew
        · exact hstarts hfind hro hcount p hold hsupp
        · exact hnew
    · exact hadd

/-- **An event keeps the outstanding checks of the device in order.** -/
theorem setDeviceInfo_orderly (h : Orderly checking d) (hdist : Distinct s.next d)
    (hclear : d.EventClear env checking devClass) :
    Orderly checking (setDeviceInfo env s d devClass).obj := by
  have haddr := setDeviceInfo_address env s d devClass
  rcases setDeviceInfo_cases env s d devClass with
    ⟨d₀, s₀, hd₀, hs₀, hr₀⟩ | ⟨-, hr₀⟩ | ⟨-, -, hdrops, t, ht, hr₀⟩
  · obtain ⟨hlist, haddr₀, hthreads⟩ := receiver_list env d devClass hd₀
    have hdist₀ : Distinct s₀.next d₀ :=
      hdist.mono (Nat.le_of_eq hs₀.next.symm) (by unfold addresses; rw [hlist])
    have hfind : d₀.findPartition devClass.devName = d.findPartition devClass.devName := by
      unfold findPartition
      rw [hlist]
    have hset := setPartitionInfo_orderly env s₀ devClass (h.congr haddr₀ hlist hthreads) hdist₀
      (fun hnone hro hcount p hp hsupp => by
        rw [hlist] at hp hcount
        rw [Outstanding.congr haddr₀ hthreads]
        exact hclear.mounts ⟨d₀, hd₀, hfind ▸ hnone, hro, hcount⟩ p hp hsupp)
      (fun hnone hro hcount p hp hsupp => by
        rw [hlist] at hp hcount
        rw [Outstanding.congr haddr₀ hthreads]
        exact hclear.starts ⟨d₀, hd₀, hfind ▸ hnone, hro, hcount⟩ p hp hsupp)
    have haddr' : (setPartitionInfo env s₀ d₀ devClass).obj.address = d.address :=
      (address_of_core (setPartitionInfo_core env s₀ d₀ devClass)).trans haddr₀
    exact hset.congr (haddr.trans haddr'.symm) hr₀.parts hr₀.threads
  · exact h.congr haddr hr₀.parts hr₀.threads
  · refine Orderly.of_free ⟨hr₀.threads.trans (hclear.drops hdrops).1, fun c hc => ?_⟩
    rw [haddr]
    exact (hclear.drops hdrops).2 c hc

end Events

end StorageDevice

end Pdm
