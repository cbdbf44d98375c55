/-
The partitions of all listed devices are tied.

Devices whose partitions have mount points of their own do not disturb each other, so
what keeps the partitions of one device tied keeps those of every listed device tied:
writing one device back, a loop over all devices, an event and a removal.
-/
import Pdm.Proofs.TiedEvents

namespace Pdm

open Visit (visit)
open StorageDevice

/-- The partitions of the listed devices are tied, and have mount points of their own. -/
structure Tied (x : Prop) (s : Sys) (l : List StorageDevice) : Prop where
  empty : "" ∉ s.mounted
  ties : ∀ d ∈ l, ∀ p ∈ d.diskPartitionList, Tie x s.mounted p
  apart : ∀ d ∈ l, ∀ e ∈ l, ∀ p ∈ d.diskPartitionList, ∀ q ∈ e.diskPartitionList,
    d.address ≠ e.address ∨ p.address ≠ q.address → p.mountName = q.mountName → p.mountName = ""

/-- A step from state `s` leaves the partitions of the list tied, and its checks are
clear. -/
structure StaysTied (x g : Prop) (s t : Sys) (l : List StorageDevice) : Prop where
  tied : Tied x t l
  clear : g → Sys.Adds ChecksClear s t

/-- What only talks to the system afterwards does not matter. -/
theorem StaysTied.andThen {x g : Prop} {s t u : Sys} {l : List StorageDevice}
    (h : StaysTied x g s t l) (hu : Untouched t u) : StaysTied x g s u l :=
  ⟨⟨by rw [hu.mounted]; exact h.tied.empty, by rw [hu.mounted]; exact h.tied.ties, h.tied.apart⟩,
    fun hg => (h.clear hg).trans (Sys.Adds.of_eq hu.notables)⟩

/-- Nothing is mounted at a mount point that an event gives device `d`, and no listed
partition has it; and where the event makes a read-only device mount what it has, its
mounted partitions mount again. -/
structure AdditionKept (env : Env) (K : Finset String) (l : List StorageDevice)
    (d : StorageDevice) (devClass : DeviceClass) : Prop where
  fresh : ∀ m, d.Gains env devClass m → m ∉ K ∧ (m = "" ∨ ∀ e ∈ l, ¬ e.Owns m)
  remount : d.StartsReadOnly env devClass → ∀ p ∈ d.diskPartitionList, p.isSupportedFs = true →
    RemountKept env K p true

namespace Tied

variable {x g : Prop} {s t u : Sys} {l l' : List StorageDevice} {d e : StorageDevice}

theorem ready (h : Tied x s l) (hwf : WellFormed s l) (hd : d ∈ l) : Ready x s d :=
  ⟨h.empty, h.ties d hd, fun p hp q hq hne => h.apart d hd d hd p hp q hq (Or.inr hne),
    (hwf.parts d hd).nodup⟩

/-- A mount point that is another device's too is the empty path. -/
theorem owned_elsewhere (h : Tied x s l) {c : StorageDevice} (hc : c ∈ l) (hd : d ∈ l)
    (hne : c.address ≠ d.address) {p : DiskPartitionInfo} (hp : p ∈ c.diskPartitionList)
    (howns : d.Owns p.mountName) : p.mountName = "" := by
  obtain ⟨q, hq, hqm⟩ := howns
  exact h.apart c hc d hd p hp q hq (Or.inl hne) hqm.symm

theorem congr (h : Tied x s l) (ht : t.mounted = s.mounted) : Tied x t l :=
  ⟨by rw [ht]; exact h.empty, by rw [ht]; exact h.ties, h.apart⟩

/-- Some of the devices. -/
theorem sublist (h : Tied x s l) (hsub : ∀ d ∈ l', d ∈ l) : Tied x s l' :=
  ⟨h.empty, fun d hd => h.ties d (hsub d hd),
    fun d hd e he => h.apart d (hsub d hd) e (hsub e he)⟩

/-- The devices are the same ones, with the partitions they had. -/
theorem within (h : Tied x s l) (hw : WithinList s l t l')
    (hties : ∀ e ∈ l', ∀ q ∈ e.diskPartitionList, Tie x t.mounted q) : Tied x t l' := by
  refine ⟨hw.outside.noEmpty h.empty, hties, fun d hd e he p hp q hq hne heq => ?_⟩
  obtain ⟨d', hd', hdcore, -, hdi⟩ := hw.each d hd
  obtain ⟨e', he', hecore, -, hei⟩ := hw.each e he
  obtain ⟨p', hp', hpi⟩ := exists_ident hdi hp
  obtain ⟨q', hq', hqi⟩ := exists_ident hei hq
  rw [DiskPartitionInfo.ident_eq_iff] at hpi hqi
  rw [address_of_core hdcore, address_of_core hecore, ← hpi.1, ← hqi.1] at hne
  rw [← hpi.2.2.2.1, ← hqi.2.2.2.1] at heq
  rw [← hpi.2.2.2.1]
  exact h.apart d' hd' e' he' p' hp' q' hq' hne heq

/-- **One device was acted on**, at its own mount points and at further ones that no
other device's partition has. -/
theorem settle (h : Tied x s l) {N : String → Prop} (hready : Ready x t e)
    (howns : ∀ m, e.Owns m → N m) (hout : Sys.SameOutside N s t)
    (hmem : ∀ c ∈ l', c = e ∨ (c ∈ l ∧ c.address ≠ e.address))
    (hsep : ∀ c ∈ l, c.address ≠ e.address → ∀ p ∈ c.diskPartitionList, N p.mountName →
      p.mountName = "") : Tied x t l' := by
  refine ⟨hready.empty, fun c hc p hp => ?_, fun b hb c hc p hp q hq hne heq => ?_⟩
  · rcases hmem c hc with rfl | ⟨hc, hca⟩
    · exact hready.ties p hp
    · refine (h.ties c hc p hp).congr rfl rfl (hout.iff_of_empty h.empty ?_)
      by_cases hN : N p.mountName
      · exact Or.inr (hsep c hc hca p hp hN)
      · exact Or.inl hN
  · rcases hmem b hb with rfl | ⟨hb, hba⟩
    · rcases hmem c hc with rfl | ⟨hc, hca⟩
      · exact hready.apart p hp q hq (hne.resolve_left fun h => h rfl) heq
      · rw [heq]
        exact hsep c hc hca q hq (howns _ ⟨p, hp, heq⟩)
    · rcases hmem c hc with rfl | ⟨hc, hca⟩
      · exact hsep b hb hba p hp (howns _ ⟨q, hq, heq.symm⟩)
      · exact h.apart b hb c hc p hp q hq hne heq

/-! ### Whatever is not a uevent -/

theorem stay (h : Tied x s l) : StaysTied x g s s l := ⟨h, fun _ => Sys.Adds.of_eq rfl⟩

/-- One device was acted on. -/
theorem write (h : Tied x s l) (hwf : WellFormed s l) (hd : d ∈ l) (hk : Keeps x g s d t e) :
    StaysTied x g s t (writeBack l e) := by
  have haddr : e.address = d.address := address_of_core hk.within.core
  refine ⟨h.settle (hk.ready (h.ready hwf hd)) (Owns.mono hk.within.idents) hk.within.outside
    (fun c hc => WellFormed.mem_writeBack hc) fun c hc hne p hp => ?_, hk.clear⟩
  rw [haddr] at hne
  exact h.owned_elsewhere hc hd hne hp

/-- All devices were acted on, one after the other. -/
theorem loop {ρ : Type} {f : Sys → StorageDevice → Out StorageDevice ρ}
    {C : Finset String → StorageDevice → Prop}
    (hC : ∀ K K' d, (∀ p ∈ d.diskPartitionList, (p.mountName ∈ K' ↔ p.mountName ∈ K)) →
      C K d → C K' d)
    (hw : ∀ s d, Within s d (f s d).state (f s d).obj)
    (hf : ∀ s d, Ready x s d → C s.mounted d → Keeps x g s d (f s d).state (f s d).obj)
    (h : Tied x s l) (hwf : WellFormed s l) (hall : ∀ d ∈ l, C s.mounted d) :
    StaysTied x g s (visit f s l).state (visit f s l).obj := by
  -- Acting on `a` leaves the mount points of `b` alone.
  have hmem : ∀ (s : Sys) (a b : StorageDevice), "" ∉ s.mounted →
      (∀ p ∈ b.diskPartitionList, a.Owns p.mountName → p.mountName = "") →
      ∀ p ∈ b.diskPartitionList, (p.mountName ∈ (f s a).state.mounted ↔ p.mountName ∈ s.mounted) := by
    intro s a b hs hsep p hp
    refine (hw s a).outside.iff_of_empty hs ?_
    by_cases howns : a.Owns p.mountName
    · exact Or.inr (hsep p hp howns)
    · exact Or.inl howns
  have hready : ∀ (s : Sys) (a b : StorageDevice), "" ∉ s.mounted →
      (∀ p ∈ b.diskPartitionList, a.Owns p.mountName → p.mountName = "") →
      Ready x s b → Ready x (f s a).state b := by
    intro s a b hs hsep hb
    exact ⟨(hw s a).outside.noEmpty hs,
      fun p hp => (hb.ties p hp).congr rfl rfl (hmem s a b hs hsep p hp), hb.apart, hb.nodup⟩
  have hpair : l.Pairwise fun a b =>
      (∀ p ∈ b.diskPartitionList, a.Owns p.mountName → p.mountName = "") ∧
        ∀ p ∈ a.diskPartitionList, b.Owns p.mountName → p.mountName = "" := by
    refine List.Pairwise.imp_of_mem ?_ (List.pairwise_map.mp hwf.nodup)
    intro a b ha hb hne
    exact ⟨fun p hp => h.owned_elsewhere hb ha (Ne.symm hne) hp,
      fun p hp => h.owned_elsewhere ha hb hne hp⟩
  obtain ⟨⟨-, hclear⟩, hties, -⟩ := Visit.visit_ties
    (P := fun t => "" ∉ t.mounted ∧ (g → Sys.Adds ChecksClear s t))
    (T := fun t d => Ready x t d ∧ C t.mounted d) (J := fun t d => Ready x t d)
    (D := fun a b => ∀ p ∈ b.diskPartitionList, a.Owns p.mountName → p.mountName = "") l s
    (fun t a _ hP hT => by
      have hk := hf t a hT.1 hT.2
      exact ⟨⟨hk.within.outside.noEmpty hP.1, fun hg => (hP.2 hg).trans (hk.clear hg)⟩,
        hk.ready hT.1⟩)
    (fun t a _ b hP hD hT =>
      ⟨hready t a b hP.1 hD hT.1, hC _ _ b (hmem t a b hP.1 hD) hT.2⟩)
    (fun t a _ b hP hD hJ => hready t a b hP.1 hD hJ)
    (fun t a _ b hD p hp howns => by
      obtain ⟨q, hq, hqi⟩ := exists_ident (hw t a).idents hp
      have hname := (DiskPartitionInfo.ident_eq_iff.mp hqi).2.2.2.1
      rw [← hname] at howns ⊢
      exact hD q hq howns)
    hpair ⟨h.empty, fun _ => Sys.Adds.of_eq rfl⟩ (fun d hd => ⟨h.ready hwf hd, hall d hd⟩)
  exact ⟨h.within (WithinList.loop hw s l) fun e he => (hties e he).ties, hclear⟩

/-! ### Uevents -/

section Uevents

variable {cfg : Config} {env : Env} {devClass : DeviceClass} {hdl : StorageDeviceHandler}

/-- A device of the list, or a new one, is told of the event. -/
theorem told (h : Tied x s l) (hr : Ready x s d) (hdist : Distinct s.next d)
    (hadd : AdditionKept env s.mounted l d devClass)
    (howned : ∀ c ∈ l, c.address ≠ d.address → ∀ p ∈ c.diskPartitionList, d.Owns p.mountName →
      p.mountName = "")
    (hself : ∀ m, d.Owns m → ∃ c ∈ l, c.Owns m)
    (hmem : ∀ c ∈ l', c = (d.setDeviceInfo env s devClass).obj ∨ (c ∈ l ∧ c.address ≠ d.address)) :
    StaysTied x g s (d.setDeviceInfo env s devClass).state l' := by
  have haddr := setDeviceInfo_address env s d devClass
  have hset := setDeviceInfo_settled env devClass hr hdist
    (fun m hm => ⟨(hadd.fresh m hm).1, (hadd.fresh m hm).2.imp_right fun hfree howns => by
      obtain ⟨c, hc, hcm⟩ := hself m howns
      exact hfree c hc hcm⟩) hadd.remount
  refine ⟨h.settle hset.ready (fun m hm => setDeviceInfo_owns env s d devClass hm) hset.outside
    (by rw [haddr]; exact hmem) ?_, fun _ => Sys.Adds.of_eq (setDeviceInfo_notables env s d devClass)⟩
  rw [haddr]
  rintro c hc hne p hp (howns | hgain)
  · exact howned c hc hne p hp howns
  · exact (hadd.fresh _ hgain).2.resolve_right fun hfree => hfree c hc ⟨p, hp, rfl⟩

/-- The devices of the list after one was removed. -/
theorem remove (h : Tied x s l) (hd : d ∈ l)
    (ht : t.mounted = (d.onDeviceRemove env s).state.mounted) : Tied x t (removePointer l d) := by
  have hout : Sys.SameOutside d.Owns s t :=
    (onDeviceRemove_outside env).trans (Sys.SameOutside.of_eq ht)
  have hleft : ∀ c ∈ removePointer l d, c ∈ l ∧ c.address ≠ d.address := by
    intro c hc
    obtain ⟨hmem, hne⟩ := List.mem_filter.mp hc
    exact ⟨hmem, of_decide_eq_true hne⟩
  refine ⟨hout.noEmpty h.empty, fun c hc p hp => ?_,
    (h.sublist fun c hc => (hleft c hc).1).apart⟩
  obtain ⟨hmem, hne⟩ := hleft c hc
  refine (h.ties c hmem p hp).congr rfl rfl (hout.iff_of_empty h.empty ?_)
  by_cases howns : d.Owns p.mountName
  · exact Or.inr (h.owned_elsewhere hmem hd hne hp howns)
  · exact Or.inl howns

/-- **An event keeps the partitions of all devices tied.** -/
theorem event (h : Tied x s hdl.storageList) (hwf : WellFormed s hdl.storageList)
    (ho : StorageDeviceHandler.EventOutcome cfg env s hdl devClass t l')
    (hadd : ∀ d ∈ (StorageDeviceHandler.target cfg s.next hdl devClass).told,
      AdditionKept env s.mounted hdl.storageList d devClass)
    (hremove : g → devClass.action = "remove" →
      ∀ d ∈ StorageDeviceHandler.removedDevice hdl devClass,
        ThreadsClear env s.mounted d d.fsckThreadArray) : StaysTied x g s t l' := by
  cases ho with
  | ignored _ hs hl =>
    subst hl
    exact ⟨h.congr hs.mounted, fun _ => Sys.Adds.of_eq hs.notables⟩
  | handed d htarget hmem ht hl =>
    subst ht hl
    have haddr := setDeviceInfo_address env s d devClass
    refine h.told (h.ready hwf hmem) (hwf.parts d hmem) (hadd d (by rw [htarget]; rfl))
      (fun c hc hne p hp => h.owned_elsewhere hc hmem hne hp) (fun m hm => ⟨d, hmem, hm⟩) ?_
    rw [← haddr]
    exact fun c hc => WellFormed.mem_writeBack hc
  | created reader htarget ht hl =>
    subst ht hl
    have hnone : ∀ m, ¬ (StorageDeviceHandler.newDevice cfg s.next devClass reader).Owns m := by
      rintro m ⟨p, hp, -⟩
      simp at hp
    have hready : Ready x s.alloc (StorageDeviceHandler.newDevice cfg s.next devClass reader) :=
      ⟨h.empty, by simp, by simp, by simp [addresses]⟩
    have htold : StaysTied x g s.alloc _ (hdl.storageList ++ [((StorageDeviceHandler.newDevice cfg
        s.next devClass reader).setDeviceInfo env s.alloc devClass).obj]) :=
      (h.congr s.alloc_mounted).told hready
      ⟨by simp [addresses], by simp [addresses]⟩ (hadd _ (by rw [htarget]; rfl))
      (fun c _ _ p _ howns => absurd howns (hnone _)) (fun m hm => absurd hm (hnone m)) ?_
    · exact ⟨htold.tied, fun hg => (Sys.Adds.of_eq s.alloc_notables).trans (htold.clear hg)⟩
    · intro c hc
      rw [StorageDeviceHandler.newDevice_address]
      exact hwf.mem_created.mp hc
  | dropped d haction hfound ht hl =>
    subst ht hl
    have hmem := StorageDeviceHandler.removedDevice_mem hfound
    refine ⟨h.remove hmem (hdl.dropStorageDevice_mounted env s d), fun hg => ?_⟩
    refine (onDeviceRemove_clear env (h.ready hwf hmem) (hremove hg haction d hfound)).trans ?_
    unfold StorageDeviceHandler.dropStorageDevice StorageDeviceHandler.removeDevice
    dsimp only
    split
    · refine Sys.Adds.single (Sys.notify_notables _ _ _ _) ?_
      rintro driveName mountName (hcall | hcall) <;> exact absurd hcall (by simp)
    · exact Sys.Adds.of_eq rfl

end Uevents

end Tied

end Pdm
