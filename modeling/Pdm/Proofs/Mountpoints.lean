/-
Whose the mounted file systems are.

A method may mount and unmount at the mount points of its device; it leaves no mount
behind that the device has forgotten (`Accounts`).  Most methods keep the device's
partitions.  A medium that is gone and a device that is removed are forgotten with all
their partitions, so there every mounted one must be let go of: the flags say which ones
are mounted, and the kernel detaches those.
-/
import Pdm.Proofs.SafeToUnplug
import Pdm.Proofs.TiedLists

namespace Pdm

open Visit (visit)

namespace StorageDevice

variable {x : Prop} (env : Env) {s t : Sys} {d e : StorageDevice} (devClass : DeviceClass)

/-- What is mounted after a step from device `d` to device `e` is mounted at a mount point
of the device, or has been before and is none of the device's business. -/
def Accounts (s : Sys) (d : StorageDevice) (t : Sys) (e : StorageDevice) : Prop :=
  ∀ m ∈ t.mounted, e.Owns m ∨ (m ∈ s.mounted ∧ ¬ d.Owns m)

namespace Accounts

/-- At most the mount points with `M` are touched, and the device has those afterwards. -/
theorem of_outside {M : String → Prop} (h : Sys.SameOutside M s t) (hM : ∀ m, M m → e.Owns m)
    (hd : ∀ m, d.Owns m → e.Owns m) : Accounts s d t e := by
  intro m hm
  by_cases howns : e.Owns m
  · exact Or.inl howns
  · exact Or.inr ⟨(h.others m fun h => howns (hM m h)).mp hm, fun h => howns (hd m h)⟩

theorem congr {s' t' : Sys} {e' : StorageDevice} (h : Accounts s d t e)
    (hs : s.mounted = s'.mounted) (ht : t'.mounted = t.mounted)
    (he : e'.diskPartitionList = e.diskPartitionList) : Accounts s' d t' e' := by
  intro m hm
  rw [ht] at hm
  rw [Owns.congr he, ← hs]
  exact h m hm

end Accounts

/-- A partition that keeps its address keeps its mount point, since addresses are distinct. -/
theorem Owns.kept (haddr : e.addresses = d.addresses) (hidents : e.idents ⊆ d.idents)
    (hnodup : d.addresses.Nodup) {m : String} (hm : d.Owns m) : e.Owns m := by
  obtain ⟨p, hp, rfl⟩ := hm
  have hmem : p.address ∈ e.addresses := by
    rw [haddr]
    exact List.mem_map_of_mem hp
  obtain ⟨q, hq, hqp⟩ := List.mem_map.mp hmem
  obtain ⟨r, hr, hrq⟩ := exists_ident hidents hq
  rw [DiskPartitionInfo.ident_eq_iff] at hrq
  obtain rfl : r = p := List.inj_on_of_nodup_map hnodup hr hp (hrq.1.trans hqp)
  exact ⟨q, hq, hrq.2.2.2.1.symm⟩

/-- **Everything that is mounted is let go of** when the partitions are unmounted lazily. -/
theorem umountAllPartition_leaves (hr : Ready x s d)
    (hgo : ∀ p ∈ d.diskPartitionList, p.mountName ∈ s.mounted → env.letsGo p true = true)
    {m : String} (hm : m ∈ (umountAllPartition env s d true).state.mounted) :
    m ∈ s.mounted ∧ ¬ d.Owns m := by
  obtain ⟨hmem, hkept⟩ := (umountLoop_mounted env s true d.diskPartitionList m).mp hm
  refine ⟨hmem, ?_⟩
  rintro ⟨p, hp, rfl⟩
  have hflag := (hr.ties p hp).seen hmem
  exact hkept p hp (by simp [Env.releases, hflag, hgo p hp hmem]) rfl

/-! ### Events -/

theorem startPartitions_within :
    Within s d (startPartitions env s d).state (startPartitions env s d).obj := by
  unfold startPartitions
  split
  · split
    · exact (mountAllPartition_within env s d).trans
        (Within.of_untouched (storageDeviceNotification_untouched _ _) (by simp) (by simp))
    · exact Within.of_untouched (Untouched.refl s) rfl rfl
  · exact Within.of_untouched ((handlerCb_untouched s .add _ (by simp)).trans
      (handlerCb_untouched _ .unsupportedFsFormatNeeded _ (by simp))) rfl rfl

theorem setPartitionInfo_accounts :
    Accounts s d (setPartitionInfo env s d devClass).state
      (setPartitionInfo env s d devClass).obj := by
  have hlist := addPartition_list env s d devClass
  have hadded : ∀ m, d.Owns m → (addPartition env s d devClass).obj.Owns m := by
    rintro m ⟨p, hp, hpm⟩
    exact ⟨p, by rw [hlist]; exact List.mem_append_left _ hp, hpm⟩
  have hout : Sys.SameOutside (addPartition env s d devClass).obj.Owns s
      (addPartition env s d devClass).state :=
    Sys.SameOutside.of_eq (addPartition_mounted env s d devClass)
  unfold setPartitionInfo
  split
  · exact .of_outside (M := d.Owns) (Sys.SameOutside.refl s) (fun _ h => h) fun _ h => h
  · dsimp only
    split
    · have hw := startPartitions_within env (s := (addPartition env s d devClass).state)
        (d := (addPartition env s d devClass).obj)
      have hsame := startPartitions_idents env (addPartition env s d devClass).state
        (addPartition env s d devClass).obj
      have howns : ∀ m, (addPartition env s d devClass).obj.Owns m →
          (startPartitions env (addPartition env s d devClass).state
            (addPartition env s d devClass).obj).obj.Owns m :=
        Owns.mono (by rw [hsame]; exact List.Subset.refl _)
      exact .of_outside (hout.trans hw.outside) howns fun m hm => howns m (hadded m hm)
    · exact .of_outside hout (fun _ h => h) hadded

/-- **An event leaves no mount behind** when the kernel lets go of what a medium that is
gone has mounted. -/
theorem setDeviceInfo_accounts (hr : Ready x s d)
    (hgo : d.DropsParts env devClass →
      ∀ p ∈ d.diskPartitionList, p.mountName ∈ s.mounted → env.letsGo p true = true) :
    Accounts s d (setDeviceInfo env s d devClass).state (setDeviceInfo env s d devClass).obj := by
  rcases setDeviceInfo_cases env s d devClass with
    ⟨d₀, s₀, hd₀, hs₀, hr₀⟩ | ⟨-, hr₀⟩ | ⟨-, -, hdrops, t, ht, hr₀⟩
  · have hlist := (receiver_list env d devClass hd₀).1
    have hadd := setPartitionInfo_accounts env devClass (s := s₀) (d := d₀)
    intro m hm
    rw [hr₀.mounted] at hm
    rw [Owns.congr hr₀.parts, ← Owns.congr hlist, ← hs₀.mounted]
    exact hadd m hm
  · exact .of_outside (M := d.Owns) (Sys.SameOutside.of_eq hr₀.mounted)
      (fun _ => (Owns.congr hr₀.parts).mpr) fun _ => (Owns.congr hr₀.parts).mpr
  · intro m hm
    rw [hr₀.mounted] at hm
    have hleft := umountAllPartition_leaves env (hr.congr ht.mounted rfl)
      (by rw [ht.mounted]; exact hgo hdrops) hm
    rw [ht.mounted] at hleft
    exact Or.inr hleft

/-! ### Removal -/

/-- The pending checks a removal runs clear no flag of a mounted partition. -/
def ThreadsKept (env : Env) (K : Finset String) (d : StorageDevice) (ts : List Nat) : Prop :=
  ∀ p ∈ d.diskPartitionList, p.address ∈ ts → CheckKept env K p False PdmFsck.AUTO

/-- The kernel lets go of what is mounted, or will be once the pending checks have run. -/
def LetsGoAll (env : Env) (K : Finset String) (d : StorageDevice) (ts : List Nat) : Prop :=
  ∀ p ∈ d.diskPartitionList, p.mountName ∈ K ∨ (p.address ∈ ts ∧ EndsMounted env p) →
    env.letsGo p true = true

theorem checkKept_congr {K K' : Finset String} {p q : DiskPartitionInfo} {g : Prop}
    (hident : q.ident = p.ident) (hfs : q.fsType = p.fsType)
    (hK : q.mountName ∈ K' → p.mountName ∈ K) (h : CheckKept env K p g PdmFsck.AUTO) :
    CheckKept env K' q g PdmFsck.AUTO := by
  obtain ⟨-, -, hdrive, hmount, -⟩ := DiskPartitionInfo.ident_eq_iff.mp hident
  intro hm
  have hkept := h (hK hm)
  unfold Env.checkStatus Env.mounts PdmFs.mountCall at hkept ⊢
  rwa [hfs, hdrive, hmount]

/-- The threads that a removal joins keep the partitions tied, and what is mounted
afterwards was mounted before or has been by one of them. -/
theorem joinThreads_ready : ∀ (ts : List Nat) (s : Sys) (d : StorageDevice), Ready False s d →
    ThreadsKept env s.mounted d ts → LetsGoAll env s.mounted d ts →
      Ready False (joinThreads env s d ts).state (joinThreads env s d ts).obj ∧
        LetsGoAll env (joinThreads env s d ts).state.mounted (joinThreads env s d ts).obj [] := by
  intro ts
  induction ts with
  | nil =>
      intro s d hr _ hgo
      exact ⟨hr.congr rfl rfl, fun p hp hm => hgo p hp hm⟩
  | cons t ts ih =>
      intro s d hr hkept hgo
      have hkeeps := fsckOnDeviceAddThread_keeps (g := False) env hr t
        fun p hfind => by
          have haddr : p.address = t := by simpa using List.find?_some hfind
          exact hkept p (List.mem_of_find?_eq_some hfind) (by simp [haddr])
      unfold joinThreads
      refine ih _ _ (hkeeps.ready hr) (fun q hq hmem => ?_) fun q hq hm => ?_
      · obtain ⟨p, hp, hident, hfs, hiff⟩ := fsckOnDeviceAddThread_part env hr hq
        rw [(DiskPartitionInfo.ident_eq_iff.mp hident).1] at hmem
        by_cases hends : EndsMounted env q
        · exact fun _ => ⟨not_false, by rw [hends.1]; decide, fun _ => hends.2⟩
        · rw [endsMounted_congr env hident hfs] at hends
          exact checkKept_congr env hident hfs
            (fun hm => (hiff.mp hm).resolve_right fun h => hends h.2)
            (hkept p hp (by simp [hmem]))
      · obtain ⟨p, hp, hident, hfs, hiff⟩ := fsckOnDeviceAddThread_part env hr hq
        obtain ⟨haddr, -, -, hmount, -⟩ := DiskPartitionInfo.ident_eq_iff.mp hident
        rw [hiff, endsMounted_congr env hident hfs, haddr] at hm
        have hlets := hgo p hp (by
          rcases hm with (hm | ⟨rfl, hends⟩) | ⟨hmem, hends⟩
          · exact Or.inl hm
          · exact Or.inr ⟨by simp, hends⟩
          · exact Or.inr ⟨by simp [hmem], hends⟩)
        unfold Env.letsGo at hlets ⊢
        rwa [hmount]

/-- **A removal leaves no mount of the device behind.** -/
theorem onDeviceRemove_leaves (hr : Ready False s d)
    (hkept : ThreadsKept env s.mounted d d.fsckThreadArray)
    (hgo : LetsGoAll env s.mounted d d.fsckThreadArray) {m : String}
    (hm : m ∈ (onDeviceRemove env s d).state.mounted) : m ∈ s.mounted ∧ ¬ d.Owns m := by
  obtain ⟨hready, hgo'⟩ := joinThreads_ready env d.fsckThreadArray s d hr hkept hgo
  have hw := joinThreads_within env d.fsckThreadArray s d
  have hstate : (onDeviceRemove env s d).state.mounted =
      (umountAllPartition env (joinThreads env s d d.fsckThreadArray).state
        (joinThreads env s d d.fsckThreadArray).obj true).state.mounted := by
    unfold onDeviceRemove
    dsimp only
    rw [checkRemovalNotifications_mounted]
    unfold removeRootDir deletePartitionData
    split <;> rfl
  rw [hstate] at hm
  obtain ⟨hm, howns⟩ := umountAllPartition_leaves env hready (fun p hp hm => hgo' p hp (Or.inl hm)) hm
  have hfree : ¬ d.Owns m := fun h => howns (h.kept hw.addresses hw.idents hr.nodup)
  exact ⟨(hw.outside.others m hfree).mp hm, hfree⟩

end StorageDevice

/-! ### The list of devices -/

/-- A mount point of a listed device stays one where the devices keep their partitions. -/
theorem WithinList.owned_kept {s t : Sys} {l l' : List StorageDevice} (hw : WithinList s l t l')
    (hwf : WellFormed s l) {d : StorageDevice} (hd : d ∈ l) {m : String} (hdm : d.Owns m) :
    ∃ e ∈ l', e.Owns m := by
  have hmem : d.address ∈ l'.map (·.address) := by
    rw [hw.listed]
    exact List.mem_map_of_mem hd
  obtain ⟨e, he, hed⟩ := List.mem_map.mp hmem
  obtain ⟨c, hc, hcore, haddr, hidents⟩ := hw.each e he
  obtain rfl : c = d :=
    hwf.eq_of_address hc hd ((StorageDevice.address_of_core hcore).symm.trans hed)
  exact ⟨e, he, hdm.kept haddr hidents (hwf.parts c hc).nodup⟩

/-- The same of a list: what is mounted is mounted at a mount point of a listed device, or
has been before and is none of theirs. -/
def AccountsAll (s : Sys) (l : List StorageDevice) (t : Sys) (l' : List StorageDevice) : Prop :=
  ∀ m ∈ t.mounted, (∃ e ∈ l', e.Owns m) ∨ (m ∈ s.mounted ∧ ∀ d ∈ l, ¬ d.Owns m)

namespace AccountsAll

open StorageDevice

variable {s t : Sys} {l l' : List StorageDevice} {d e : StorageDevice}

/-- One device was acted on, and the others are listed as before. -/
theorem settle (h : Accounts s d t e) (he : e ∈ l')
    (hothers : ∀ c ∈ l, c = d ∨ c ∈ l') : AccountsAll s l t l' := by
  intro m hm
  rcases h m hm with howns | ⟨hmem, hfree⟩
  · exact Or.inl ⟨e, he, howns⟩
  · by_cases hother : ∃ c ∈ l, c.Owns m
    · obtain ⟨c, hc, howns⟩ := hother
      exact Or.inl ⟨c, (hothers c hc).resolve_left fun h => hfree (h ▸ howns), howns⟩
    · exact Or.inr ⟨hmem, fun c hc howns => hother ⟨c, hc, howns⟩⟩

/-- The devices are the same ones, with the partitions they had. -/
theorem within (hwf : WellFormed s l) (hw : WithinList s l t l') : AccountsAll s l t l' := by
  intro m hm
  by_cases hold : ∃ d ∈ l, d.Owns m
  · obtain ⟨d, hd, hdm⟩ := hold
    exact Or.inl (hw.owned_kept hwf hd hdm)
  · exact Or.inr ⟨(hw.outside.others m hold).mp hm, fun d hd hdm => hold ⟨d, hd, hdm⟩⟩

end AccountsAll

end Pdm
