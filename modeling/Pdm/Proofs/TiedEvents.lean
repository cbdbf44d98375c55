/-
Events and removals keep partitions tied.

An event may give a device one more partition.  It is tied when nothing is mounted at
its mount point yet and no partition has that one; and where the event makes a
read-only device mount what it has, its mounted partitions must mount again.  A removal
unmounts what it can and forgets the rest, so it needs nothing for the ties; but it runs
the pending checks first, and those are clear when they find their partitions unmounted.
-/
import Pdm.Proofs.TiedMethods

namespace Pdm

open Visit (visit)

namespace StorageDevice

variable {x g : Prop} (env : Env) {s t : Sys} {d e : StorageDevice} (devClass : DeviceClass)

theorem Ready.congr (hr : Ready x s d) (hs : t.mounted = s.mounted)
    (hlist : e.diskPartitionList = d.diskPartitionList) : Ready x t e := by
  refine ⟨by rw [hs]; exact hr.empty, ?_, ?_, ?_⟩
  · rw [hs, hlist]
    exact hr.ties
  · rw [hlist]
    exact hr.apart
  · unfold addresses
    rw [hlist]
    exact hr.nodup

/-! ### Events -/

theorem startPartitions_keeps (hr : Ready x s d) (hkept : d.isReadOnly = true →
      ∀ p ∈ d.diskPartitionList, p.isSupportedFs = true → RemountKept env s.mounted p true) :
    Keeps x g s d (startPartitions env s d).state (startPartitions env s d).obj := by
  unfold startPartitions
  split
  · split
    · rename_i hro
      have hmount := mountAllPartition_keeps (g := g) env hr (by rw [hro]; exact hkept hro)
      exact hmount.trans (Keeps.of_untouched (hmount.ready hr)
        (storageDeviceNotification_untouched _ _) (by simp) (by simp))
    · exact Keeps.of_untouched hr (Untouched.refl s) rfl rfl
  · exact Keeps.of_untouched hr ((handlerCb_untouched s .add _ (by simp)).trans
      (handlerCb_untouched _ .unsupportedFsFormatNeeded _ (by simp))) rfl rfl

/-- The partition that an event adds makes a read-only device mount all it has. -/
def StartsReadOnly (env : Env) (d : StorageDevice) (devClass : DeviceClass) : Prop :=
  ∃ d₀, receiver env d devClass = some d₀ ∧ d.findPartition devClass.devName = none ∧
    d₀.isReadOnly = true ∧
    (d₀.partitionCount = 0 ∨ (d.diskPartitionList.length + 1 : Int) = d₀.partitionCount)

/-- From device `d` to device `e` at most mount points with `M` are touched beside the ones
of `d`, and the partitions are tied. -/
structure Settled (x : Prop) (M : String → Prop) (s : Sys) (d : StorageDevice) (t : Sys)
    (e : StorageDevice) : Prop where
  ready : Ready x t e
  outside : Sys.SameOutside (fun m => d.Owns m ∨ M m) s t

/-- A partition is added, and the device starts when it has them all. -/
theorem setPartitionInfo_settled (hr : Ready x s d) (hdist : Distinct s.next d)
    (hnew : d.findPartition devClass.devName = none)
    (hfresh : d.newMountName devClass ∉ s.mounted)
    (hown : d.newMountName devClass = "" ∨ ¬ d.Owns (d.newMountName devClass))
    (hstart : d.isReadOnly = true →
      (d.partitionCount = 0 ∨ (d.diskPartitionList.length + 1 : Int) = d.partitionCount) →
      ∀ p ∈ d.diskPartitionList, p.isSupportedFs = true → RemountKept env s.mounted p true) :
    Settled x (· = d.newMountName devClass) s d (setPartitionInfo env s d devClass).state
      (setPartitionInfo env s d devClass).obj := by
  have hlist := addPartition_list env s d devClass
  have hstate := addPartition_mounted env s d devClass
  have haddr := addPartition_addresses env s d devClass
  have hcore := addPartition_core env s d devClass
  have hcount : (addPartition env s d devClass).obj.partitionCount = d.partitionCount := rfl
  unfold setPartitionInfo
  rw [hnew]
  simp only [Option.isSome_none, Bool.false_eq_true, if_false]
  generalize hp : ({ d.newPartition s.next devClass with
    isSupportedFs := PdmFs.isSupportedFileSystem (d.newPartition s.next devClass).fsType
      (sMapStorageType d.storageType) } : DiskPartitionInfo) = p at hlist
  have hname : p.mountName = d.newMountName devClass := by rw [← hp]; rfl
  have hflag : p.mounted = false := by rw [← hp]; rfl
  generalize addPartition env s d devClass = a at *
  have hmem : ∀ q, q ∈ a.obj.diskPartitionList ↔ q ∈ d.diskPartitionList ∨ q = p := by
    intro q
    rw [hlist, List.mem_append, List.mem_singleton]
  -- No partition has the new one's mount point.
  have hsep : ∀ q ∈ d.diskPartitionList, q.mountName = p.mountName → q.mountName = "" := by
    intro q hq heq
    rcases hown with h | h
    · rw [heq, hname, h]
    · exact absurd ⟨q, hq, heq.trans hname⟩ h
  have hready : Ready x a.state a.obj := by
    refine ⟨by rw [hstate]; exact hr.empty, fun q hq => ?_, fun q hq r hr' hne heq => ?_, ?_⟩
    · rw [hstate]
      rcases (hmem q).mp hq with hq | rfl
      · exact hr.ties q hq
      · refine ⟨fun hm => absurd hm (by rw [hname]; exact hfresh), fun _ h => ?_⟩
        rw [hflag] at h
        exact absurd h (by decide)
    · rcases (hmem q).mp hq with hq | rfl
      · rcases (hmem r).mp hr' with hr' | rfl
        · exact hr.apart q hq r hr' hne heq
        · exact hsep q hq heq
      · rcases (hmem r).mp hr' with hr' | rfl
        · rw [heq]
          exact hsep r hr' heq.symm
        · exact absurd rfl hne
    · rw [haddr]
      refine List.nodup_append'.mpr ⟨hdist.nodup, by simp, fun i hi hi' => ?_⟩
      rw [List.mem_singleton.mp hi'] at hi
      exact absurd (hdist.given _ hi) (Nat.lt_irrefl _)
  have howns : ∀ m, a.obj.Owns m → d.Owns m ∨ m = d.newMountName devClass := by
    rintro m ⟨q, hq, hqm⟩
    rcases (hmem q).mp hq with hq | rfl
    · exact Or.inl ⟨q, hq, hqm⟩
    · exact Or.inr (hqm.symm.trans hname)
  have hout : Sys.SameOutside (fun m => d.Owns m ∨ m = d.newMountName devClass) s a.state :=
    Sys.SameOutside.of_eq hstate
  split
  · rename_i hall
    have hstarted := startPartitions_keeps (g := False) env hready fun hro q hq hsupp => by
      rw [isReadOnly_of_core hcore] at hro
      rw [hcount, hlist, List.length_append, List.length_singleton] at hall
      rcases (hmem q).mp hq with hq | rfl
      · rw [hstate]
        exact hstart hro (by exact_mod_cast hall) q hq hsupp
      · rw [hstate]
        exact fun hm => absurd hm (by rw [hname]; exact hfresh)
    exact ⟨hstarted.ready hready, hout.trans (hstarted.within.outside.mono howns)⟩
  · exact ⟨hready, hout⟩

/-- **An event keeps the partitions of the device tied.** -/
theorem setDeviceInfo_settled (hr : Ready x s d) (hdist : Distinct s.next d)
    (hfresh : ∀ m, d.Gains env devClass m → m ∉ s.mounted ∧ (m = "" ∨ ¬ d.Owns m))
    (hstart : d.StartsReadOnly env devClass → ∀ p ∈ d.diskPartitionList, p.isSupportedFs = true →
      RemountKept env s.mounted p true) :
    Settled x (d.Gains env devClass) s d (setDeviceInfo env s d devClass).state
      (setDeviceInfo env s d devClass).obj := by
  rcases setDeviceInfo_cases env s d devClass with
    ⟨d₀, s₀, hd₀, hs₀, hr₀⟩ | ⟨-, hr₀⟩ | ⟨-, -, -, t, ht, hr₀⟩
  · have hlist := (receiver_list env d devClass hd₀).1
    have hready := hr.congr (t := s₀) (e := d₀) hs₀.mounted hlist
    have hdist₀ : Distinct s₀.next d₀ :=
      hdist.mono (Nat.le_of_eq hs₀.next.symm) (by unfold addresses; rw [hlist])
    have hpart : Settled x (d.Gains env devClass) s₀ d₀ (setPartitionInfo env s₀ d₀ devClass).state
        (setPartitionInfo env s₀ d₀ devClass).obj := by
      cases hfind : d.findPartition devClass.devName with
      | some p =>
        have hsame : setPartitionInfo env s₀ d₀ devClass = ⟨s₀, d₀, ()⟩ := by
          unfold setPartitionInfo findPartition
          rw [hlist]
          unfold findPartition at hfind
          rw [hfind]
          rfl
        rw [hsame]
        exact ⟨hready, Sys.SameOutside.refl s₀⟩
      | none =>
        have hgain : d.Gains env devClass (d₀.newMountName devClass) := ⟨d₀, hd₀, hfind, rfl⟩
        have hset := setPartitionInfo_settled (x := x) env devClass hready hdist₀
          (by unfold findPartition at hfind ⊢; rw [hlist]; exact hfind)
          (by rw [hs₀.mounted]; exact (hfresh _ hgain).1)
          ((hfresh _ hgain).2.imp_right fun h howns => h ((Owns.congr hlist).mp howns))
          fun hro hcount p hp hsupp => by
            rw [hlist] at hp hcount
            rw [hs₀.mounted]
            exact hstart ⟨d₀, hd₀, hfind, hro, hcount⟩ p hp hsupp
        refine ⟨hset.ready, hset.outside.mono fun m hm => hm.imp_right ?_⟩
        rintro rfl
        exact hgain
    refine ⟨hpart.ready.congr hr₀.mounted hr₀.parts, ?_, ?_⟩
    · intro m hm
      rw [hr₀.mounted, ← hs₀.mounted]
      exact hpart.outside.others m fun h => hm (h.imp_left (Owns.congr hlist).mp)
    · rw [hr₀.mounted, ← hs₀.mounted]
      exact hpart.outside.noEmpty
  · exact ⟨hr.congr hr₀.mounted hr₀.parts, Sys.SameOutside.of_eq hr₀.mounted⟩
  · have hout := (umountAllPartition_within env t d true).outside
    have hall : Sys.SameOutside d.Owns s (setDeviceInfo env s d devClass).state :=
      ((Sys.SameOutside.of_eq ht.mounted).trans hout).trans (Sys.SameOutside.of_eq hr₀.mounted)
    refine ⟨⟨hall.noEmpty hr.empty, ?_, ?_, ?_⟩, hall.mono fun m hm => Or.inl hm⟩
    · rw [hr₀.parts]
      simp
    · rw [hr₀.parts]
      simp
    · unfold addresses
      rw [hr₀.parts]
      exact List.nodup_nil

/-! ### Removal -/

theorem onDeviceRemove_outside : Sys.SameOutside d.Owns s (onDeviceRemove env s d).state := by
  have hjoin := joinThreads_within env d.fsckThreadArray s d
  have hdelete := (umountAllPartition_within env (joinThreads env s d d.fsckThreadArray).state
    (joinThreads env s d d.fsckThreadArray).obj true).outside.mono (Owns.mono hjoin.idents)
  refine (hjoin.outside.trans hdelete).trans (Sys.SameOutside.of_eq ?_)
  unfold onDeviceRemove
  dsimp only
  rw [checkRemovalNotifications_mounted]
  unfold removeRootDir deletePartitionData
  split <;> rfl

/-- A check of the partition ends with the partition mounted. -/
def EndsMounted (env : Env) (p : DiskPartitionInfo) : Prop :=
  env.checkStatus p PdmFsck.AUTO = .success ∧ env.mounts p false = true

/-- The pending checks find their partitions unmounted: they are now, and no partition is
checked once more after a check that mounts it. -/
def ThreadsClear (env : Env) (K : Finset String) (d : StorageDevice) (ts : List Nat) : Prop :=
  ∀ p ∈ d.diskPartitionList, p.address ∈ ts →
    p.mountName ∉ K ∧ (ts.count p.address ≤ 1 ∨ ¬ EndsMounted env p)

theorem mountPartition_fsType (s : Sys) (p : DiskPartitionInfo) (readOnly : Bool) :
    (mountPartition env s p readOnly).obj.fsType = p.fsType := by
  unfold mountPartition PdmFs.mountPartition
  dsimp only
  split
  · rfl
  · split
    · cases PdmFs.calculateSpaceInfo env (p.setDriveStatus .isMounting).mountName <;> rfl
    · rfl

theorem fsckPartition_fsType (s : Sys) (p : DiskPartitionInfo) (fsckMode : String) :
    (fsckPartition env s p fsckMode).obj.fsType = p.fsType := by
  have hf := (fsckFs_eq env (handlerCb s .fsckStarted none) p fsckMode).2.2.2.2.2.2
  unfold fsckPartition
  dsimp only
  split
  · exact (mountPartition_fsType env _ _ _).trans hf
  · exact hf

/-- What a check will answer depends on nothing that it changes. -/
theorem endsMounted_congr {p q : DiskPartitionInfo} (hident : q.ident = p.ident)
    (hfs : q.fsType = p.fsType) : EndsMounted env q ↔ EndsMounted env p := by
  obtain ⟨-, -, hdrive, hmount, -⟩ := DiskPartitionInfo.ident_eq_iff.mp hident
  unfold EndsMounted Env.checkStatus Env.mounts PdmFs.mountCall
  rw [hfs, hdrive, hmount]

/-- A partition after a thread has run: the thread may have mounted the one it checks. -/
theorem fsckOnDeviceAddThread_part (hr : Ready x s d) {t : Nat} {q : DiskPartitionInfo}
    (hq : q ∈ (fsckOnDeviceAddThread env s d t).obj.diskPartitionList) :
    ∃ p ∈ d.diskPartitionList, q.ident = p.ident ∧ q.fsType = p.fsType ∧
      (q.mountName ∈ (fsckOnDeviceAddThread env s d t).state.mounted ↔
        p.mountName ∈ s.mounted ∨ (p.address = t ∧ EndsMounted env p)) := by
  unfold fsckOnDeviceAddThread fsckPartitionAt at hq ⊢
  cases hfind : d.diskPartitionList.find? (·.address = t) with
  | none =>
    rw [hfind] at hq
    dsimp only at hq ⊢
    rw [storageDeviceFsckNotification_list] at hq
    rw [storageDeviceFsckNotification_mounted]
    have hne : q.address ≠ t := by simpa using List.find?_eq_none.mp hfind q hq
    exact ⟨q, hq, rfl, rfl, by simp [hne]⟩
  | some p =>
    rw [hfind] at hq
    have hp := List.mem_of_find?_eq_some hfind
    have haddr : p.address = t := by simpa using List.find?_some hfind
    have hop := fsckPartition_op env s p PdmFsck.AUTO
    have hm := (fsckPartition_eq env s p PdmFsck.AUTO).2
    dsimp only at hq ⊢
    rw [storageDeviceFsckNotification_list] at hq
    rw [storageDeviceFsckNotification_mounted]
    rcases d.mem_setPartition hq with rfl | ⟨hq, hne⟩
    · refine ⟨p, hp, hop.ident, fsckPartition_fsType env s p PdmFsck.AUTO, ?_⟩
      rw [hop.mountName, hm]
      unfold EndsMounted
      by_cases hmounts : env.checkStatus p PdmFsck.AUTO = .success ∧ env.mounts p false = true
      · simp [hmounts, haddr]
      · simp [hmounts]
    · rw [(DiskPartitionInfo.ident_eq_iff.mp hop.ident).1] at hne
      have hsep : ¬ q.mountName = p.mountName ∨ q.mountName = "" := by
        by_cases heq : q.mountName = p.mountName
        · exact Or.inr (hr.apart q hq p hp hne heq)
        · exact Or.inl heq
      refine ⟨q, hq, rfl, rfl, (hop.outside.iff_of_empty hr.empty hsep).trans ?_⟩
      rw [haddr] at hne
      simp [hne]

/-- The threads that a removal joins check partitions that are not mounted. -/
theorem joinThreads_clear : ∀ (ts : List Nat) (s : Sys) (d : StorageDevice), Ready x s d →
    ThreadsClear env s.mounted d ts → Sys.Adds ChecksClear s (joinThreads env s d ts).state := by
  intro ts
  induction ts with
  | nil => intro s d _ _; exact Sys.Adds.of_eq rfl
  | cons t ts ih =>
      intro s d hr hclear
      have hkeeps := fsckOnDeviceAddThread_keeps (g := True) env hr t
        fun p hfind hm => by
          have haddr : p.address = t := by simpa using List.find?_some hfind
          exact absurd hm (hclear p (List.mem_of_find?_eq_some hfind) (by simp [haddr])).1
      unfold joinThreads
      refine (hkeeps.clear trivial).trans (ih _ _ (hkeeps.ready hr) fun q hq hmem => ?_)
      obtain ⟨p, hp, hident, hfs, hm⟩ := fsckOnDeviceAddThread_part env hr hq
      have haddr := (DiskPartitionInfo.ident_eq_iff.mp hident).1
      rw [haddr] at hmem ⊢
      obtain ⟨hfree, hcount⟩ := hclear p hp (by simp [hmem])
      rw [endsMounted_congr env hident hfs]
      refine ⟨fun hin => ?_, hcount.imp_left fun h => Nat.le_trans List.count_le_count_cons h⟩
      rcases hm.mp hin with hin | ⟨rfl, hends⟩
      · exact hfree hin
      · -- The partition just checked has another thread, so the check has not mounted it.
        have hpos := List.count_pos_iff.mpr hmem
        rw [List.count_cons_self] at hcount
        exact hcount.elim (fun h => by omega) fun h => h hends

/-- **The checks a removal runs are clear.** -/
theorem onDeviceRemove_clear (hr : Ready x s d)
    (hclear : ThreadsClear env s.mounted d d.fsckThreadArray) :
    Sys.Adds ChecksClear s (onDeviceRemove env s d).state := by
  refine (joinThreads_clear env d.fsckThreadArray s d hr hclear).trans ?_
  unfold onDeviceRemove
  dsimp only
  generalize joinThreads env s d d.fsckThreadArray = j
  have hdelete := deletePartitionData_notables env j.state j.obj
  generalize deletePartitionData env j.state j.obj = p at hdelete ⊢
  refine (Sys.Adds.of_eq hdelete).trans ?_
  have hroot : Sys.Adds ChecksClear p.state (removeRootDir p.state p.obj).state := by
    unfold removeRootDir
    split
    · refine Sys.Adds.single (Sys.removeDirRecursive_notables _ _) ?_
      rintro driveName mountName (hcall | hcall) <;> exact absurd hcall (by simp)
    · exact Sys.Adds.of_eq rfl
  exact hroot.trans (Sys.Adds.of_eq (checkRemovalNotifications_notables _ _))

end StorageDevice

end Pdm
