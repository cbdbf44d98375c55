/-
What ties a partition's flag to the kernel's mount table.

A tied partition that is mounted is flagged, and, where `x` holds, one that is flagged is
mounted.  Each operation on a partition keeps the tie under a condition on the answers
of the system that speaks of a mounted partition only; and a check or a format that runs
on one that is not mounted goes on record as such, which is what `g` asks for.  Since an
operation touches the mount table at the partition's own mount point alone, the ties of
partitions with mount points of their own do not disturb each other, and the methods of
a device keep them all.
-/
import Pdm.Proofs.Suspend
import Pdm.Proofs.WellFormed

namespace Pdm

open Visit (visit)

/-! ### One partition -/

/-- A check or a format on record was made of a partition that was not mounted. -/
def ChecksClear (r : CallRecord) : Prop :=
  ∀ driveName mountName, r.call = .formatDrive driveName mountName ∨
    r.call = .fsck driveName mountName → mountName ∉ r.mounted

/-- The flag of a partition agrees with the mount table: one that is mounted is flagged,
and under `x` one that is flagged is mounted. -/
structure Tie (x : Prop) (K : Finset String) (p : DiskPartitionInfo) : Prop where
  seen : p.mountName ∈ K → p.mounted = true
  held : x → p.mounted = true → p.mountName ∈ K

theorem Tie.congr {x : Prop} {K K' : Finset String} {p q : DiskPartitionInfo} (h : Tie x K p)
    (hname : q.mountName = p.mountName) (hflag : q.mounted = p.mounted)
    (hK : p.mountName ∈ K' ↔ p.mountName ∈ K) : Tie x K' q :=
  ⟨fun hm => hflag.trans (h.seen (hK.mp (hname ▸ hm))),
    fun hx hm => hname ▸ hK.mpr (h.held hx (hflag.symm.trans hm))⟩

section Conditions

variable (env : Env) (K : Finset String) (p : DiskPartitionInfo)

/-- An unmount of a mounted partition is not tried, or succeeds. -/
def UmountKept (lazyUnmount : Bool) : Prop :=
  p.mountName ∈ K → (lazyUnmount = false ∧ env.busy p = true) ∨ env.letsGo p lazyUnmount = true

/-- A mount of a partition that is mounted already succeeds. -/
def RemountKept (readOnly : Bool) : Prop :=
  p.mountName ∈ K → env.mounts p readOnly = true

/-- No check is made of a mounted partition, or at least none that matters: it does not
time out, and it does not end with a mount that fails. -/
def CheckKept (g : Prop) (fsckMode : String) : Prop :=
  p.mountName ∈ K → ¬ g ∧ env.checkStatus p fsckMode ≠ .fsckTimeout ∧
    (env.checkStatus p fsckMode = .success → env.mounts p false = true)

/-- A partition whose last check has timed out is fit to be checked again. -/
def EnforceKept (g : Prop) : Prop :=
  p.fsckStatus = PdmDevStatus.fsckTimeout.code → CheckKept env K p g PdmFsck.FORCE

end Conditions

/-- A condition that looks at the mount table only at the partition's mount point. -/
def Local (C : Finset String → DiskPartitionInfo → Prop) : Prop :=
  ∀ K K' p, (p.mountName ∈ K' ↔ p.mountName ∈ K) → C K p → C K' p

theorem local_umountKept (env : Env) (lazyUnmount : Bool) :
    Local fun K p => UmountKept env K p lazyUnmount :=
  fun _ _ _ hK h hm => h (hK.mp hm)

theorem local_remountKept (env : Env) (readOnly : Bool) :
    Local fun K p => RemountKept env K p readOnly :=
  fun _ _ _ hK h hm => h (hK.mp hm)

theorem local_enforceKept (env : Env) (g : Prop) : Local fun K p => EnforceKept env K p g :=
  fun _ _ _ hK h hs hm => h hs (hK.mp hm)

/-- An operation on a tied partition leaves it tied, and its checks are clear. -/
structure KeepsTie (x g : Prop) (s : Sys) (p : DiskPartitionInfo) (t : Sys)
    (q : DiskPartitionInfo) : Prop where
  op : PartOp s p t q
  tie : Tie x t.mounted q
  clear : g → Sys.Adds ChecksClear s t

namespace KeepsTie

variable {x g : Prop} {s t u : Sys} {p q r : DiskPartitionInfo}

theorem trans (h₁ : KeepsTie x g s p t q) (h₂ : KeepsTie x g t q u r) : KeepsTie x g s p u r :=
  ⟨h₁.op.trans h₂.op, h₂.tie, fun hg => (h₁.clear hg).trans (h₂.clear hg)⟩

/-- What only talks to the system keeps the tie. -/
theorem of_untouched (hs : StorageDevice.Untouched s t) (hq : q.ident = p.ident)
    (hflag : q.mounted = p.mounted) (htie : Tie x s.mounted p) : KeepsTie x g s p t q := by
  have hname := (DiskPartitionInfo.ident_eq_iff.mp hq).2.2.2.1
  exact ⟨PartOp.of_untouched hs hq, htie.congr hname hflag (by rw [hs.mounted]),
    fun _ => Sys.Adds.of_eq hs.notables⟩

end KeepsTie

namespace StorageDevice

variable {x g : Prop} (env : Env) (s : Sys) (p : DiskPartitionInfo)

theorem umountPartition_keeps (htie : Tie x s.mounted p) {lazyUnmount : Bool}
    (hkept : UmountKept env s.mounted p lazyUnmount) :
    KeepsTie x g s p (umountPartition env s p lazyUnmount).state
      (umountPartition env s p lazyUnmount).obj := by
  have hop := umountPartition_op env s p lazyUnmount
  refine ⟨hop, ?_, fun _ => Sys.Adds.of_eq (by simp)⟩
  cases hflag : p.mounted with
  | false =>
    rw [umountPartition_unflagged env s p hflag]
    exact htie
  | true =>
    by_cases hidle : lazyUnmount = true ∨ env.busy p = false
    · obtain ⟨hobj, hm, -⟩ := umountPartition_try env s p hflag hidle
      refine ⟨fun hmem => ?_, fun _ h => absurd h (by rw [hobj]; decide)⟩
      -- The flag is cleared, so the kernel must have let go.
      rw [hop.mountName, hm] at hmem
      by_cases hlets : env.letsGo p lazyUnmount = true
      · rw [if_pos hlets] at hmem
        exact absurd rfl (Finset.mem_erase.mp hmem).1
      · rw [if_neg hlets] at hmem
        rcases hkept hmem with ⟨hlazy, hbusy⟩ | hgo
        · rcases hidle with h | h
          · rw [hlazy] at h
            exact absurd h (by decide)
          · rw [hbusy] at h
            exact absurd h (by decide)
        · exact absurd hgo hlets
    · obtain ⟨hlazy, hbusy⟩ := not_or.mp hidle
      rw [Bool.not_eq_true] at hlazy
      rw [Bool.not_eq_false] at hbusy
      subst hlazy
      obtain ⟨hm, hobj, -⟩ := umountPartition_busy env s p hflag hbusy
      rw [hobj, hm]
      exact htie

/-- After an unmount with the answer success a tied partition is not mounted. -/
theorem umountPartition_unmounts (htie : Tie x s.mounted p) {lazyUnmount : Bool}
    (hret : (umountPartition env s p lazyUnmount).ret = .success) :
    p.mountName ∉ (umountPartition env s p lazyUnmount).state.mounted := by
  cases hflag : p.mounted with
  | false =>
    rw [umountPartition_unflagged env s p hflag]
    intro hm
    rw [htie.seen hm] at hflag
    exact absurd hflag (by decide)
  | true =>
    by_cases hidle : lazyUnmount = true ∨ env.busy p = false
    · obtain ⟨-, hm, hok⟩ := umountPartition_try env s p hflag hidle
      rw [hm, if_pos (hok.mp hret).2]
      exact fun hmem => absurd rfl (Finset.mem_erase.mp hmem).1
    · obtain ⟨hlazy, hbusy⟩ := not_or.mp hidle
      rw [Bool.not_eq_true] at hlazy
      rw [Bool.not_eq_false] at hbusy
      subst hlazy
      rw [(umountPartition_busy env s p hflag hbusy).2.2] at hret
      exact absurd hret (by decide)

theorem mountPartition_keeps {readOnly : Bool} (hkept : RemountKept env s.mounted p readOnly) :
    KeepsTie x g s p (mountPartition env s p readOnly).state
      (mountPartition env s p readOnly).obj := by
  have hop := mountPartition_op env s p readOnly
  obtain ⟨hobj, hm, -⟩ := mountPartition_eq env s p readOnly
  refine ⟨hop, ⟨fun hmem => ?_, fun _ hflag => ?_⟩, fun _ => Sys.Adds.of_eq (by simp)⟩
  · rw [hobj]
    rw [hop.mountName, hm] at hmem
    by_contra hno
    rw [if_neg hno] at hmem
    exact hno (hkept hmem)
  · rw [hobj] at hflag
    rw [hop.mountName, hm, if_pos hflag]
    exact Finset.mem_insert_self _ _

theorem mountSupported_keeps (htie : Tie x s.mounted p) {readOnly : Bool}
    (hkept : p.isSupportedFs = true → RemountKept env s.mounted p readOnly) :
    KeepsTie x g s p (mountSupported env readOnly s p).state
      (mountSupported env readOnly s p).obj := by
  unfold mountSupported
  split
  · rename_i hsupp
    exact mountPartition_keeps env s p (hkept hsupp)
  · exact KeepsTie.of_untouched (Untouched.refl s) rfl rfl htie

theorem fsckPartition_keeps (htie : Tie x s.mounted p) {fsckMode : String}
    (hkept : CheckKept env s.mounted p g fsckMode) :
    KeepsTie x g s p (fsckPartition env s p fsckMode).state
      (fsckPartition env s p fsckMode).obj := by
  have hop := fsckPartition_op env s p fsckMode
  obtain ⟨hobj, hm⟩ := fsckPartition_eq env s p fsckMode
  refine ⟨hop, ⟨fun hmem => ?_, fun hx hflag => ?_⟩, fun hg => ?_⟩
  · rw [hobj]
    rw [hop.mountName, hm] at hmem
    by_cases hmounts : env.checkStatus p fsckMode = .success ∧ env.mounts p false = true
    · rw [if_pos hmounts.1, hmounts.2]
    · rw [if_neg hmounts] at hmem
      obtain ⟨-, htime, hok⟩ := hkept hmem
      rw [if_neg fun hs => hmounts ⟨hs, hok hs⟩, if_neg htime]
      exact htie.seen hmem
  · rw [hobj] at hflag
    rw [hop.mountName, hm]
    by_cases hs : env.checkStatus p fsckMode = .success
    · rw [if_pos hs] at hflag
      rw [if_pos ⟨hs, hflag⟩]
      exact Finset.mem_insert_self _ _
    · rw [if_neg hs] at hflag
      rw [if_neg fun h => hs h.1]
      by_cases htime : env.checkStatus p fsckMode = .fsckTimeout
      · rw [if_pos htime] at hflag
        exact absurd hflag (by decide)
      · rw [if_neg htime] at hflag
        exact htie.held hx hflag
  · refine Sys.Adds.single (fsckPartition_notables env s p fsckMode) ?_
    rintro driveName mountName (hcall | hcall)
    · exact absurd hcall (by simp)
    · obtain ⟨-, rfl⟩ : p.driveName = driveName ∧ p.mountName = mountName := by simpa using hcall
      exact fun hmem => (hkept hmem).1 hg

theorem formatFs_keeps (htie : Tie x s.mounted p) (hfree : p.mountName ∉ s.mounted)
    (fsType label : String) :
    KeepsTie x g s p (PdmFs.format env s p fsType label).state
      (PdmFs.format env s p fsType label).obj := by
  obtain ⟨hm, -, hnot, -, hflag⟩ := formatFs_eq env s p fsType label
  have hop := formatFs_op env s p fsType label
  refine ⟨hop, htie.congr hop.mountName hflag (by rw [hm]), fun _ => Sys.Adds.single hnot ?_⟩
  rintro driveName mountName (hcall | hcall)
  · obtain ⟨-, rfl⟩ : p.driveName = driveName ∧ p.mountName = mountName := by simpa using hcall
    exact hfree
  · exact absurd hcall (by simp)

theorem enforcePartition_keeps (htie : Tie x s.mounted p) (needFsck : Bool)
    (hkept : EnforceKept env s.mounted p g) :
    KeepsTie x g s p (enforcePartition env needFsck s p).state
      (enforcePartition env needFsck s p).obj := by
  unfold enforcePartition
  split
  · rename_i hmount
    refine mountPartition_keeps env s p fun hmem => ?_
    rw [htie.seen hmem] at hmount
    exact absurd hmount.2 (by decide)
  · split
    · rename_i htime
      exact fsckPartition_keeps env s p htie (hkept htime)
    · exact KeepsTie.of_untouched (Untouched.refl s) rfl rfl htie

theorem setVolumeLabel_keeps (htie : Tie x s.mounted p) (volLabel : String) :
    KeepsTie x g s p (PdmFs.setVolumeLabel env s p volLabel).state
      (PdmFs.setVolumeLabel env s p volLabel).obj := by
  unfold PdmFs.setVolumeLabel
  split
  · exact KeepsTie.of_untouched (Untouched.refl s) rfl rfl htie
  · dsimp only
    split
    · exact KeepsTie.of_untouched (Untouched.refl s) rfl rfl htie
    · split
      · exact KeepsTie.of_untouched ⟨by simp, by simp, by simp⟩ rfl rfl htie
      · exact KeepsTie.of_untouched ⟨by simp, by simp, by simp⟩ (by simp) (by simp) htie

/-! ### One device -/

/-- The partitions of the device are tied, and have mount points and addresses of their
own. -/
structure Ready (x : Prop) (s : Sys) (d : StorageDevice) : Prop where
  empty : "" ∉ s.mounted
  ties : ∀ p ∈ d.diskPartitionList, Tie x s.mounted p
  apart : ∀ p ∈ d.diskPartitionList, ∀ q ∈ d.diskPartitionList, p.address ≠ q.address →
    p.mountName = q.mountName → p.mountName = ""
  nodup : d.addresses.Nodup

/-- A method leaves the partitions tied, and its checks are clear. -/
structure Keeps (x g : Prop) (s : Sys) (d : StorageDevice) (t : Sys) (e : StorageDevice) :
    Prop where
  within : Within s d t e
  ties : ∀ q ∈ e.diskPartitionList, Tie x t.mounted q
  clear : g → Sys.Adds ChecksClear s t

variable {s p} {t u : Sys} {d e f : StorageDevice}

theorem Ready.within (h : Ready x s d) (hw : Within s d t e)
    (hties : ∀ q ∈ e.diskPartitionList, Tie x t.mounted q) : Ready x t e := by
  refine ⟨hw.outside.noEmpty h.empty, hties, fun p hp q hq hne heq => ?_, ?_⟩
  · obtain ⟨p', hp', hpi⟩ := exists_ident hw.idents hp
    obtain ⟨q', hq', hqi⟩ := exists_ident hw.idents hq
    rw [DiskPartitionInfo.ident_eq_iff] at hpi hqi
    rw [← hpi.1, ← hqi.1] at hne
    rw [← hpi.2.2.2.1, ← hqi.2.2.2.1] at heq
    rw [← hpi.2.2.2.1]
    exact h.apart p' hp' q' hq' hne heq
  · rw [hw.addresses]
    exact h.nodup

namespace Keeps

theorem ready (h : Keeps x g s d t e) (hr : Ready x s d) : Ready x t e :=
  hr.within h.within h.ties

theorem trans (h₁ : Keeps x g s d t e) (h₂ : Keeps x g t e u f) : Keeps x g s d u f :=
  ⟨h₁.within.trans h₂.within, h₂.ties, fun hg => (h₁.clear hg).trans (h₂.clear hg)⟩

/-- The device has changed in nothing but its state of being announced and mounted. -/
theorem of_untouched (hr : Ready x s d) (hs : Untouched s t) (hcore : e.core = d.core)
    (hlist : e.diskPartitionList = d.diskPartitionList) : Keeps x g s d t e := by
  refine ⟨Within.of_untouched hs hcore hlist, ?_, fun _ => Sys.Adds.of_eq hs.notables⟩
  rw [hlist, hs.mounted]
  exact hr.ties

theorem refl (hr : Ready x s d) : Keeps x g s d s d := of_untouched hr (Untouched.refl s) rfl rfl

/-- An operation on one partition, which is then put back. -/
theorem part {q : DiskPartitionInfo} (hr : Ready x s d) (h : KeepsTie x g s p t q)
    (hp : p ∈ d.diskPartitionList) : Keeps x g s d t (d.setPartition q) := by
  refine ⟨Within.part h.op hp, fun r hmem => ?_, h.clear⟩
  rcases d.mem_setPartition hmem with rfl | ⟨hmem, hne⟩
  · exact h.tie
  · rw [(DiskPartitionInfo.ident_eq_iff.mp h.op.ident).1] at hne
    have hsep : ¬ r.mountName = p.mountName ∨ r.mountName = "" := by
      by_cases heq : r.mountName = p.mountName
      · exact Or.inr (hr.apart r hmem p hp hne heq)
      · exact Or.inl heq
    exact (hr.ties r hmem).congr rfl rfl (h.op.outside.iff_of_empty hr.empty hsep)

/-- A loop over the partitions. -/
theorem loop {C : Finset String → DiskPartitionInfo → Prop} (hC : Local C)
    {f : Sys → DiskPartitionInfo → Out DiskPartitionInfo PdmDevStatus}
    (hop : ∀ s p, PartOp s p (f s p).state (f s p).obj)
    (hf : ∀ s p, Tie x s.mounted p → C s.mounted p → KeepsTie x g s p (f s p).state (f s p).obj)
    (hr : Ready x s d) (hall : ∀ p ∈ d.diskPartitionList, C s.mounted p) :
    Keeps x g s d (visit f s d.diskPartitionList).state
      { d with diskPartitionList := (visit f s d.diskPartitionList).obj } := by
  have hmem : ∀ (s : Sys) (a b : DiskPartitionInfo), "" ∉ s.mounted →
      (a.mountName = b.mountName → b.mountName = "") →
      (b.mountName ∈ (f s a).state.mounted ↔ b.mountName ∈ s.mounted) := by
    intro s a b hs hsep
    refine (hop s a).outside.iff_of_empty hs ?_
    by_cases heq : b.mountName = a.mountName
    · exact Or.inr (hsep heq.symm)
    · exact Or.inl heq
  have hpair : d.diskPartitionList.Pairwise fun a b =>
      (a.mountName = b.mountName → b.mountName = "") ∧
        (b.mountName = a.mountName → a.mountName = "") := by
    refine List.Pairwise.imp_of_mem ?_ (List.pairwise_map.mp hr.nodup)
    intro a b ha hb hne
    exact ⟨fun heq => heq ▸ hr.apart a ha b hb hne heq, fun heq => hr.apart a ha b hb hne heq.symm⟩
  obtain ⟨⟨-, hclear⟩, hties, -⟩ := Visit.visit_ties
    (P := fun t => "" ∉ t.mounted ∧ (g → Sys.Adds ChecksClear s t))
    (T := fun t p => Tie x t.mounted p ∧ C t.mounted p) (J := fun t p => Tie x t.mounted p)
    (D := fun a b => a.mountName = b.mountName → b.mountName = "") d.diskPartitionList s
    (fun t a _ hP hT => by
      have h := hf t a hT.1 hT.2
      exact ⟨⟨h.op.outside.noEmpty hP.1, fun hg => (hP.2 hg).trans (h.clear hg)⟩, h.tie⟩)
    (fun t a _ b hP hD hT => by
      have hK := hmem t a b hP.1 hD
      exact ⟨hT.1.congr rfl rfl hK, hC _ _ b hK hT.2⟩)
    (fun t a _ b hP hD hJ => hJ.congr rfl rfl (hmem t a b hP.1 hD))
    (fun t a _ b hD => by
      rw [(hop t a).mountName]
      exact hD)
    hpair ⟨hr.empty, fun _ => Sys.Adds.of_eq rfl⟩ (fun p hp => ⟨hr.ties p hp, hall p hp⟩)
  exact ⟨Within.loop hop, hties, hclear⟩

end Keeps

end StorageDevice

end Pdm
