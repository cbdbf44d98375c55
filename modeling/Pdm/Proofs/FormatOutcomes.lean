/-
What formatting leaves of a partition.

A format changes the file system and the label, and with the mounts around it the flag and
the space.  What was known of the support for the old file system stays as it was.
-/
import Pdm.Proofs.ShownCommands

namespace Pdm

/-- Whether the partition will be mounted after it is formatted. -/
def Env.mountedAfterFormat (env : Env) (s : Sys) (p : DiskPartitionInfo)
    (fsType label : String) : Bool :=
  if env.frees s p then env.formats p fsType label && env.mounts (p.formatted fsType label) false
  else p.mounted && env.busy p

/-- What is kept of the support for a partition's file system, and of its storage. -/
def DiskPartitionInfo.support (p : DiskPartitionInfo) : Bool × StorageInterfaceTypes :=
  (p.isSupportedFs, p.storageType)

namespace StorageDevice

variable (env : Env) (s : Sys) (d : StorageDevice) (p : DiskPartitionInfo)

theorem umountPartition_support :
    (umountPartition env s p false).obj.support = p.support := by
  unfold umountPartition
  split
  · rfl
  · dsimp only
    split
    · rfl
    · split <;> rfl

theorem mountPartition_support (readOnly : Bool) :
    (mountPartition env s p readOnly).obj.support = p.support := by
  have hfs : ∀ t q, (PdmFs.mountPartition env t q readOnly).obj.support = q.support := by
    intro t q
    unfold PdmFs.mountPartition
    split
    · rfl
    · dsimp only
      split
      · cases PdmFs.calculateSpaceInfo env q.mountName <;> rfl
      · rfl
  unfold mountPartition
  dsimp only
  split
  · exact hfs _ _
  · exact hfs _ _

theorem fsckPartition_support (fsckMode : String) :
    (fsckPartition env s p fsckMode).obj.support = p.support := by
  have hfs : ∀ t, (PdmFs.fsck env t p fsckMode).obj.support = p.support := by
    intro t
    unfold PdmFs.fsck
    dsimp only
    split <;> rfl
  unfold fsckPartition
  dsimp only
  split
  · exact (mountPartition_support env _ _ false).trans (hfs _)
  · exact hfs _

theorem formatted_support (fsType label : String) :
    (p.formatted fsType label).support = p.support := by
  unfold DiskPartitionInfo.formatted DiskPartitionInfo.setFsType DiskPartitionInfo.setVolumeLabel
  split <;> split <;> rfl

/-- The format and the mount after it will succeed. -/
def FormatSucceeds (env : Env) (s : Sys) (d : StorageDevice) (p : DiskPartitionInfo)
    (fsType label : String) : Prop :=
  d.isReadOnly = false ∧ env.frees s p ∧ env.formats p fsType label = true ∧
    env.mounts (p.formatted fsType label) false = true

instance (fsType label : String) : Decidable (FormatSucceeds env s d p fsType label) :=
  inferInstanceAs (Decidable (_ ∧ _ ∧ _ ∧ _))

/-- What a format of `p` leaves: the partition `q` in its place, and the device's own data but
for the error reason, which a success clears. -/
structure FormatLeaves (env : Env) (s : Sys) (d : StorageDevice) (p : DiskPartitionInfo)
    (fsType label : String) (out : Out StorageDevice PdmDevStatus) (q : DiskPartitionInfo) :
    Prop where
  list : out.obj.diskPartitionList = (d.setPartition q).diskPartitionList
  address : q.address = p.address
  support : q.support = p.support
  mounted : q.mounted = if d.isReadOnly then p.mounted else env.mountedAfterFormat s p fsType label
  tag : q.tag = if d.isReadOnly = false ∧ env.frees s p ∧ env.formats p fsType label = true then
    (p.formatted fsType label).tag else p.tag
  success : out.ret = .success ↔ FormatSucceeds env s d p fsType label
  flag : out.obj.deviceIsMounted = d.deviceIsMounted
  unsupported : out.obj.hasUnsupportedFs = d.hasUnsupportedFs
  errorReason : out.obj.errorReason = if out.ret = .success then .nothing else d.errorReason

theorem formatOn_leaves (hnodup : d.addresses.Nodup) (hp : p ∈ d.diskPartitionList)
    (fsType label : String) :
    ∃ q, FormatLeaves env s d p fsType label (formatOn env s d p fsType label) q := by
  have huident := (DiskPartitionInfo.ident_eq_iff.mp (umountPartition_ident env s p false)).1
  have huleaves := umountPartition_leaves env s p
  have husupport := umountPartition_support env s p
  unfold formatOn
  by_cases hreadOnly : d.isReadOnly = true
  · rw [if_pos hreadOnly]
    refine ⟨p, by rw [setPartition_self d hnodup hp], rfl, rfl, (if_pos hreadOnly).symm,
      (if_neg (by simp [hreadOnly])).symm, ?_, rfl, rfl, rfl⟩
    exact iff_of_false (by simp) fun h => absurd h.1 (by simp [hreadOnly])
  · rw [if_neg hreadOnly]
    have hwritable : d.isReadOnly = false := Bool.eq_false_iff.mpr hreadOnly
    dsimp only
    by_cases hfree : env.frees s p
    · have hret := (umountPartition_frees env s p).mpr hfree
      rw [if_neg (not_not_intro hret)]
      have hfreed := umountPartition_freed env s p hfree
      generalize (umountPartition env s p false).state = t
      obtain ⟨htag, hfret, hfobj⟩ := formatFs_unmounted env s p
        (handlerCb t .formatStarted (some p.address)) fsType label
      generalize (umountPartition env s p false).obj = u at *
      generalize PdmFs.format env (handlerCb t .formatStarted (some p.address)) u fsType label = f
        at *
      by_cases hok : env.formats p fsType label = true
      · rw [if_pos (hfret.mpr hok)]
        rw [if_pos hok] at hfobj
        have hmret := (mountPartition_eq env f.state f.obj false).2.2
        have hmleaves := mountPartition_leaves env f.state f.obj false
        have hmident := (DiskPartitionInfo.ident_eq_iff.mp
          (mountPartition_ident env f.state f.obj false)).1
        have hmsupport := mountPartition_support env f.state f.obj false
        have hfident := (DiskPartitionInfo.ident_eq_iff.mp (formatted_ident u fsType label)).1
        rw [hfobj, env.mounts_congr htag] at hmret hmleaves
        rw [hfobj] at hmident hmsupport
        rw [hfobj]
        have hsucceeds : FormatSucceeds env s d p fsType label ↔
            env.mounts (p.formatted fsType label) false = true :=
          ⟨fun h => h.2.2.2, fun h => ⟨hwritable, hfree, hok, h⟩⟩
        generalize mountPartition env f.state (u.formatted fsType label) false = m at *
        have hleft : m.obj.address = p.address ∧ m.obj.support = p.support ∧
            m.obj.mounted = (if d.isReadOnly = true then p.mounted
              else env.mountedAfterFormat s p fsType label) ∧
            m.obj.tag = (if d.isReadOnly = false ∧ env.frees s p ∧
              env.formats p fsType label = true then (p.formatted fsType label).tag else p.tag) := by
          refine ⟨hmident.trans (hfident.trans huident),
            hmsupport.trans ((formatted_support u fsType label).trans husupport), ?_, ?_⟩
          · rw [if_neg hreadOnly, hmleaves.mounted]
            unfold Env.mountedAfterFormat
            rw [if_pos hfree, hok, Bool.true_and]
          · rw [if_pos ⟨hwritable, hfree, hok⟩, hmleaves.tag, htag]
        obtain ⟨haddress, hsupport, hmounted, hmtag⟩ := hleft
        by_cases hmounts : env.mounts (p.formatted fsType label) false = true
        · rw [if_pos (hmret.mpr hmounts)]
          exact ⟨m.obj, rfl, haddress, hsupport, hmounted, hmtag,
            iff_of_true rfl (hsucceeds.mpr hmounts), rfl, rfl, rfl⟩
        · rw [if_neg (mt hmret.mp hmounts)]
          exact ⟨m.obj, rfl, haddress, hsupport, hmounted, hmtag,
            iff_of_false (by simp) (mt hsucceeds.mp hmounts), rfl, rfl, rfl⟩
      · have hfail := mt hfret.mp hok
        rw [if_neg hfail, if_neg hfail]
        rw [if_neg hok] at hfobj
        rw [hfobj]
        refine ⟨u, rfl, huident, husupport, ?_, ?_, iff_of_false (by simp) fun h => hok h.2.2.1,
          rfl, rfl, rfl⟩
        · rw [if_neg hreadOnly, hfreed]
          unfold Env.mountedAfterFormat
          rw [if_pos hfree, Bool.eq_false_iff.mpr hok, Bool.false_and]
        · rw [if_neg fun h => hok h.2.2, huleaves.tag]
    · have hret := mt (umountPartition_frees env s p).mp hfree
      rw [if_pos hret]
      refine ⟨_, rfl, huident, husupport, ?_, ?_, iff_of_false (by simp) fun h => hfree h.2.1,
        rfl, rfl, rfl⟩
      · rw [if_neg hreadOnly, huleaves.mounted]
        exact (if_neg hfree).symm
      · rw [if_neg fun h => hfree h.2.1, huleaves.tag]

end StorageDevice

end Pdm
