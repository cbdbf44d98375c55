/-
The device's own mounted flag, against its partitions.

`m_deviceIsMounted` is set by the end of a round of checks, by a forced mount and by a
resume, and is never reset.  So it is the disjunction of the partitions' flags (`Summed`)
only as long as no device loses its last mounted partition, and none gets its first one by
an operation that does not set it.

`Tallied` describes a method by whether it sets the flag and by whether a partition is
mounted after it, both read off the device before it and the system's answers.
-/
import Pdm.Proofs.DeviceRules
import Pdm.Proofs.FormatOutcomes

namespace Pdm

open Visit (visit)

/-! ### The partitions -/

/-- Whether the partition will be mounted after `mountAllPartition`, which leaves one with an
unsupported file system alone. -/
def Env.mountedAfterMount (env : Env) (p : DiskPartitionInfo) (readOnly : Bool) : Bool :=
  if p.isSupportedFs then env.mounts p readOnly else p.mounted

/-- Whether the partition will be mounted after the command `fsck`. -/
def Env.mountedAfterCheck (env : Env) (s : Sys) (p : DiskPartitionInfo) : Bool :=
  if env.frees s p then env.recovers p PdmFsck.AUTO else p.mounted && env.busy p

/-- Whether the partition will be mounted after `enforceFsckAndMount`. -/
def Env.mountedAfterEnforce (env : Env) (needFsck : Bool) (p : DiskPartitionInfo) : Bool :=
  if needFsck = false ∧ p.mounted = false then env.mounts p false
  else if p.fsckStatus = PdmDevStatus.fsckTimeout.code then env.mountedAfterFsck p PdmFsck.FORCE
  else p.mounted

namespace StorageDevice

/-- A partition is mounted. -/
def anyMounted (d : StorageDevice) : Bool := d.diskPartitionList.any (·.mounted)

/-- A partition other than this one is mounted. -/
def othersMounted (d : StorageDevice) (p : DiskPartitionInfo) : Bool :=
  d.diskPartitionList.any fun q => q.address ≠ p.address && q.mounted

/-- A partition's check took too long. -/
def anyTimedOut (d : StorageDevice) : Bool :=
  d.diskPartitionList.any fun p => p.fsckStatus = PdmDevStatus.fsckTimeout.code

/-- The device's flag is the disjunction of its partitions'. -/
def Summed (d : StorageDevice) : Prop := d.deviceIsMounted = d.anyMounted

/-- What a method makes of the flags: whether it sets the device's own, and whether a
partition is mounted after it. -/
structure Tallied (d e : StorageDevice) (sets after : Bool) : Prop where
  flag : e.deviceIsMounted = (d.deviceIsMounted || sets)
  parts : e.anyMounted = after

theorem Tallied.summed_iff {d e : StorageDevice} {sets after : Bool} (h : Tallied d e sets after)
    (hd : d.Summed) : e.Summed ↔ (d.anyMounted || sets) = after := by
  unfold Summed at hd ⊢
  rw [h.flag, h.parts, hd]

theorem Tallied.refl (d : StorageDevice) : Tallied d d false d.anyMounted :=
  ⟨(Bool.or_false _).symm, rfl⟩

theorem anyMounted_eq_any {d : StorageDevice} {l : List DiskPartitionInfo}
    {after : DiskPartitionInfo → Bool} (h : d.diskPartitionList.map (·.mounted) = l.map after) :
    d.anyMounted = l.any after := by
  have hany : ∀ (m : List DiskPartitionInfo) (f : DiskPartitionInfo → Bool),
      m.any f = (m.map f).any id := by
    intro m f
    rw [List.any_map]
    rfl
  unfold anyMounted
  rw [hany, hany, h]

variable (env : Env) (s : Sys) (d : StorageDevice)

/-- One partition is written back. -/
theorem any_setPartition (f : DiskPartitionInfo → Bool) {p q : DiskPartitionInfo}
    (hp : p ∈ d.diskPartitionList) (hq : q.address = p.address) :
    (d.setPartition q).diskPartitionList.any f =
      ((d.diskPartitionList.any fun r => r.address ≠ p.address && f r) || f q) := by
  rw [Bool.eq_iff_iff]
  simp only [setPartition_list, Bool.or_eq_true, List.any_eq_true, List.mem_map, Bool.and_eq_true,
    decide_eq_true_eq]
  constructor
  · rintro ⟨r, ⟨r', hr', rfl⟩, hf⟩
    by_cases haddr : r'.address = q.address
    · rw [if_pos haddr] at hf
      exact Or.inr hf
    · rw [if_neg haddr] at hf
      exact Or.inl ⟨r', hr', fun h => haddr (h.trans hq.symm), hf⟩
  · rintro (⟨r, hr, haddr, hf⟩ | hf)
    · refine ⟨r, ⟨r, hr, if_neg fun h => haddr (h.trans hq)⟩, hf⟩
    · exact ⟨q, ⟨p, hp, if_pos hq.symm⟩, hf⟩

theorem anyMounted_setPartition {p q : DiskPartitionInfo} (hp : p ∈ d.diskPartitionList)
    (hq : q.address = p.address) :
    (d.setPartition q).anyMounted = (d.othersMounted p || q.mounted) :=
  any_setPartition d (·.mounted) hp hq

/-- A method that writes back one partition. -/
theorem tallied_setPartition {p q : DiskPartitionInfo} (hp : p ∈ d.diskPartitionList)
    (hq : q.address = p.address) :
    Tallied d (d.setPartition q) false (d.othersMounted p || q.mounted) :=
  ⟨(Bool.or_false _).symm, anyMounted_setPartition d hp hq⟩

theorem othersMounted_self {p : DiskPartitionInfo} (hp : p ∈ d.diskPartitionList)
    (hnodup : d.addresses.Nodup) : (d.othersMounted p || p.mounted) = d.anyMounted := by
  rw [← anyMounted_setPartition d hp rfl, setPartition_self d hnodup hp]

/-! ### Commands -/

theorem formatOn_tallied (hnodup : d.addresses.Nodup) {p : DiskPartitionInfo}
    (hp : p ∈ d.diskPartitionList) (fsType label : String) :
    Tallied d (formatOn env s d p fsType label).obj false
      (if d.isReadOnly then d.anyMounted
        else d.othersMounted p || env.mountedAfterFormat s p fsType label) := by
  obtain ⟨q, hq⟩ := formatOn_leaves env s d p hnodup hp fsType label
  refine ⟨hq.flag.trans (Bool.or_false _).symm, ?_⟩
  have hput := anyMounted_setPartition d hp hq.address
  unfold anyMounted at hput ⊢
  rw [hq.list, hput, hq.mounted]
  split
  · exact othersMounted_self d hp hnodup
  · rfl

theorem fsckOn_tallied {p : DiskPartitionInfo} (hp : p ∈ d.diskPartitionList) :
    Tallied d (fsckOn env s d p).obj false
      (if d.isReadOnly then d.anyMounted else d.othersMounted p || env.mountedAfterCheck s p) := by
  have huleaves := umountPartition_leaves env s p
  have huident := (DiskPartitionInfo.ident_eq_iff.mp (umountPartition_ident env s p false)).1
  unfold fsckOn Env.mountedAfterCheck
  by_cases hreadOnly : d.isReadOnly = true
  · rw [if_pos hreadOnly, if_pos hreadOnly]
    exact Tallied.refl d
  · rw [if_neg hreadOnly, if_neg hreadOnly]
    dsimp only
    by_cases hfree : env.frees s p
    · rw [if_neg (not_not_intro ((umountPartition_frees env s p).mpr hfree)), if_pos hfree]
      have hcheck := fsckPartition_freed env s p hfree (umountPartition env s p false).state
        PdmFsck.AUTO
      have hfident := (DiskPartitionInfo.ident_eq_iff.mp (fsckPartition_ident env
        (umountPartition env s p false).state (umountPartition env s p false).obj PdmFsck.AUTO)).1
      have htally := tallied_setPartition d hp (hfident.trans huident)
      rw [hcheck.mounted] at htally
      exact htally
    · rw [if_pos (mt (umountPartition_frees env s p).mp hfree), if_neg hfree]
      have htally := tallied_setPartition d hp huident
      rw [huleaves.mounted] at htally
      exact htally

theorem umountAllPartition_tallied :
    Tallied d (umountAllPartition env s d false).obj false
      (d.diskPartitionList.any fun p => p.mounted && env.busy p) :=
  ⟨(Bool.or_false _).symm, anyMounted_eq_any (Visit.visit_image
    (fun s p => (umountPartition_leaves env s p).mounted) d.diskPartitionList s)⟩

theorem eject_tallied :
    Tallied d (eject env s d).obj false (d.diskPartitionList.any fun p => p.mounted && env.busy p) := by
  have htally := umountAllPartition_tallied env s d
  unfold eject
  dsimp only
  split
  · exact ⟨htally.flag, htally.parts⟩
  · exact htally

theorem enforcePartition_mounted (needFsck : Bool) (p : DiskPartitionInfo) :
    (enforcePartition env needFsck s p).obj.mounted = env.mountedAfterEnforce needFsck p := by
  unfold enforcePartition Env.mountedAfterEnforce
  split
  · exact (mountPartition_eq env s p false).1
  · split
    · exact (fsckPartition_leaves env s p PdmFsck.FORCE).mounted
    · rfl

theorem enforceFsckAndMount_tallied (needFsck : Bool) :
    Tallied d (enforceFsckAndMount env s d needFsck).obj
      (d.diskPartitionList.all (env.enforces needFsck))
      (d.diskPartitionList.any (env.mountedAfterEnforce needFsck)) := by
  have hlist : (enforceFsckAndMount env s d needFsck).obj.diskPartitionList.map (·.mounted) =
      d.diskPartitionList.map (env.mountedAfterEnforce needFsck) := by
    rw [enforceFsckAndMount_list]
    exact Visit.visit_image (fun s p => enforcePartition_mounted env s needFsck p) _ s
  refine ⟨?_, anyMounted_eq_any hlist⟩
  have hret : (d.afterLoop (visit (enforcePartition env needFsck) s d.diskPartitionList)
      .error).ret = .success ↔ d.diskPartitionList.all (env.enforces needFsck) = true := by
    rw [List.all_eq_true]
    refine (worst_success (show PdmDevStatus.error ≠ .success by decide)).trans ?_
    exact Visit.visit_ret_iff (fun s p => enforcePartition_enforces env s p needFsck) _ s
  unfold enforceFsckAndMount
  dsimp only
  by_cases hall : d.diskPartitionList.all (env.enforces needFsck) = true
  · rw [if_pos (hret.mpr hall), hall, Bool.or_true]
  · rw [if_neg (mt hret.mp hall), Bool.eq_false_iff.mpr hall, Bool.or_false]
    rfl

/-! ### Mounting everything -/

theorem mountSupported_mounted (readOnly : Bool) (p : DiskPartitionInfo) :
    (mountSupported env readOnly s p).obj.mounted = env.mountedAfterMount p readOnly := by
  unfold mountSupported Env.mountedAfterMount
  split
  · exact (mountPartition_eq env s p readOnly).1
  · rfl

theorem mountAllPartition_tallied :
    Tallied d (mountAllPartition env s d).obj false
      (d.diskPartitionList.any (env.mountedAfterMount · d.isReadOnly)) :=
  ⟨(Bool.or_false _).symm, anyMounted_eq_any (Visit.visit_image
    (fun s p => mountSupported_mounted env s d.isReadOnly p) d.diskPartitionList s)⟩

/-- The device will mount its partitions at a resume. -/
def remounts (d : StorageDevice) : Bool :=
  ¬ (d.storageType = .usbHdd ∧ d.errorReason ≠ .ejected)

theorem resumeRequest_tallied :
    Tallied d (resumeRequest env s d).obj
      (d.remounts && d.diskPartitionList.any (env.mountedAfterMount · d.isReadOnly))
      (if d.remounts then d.diskPartitionList.any (env.mountedAfterMount · d.isReadOnly)
        else d.anyMounted) := by
  have hpower : ∀ f : DiskPartitionInfo → Bool, (∀ p, f (p.setPowerStatus true) = f p) →
      (d.diskPartitionList.map (·.setPowerStatus true)).any f = d.diskPartitionList.any f := by
    intro f hf
    rw [List.any_map]
    exact congrArg (List.any d.diskPartitionList) (funext hf)
  have hmount := mountAllPartition_tallied env s { d with
    diskPartitionList := d.diskPartitionList.map (·.setPowerStatus true)
    isPowerOnConnect := true }
  have hflag := hmount.flag
  have hparts := hmount.parts
  dsimp only at hflag hparts
  rw [hpower _ fun p => rfl] at hparts
  unfold resumeRequest remounts
  dsimp only
  by_cases hhdd : d.storageType = .usbHdd ∧ d.errorReason ≠ .ejected
  · rw [if_pos hhdd, decide_eq_false (not_not_intro hhdd), Bool.false_and, if_neg (by simp)]
    exact ⟨(Bool.or_false _).symm, hpower _ fun p => rfl⟩
  · rw [if_neg hhdd]
    rw [decide_eq_true hhdd, Bool.true_and, if_pos rfl]
    by_cases hany : (mountAllPartition env s { d with
        diskPartitionList := d.diskPartitionList.map (·.setPowerStatus true)
        isPowerOnConnect := true }).obj.diskPartitionList.any (·.mounted) = true
    · rw [if_pos hany]
      unfold anyMounted at hparts
      refine ⟨?_, hparts⟩
      rw [← hparts, hany]
      exact (Bool.or_true _).symm
    · rw [if_neg hany]
      refine ⟨?_, hparts⟩
      unfold anyMounted at hparts
      rw [← hparts, Bool.eq_false_iff.mpr hany]
      exact hflag

/-! ### Threads -/

/-- A partition's check took too long, once this one is checked. -/
def timedOutAfter (env : Env) (d : StorageDevice) (p : DiskPartitionInfo) : Bool :=
  (d.diskPartitionList.any fun q =>
      q.address ≠ p.address && q.fsckStatus = PdmDevStatus.fsckTimeout.code) ||
    env.checkStatus p PdmFsck.AUTO = .fsckTimeout

theorem storageDeviceNotification_tallied :
    Tallied d (storageDeviceNotification s d).obj (!d.anyTimedOut && d.anyMounted) d.anyMounted := by
  unfold storageDeviceNotification anyTimedOut
  by_cases htimeout : (d.diskPartitionList.any
      fun p => p.fsckStatus = PdmDevStatus.fsckTimeout.code) = true
  · rw [if_pos htimeout, htimeout]
    exact ⟨(Bool.or_false _).symm, rfl⟩
  · rw [if_neg htimeout, Bool.eq_false_iff.mpr htimeout]
    by_cases hmounted : d.diskPartitionList.any (·.mounted) = true
    · rw [if_pos hmounted]
      have hany : d.anyMounted = true := hmounted
      rw [hany]
      exact ⟨(Bool.or_true _).symm, hmounted⟩
    · rw [if_neg hmounted]
      have hany : d.anyMounted = false := Bool.eq_false_iff.mpr hmounted
      rw [hany]
      exact ⟨(Bool.or_false _).symm, hany⟩

theorem anyTimedOut_setPartition {p q : DiskPartitionInfo} (hp : p ∈ d.diskPartitionList)
    (hq : q.address = p.address)
    (hstatus : q.fsckStatus = (env.checkStatus p PdmFsck.AUTO).code) :
    (d.setPartition q).anyTimedOut = d.timedOutAfter env p := by
  have hcode : (env.checkStatus p PdmFsck.AUTO).code = PdmDevStatus.fsckTimeout.code ↔
      env.checkStatus p PdmFsck.AUTO = .fsckTimeout :=
    ⟨fun h => PdmDevStatus.code_injective h, fun h => by rw [h]⟩
  unfold anyTimedOut timedOutAfter
  rw [any_setPartition d _ hp hq, hstatus]
  exact congrArg _ (decide_eq_decide.mpr hcode)

/-- The end of a thread sets the flag when it is the last of a round in which no check took
too long. -/
theorem storageDeviceFsckNotification_tallied :
    Tallied d (storageDeviceFsckNotification s d).obj
      (d.fsckThreadCount = 1 && !d.anyTimedOut && d.anyMounted) d.anyMounted := by
  have hzero : d.fsckThreadCount - 1 = 0 ↔ d.fsckThreadCount = 1 := by omega
  unfold storageDeviceFsckNotification
  dsimp only
  by_cases hlast : d.fsckThreadCount = 1
  · rw [if_pos (hzero.mpr hlast), decide_eq_true hlast, Bool.true_and]
    have hnotify := storageDeviceNotification_tallied s
      { d with fsckThreadCount := d.fsckThreadCount - 1 }
    exact ⟨hnotify.flag, hnotify.parts⟩
  · rw [if_neg (mt hzero.mp hlast), decide_eq_false hlast, Bool.false_and, Bool.false_and]
    exact ⟨(Bool.or_false _).symm, rfl⟩

theorem fsckOnDeviceAddThread_tallied {partition : Nat} {p : DiskPartitionInfo}
    (hfind : d.diskPartitionList.find? (·.address = partition) = some p) :
    Tallied d (fsckOnDeviceAddThread env s d partition).obj
      (d.fsckThreadCount = 1 && !d.timedOutAfter env p &&
        (d.othersMounted p || env.mountedAfterFsck p PdmFsck.AUTO))
      (d.othersMounted p || env.mountedAfterFsck p PdmFsck.AUTO) := by
  have hp := List.mem_of_find?_eq_some hfind
  have hident := (DiskPartitionInfo.ident_eq_iff.mp (fsckPartition_ident env s p PdmFsck.AUTO)).1
  have hput := tallied_setPartition d hp hident
  have htimed := anyTimedOut_setPartition env d hp hident
    (fsckPartition_fsckStatus env s p PdmFsck.AUTO)
  rw [(fsckPartition_leaves env s p PdmFsck.AUTO).mounted] at hput
  have hcount := (fsckPartitionAt_device env s d partition).1
  unfold fsckOnDeviceAddThread
  unfold fsckPartitionAt at hcount ⊢
  rw [hfind] at hcount ⊢
  dsimp only at hcount ⊢
  generalize d.setPartition (fsckPartition env s p PdmFsck.AUTO).obj = checked at *
  have hend := storageDeviceFsckNotification_tallied (fsckPartition env s p PdmFsck.AUTO).state
    checked
  rw [hcount, htimed, hput.parts] at hend
  refine ⟨?_, hend.parts⟩
  rw [hend.flag, hput.flag, Bool.or_false]

/-! ### Events -/

variable (devClass : DeviceClass)

/-- The event's partition completes a read-only medium, which is mounted at once. -/
def mountsAtOnce (d : StorageDevice) (devClass : DeviceClass) : Bool :=
  (d.findPartition devClass.devName).isNone && decide (d.Complete (d.diskPartitionList.length + 1))
    && (d.diskPartitionList ++ [d.listed devClass 0]).any (·.isSupportedFs) && d.isReadOnly

/-- Whether a partition of the medium will be mounted then. -/
def mountedAtOnce (env : Env) (d : StorageDevice) (devClass : DeviceClass) : Bool :=
  (d.diskPartitionList ++ [d.listed devClass 0]).any (env.mountedAfterMount · true)

theorem startPartitions_tallied :
    Tallied d (startPartitions env s d).obj
      (d.diskPartitionList.any (·.isSupportedFs) && d.isReadOnly && !d.anyTimedOut &&
        d.diskPartitionList.any (env.mountedAfterMount · true))
      (if d.diskPartitionList.any (·.isSupportedFs) && d.isReadOnly then
        d.diskPartitionList.any (env.mountedAfterMount · true) else d.anyMounted) := by
  unfold startPartitions
  by_cases hsupported : d.diskPartitionList.any (·.isSupportedFs) = true
  · rw [if_pos hsupported, hsupported, Bool.true_and]
    by_cases hreadOnly : d.isReadOnly = true
    · rw [if_pos hreadOnly, hreadOnly, Bool.true_and, if_pos rfl]
      dsimp only
      have hmount := mountAllPartition_tallied env s d
      have hnotify := storageDeviceNotification_tallied (mountAllPartition env s d).state
        (mountAllPartition env s d).obj
      have htimed : (mountAllPartition env s d).obj.anyTimedOut = d.anyTimedOut := by
        have hstatus : (mountAllPartition env s d).obj.diskPartitionList.map (·.fsckStatus) =
            d.diskPartitionList.map (·.fsckStatus) := by
          refine Visit.visit_image (h := (·.fsckStatus)) (fun s p => ?_) d.diskPartitionList s
          unfold mountSupported
          split
          · exact mountPartition_fsckStatus env s p d.isReadOnly
          · rfl
        have hany : ∀ l : List DiskPartitionInfo,
            (l.any fun p => p.fsckStatus = PdmDevStatus.fsckTimeout.code) =
              (l.map (·.fsckStatus)).any fun n => n = PdmDevStatus.fsckTimeout.code := by
          intro l
          rw [List.any_map]
          rfl
        unfold anyTimedOut
        rw [hany, hany, hstatus]
      rw [hreadOnly] at hmount
      rw [htimed, hmount.parts] at hnotify
      refine ⟨hnotify.flag.trans ?_, hnotify.parts⟩
      rw [hmount.flag, Bool.or_false]
    · rw [if_neg hreadOnly, Bool.eq_false_iff.mpr hreadOnly]
      exact ⟨(Bool.or_false _).symm, rfl⟩
  · rw [if_neg hsupported, Bool.eq_false_iff.mpr hsupported]
    exact ⟨(Bool.or_false _).symm, rfl⟩

theorem setPartitionInfo_tallied :
    Tallied d (setPartitionInfo env s d devClass).obj
      (d.mountsAtOnce devClass && !d.anyTimedOut && d.mountedAtOnce env devClass)
      (if d.mountsAtOnce devClass then d.mountedAtOnce env devClass else d.anyMounted) := by
  unfold setPartitionInfo mountsAtOnce
  cases hfound : d.findPartition devClass.devName with
  | some p => exact Tallied.refl d
  | none =>
    have hlist := addPartition_listed env s d devClass
    have hcomplete := addPartition_complete env s d devClass
    -- The new partition's address plays no part.
    have hmoved : ∀ f : DiskPartitionInfo → Bool,
        f (d.listed devClass s.next) = f (d.listed devClass 0) →
        (addPartition env s d devClass).obj.diskPartitionList.any f =
          (d.diskPartitionList ++ [d.listed devClass 0]).any f := by
      intro f hf
      rw [hlist, List.any_append, List.any_append]
      simp only [List.any_cons, List.any_nil, hf]
    have hparts : (addPartition env s d devClass).obj.anyMounted = d.anyMounted := by
      unfold anyMounted
      rw [hmoved _ rfl, List.any_append]
      exact Bool.or_false _
    have htimed : (addPartition env s d devClass).obj.anyTimedOut = d.anyTimedOut := by
      unfold anyTimedOut
      rw [hmoved _ rfl, List.any_append]
      exact Bool.or_false _
    simp only [Option.isSome_none, Option.isNone_none, Bool.false_eq_true, if_false, Bool.true_and]
    by_cases hall : d.Complete (d.diskPartitionList.length + 1)
    · rw [if_pos (hcomplete.mpr hall), decide_eq_true hall, Bool.true_and]
      have hstart := startPartitions_tallied env (addPartition env s d devClass).state
        (addPartition env s d devClass).obj
      rw [hmoved _ rfl, hmoved (fun p => env.mountedAfterMount p true) rfl, hparts, htimed] at hstart
      exact ⟨hstart.flag, hstart.parts⟩
    · rw [if_neg (mt hcomplete.mp hall), decide_eq_false hall]
      exact ⟨(Bool.or_false _).symm, hparts⟩

/-- An event sets the flag only where it adds a partition. -/
theorem setDeviceInfo_flag :
    (setDeviceInfo env s d devClass).obj.deviceIsMounted =
      match receiver env d devClass with
      | some d₀ => d.deviceIsMounted ||
          (d₀.mountsAtOnce devClass && !d₀.anyTimedOut && d₀.mountedAtOnce env devClass)
      | none => d.deviceIsMounted := by
  have hsd : ∀ (s : Sys) (e : StorageDevice),
      (checkSdCardAddRemove env s (updateMultiSdCard env e devClass) devClass).obj.deviceIsMounted =
        e.deviceIsMounted := by
    intro s e
    have hmulti : (updateMultiSdCard env e devClass).deviceIsMounted = e.deviceIsMounted := by
      unfold updateMultiSdCard
      split <;> rfl
    unfold checkSdCardAddRemove
    split
    · exact hmulti
    · split
      · exact hmulti
      · split
        · exact hmulti
        · dsimp only
          split
          · exact hmulti
          · exact hmulti
  unfold setDeviceInfo receiver
  by_cases hremoved : d.isSdCardRemoved = true
  · simp only [triggerUevent_ret, hremoved, if_true]
    unfold triggerUevent
    rw [if_neg (by simp [hremoved])]
  · simp only [triggerUevent_ret, hremoved, Bool.false_eq_true, if_false]
    cases sMapUsbDeviceType devClass.devType with
    | typeDevUsb =>
      dsimp only
      unfold updateDeviceInfo
      dsimp only
      split <;> rfl
    | typeDevPartition => exact (setPartitionInfo_tallied env s d devClass).flag
    | typeDevDisk =>
      dsimp only
      rw [hsd]
      unfold updateDiskInfo
      cases getDeviceAction devClass.action with
      | usbDevAdd =>
        dsimp only
        rw [countPartitions_fst]
        split
        · exact (setPartitionInfo_tallied env _ _ devClass).flag
        · rfl
      | usbDevChange =>
        dsimp only
        rw [countPartitions_fst]
        by_cases hreader : d.storageType = .usbCardReader
        · rw [if_pos hreader, if_neg fun h => h.1 hreader]
          unfold handleCardReaderDeviceChange
          dsimp only
          split
          · split <;> rfl
          · rfl
        · rw [if_neg hreader]
          by_cases hwhole : env.partitionCount d.deviceName = 0 ∧ devClass.isCardReader ≠ YES
          · rw [if_pos hwhole, if_pos ⟨hreader, hwhole⟩]
            exact (setPartitionInfo_tallied env _ d devClass).flag
          · rw [if_neg hwhole, if_neg fun h => hwhole h.2]
      | usbDevRemove => rfl
      | usbDevBind => rfl
      | usbDevUnknown => rfl

/-! ### The conditions -/

/-- The event keeps the flag right: a read-only medium that is mounted at once sets it, and a
medium that goes was not mounted. -/
def SummaryEvent (env : Env) (d : StorageDevice) (devClass : DeviceClass) : Prop :=
  match receiver env d devClass with
  | some d₀ =>
    d₀.mountsAtOnce devClass = true →
      (d.anyMounted || (!d.anyTimedOut && d₀.mountedAtOnce env devClass)) =
        d₀.mountedAtOnce env devClass
  | none => d.DropsParts env devClass → d.anyMounted = false

theorem receiver_tally {d₀ : StorageDevice} (hd₀ : receiver env d devClass = some d₀) :
    d₀.anyMounted = d.anyMounted ∧ d₀.anyTimedOut = d.anyTimedOut := by
  have hlist := (receiver_list env d devClass hd₀).1
  unfold anyMounted anyTimedOut
  rw [hlist]
  exact ⟨rfl, rfl⟩

theorem setDeviceInfo_dropped (hdrops : d.DropsParts env devClass) :
    (setDeviceInfo env s d devClass).obj.diskPartitionList = [] := by
  have hjoins := not_joins_of_drops env d devClass hdrops
  cases setDeviceInfo_shown env s d devClass with
  | dropped _ _ hobj => exact (shown_eq_none_iff _).mp hobj
  | announced e hannounces _ _ _ => exact absurd (joins_of_announces env d devClass hannounces) hjoins
  | added _ hadded _ _ => exact absurd hadded hjoins
  | kept hkeeps _ _ _ _ => exact absurd hdrops hkeeps

theorem setDeviceInfo_summed (hd : d.Summed) :
    (setDeviceInfo env s d devClass).obj.Summed ↔ SummaryEvent env d devClass := by
  have hflag := setDeviceInfo_flag env s d devClass
  unfold SummaryEvent
  cases setDeviceInfo_cases env s d devClass with
  | added d₀ s₀ hd₀ hs₀ hr =>
    obtain ⟨hparts, htimed⟩ := receiver_tally env d devClass hd₀
    have hadd := (setPartitionInfo_tallied env s₀ d₀ devClass).parts
    rw [hd₀] at hflag ⊢
    dsimp only at hflag ⊢
    have htally : Tallied d (setDeviceInfo env s d devClass).obj
        (d₀.mountsAtOnce devClass && !d₀.anyTimedOut && d₀.mountedAtOnce env devClass)
        (if d₀.mountsAtOnce devClass then d₀.mountedAtOnce env devClass else d.anyMounted) := by
      refine ⟨hflag, ?_⟩
      unfold anyMounted at hadd hparts ⊢
      rw [hr.parts, hadd, hparts]
    rw [htally.summed_iff hd, htimed]
    by_cases honce : d₀.mountsAtOnce devClass = true
    · rw [honce, if_pos rfl, Bool.true_and]
      exact ⟨fun h _ => h, fun h => h rfl⟩
    · rw [if_neg honce, Bool.eq_false_iff.mpr honce, Bool.false_and, Bool.false_and, Bool.or_false]
      exact iff_of_true rfl fun h => absurd h (by simp)
  | kept hnone hr =>
    rw [hnone] at hflag ⊢
    have hparts : (setDeviceInfo env s d devClass).obj.anyMounted = d.anyMounted := by
      unfold anyMounted
      rw [hr.parts]
    have hdrops : d.DropsParts env devClass → d.diskPartitionList = [] := fun h =>
      hr.parts.symm.trans (setDeviceInfo_dropped env s d devClass h)
    refine iff_of_true ?_ fun h => ?_
    · unfold Summed at hd ⊢
      rw [hflag, hparts, hd]
    · unfold anyMounted
      rw [hdrops h]
      rfl
  | dropped hnone hname hdrops t ht hr =>
    rw [hnone] at hflag ⊢
    have hparts : (setDeviceInfo env s d devClass).obj.anyMounted = false := by
      unfold anyMounted
      rw [hr.parts]
      rfl
    unfold Summed at hd ⊢
    rw [hflag, hparts, hd]
    exact ⟨fun h _ => h, fun h => h hdrops⟩

/-- The thread keeps the flag right: a first partition that gets mounted has it set, and a
last one stays mounted. -/
def SummaryThread (env : Env) (d : StorageDevice) (partition : Nat) : Prop :=
  ∀ p ∈ d.diskPartitionList.find? (·.address = partition),
    (d.anyMounted || (d.fsckThreadCount = 1 && !d.timedOutAfter env p &&
        (d.othersMounted p || env.mountedAfterFsck p PdmFsck.AUTO))) =
      (d.othersMounted p || env.mountedAfterFsck p PdmFsck.AUTO)

/-- A format keeps the flag right: a partition is mounted after it exactly when one was
before. -/
def SummaryFormat (env : Env) (s : Sys) (d : StorageDevice) (driveName fsType label : String) :
    Prop :=
  ∀ p ∈ d.findPartition driveName,
    d.isReadOnly = true ∨ d.anyMounted = (d.othersMounted p || env.mountedAfterFormat s p fsType label)

/-- A check on command, likewise. -/
def SummaryFsck (env : Env) (s : Sys) (d : StorageDevice) (driveName : String) : Prop :=
  ∀ p ∈ d.findPartition driveName,
    d.isReadOnly = true ∨ d.anyMounted = (d.othersMounted p || env.mountedAfterCheck s p)

/-- An eject keeps the flag right: a mounted partition is in use, or none is mounted. -/
def SummaryUmountAll (env : Env) (d : StorageDevice) : Prop :=
  d.anyMounted = d.diskPartitionList.any fun p => p.mounted && env.busy p

/-- A forced mount, which sets the flag when it succeeds, keeps it right. -/
def SummaryEnforce (env : Env) (d : StorageDevice) (needFsck : Bool) : Prop :=
  (d.anyMounted || d.diskPartitionList.all (env.enforces needFsck)) =
    d.diskPartitionList.any (env.mountedAfterEnforce needFsck)

/-- A resume keeps the flag right: of a device with a mounted partition, one can be mounted
again. -/
def SummaryResume (env : Env) (d : StorageDevice) : Prop :=
  d.remounts = true → d.anyMounted = true →
    d.diskPartitionList.any (env.mountedAfterMount · d.isReadOnly) = true

theorem resumeRequest_summed (hd : d.Summed) :
    (resumeRequest env s d).obj.Summed ↔ SummaryResume env d := by
  rw [(resumeRequest_tallied env s d).summed_iff hd]
  unfold SummaryResume
  by_cases hremounts : d.remounts = true
  · rw [hremounts, Bool.true_and, if_pos rfl]
    cases d.anyMounted <;>
      cases d.diskPartitionList.any (env.mountedAfterMount · d.isReadOnly) <;> simp
  · rw [if_neg hremounts, Bool.eq_false_iff.mpr hremounts, Bool.false_and, Bool.or_false]
    exact iff_of_true rfl fun h => absurd h (by simp)

/-- A method that works on the partition it finds, or does nothing. -/
theorem summed_found_iff {driveName : String} {e : StorageDevice} {after : DiskPartitionInfo → Bool}
    (hd : d.Summed) (hnone : d.findPartition driveName = none → e = d)
    (hsome : ∀ p ∈ d.diskPartitionList, d.findPartition driveName = some p →
      Tallied d e false (if d.isReadOnly then d.anyMounted else after p)) :
    e.Summed ↔ ∀ p ∈ d.findPartition driveName, d.isReadOnly = true ∨ d.anyMounted = after p := by
  cases hfind : d.findPartition driveName with
  | none =>
    rw [hnone hfind]
    exact iff_of_true hd fun p hp => absurd hp (by simp)
  | some p =>
    have htally := hsome p (d.findPartition_mem hfind).1 hfind
    rw [htally.summed_iff hd, Bool.or_false]
    refine Iff.trans ?_ ⟨fun h q hq => Option.some.inj hq ▸ h, fun h => h p rfl⟩
    by_cases hreadOnly : d.isReadOnly = true
    · rw [if_pos hreadOnly]
      exact iff_of_true rfl (Or.inl hreadOnly)
    · rw [if_neg hreadOnly, or_iff_right hreadOnly]

/-- Measuring a drive's space leaves the flags alone. -/
theorem getSpaceInfoOn_summed (hd : d.Summed) (hnodup : d.addresses.Nodup) {p : DiskPartitionInfo}
    (hp : p ∈ d.diskPartitionList) (directCheck : Bool) :
    (getSpaceInfoOn env d p directCheck).1.Summed := by
  unfold getSpaceInfoOn
  split
  · cases PdmFs.calculateSpaceInfo env p.mountName with
    | none => exact hd
    | some space =>
      refine ((tallied_setPartition d hp (q := p.setSpace space) rfl).summed_iff hd).mpr ?_
      have hmounted : (p.setSpace space).mounted = p.mounted := rfl
      rw [hmounted, othersMounted_self d hp hnodup, Bool.or_false]
  · exact hd

end StorageDevice

open StorageDevice

/-- When each method keeps the device's flag right. -/
def summaryRules : DeviceRules Summed where
  event := SummaryEvent
  thread := SummaryThread
  format := SummaryFormat
  fsck := SummaryFsck
  umountAll := SummaryUmountAll
  enforce := SummaryEnforce
  resume := SummaryResume
  new_keeps cfg address devClass reader := by
    unfold Summed anyMounted
    rw [StorageDeviceHandler.newDevice_list]
    cases reader <;> rfl
  event_iff {env s d devClass} hd _ := setDeviceInfo_summed env s d devClass hd
  thread_iff {env s d partition} hd _ ts := by
    have hd' : ({ d with fsckThreadArray := ts } : StorageDevice).Summed := hd
    unfold SummaryThread
    cases hfind : d.diskPartitionList.find? (·.address = partition) with
    | none =>
      -- Such a thread sets the flag only where a partition is mounted.
      refine iff_of_true ?_ fun p hp => absurd hp (by simp)
      unfold fsckOnDeviceAddThread fsckPartitionAt
      rw [show ({ d with fsckThreadArray := ts } : StorageDevice).diskPartitionList.find?
        (·.address = partition) = none from hfind]
      rw [(storageDeviceFsckNotification_tallied _ _).summed_iff hd']
      cases StorageDevice.anyMounted { d with fsckThreadArray := ts } <;> simp
    | some p =>
      refine ((fsckOnDeviceAddThread_tallied env s { d with fsckThreadArray := ts }
        hfind).summed_iff hd').trans ?_
      exact ⟨fun h q hq => Option.some.inj hq ▸ h, fun h => h p rfl⟩
  timeout_keeps hd := hd
  format_iff {env s d driveName fsType volumeLabel} hd hnodup := by
    refine summed_found_iff d hd (fun hnone => ?_) fun p hp hfind => ?_
    · unfold formatDiskStart
      rw [hnone]
    · unfold formatDiskStart
      rw [hfind]
      exact formatOn_tallied env s d hnodup hp fsType volumeLabel
  fsck_iff {env s d driveName} hd hnodup := by
    refine summed_found_iff d hd (fun hnone => ?_) fun p hp hfind => ?_
    · unfold StorageDevice.fsck
      rw [hnone]
    · unfold StorageDevice.fsck
      rw [hfind]
      exact fsckOn_tallied env s d hp
  eject_iff {env s d} hd := by
    rw [(eject_tallied env s d).summed_iff hd, Bool.or_false]
    exact Iff.rfl
  umountAll_iff {env s d} hd := by
    rw [(umountAllPartition_tallied env s d).summed_iff hd, Bool.or_false]
    exact Iff.rfl
  enforce_iff {env s d needFsck} hd := (enforceFsckAndMount_tallied env s d needFsck).summed_iff hd
  label_keeps {env s d driveName volumeLabel} hd hnodup := by
    unfold setPartitionVolumeLabel
    cases hfind : d.findPartition driveName with
    | none => exact hd
    | some p =>
      have hp := (d.findPartition_mem hfind).1
      have hobj := setVolumeLabel_obj env s p volumeLabel
      have haddress : (PdmFs.setVolumeLabel env s p volumeLabel).obj.address = p.address := by
        rw [hobj]
        split <;> rfl
      have hmounted : (PdmFs.setVolumeLabel env s p volumeLabel).obj.mounted = p.mounted := by
        rw [hobj]
        split <;> rfl
      refine ((tallied_setPartition d hp haddress).summed_iff hd).mpr ?_
      rw [hmounted, othersMounted_self d hp hnodup, Bool.or_false]
  measure_keeps {env d driveName directCheck} hd hnodup := by
    unfold StorageDevice.getSpaceInfo
    cases hfind : d.findPartition driveName with
    | none => exact hd
    | some p => exact getSpaceInfoOn_summed env d hd hnodup (d.findPartition_mem hfind).1 directCheck
  suspend_keeps {d} hd := by
    have hany : d.suspendRequest.anyMounted = d.anyMounted := by
      unfold suspendRequest anyMounted
      rw [List.any_map]
      rfl
    exact hd.trans hany.symm
  resume_iff {env s d} hd := resumeRequest_summed env s d hd

/-- **The device's mounted flag.**  Along a run, every device's flag is the disjunction of its
partitions' at every step exactly when every step keeps it so. -/
theorem deviceIsMounted_iff (cfg : Config) (is : List (Env × StorageInput)) :
    Runs.StepsAll (StorageSystem.step cfg)
        (fun w i => ∀ d ∈ (w.step cfg i).storage.storageList,
          d.deviceIsMounted = d.diskPartitionList.any (·.mounted)) {} is ↔
      Runs.StepsAll (StorageSystem.step cfg) (summaryRules.Condition cfg) {} is :=
  summaryRules.run_iff cfg is

/-- A stick is plugged in, mounted and ejected. -/
def ejectOnce : List (Env × StorageInput) :=
  StorageSystem.plugStick ++ [(({} : Env), .command (.eject 0))]

/-- The ejected stick has no partition mounted, and is still flagged as mounted. -/
theorem ejected_stick_flagged :
    ¬ Runs.StepsAll (StorageSystem.step .tmpUsb)
        (fun w i => ∀ d ∈ (w.step .tmpUsb i).storage.storageList,
          d.deviceIsMounted = d.diskPartitionList.any (·.mounted)) {} ejectOnce := by
  intro h
  have hlast := h.2.2.2.2.1
  revert hlast
  decide

end Pdm
