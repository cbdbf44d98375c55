/-
The course of a session on a disk that was empty when it began.

`Tracks` says what every event keeps: the device lists exactly the partitions that were
announced since the session began, at addresses of its own.  `Before` and `After` are the
two phases of a session, divided by the announcement with which everything is submitted;
a thread that is left from the medium before finds nothing in either.
-/
import Mathlib.Data.List.Forall2
import Pdm.Proofs.PartitionEvents

namespace Pdm

/-! ### What every event of a session keeps -/

namespace SessionState

open StorageDevice

variable {env : Env} {b t t' : SessionState} {known : List DeviceClass} {e : MediumEvent}

/-- No two partitions have one address, and all addresses have been given out. -/
structure Placed (t : SessionState) : Prop where
  nodup : t.device.addresses.Nodup
  partitions : ∀ a ∈ t.device.addresses, a < t.sys.next
  threads : ∀ a ∈ t.device.fsckThreadArray, a < t.sys.next

/-- How a later state of a session compares with an earlier one. -/
structure Follows (t t' : SessionState) : Prop where
  same : SameMedium t.device t'.device
  next : t.sys.next ≤ t'.sys.next
  kept : t.device.addresses ⊆ t'.device.addresses
  fresh : ∀ a ∈ t'.device.addresses, a ∈ t.device.addresses ∨ t.sys.next ≤ a
  placed : t.Placed → t'.Placed

theorem Follows.refl (t : SessionState) : Follows t t :=
  ⟨SameMedium.refl _, Nat.le_refl _, fun _ h => h, fun _ h => Or.inl h, id⟩

theorem Follows.trans {t'' : SessionState} (h : Follows t t') (h' : Follows t' t'') :
    Follows t t'' := by
  refine ⟨h.same.trans h'.same, h.next.trans h'.next, fun _ ha => h'.kept (h.kept ha), ?_,
    fun hp => h'.placed (h.placed hp)⟩
  intro a ha
  rcases h'.fresh a ha with ha | ha
  · exact h.fresh a ha
  · exact Or.inr (h.next.trans ha)

/-- An event of a session is about a partition. -/
def Usual : MediumEvent → Prop
  | .announce part =>
    part.devName ≠ "" ∧ sMapUsbDeviceType part.devType = .typeDevPartition
  | .check _ => True

/-- What an announcement does to the device. -/
theorem step_announce_device (env : Env) {part : DeviceClass} (husual : Usual (.announce part))
    (hremoved : t.device.isSdCardRemoved = false) :
    ∃ more, step env t (.announce part) =
      { sys := (setPartitionInfo env t.sys t.device part).state
        device := (setPartitionInfo env t.sys t.device part).obj
        submitted := t.submitted ++ more } := by
  unfold step
  dsimp only
  rw [setDeviceInfo_partition env t.sys t.device part husual.2 hremoved]
  exact ⟨_, rfl⟩

/-- A partition that is new is announced. -/
theorem step_announce (env : Env) (hplaced : t.Placed) {part : DeviceClass}
    (husual : Usual (.announce part)) (hremoved : t.device.isSdCardRemoved = false)
    (hnew : part.devName ∉ t.device.diskPartitionList.map (·.driveName)) :
    step env t (.announce part) =
      { sys := (setPartitionInfo env t.sys t.device part).state
        device := (setPartitionInfo env t.sys t.device part).obj
        submitted := t.submitted ++ t.device.submissions env t.sys part } := by
  unfold step
  dsimp only
  rw [setDeviceInfo_partition env t.sys t.device part husual.2 hremoved, hremoved]
  cases hreadOnly : t.device.isReadOnly with
  | true => rfl
  | false =>
    rw [if_pos rfl, setPartitionInfo_started env t.sys t.device part hreadOnly hplaced.nodup
      hplaced.partitions husual.1 hnew]

/-- A partition that is known is announced in vain. -/
theorem step_known {part : DeviceClass} (husual : Usual (.announce part))
    (hremoved : t.device.isSdCardRemoved = false)
    (hknown : part.devName ∈ t.device.diskPartitionList.map (·.driveName)) :
    step env t (.announce part) = t := by
  obtain ⟨hinfo, hsubmissions⟩ :=
    setPartitionInfo_known env t.sys t.device part husual.1 hknown
  unfold step
  dsimp only
  rw [setDeviceInfo_partition env t.sys t.device part husual.2 hremoved, hremoved, hinfo]
  dsimp only
  rw [started_self, hsubmissions]
  simp

theorem step_check {partition : Nat} (hmem : partition ∈ t.device.fsckThreadArray) :
    step env t (.check partition) =
      { sys := (fsckOnDeviceAddThread env t.sys (t.device.takeThread partition) partition).state
        device := (fsckOnDeviceAddThread env t.sys (t.device.takeThread partition) partition).obj
        submitted := t.submitted } :=
  if_pos hmem

theorem step_not_check {partition : Nat} (hmem : partition ∉ t.device.fsckThreadArray) :
    step env t (.check partition) = t :=
  if_neg hmem

theorem step_follows (env : Env) (husual : Usual e) (hremoved : t.device.isSdCardRemoved = false) :
    Follows t (step env t e) := by
  cases e with
  | announce part =>
    by_cases hknown : part.devName ∈ t.device.diskPartitionList.map (·.driveName)
    · rw [step_known husual hremoved hknown]
      exact Follows.refl t
    · obtain ⟨haddresses, hnext⟩ :=
        setPartitionInfo_addresses env t.sys t.device part husual.1 hknown
      have harray := fun a =>
        setPartitionInfo_array env t.sys t.device part a husual.1 hknown
      obtain ⟨more, hstep⟩ := step_announce_device env husual hremoved
      rw [hstep]
      refine ⟨setPartitionInfo_same env t.sys t.device part, ?_, ?_, ?_, ?_⟩
      · show t.sys.next ≤ (setPartitionInfo env t.sys t.device part).state.next
        omega
      · show t.device.addresses ⊆ (setPartitionInfo env t.sys t.device part).obj.addresses
        rw [haddresses]
        exact List.subset_append_left _ _
      · intro a ha
        change a ∈ (setPartitionInfo env t.sys t.device part).obj.addresses at ha
        rw [haddresses, List.mem_append, List.mem_singleton] at ha
        exact ha.imp_right fun heq => Nat.le_of_eq heq.symm
      · intro hplaced
        have hbelow : ∀ a ∈ (setPartitionInfo env t.sys t.device part).obj.addresses,
            a < (setPartitionInfo env t.sys t.device part).state.next := by
          intro a ha
          rw [haddresses, List.mem_append, List.mem_singleton] at ha
          rw [hnext]
          rcases ha with ha | rfl
          · have := hplaced.partitions a ha
            omega
          · exact Nat.lt_succ_self _
        refine ⟨?_, hbelow, ?_⟩
        · show (setPartitionInfo env t.sys t.device part).obj.addresses.Nodup
          rw [haddresses]
          refine List.Nodup.append hplaced.nodup (List.nodup_singleton _) ?_
          intro a ha hsingle
          rw [List.mem_singleton] at hsingle
          exact absurd (hplaced.partitions a ha) (by omega)
        · intro a ha
          rcases harray a ha with ha | ha
          · have := hplaced.threads a ha
            show a < (setPartitionInfo env t.sys t.device part).state.next
            omega
          · exact hbelow a ha
  | check partition =>
    by_cases hmem : partition ∈ t.device.fsckThreadArray
    · obtain ⟨hsame, harray⟩ :=
        fsckOnDeviceAddThread_same env t.sys (t.device.takeThread partition) partition
      have hwithin :=
        fsckOnDeviceAddThread_within env t.sys (t.device.takeThread partition) partition
      have hnext := hwithin.next
      have hplaces : (fsckOnDeviceAddThread env t.sys (t.device.takeThread partition)
          partition).obj.addresses = t.device.addresses := hwithin.addresses
      rw [step_check hmem]
      refine ⟨⟨hsame.core, hsame.partitionCount, hsame.isSdCardRemoved⟩, Nat.le_of_eq hnext.symm,
        ?_, ?_, ?_⟩
      · intro a ha
        rw [hplaces]
        exact ha
      · intro a ha
        rw [hplaces] at ha
        exact Or.inl ha
      · intro hplaced
        refine ⟨?_, ?_, ?_⟩
        · rw [hplaces]
          exact hplaced.nodup
        · intro a ha
          rw [hplaces] at ha
          rw [hnext]
          exact hplaced.partitions a ha
        · intro a ha
          rw [harray] at ha
          rw [hnext]
          exact hplaced.threads a (List.mem_of_mem_erase ha)
    · rw [step_not_check hmem]
      exact Follows.refl t

/-- The events of a session from any state in it on. -/
theorem run_follows (env : Env) {es : List MediumEvent} :
    ∀ {t : SessionState}, (∀ e ∈ es, Usual e) → t.device.isSdCardRemoved = false →
      Follows t (Runs.run (step env) t es) := by
  induction es with
  | nil => intro t _ _; exact Follows.refl t
  | cons e es ih =>
      intro t husual hremoved
      have hstep := step_follows env (husual e (by simp)) hremoved
      have hremoved' : (step env t e).device.isSdCardRemoved = false :=
        hstep.same.isSdCardRemoved.trans hremoved
      exact hstep.trans (ih (fun e he => husual e (by simp [he])) hremoved')

/-! ### What a session knows of its medium -/

open MediumSession (arrive)

theorem arrive_known {part : DeviceClass} (h : part.devName ∈ known.map (·.devName)) :
    arrive known (.announce part) = known :=
  if_pos h

theorem arrive_new {part : DeviceClass} (h : part.devName ∉ known.map (·.devName)) :
    arrive known (.announce part) = known ++ [part] :=
  if_neg h

/-- The partitions of the device are those that were announced since the beginning `b`. -/
structure Tracks (b : SessionState) (known : List DeviceClass) (t : SessionState) : Prop where
  follows : Follows b t
  labels : t.device.labels = known.map fun part => (part.devName, b.device.supports part)

theorem Tracks.names (h : Tracks b known t) :
    t.device.diskPartitionList.map (·.driveName) = known.map (·.devName) := by
  have hfst := congrArg (List.map Prod.fst) h.labels
  unfold StorageDevice.labels at hfst
  rw [List.map_map, List.map_map] at hfst
  exact hfst

theorem Tracks.length (h : Tracks b known t) : t.device.diskPartitionList.length = known.length := by
  simpa using congrArg List.length h.names

theorem Tracks.complete (h : Tracks b known t) (listed : Nat) :
    t.device.Complete listed ↔ b.device.Complete listed := by
  unfold StorageDevice.Complete
  rw [h.follows.same.partitionCount]

theorem Tracks.supports (h : Tracks b known t) (part : DeviceClass) :
    t.device.supports part = b.device.supports part :=
  supports_of_core part h.follows.same.core

theorem Tracks.removed (h : Tracks b known t) (hremoved : b.device.isSdCardRemoved = false) :
    t.device.isSdCardRemoved = false :=
  h.follows.same.isSdCardRemoved.trans hremoved

theorem Tracks.step (env : Env) (h : Tracks b known t) (hplaced : b.Placed)
    (hremoved : b.device.isSdCardRemoved = false) (husual : Usual e) :
    Tracks b (arrive known e) (step env t e) := by
  have hfollows := step_follows env husual (h.removed hremoved)
  refine ⟨h.follows.trans hfollows, ?_⟩
  cases e with
  | announce part =>
    by_cases hknown : part.devName ∈ known.map (·.devName)
    · rw [step_known husual (h.removed hremoved) (h.names ▸ hknown), h.labels,
        arrive_known hknown]
    · obtain ⟨more, hstep⟩ := step_announce_device env husual (h.removed hremoved)
      rw [hstep]
      show (setPartitionInfo env t.sys t.device part).obj.labels = _
      rw [setPartitionInfo_labels env t.sys t.device part husual.1 (h.names ▸ hknown), h.labels,
        h.supports, arrive_new hknown, List.map_append]
      rfl
  | check partition =>
    by_cases hmem : partition ∈ t.device.fsckThreadArray
    · rw [step_check hmem]
      exact (fsckOnDeviceAddThread_labels env t.sys (t.device.takeThread partition) partition
        (h.follows.placed hplaced).nodup).trans h.labels
    · rw [step_not_check hmem]
      exact h.labels

/-- What a new partition makes of the record of submissions. -/
theorem Tracks.submissions (env : Env) (h : Tracks b known t) {part : DeviceClass}
    (husual : Usual (.announce part)) (hnew : part.devName ∉ known.map (·.devName)) :
    t.device.submissions env t.sys part =
      if b.device.Complete (known.length + 1) then b.device.supportedNames (known ++ [part])
      else [] := by
  rw [(setPartitionInfo_new env t.sys t.device part husual.1 (h.names ▸ hnew)).2, h.length,
    if_congr (h.complete _) rfl rfl]
  have hlabels : (t.device.diskPartitionList ++ [t.device.listed part t.sys.next]).map
      (fun p => (p.driveName, p.isSupportedFs)) =
      (known ++ [part]).map fun part => (part.devName, b.device.supports part) := by
    rw [List.map_append, List.map_append]
    refine congrArg₂ _ h.labels ?_
    show [(part.devName, t.device.supports part)] = [(part.devName, b.device.supports part)]
    rw [h.supports part]
  have hnames := congrArg (fun l : List (String × Bool) => (l.filter (·.2)).map (·.1)) hlabels
  rw [List.filter_map, List.filter_map, List.map_map, List.map_map] at hnames
  exact if_congr Iff.rfl hnames rfl

/-- Nothing has been submitted yet. -/
structure Before (b : SessionState) (known : List DeviceClass) (t : SessionState) : Prop where
  tracks : Tracks b known t
  submitted : t.submitted = []
  listed : t.device.diskPartitionList.map (·.moved 0) = known.map fun part =>
    b.device.listed part 0
  idle : ∀ a ∈ t.device.fsckThreadArray, a < b.sys.next
  quiet : b.device.Complete known.length → ∀ part ∈ known, b.device.supports part = false

/-- How far a partition has come that was submitted, or left alone. -/
def Stands (env : Env) (b t : SessionState) (p : DiskPartitionInfo) (part : DeviceClass) : Prop :=
  if p.address ∈ t.device.fsckThreadArray then
    p.moved 0 = b.device.listed part 0 ∧ b.device.supports part = true ∧
      b.device.isReadOnly = false
  else p.moved 0 = b.device.final env part

/-- The partitions have been submitted. -/
structure After (env : Env) (b : SessionState) (known : List DeviceClass) (t : SessionState) :
    Prop where
  tracks : Tracks b known t
  submitted : t.submitted = b.device.supportedNames known
  stands : List.Forall₂ (Stands env b t) t.device.diskPartitionList known
  once : ∀ a, b.sys.next ≤ a → t.device.fsckThreadArray.count a ≤ 1

/-- The beginning of a session with an empty disk. -/
structure Fresh (b : SessionState) : Prop where
  empty : b.device.diskPartitionList = []
  idle : ∀ a ∈ b.device.fsckThreadArray, a < b.sys.next
  removed : b.device.isSdCardRemoved = false
  submitted : b.submitted = []

theorem Fresh.placed (h : Fresh b) : b.Placed := by
  have haddresses : b.device.addresses = [] := by
    unfold StorageDevice.addresses
    rw [h.empty]
    rfl
  refine ⟨?_, ?_, h.idle⟩
  · rw [haddresses]
    exact List.nodup_nil
  · intro a ha
    rw [haddresses] at ha
    exact absurd ha (by simp)

theorem Fresh.tracks (h : Fresh b) : Tracks b [] b := by
  refine ⟨Follows.refl b, ?_⟩
  unfold StorageDevice.labels
  rw [h.empty]
  rfl

theorem Fresh.before (h : Fresh b) : Before b [] b := by
  refine ⟨h.tracks, h.submitted, ?_, h.idle, fun _ part hpart => absurd hpart (by simp)⟩
  rw [h.empty]
  rfl

/-- On an empty disk, every partition that is listed later has a new address. -/
theorem Tracks.own (h : Tracks b known t) (hfresh : Fresh b) :
    ∀ p ∈ t.device.diskPartitionList, b.sys.next ≤ p.address := by
  intro p hp
  have haddress : p.address ∈ t.device.addresses := List.mem_map.mpr ⟨p, hp, rfl⟩
  refine (h.follows.fresh p.address haddress).resolve_left fun hold => ?_
  unfold StorageDevice.addresses at hold
  rw [hfresh.empty] at hold
  exact absurd hold (by simp)

/-! ### The thread of a partition -/

/-- A thread of the medium before this one changes no partition. -/
theorem step_check_stale (env : Env) {partition : Nat} (hmem : partition ∈ t.device.fsckThreadArray)
    (hgone : ∀ p ∈ t.device.diskPartitionList, p.address ≠ partition) :
    (step env t (.check partition)).device.diskPartitionList = t.device.diskPartitionList ∧
      (step env t (.check partition)).device.fsckThreadArray =
        t.device.fsckThreadArray.erase partition := by
  have hfind : (t.device.takeThread partition).diskPartitionList.find?
      (·.address = partition) = none :=
    List.find?_eq_none.mpr fun p hp => by simpa using hgone p hp
  have harray :=
    (fsckOnDeviceAddThread_same env t.sys (t.device.takeThread partition) partition).2
  rw [step_check hmem]
  refine ⟨?_, harray⟩
  unfold fsckOnDeviceAddThread fsckPartitionAt
  rw [hfind]
  exact storageDeviceFsckNotification_list _ _

/-- Otherwise it checks its partition. -/
theorem step_check_own (env : Env) {partition : Nat} (hmem : partition ∈ t.device.fsckThreadArray)
    (hnodup : t.device.addresses.Nodup) {p : DiskPartitionInfo}
    (hp : p ∈ t.device.diskPartitionList) (haddress : p.address = partition) :
    ∃ r : DiskPartitionInfo, r.address = partition ∧
      r.moved 0 = (fsckPartition env {} (p.moved 0) PdmFsck.AUTO).obj ∧
      (step env t (.check partition)).device.diskPartitionList =
        t.device.diskPartitionList.map (fun q => if q.address = partition then r else q) ∧
      (step env t (.check partition)).device.fsckThreadArray =
        t.device.fsckThreadArray.erase partition := by
  have harray :=
    (fsckOnDeviceAddThread_same env t.sys (t.device.takeThread partition) partition).2
  rw [step_check hmem]
  obtain ⟨q, hq⟩ : ∃ q, (t.device.takeThread partition).diskPartitionList.find?
      (·.address = partition) = some q :=
    Option.isSome_iff_exists.mp (List.find?_isSome.mpr ⟨p, hp, decide_eq_true haddress⟩)
  have hqaddress : q.address = partition := by simpa using List.find?_some hq
  have hqp : q = p := List.inj_on_of_nodup_map hnodup (List.mem_of_find?_eq_some hq) hp
    (hqaddress.trans haddress.symm)
  have hr : (fsckPartition env t.sys p PdmFsck.AUTO).obj.address = partition :=
    (DiskPartitionInfo.ident_eq_iff.mp (fsckPartition_ident env t.sys p PdmFsck.AUTO)).1.trans
      haddress
  refine ⟨(fsckPartition env t.sys p PdmFsck.AUTO).obj, hr,
    fsckPartition_moved env t.sys p 0 PdmFsck.AUTO, ?_, harray⟩
  unfold fsckOnDeviceAddThread fsckPartitionAt
  rw [hq, hqp]
  dsimp only
  rw [storageDeviceFsckNotification_list, setPartition_list, hr]
  rfl

/-! ### Before the partitions are submitted -/

theorem Before.check (h : Before b known t) (hfresh : Fresh b) (partition : Nat) :
    Before b known (step env t (.check partition)) := by
  have htracks := h.tracks.step env (e := .check partition) hfresh.placed
    hfresh.removed trivial
  by_cases hmem : partition ∈ t.device.fsckThreadArray
  · have hgone : ∀ p ∈ t.device.diskPartitionList, p.address ≠ partition := by
      intro p hp heq
      have hnew := h.tracks.own hfresh p hp
      have hold := h.idle partition hmem
      omega
    obtain ⟨hlist, harray⟩ := step_check_stale env hmem hgone
    refine ⟨htracks, ?_, ?_, ?_, h.quiet⟩
    · rw [step_check hmem]
      exact h.submitted
    · rw [hlist]
      exact h.listed
    · intro a ha
      rw [harray] at ha
      exact h.idle a (List.mem_of_mem_erase ha)
  · rw [step_not_check hmem]
    exact h

/-- The list after a new partition was added. -/
theorem Before.added (env : Env) (h : Before b known t) (part : DeviceClass) :
    (addPartition env t.sys t.device part).obj.diskPartitionList.map (·.moved 0) =
      (known ++ [part]).map fun part => b.device.listed part 0 := by
  rw [addPartition_list, List.map_append, List.map_append, h.listed]
  refine congrArg _ ?_
  show [t.device.listed part 0] = [b.device.listed part 0]
  rw [listed_of_core 0 part h.tracks.follows.same.core]

/-- Whether a partition of that list is supported. -/
theorem Before.added_supported (env : Env) (h : Before b known t) (part : DeviceClass) :
    (∃ p ∈ (addPartition env t.sys t.device part).obj.diskPartitionList,
        p.isSupportedFs = true) ↔
      ∃ q ∈ known ++ [part], b.device.supports q = true := by
  have hlist := h.added env part
  constructor
  · rintro ⟨p, hp, hsupported⟩
    have hmem : p.moved 0 ∈ (known ++ [part]).map fun part => b.device.listed part 0 :=
      hlist ▸ List.mem_map.mpr ⟨p, hp, rfl⟩
    obtain ⟨q, hq, heq⟩ := List.mem_map.mp hmem
    refine ⟨q, hq, ?_⟩
    have : (p.moved 0).isSupportedFs = true := hsupported
    rw [← heq] at this
    exact this
  · rintro ⟨q, hq, hsupported⟩
    have hmem : b.device.listed q 0 ∈
        (addPartition env t.sys t.device part).obj.diskPartitionList.map (·.moved 0) :=
      hlist ▸ List.mem_map.mpr ⟨q, hq, rfl⟩
    obtain ⟨p, hp, heq⟩ := List.mem_map.mp hmem
    refine ⟨p, hp, ?_⟩
    have : (p.moved 0).isSupportedFs = true := by
      rw [heq]
      exact hsupported
    exact this

/-- A new partition that starts nothing. -/
theorem Before.announce_quiet (h : Before b known t) (hfresh : Fresh b) {part : DeviceClass}
    (husual : Usual (.announce part)) (hnew : part.devName ∉ known.map (·.devName))
    (hquiet : b.device.Complete (known.length + 1) →
      ∀ q ∈ known ++ [part], b.device.supports q = false) :
    Before b (known ++ [part]) (step env t (.announce part)) := by
  have htracks := h.tracks.step env hfresh.placed hfresh.removed husual
  rw [arrive_new hnew] at htracks
  have hremoved := h.tracks.removed hfresh.removed
  have hinfo := (setPartitionInfo_new env t.sys t.device part husual.1
    (h.tracks.names ▸ hnew)).1
  rw [h.tracks.length, if_congr (h.tracks.complete _) rfl rfl] at hinfo
  have hsubmissions := h.tracks.submissions env husual hnew
  have hlength : (known ++ [part]).length = known.length + 1 := List.length_append
  rw [step_announce env (h.tracks.follows.placed hfresh.placed) husual hremoved
    (h.tracks.names ▸ hnew)] at htracks ⊢
  by_cases hcomplete : b.device.Complete (known.length + 1)
  · have hnone : ∀ p ∈ (addPartition env t.sys t.device part).obj.diskPartitionList,
        p.isSupportedFs = false := by
      intro p hp
      by_contra hsupported
      obtain ⟨q, hq, hq'⟩ := (h.added_supported env part).mp
        ⟨p, hp, Bool.eq_true_of_not_eq_false hsupported⟩
      rw [hquiet hcomplete q hq] at hq'
      exact absurd hq' (by simp)
    rw [if_pos hcomplete] at hinfo hsubmissions
    obtain ⟨hlist, harray⟩ := startPartitions_none env
      (addPartition env t.sys t.device part).state (addPartition env t.sys t.device part).obj hnone
    refine ⟨htracks, ?_, ?_, ?_, fun _ => hquiet hcomplete⟩
    · have hnothing : b.device.supportedNames (known ++ [part]) = [] := by
        unfold supportedNames
        rw [List.filter_eq_nil_iff.mpr fun q hq => by simp [hquiet hcomplete q hq]]
        rfl
      show t.submitted ++ _ = []
      rw [hsubmissions, hnothing, h.submitted]
      rfl
    · show (setPartitionInfo env t.sys t.device part).obj.diskPartitionList.map _ = _
      rw [hinfo, hlist]
      exact h.added env part
    · intro a ha
      change a ∈ (setPartitionInfo env t.sys t.device part).obj.fsckThreadArray at ha
      rw [hinfo, harray] at ha
      exact h.idle a ha
  · rw [if_neg hcomplete] at hinfo hsubmissions
    refine ⟨htracks, ?_, ?_, ?_, fun hdone => absurd (hlength ▸ hdone) hcomplete⟩
    · show t.submitted ++ _ = []
      rw [hsubmissions, h.submitted]
      rfl
    · show (setPartitionInfo env t.sys t.device part).obj.diskPartitionList.map _ = _
      rw [hinfo]
      exact h.added env part
    · intro a ha
      change a ∈ (setPartitionInfo env t.sys t.device part).obj.fsckThreadArray at ha
      rw [hinfo] at ha
      exact h.idle a ha

/-! ### Submitting them -/

theorem forall₂_of_map_eq {α β γ : Type} {f : α → γ} {g : β → γ} {l : List α} {l' : List β}
    (h : l.map f = l'.map g) : List.Forall₂ (fun a b => f a = g b) l l' := by
  rw [← List.forall₂_eq_eq_eq] at h
  exact List.forall₂_map_right_iff.mp (List.forall₂_map_left_iff.mp h)

theorem map_eq_of_forall₂ {α β γ : Type} {f : α → γ} {g : β → γ} {l : List α} {l' : List β}
    (h : List.Forall₂ (fun a b => f a = g b) l l') : l.map f = l'.map g := by
  rw [← List.forall₂_eq_eq_eq]
  exact List.forall₂_map_left_iff.mpr (List.forall₂_map_right_iff.mpr h)

/-- A new partition that starts the mounts of a read-only disk. -/
theorem Before.stands_readOnly (h : Before b known t) (hfresh : Fresh b) {part : DeviceClass}
    (hsome : ∃ q ∈ known ++ [part], b.device.supports q = true)
    (hreadOnly : b.device.isReadOnly = true)
    (t' : SessionState)
    (hdevice : t'.device = (startPartitions env (addPartition env t.sys t.device part).state
      (addPartition env t.sys t.device part).obj).obj)
    (htracks : Tracks b (known ++ [part]) t') :
    List.Forall₂ (Stands env b t') t'.device.diskPartitionList (known ++ [part]) ∧
      t'.device.fsckThreadArray = t.device.fsckThreadArray := by
  have hreadOnly' : (addPartition env t.sys t.device part).obj.isReadOnly = true :=
    (isReadOnly_of_core h.tracks.follows.same.core).trans hreadOnly
  obtain ⟨hlist, harray⟩ := startPartitions_mounts env
    (addPartition env t.sys t.device part).state (addPartition env t.sys t.device part).obj
    ((h.added_supported env part).mpr hsome) hreadOnly'
  rw [← hdevice] at hlist harray
  have hfinal : t'.device.diskPartitionList.map (·.moved 0) =
      (known ++ [part]).map (b.device.final env) := by
    have hadded := congrArg
      (List.map fun p => (mountSupported env true {} p).obj) (h.added env part)
    rw [List.map_map, List.map_map] at hadded
    rw [hlist]
    refine hadded.trans (List.map_congr_left fun q _ => ?_)
    exact (final_mounted env b.device q hreadOnly).symm
  refine ⟨?_, harray⟩
  have hpairs := (List.forall₂_and_left _ _).mpr ⟨htracks.own hfresh, forall₂_of_map_eq hfinal⟩
  refine hpairs.imp fun p q ⟨hown, heq⟩ => ?_
  have hnot : p.address ∉ t'.device.fsckThreadArray := by
    intro hmem
    rw [harray] at hmem
    exact absurd (h.idle p.address hmem) (by omega)
  unfold Stands
  rw [if_neg hnot]
  exact heq

/-- A new partition that starts the checks. -/
theorem Before.stands_checks (h : Before b known t) (hfresh : Fresh b) {part : DeviceClass}
    (hsome : ∃ q ∈ known ++ [part], b.device.supports q = true)
    (hreadOnly : b.device.isReadOnly = false)
    (t' : SessionState)
    (hdevice : t'.device = (startPartitions env (addPartition env t.sys t.device part).state
      (addPartition env t.sys t.device part).obj).obj)
    (htracks : Tracks b (known ++ [part]) t') :
    List.Forall₂ (Stands env b t') t'.device.diskPartitionList (known ++ [part]) ∧
      t'.device.fsckThreadArray = t.device.fsckThreadArray ++
        (t'.device.diskPartitionList.filter (·.isSupportedFs)).map (·.address) := by
  have hreadOnly' : (addPartition env t.sys t.device part).obj.isReadOnly = false :=
    (isReadOnly_of_core h.tracks.follows.same.core).trans hreadOnly
  obtain ⟨hlist, harray⟩ := startPartitions_checks env
    (addPartition env t.sys t.device part).state (addPartition env t.sys t.device part).obj
    ((h.added_supported env part).mpr hsome) hreadOnly'
  have harray' : t'.device.fsckThreadArray = t.device.fsckThreadArray ++
      (t'.device.diskPartitionList.filter (·.isSupportedFs)).map (·.address) := by
    rw [hdevice, harray, hlist]
    rfl
  have hadded : t'.device.diskPartitionList.map (·.moved 0) =
      (known ++ [part]).map fun part => b.device.listed part 0 := by
    rw [hdevice, hlist]
    exact h.added env part
  refine ⟨?_, harray'⟩
  have hplaced := htracks.follows.placed hfresh.placed
  have hpairs := (List.forall₂_and_left _ _).mpr
    ⟨fun p (hp : p ∈ t'.device.diskPartitionList) => hp, forall₂_of_map_eq hadded⟩
  refine hpairs.imp fun p q ⟨hp, heq⟩ => ?_
  have hsupports : p.isSupportedFs = b.device.supports q := congrArg (·.isSupportedFs) heq
  have hmem : p.address ∈ t'.device.fsckThreadArray ↔ p.isSupportedFs = true := by
    rw [harray', List.mem_append]
    constructor
    · rintro (hold | hstarted)
      · have hown := htracks.own hfresh p hp
        exact absurd (h.idle p.address hold) (by omega)
      · obtain ⟨r, hr, haddress⟩ := List.mem_map.mp hstarted
        have hrp : r = p :=
          List.inj_on_of_nodup_map hplaced.nodup (List.mem_of_mem_filter hr) hp haddress
        rw [← hrp]
        exact (List.mem_filter.mp hr).2
    · intro hsupported
      exact Or.inr (List.mem_map.mpr ⟨p, List.mem_filter.mpr ⟨hp, hsupported⟩, rfl⟩)
  unfold Stands
  by_cases hsupported : p.isSupportedFs = true
  · rw [if_pos (hmem.mpr hsupported)]
    exact ⟨heq, hsupports ▸ hsupported, hreadOnly⟩
  · rw [if_neg (mt hmem.mp hsupported), heq]
    have hnone : b.device.supports q = false := hsupports ▸ Bool.eq_false_iff.mpr hsupported
    exact (final_unsupported env b.device q hnone).symm

/-- A new partition with which everything is submitted. -/
theorem Before.announce_starts (h : Before b known t) (hfresh : Fresh b) {part : DeviceClass}
    (husual : Usual (.announce part)) (hnew : part.devName ∉ known.map (·.devName))
    (hcomplete : b.device.Complete (known.length + 1))
    (hsome : ∃ q ∈ known ++ [part], b.device.supports q = true) :
    After env b (known ++ [part]) (step env t (.announce part)) := by
  have htracks := h.tracks.step env hfresh.placed hfresh.removed husual
  rw [arrive_new hnew] at htracks
  have hplaced := htracks.follows.placed hfresh.placed
  have hinfo := (setPartitionInfo_new env t.sys t.device part husual.1
    (h.tracks.names ▸ hnew)).1
  rw [h.tracks.length, if_congr (h.tracks.complete _) rfl rfl, if_pos hcomplete] at hinfo
  have hsubmissions := h.tracks.submissions env husual hnew
  rw [if_pos hcomplete] at hsubmissions
  have hstep := step_announce env (h.tracks.follows.placed hfresh.placed) husual
    (h.tracks.removed hfresh.removed) (h.tracks.names ▸ hnew)
  have hdevice : (step env t (.announce part)).device =
      (startPartitions env (addPartition env t.sys t.device part).state
        (addPartition env t.sys t.device part).obj).obj := by
    rw [hstep]
    exact congrArg (·.obj) hinfo
  have hsubmitted : (step env t (.announce part)).submitted =
      b.device.supportedNames (known ++ [part]) := by
    rw [hstep]
    show t.submitted ++ _ = _
    rw [h.submitted, hsubmissions]
    rfl
  have hidle : ∀ a, b.sys.next ≤ a → t.device.fsckThreadArray.count a = 0 := by
    intro a ha
    refine List.count_eq_zero.mpr fun hmem => ?_
    have := h.idle a hmem
    omega
  cases hreadOnly : b.device.isReadOnly with
  | true =>
    obtain ⟨hstands, harray⟩ := h.stands_readOnly hfresh hsome hreadOnly _ hdevice htracks
    refine ⟨htracks, hsubmitted, hstands, fun a ha => ?_⟩
    rw [harray, hidle a ha]
    omega
  | false =>
    obtain ⟨hstands, harray⟩ := h.stands_checks hfresh hsome hreadOnly _ hdevice htracks
    refine ⟨htracks, hsubmitted, hstands, fun a ha => ?_⟩
    rw [harray, List.count_append, hidle a ha, Nat.zero_add]
    refine List.nodup_iff_count_le_one.mp (hplaced.nodup.sublist ?_) a
    exact List.Sublist.map _ List.filter_sublist

/-! ### After they were submitted -/

theorem After.check (h : After env b known t) (hfresh : Fresh b) (partition : Nat) :
    After env b known (step env t (.check partition)) := by
  have htracks := h.tracks.step env (e := .check partition) hfresh.placed
    hfresh.removed trivial
  by_cases hmem : partition ∈ t.device.fsckThreadArray
  · have hsubmitted : (step env t (.check partition)).submitted = t.submitted := by
      rw [step_check hmem]
    have hplaced := h.tracks.follows.placed hfresh.placed
    have hold := (List.forall₂_and_left _ _).mpr
      ⟨fun p (hp : p ∈ t.device.diskPartitionList) => hp, h.stands⟩
    by_cases hgone : ∀ p ∈ t.device.diskPartitionList, p.address ≠ partition
    · obtain ⟨hlist, harray⟩ := step_check_stale env hmem hgone
      refine ⟨htracks, hsubmitted.trans h.submitted, ?_, ?_⟩
      · rw [hlist]
        refine hold.imp fun p q ⟨hp, hstands⟩ => ?_
        have hiff : p.address ∈ (step env t (.check partition)).device.fsckThreadArray ↔
            p.address ∈ t.device.fsckThreadArray := by
          rw [harray]
          exact List.mem_erase_of_ne (hgone p hp)
        unfold Stands at hstands ⊢
        rw [if_congr hiff rfl rfl]
        exact hstands
      · intro a ha
        rw [harray]
        exact (List.Sublist.count_le a List.erase_sublist).trans (h.once a ha)
    · push Not at hgone
      obtain ⟨p, hp, haddress⟩ := hgone
      obtain ⟨r, hr, hmoved, hlist, harray⟩ :=
        step_check_own env hmem hplaced.nodup hp haddress
      have hown : b.sys.next ≤ partition := haddress ▸ h.tracks.own hfresh p hp
      have hdone : partition ∉ t.device.fsckThreadArray.erase partition := by
        rw [← List.count_pos_iff, List.count_erase_self]
        have := h.once partition hown
        omega
      refine ⟨htracks, hsubmitted.trans h.submitted, ?_, ?_⟩
      · rw [hlist]
        refine List.forall₂_map_left_iff.mpr (hold.imp fun q part ⟨hq, hstands⟩ => ?_)
        unfold Stands at hstands ⊢
        rw [harray]
        by_cases hqaddress : q.address = partition
        · -- the partition whose thread has run
          have hqp : q = p := List.inj_on_of_nodup_map hplaced.nodup hq hp
            (hqaddress.trans haddress.symm)
          rw [if_pos (hqaddress ▸ hmem)] at hstands
          obtain ⟨hlisted, hsupports, hreadOnly⟩ := hstands
          rw [if_pos hqaddress, hr, if_neg hdone, hmoved, ← hqp, hlisted]
          exact (final_checked env b.device part hsupports hreadOnly).symm
        · rw [if_neg hqaddress, if_congr (List.mem_erase_of_ne hqaddress) rfl rfl]
          exact hstands
      · intro a ha
        rw [harray]
        exact (List.Sublist.count_le a List.erase_sublist).trans (h.once a ha)
  · rw [step_not_check hmem]
    exact h

theorem After.announce_known (h : After env b known t) (hfresh : Fresh b) {part : DeviceClass}
    (husual : Usual (.announce part)) (hknown : part.devName ∈ known.map (·.devName)) :
    step env t (.announce part) = t :=
  step_known husual (h.tracks.removed hfresh.removed) (h.tracks.names ▸ hknown)

end SessionState

end Pdm
