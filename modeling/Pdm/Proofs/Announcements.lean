/-
What a storage device says of its medium.

ADD comes from a check that ends the round, from the mounts of a read-only disk and from a
medium pdm has no file system for; REMOVE comes from a card that goes and, for the device
that goes itself, from its handler.  Each method is described by what it posts (`Sends`) as a
function of the device before it and of the answers the system will give.
-/
import Pdm.Proofs.PartitionEvents
import Pdm.Proofs.Posts
import Pdm.Proofs.WellFormed

namespace Pdm

open Visit (visit)

namespace StorageDevice

variable (env : Env) (s : Sys) (d : StorageDevice) (devClass : DeviceClass)

/-- What a method posts.  ADD is never sent without the flag being set. -/
structure Sends (bs : List (EventType × Option Nat)) (s : Sys) (d : StorageDevice) (t : Sys)
    (e : StorageDevice) : Prop where
  posts : t.posts = s.posts ++ bs
  notified : e.isDevAddEventNotified = (d.isDevAddEventNotified || bs.any (·.1 = .add))

namespace Sends

variable {s t u : Sys} {d e f : StorageDevice} {bs cs : List (EventType × Option Nat)}

theorem silent (hposts : t.posts = s.posts)
    (hnotified : e.isDevAddEventNotified = d.isDevAddEventNotified) : Sends [] s d t e :=
  ⟨hposts.trans (List.append_nil _).symm, hnotified.trans (Bool.or_false _).symm⟩

theorem refl (s : Sys) (d : StorageDevice) : Sends [] s d s d := silent rfl rfl

theorem trans (h : Sends bs s d t e) (h' : Sends cs t e u f) : Sends (bs ++ cs) s d u f := by
  refine ⟨?_, ?_⟩
  · rw [h'.posts, h.posts, List.append_assoc]
  · rw [h'.notified, h.notified, List.any_append, Bool.or_assoc]

/-- Silence before. -/
theorem after (h : Sends [] s d t e) (h' : Sends cs t e u f) : Sends cs s d u f := h.trans h'

/-- Silence after. -/
theorem andThen (h : Sends bs s d t e) (h' : Sends [] t e u f) : Sends bs s d u f := by
  have hboth := h.trans h'
  rw [List.append_nil] at hboth
  exact hboth

end Sends

/-- A medium that is mounted, or whose check takes too long, is announced. -/
def Announceable (parts : List DiskPartitionInfo) : Bool :=
  parts.any (fun p => p.fsckStatus = PdmDevStatus.fsckTimeout.code) || parts.any (·.mounted)

/-- The post that announces the device's medium. -/
def added (d : StorageDevice) (announced : Bool) : List (EventType × Option Nat) :=
  if announced then [(.add, some d.address)] else []

/-! ### The end of a round of checks -/

theorem storageDeviceNotification_sends :
    Sends (d.added (Announceable d.diskPartitionList)) s d (storageDeviceNotification s d).state
      (storageDeviceNotification s d).obj := by
  have hadd : ∀ t : Sys, (handlerCb t .add (some d.address)).posts =
      t.posts ++ [(.add, some d.address)] := fun t => by
    rw [handlerCb_posts, if_pos (by decide)]
  unfold storageDeviceNotification added Announceable
  dsimp only
  by_cases htimeout : (d.diskPartitionList.any
      fun p => p.fsckStatus = PdmDevStatus.fsckTimeout.code) = true
  · rw [if_pos htimeout, htimeout, Bool.true_or]
    refine ⟨?_, (Bool.or_true _).symm⟩
    show (handlerCb _ _ _).posts = _
    rw [hadd, handlerCb_quiet _ _ (by decide)]
    rfl
  · rw [if_neg htimeout, Bool.eq_false_iff.mpr htimeout, Bool.false_or]
    by_cases hmounted : d.diskPartitionList.any (·.mounted) = true
    · rw [if_pos hmounted, hmounted]
      exact ⟨hadd s, (Bool.or_true _).symm⟩
    · rw [if_neg hmounted, Bool.eq_false_iff.mpr hmounted]
      exact Sends.refl s d

theorem storageDeviceNotification_obj :
    (storageDeviceNotification s d).obj = (storageDeviceNotification {} d).obj := by
  unfold storageDeviceNotification
  dsimp only
  split
  · rfl
  · split <;> rfl

theorem fsckPartitionAt_obj (partition : Nat) :
    (fsckPartitionAt env s d partition).obj = (fsckPartitionAt env {} d partition).obj := by
  unfold fsckPartitionAt
  cases d.diskPartitionList.find? (·.address = partition) with
  | none => rfl
  | some p =>
    dsimp only
    rw [fsckPartition_obj env s]

/-- A check counts nothing and notifies of nothing. -/
theorem fsckPartitionAt_device (partition : Nat) :
    (fsckPartitionAt env s d partition).obj.fsckThreadCount = d.fsckThreadCount ∧
      (fsckPartitionAt env s d partition).obj.isDevAddEventNotified = d.isDevAddEventNotified := by
  unfold fsckPartitionAt
  cases d.diskPartitionList.find? (·.address = partition) with
  | none => exact ⟨rfl, rfl⟩
  | some p => exact ⟨rfl, rfl⟩

theorem fsckPartitionAt_sends (partition : Nat) :
    Sends [] s d (fsckPartitionAt env s d partition).state
      (fsckPartitionAt env s d partition).obj := by
  refine Sends.silent ?_ (fsckPartitionAt_device env s d partition).2
  unfold fsckPartitionAt
  cases d.diskPartitionList.find? (·.address = partition) with
  | none => exact (handlerCb_quiet _ _ (by decide)).trans (handlerCb_quiet _ _ (by decide))
  | some p => simp

/-- The thread of this partition is the last of its round, and the medium is announced. -/
def endsRound (env : Env) (d : StorageDevice) (partition : Nat) : Bool :=
  d.fsckThreadCount = 1 && Announceable (fsckPartitionAt env {} d partition).obj.diskPartitionList

/-- The threads that have yet to run do not matter. -/
theorem endsRound_threads (ts : List Nat) (partition : Nat) :
    endsRound env { d with fsckThreadArray := ts } partition = d.endsRound env partition := by
  unfold endsRound fsckPartitionAt
  dsimp only
  cases d.diskPartitionList.find? (·.address = partition) with
  | none => rfl
  | some p => rfl

theorem fsckOnDeviceAddThread_sends (partition : Nat) :
    Sends (d.added (d.endsRound env partition)) s d
      (fsckOnDeviceAddThread env s d partition).state
      (fsckOnDeviceAddThread env s d partition).obj := by
  have hcheck := fsckPartitionAt_sends env s d partition
  have haddress := address_of_core (fsckPartitionAt_core env s d partition)
  have hcount := (fsckPartitionAt_device env s d partition).1
  unfold fsckOnDeviceAddThread endsRound
  rw [← fsckPartitionAt_obj env s]
  generalize fsckPartitionAt env s d partition = checked at *
  refine hcheck.after ?_
  have hzero : checked.obj.fsckThreadCount - 1 = 0 ↔ checked.obj.fsckThreadCount = 1 := by omega
  unfold storageDeviceFsckNotification added
  dsimp only
  rw [← hcount, ← haddress]
  by_cases hlast : checked.obj.fsckThreadCount = 1
  · rw [if_pos (hzero.mpr hlast), decide_eq_true hlast, Bool.true_and]
    have hsends := storageDeviceNotification_sends checked.state
      { checked.obj with fsckThreadCount := checked.obj.fsckThreadCount - 1 }
    exact ⟨hsends.posts, hsends.notified⟩
  · rw [if_neg (mt hzero.mp hlast), decide_eq_false hlast, Bool.false_and]
    exact Sends.silent rfl rfl

theorem fsckOnDeviceAddThread_obj (partition : Nat) :
    (fsckOnDeviceAddThread env s d partition).obj =
      (fsckOnDeviceAddThread env {} d partition).obj := by
  unfold fsckOnDeviceAddThread
  dsimp only
  rw [fsckPartitionAt_obj env s]
  unfold storageDeviceFsckNotification
  dsimp only
  split
  · rw [storageDeviceNotification_obj,
      storageDeviceNotification_obj (fsckPartitionAt env {} d partition).state]
  · rfl

/-- The announcements of the threads that are joined. -/
def joinRounds (env : Env) : StorageDevice → List Nat → Nat
  | _, [] => 0
  | d, t :: ts =>
    (if d.endsRound env t then 1 else 0) + joinRounds env (fsckOnDeviceAddThread env {} d t).obj ts

theorem joinThreads_sends : ∀ (ts : List Nat) (s : Sys) (d : StorageDevice),
    Sends (List.replicate (joinRounds env d ts) (.add, some d.address)) s d
      (joinThreads env s d ts).state (joinThreads env s d ts).obj := by
  intro ts
  induction ts with
  | nil => intro s d; exact Sends.silent rfl rfl
  | cons t ts ih =>
      intro s d
      have hthread := fsckOnDeviceAddThread_sends env s d t
      have hrest := ih (fsckOnDeviceAddThread env s d t).state (fsckOnDeviceAddThread env s d t).obj
      rw [address_of_core (fsckOnDeviceAddThread_within env s d t).core] at hrest
      have hsplit : List.replicate (joinRounds env d (t :: ts)) (EventType.add, some d.address) =
          d.added (d.endsRound env t) ++
            List.replicate (joinRounds env (fsckOnDeviceAddThread env s d t).obj ts)
              (.add, some d.address) := by
        rw [joinRounds, ← fsckOnDeviceAddThread_obj env s, List.replicate_add]
        refine congrArg (· ++ _) ?_
        unfold added
        split <;> rfl
      rw [hsplit]
      exact hthread.trans hrest

/-! ### The medium is listed in full -/

/-- The medium is announced at once: pdm has no file system for it, or it is read-only and
one of its partitions gets mounted. -/
def startsAnnounced (env : Env) (d : StorageDevice) : Bool :=
  if d.diskPartitionList.any (·.isSupportedFs) then
    d.isReadOnly && Announceable
      (d.diskPartitionList.map fun p => (mountSupported env d.isReadOnly {} (p.moved 0)).obj)
  else true

theorem announceable_moved (parts : List DiskPartitionInfo) :
    Announceable (parts.map (·.moved 0)) = Announceable parts := by
  unfold Announceable
  rw [List.any_map, List.any_map]
  rfl

theorem startPartitions_sends :
    Sends (d.added (d.startsAnnounced env)) s d (startPartitions env s d).state
      (startPartitions env s d).obj := by
  unfold startPartitions startsAnnounced
  by_cases hsupported : d.diskPartitionList.any (·.isSupportedFs) = true
  · rw [if_pos hsupported, if_pos hsupported]
    by_cases hreadOnly : d.isReadOnly = true
    · rw [if_pos hreadOnly, hreadOnly, Bool.true_and]
      dsimp only
      have hmounts : Sends [] s d (mountAllPartition env s d).state (mountAllPartition env s d).obj :=
        Sends.silent (by simp) rfl
      have hlist := mountAllPartition_list env s d
      rw [hreadOnly] at hlist
      rw [← hlist, announceable_moved]
      exact hmounts.after (storageDeviceNotification_sends _ _)
    · rw [if_neg hreadOnly, Bool.eq_false_iff.mpr hreadOnly, Bool.false_and]
      exact Sends.silent rfl rfl
  · rw [if_neg hsupported, if_neg hsupported]
    refine ⟨?_, (Bool.or_true _).symm⟩
    show (handlerCb _ _ _).posts = _
    rw [handlerCb_quiet _ _ (by decide), handlerCb_posts, if_pos (by decide)]
    rfl

/-- Whether a medium is announced at once does not depend on where its partitions are. -/
theorem startsAnnounced_congr {d e : StorageDevice} (hreadOnly : d.isReadOnly = e.isReadOnly)
    (hlist : d.diskPartitionList.map (·.moved 0) = e.diskPartitionList.map (·.moved 0)) :
    d.startsAnnounced env = e.startsAnnounced env := by
  have hany : ∀ c : StorageDevice, c.diskPartitionList.any (·.isSupportedFs) =
      (c.diskPartitionList.map (·.moved 0)).any (·.isSupportedFs) := fun c => by
    rw [List.any_map]
    rfl
  have hmap : ∀ c : StorageDevice,
      (c.diskPartitionList.map fun p => (mountSupported env c.isReadOnly {} (p.moved 0)).obj) =
        (c.diskPartitionList.map (·.moved 0)).map
          fun p => (mountSupported env c.isReadOnly {} p).obj := fun c => by
    rw [List.map_map]
    rfl
  unfold startsAnnounced
  rw [hany d, hany e, hmap d, hmap e, hlist, hreadOnly]

/-- The event's partition is the last of a medium that is announced at once. -/
def announcedBy (env : Env) (d : StorageDevice) (devClass : DeviceClass) : Bool :=
  (d.findPartition devClass.devName).isNone && decide (d.Complete (d.diskPartitionList.length + 1))
    && { d with
      diskPartitionList := d.diskPartitionList ++ [d.listed devClass 0] }.startsAnnounced env

theorem setPartitionInfo_sends :
    Sends (d.added (d.announcedBy env devClass)) s d (setPartitionInfo env s d devClass).state
      (setPartitionInfo env s d devClass).obj := by
  unfold setPartitionInfo announcedBy
  cases hfound : d.findPartition devClass.devName with
  | some p => exact Sends.refl s d
  | none =>
    have hadd : Sends [] s d (addPartition env s d devClass).state
        (addPartition env s d devClass).obj := Sends.silent (by simp) rfl
    have hlist := addPartition_listed env s d devClass
    have hcomplete := addPartition_complete env s d devClass
    simp only [Option.isSome_none, Option.isNone_none, Bool.false_eq_true, if_false, Bool.true_and]
    by_cases hall : d.Complete (d.diskPartitionList.length + 1)
    · rw [if_pos (hcomplete.mpr hall), decide_eq_true hall, Bool.true_and]
      have hstart := startPartitions_sends env (addPartition env s d devClass).state
        (addPartition env s d devClass).obj
      rw [startsAnnounced_congr env (d := (addPartition env s d devClass).obj)
        (e := { d with diskPartitionList := d.diskPartitionList ++ [d.listed devClass 0] }) rfl
        (by rw [hlist, List.map_append, List.map_append]; rfl)] at hstart
      exact hadd.after hstart
    · rw [if_neg (mt hcomplete.mp hall), decide_eq_false hall, Bool.false_and]
      exact hadd

/-! ### A card that goes -/

theorem checkSdCardAddRemove_sends :
    Sends (if d.LosesCard env devClass then [(.remove, none)] else []) s d
      (checkSdCardAddRemove env s d devClass).state
      (checkSdCardAddRemove env s d devClass).obj := by
  unfold checkSdCardAddRemove
  by_cases hstick : d.storageType = .usbStick
  · by_cases hmedia : devClass.isDiskMediaChange = YES
    · by_cases hreader : devClass.isCardReader = YES
      · have hloses : d.LosesCard env devClass ↔ env.partitionCount d.deviceName = 0 :=
          ⟨fun h => h.2.2.2, fun h => ⟨hstick, hreader, hmedia, h⟩⟩
        rw [if_neg (not_not_intro hstick), if_neg (not_not_intro hmedia),
          if_neg (not_not_intro hreader)]
        dsimp only
        rw [countPartitions_fst]
        by_cases hcount : env.partitionCount d.deviceName = 0
        · rw [if_pos hcount, if_pos (hloses.mpr hcount)]
          refine ⟨?_, (Bool.or_false _).symm⟩
          show (handlerCb _ _ _).posts = _
          rw [handlerCb_posts, if_pos (by decide)]
          show (deletePartitionData env (countPartitions env s d.deviceName).2 d).state.posts ++ _ = _
          rw [deletePartitionData_posts, countPartitions_posts]
        · rw [if_neg hcount, if_neg (mt hloses.mp hcount)]
          exact Sends.silent (by simp) rfl
      · rw [if_neg (not_not_intro hstick), if_neg (not_not_intro hmedia), if_pos hreader,
          if_neg fun h => hreader h.2.1]
        exact Sends.refl s d
    · rw [if_neg (not_not_intro hstick), if_pos hmedia, if_neg fun h => hmedia h.2.2.1]
      exact Sends.refl s d
  · rw [if_pos hstick, if_neg fun h => hstick h.1]
    exact Sends.refl s d

theorem handleCardReaderDeviceChange_sends :
    Sends (if env.partitionCount d.deviceName ≠ d.partitionCount ∧ d.partitionCount ≠ 0 then
        [(.remove, none)] else []) s d
      (handleCardReaderDeviceChange env s d).state (handleCardReaderDeviceChange env s d).obj := by
  unfold handleCardReaderDeviceChange
  dsimp only
  rw [countPartitions_fst]
  by_cases hcount : env.partitionCount d.deviceName = d.partitionCount
  · rw [if_neg (not_not_intro hcount), if_neg fun h => h.1 hcount]
    exact Sends.silent (by simp) rfl
  · rw [if_pos hcount]
    by_cases hknown : d.partitionCount = 0
    · rw [if_neg (not_not_intro hknown), if_neg fun h => h.2 hknown]
      exact Sends.silent (by simp) rfl
    · rw [if_pos hknown, if_pos ⟨hcount, hknown⟩]
      refine ⟨?_, (Bool.or_false _).symm⟩
      show (handlerCb _ _ _).posts = _
      rw [handlerCb_posts, if_pos (by decide), deletePartitionData_posts, countPartitions_posts]

/-! ### A whole event -/

/-- What an event makes the device post. -/
def said (env : Env) (d : StorageDevice) (devClass : DeviceClass) :
    List (EventType × Option Nat) :=
  match receiver env d devClass with
  | some d₀ => d.added (d₀.announcedBy env devClass)
  | none => if d.DropsParts env devClass then [(.remove, none)] else []

theorem updateMultiSdCard_sends : Sends [] s d s (updateMultiSdCard env d devClass) := by
  refine Sends.silent rfl ?_
  unfold updateMultiSdCard
  split <;> rfl

theorem updateMultiSdCard_losesCard :
    (updateMultiSdCard env d devClass).LosesCard env devClass ↔ d.LosesCard env devClass := by
  unfold LosesCard
  rw [updateMultiSdCard_storageType, updateMultiSdCard_deviceName]

/-- The card is looked for once the disk is up to date. -/
theorem checkSdCardAddRemove_after_sends {bs : List (EventType × Option Nat)}
    {r : Out StorageDevice Unit} (h : Sends bs s d r.state r.obj) :
    Sends (bs ++ if r.obj.LosesCard env devClass then [(.remove, none)] else []) s d
      (checkSdCardAddRemove env r.state (updateMultiSdCard env r.obj devClass) devClass).state
      (checkSdCardAddRemove env r.state (updateMultiSdCard env r.obj devClass) devClass).obj := by
  have hcheck := checkSdCardAddRemove_sends env r.state (updateMultiSdCard env r.obj devClass) devClass
  rw [if_congr (updateMultiSdCard_losesCard env r.obj devClass) rfl rfl] at hcheck
  exact h.trans ((updateMultiSdCard_sends env r.state r.obj devClass).after hcheck)

/-- Where a card cannot be lost. -/
theorem checkSdCardAddRemove_keeps_sends {bs : List (EventType × Option Nat)}
    {r : Out StorageDevice Unit} (h : Sends bs s d r.state r.obj)
    (hkeeps : ¬ r.obj.LosesCard env devClass) :
    Sends bs s d
      (checkSdCardAddRemove env r.state (updateMultiSdCard env r.obj devClass) devClass).state
      (checkSdCardAddRemove env r.state (updateMultiSdCard env r.obj devClass) devClass).obj := by
  have hafter := checkSdCardAddRemove_after_sends env s d devClass h
  rw [if_neg hkeeps, List.append_nil] at hafter
  exact hafter

theorem updateDiskInfo_add_sends (hsd : d.isSdCardRemoved = false)
    (hdisk : sMapUsbDeviceType devClass.devType = .typeDevDisk)
    (haction : getDeviceAction devClass.action = .usbDevAdd) :
    Sends (d.said env devClass) s d
      (checkSdCardAddRemove env (updateDiskInfo env s d devClass).state
        (updateMultiSdCard env (updateDiskInfo env s d devClass).obj devClass) devClass).state
      (checkSdCardAddRemove env (updateDiskInfo env s d devClass).state
        (updateMultiSdCard env (updateDiskInfo env s d devClass).obj devClass) devClass).obj := by
  have htype := nameDisk_not_both d devClass
  have hcount : Sends [] s d (countPartitions env s (d.nameDisk devClass).deviceName).2
      { d.nameDisk devClass with
        partitionCount := env.partitionCount (d.nameDisk devClass).deviceName } :=
    Sends.silent (by simp) rfl
  have hdrops := d.not_dropsParts_of_add env devClass haction
  unfold updateDiskInfo said receiver
  simp only [hsd, hdisk, haction, Bool.false_eq_true, if_false, countPartitions_fst]
  by_cases hwhole : env.partitionCount (d.nameDisk devClass).deviceName = 0 ∧
      (d.nameDisk devClass).storageType ≠ .usbCardReader
  · rw [if_pos hwhole, if_pos hwhole]
    refine checkSdCardAddRemove_keeps_sends env s d devClass
      (hcount.after (setPartitionInfo_sends env _ _ devClass)) fun hloses => htype ⟨?_, hloses.2.1⟩
    have hstick := hloses.1
    rw [setPartitionInfo_storageType] at hstick
    exact hstick
  · rw [if_neg hwhole, if_neg hwhole]
    dsimp only
    rw [if_neg hdrops]
    exact checkSdCardAddRemove_keeps_sends env s d devClass (r := ⟨_, _, ()⟩) hcount
      fun hloses => htype ⟨hloses.1, hloses.2.1⟩

theorem updateDiskInfo_change_sends (hsd : d.isSdCardRemoved = false)
    (hdisk : sMapUsbDeviceType devClass.devType = .typeDevDisk)
    (haction : getDeviceAction devClass.action = .usbDevChange) :
    Sends (d.said env devClass) s d
      (checkSdCardAddRemove env (updateDiskInfo env s d devClass).state
        (updateMultiSdCard env (updateDiskInfo env s d devClass).obj devClass) devClass).state
      (checkSdCardAddRemove env (updateDiskInfo env s d devClass).state
        (updateMultiSdCard env (updateDiskInfo env s d devClass).obj devClass) devClass).obj := by
  have hcount : Sends [] s d (countPartitions env s d.deviceName).2 d := Sends.silent (by simp) rfl
  unfold updateDiskInfo said receiver
  simp only [hsd, hdisk, haction, Bool.false_eq_true, if_false, countPartitions_fst]
  by_cases hreader : d.storageType = .usbCardReader
  · have hdrops : d.DropsParts env devClass ↔
        env.partitionCount d.deviceName ≠ d.partitionCount ∧ d.partitionCount ≠ 0 := by
      refine ⟨?_, fun h => ⟨hsd, hdisk, Or.inl ⟨haction, hreader, h⟩⟩⟩
      rintro ⟨-, -, hchange | ⟨-, hloses⟩⟩
      · exact hchange.2.2
      · exact absurd (hreader.symm.trans hloses.1) (by decide)
    rw [if_pos hreader, if_neg fun h => h.1 hreader]
    dsimp only
    rw [if_congr hdrops rfl rfl]
    refine checkSdCardAddRemove_keeps_sends env s d devClass
      (handleCardReaderDeviceChange_sends env s d) fun hloses => ?_
    have hstick := hloses.1
    rw [storageType_of_core (handleCardReaderDeviceChange_core env s d), hreader] at hstick
    exact absurd hstick (by decide)
  · rw [if_neg hreader]
    by_cases hwhole : env.partitionCount d.deviceName = 0 ∧ devClass.isCardReader ≠ YES
    · rw [if_pos hwhole, if_pos ⟨hreader, hwhole⟩]
      exact checkSdCardAddRemove_keeps_sends env s d devClass
        (hcount.after (setPartitionInfo_sends env _ d devClass)) fun hloses => hwhole.2 hloses.2.1
    · have hdrops : d.DropsParts env devClass ↔ d.LosesCard env devClass := by
        refine ⟨?_, fun h => ⟨hsd, hdisk, Or.inr ⟨by rw [haction]; decide, h⟩⟩⟩
        rintro ⟨-, -, hchange | ⟨-, hloses⟩⟩
        · exact absurd hchange.2.1 hreader
        · exact hloses
      rw [if_neg hwhole, if_neg fun h => hwhole h.2]
      dsimp only
      rw [if_congr hdrops rfl rfl]
      exact checkSdCardAddRemove_after_sends env s d devClass (r := ⟨_, _, ()⟩) hcount

/-- A disk event that neither adds nor changes the disk. -/
theorem updateDiskInfo_other_sends (hsd : d.isSdCardRemoved = false)
    (hdisk : sMapUsbDeviceType devClass.devType = .typeDevDisk)
    (hadd : getDeviceAction devClass.action ≠ .usbDevAdd)
    (hchange : getDeviceAction devClass.action ≠ .usbDevChange) :
    Sends (d.said env devClass) s d
      (checkSdCardAddRemove env s (updateMultiSdCard env d devClass) devClass).state
      (checkSdCardAddRemove env s (updateMultiSdCard env d devClass) devClass).obj := by
  have hnone : receiver env d devClass = none := by
    unfold receiver
    rw [if_neg (by simp [hsd]), hdisk]
    dsimp only
    split
    · contradiction
    · contradiction
    · rfl
  have hdrops : d.DropsParts env devClass ↔ d.LosesCard env devClass := by
    refine ⟨?_, fun h => ⟨hsd, hdisk, Or.inr ⟨hadd, h⟩⟩⟩
    rintro ⟨-, -, hchanges | ⟨-, hloses⟩⟩
    · exact absurd hchanges.1 hchange
    · exact hloses
  unfold said
  rw [hnone]
  dsimp only
  rw [if_congr hdrops rfl rfl]
  exact checkSdCardAddRemove_after_sends env s d devClass (r := ⟨s, d, ()⟩) (Sends.refl s d)

/-- **What an event makes a device post.** -/
theorem setDeviceInfo_sends :
    Sends (d.said env devClass) s d (setDeviceInfo env s d devClass).state
      (setDeviceInfo env s d devClass).obj := by
  unfold setDeviceInfo
  dsimp only
  rw [triggerUevent_ret]
  by_cases hsd : d.isSdCardRemoved = true
  · have hsilent : d.said env devClass = [] := by
      unfold said receiver
      rw [if_pos hsd]
      dsimp only
      rw [if_neg fun h => absurd h.1 (by simp [hsd])]
    rw [if_pos hsd, hsilent]
    refine Sends.silent (by simp) ?_
    unfold triggerUevent
    rw [if_neg (by simp [hsd])]
  · rw [if_neg hsd]
    have hsd' := Bool.eq_false_iff.mpr hsd
    cases hkind : sMapUsbDeviceType devClass.devType with
    | typeDevUsb =>
      have hsilent : d.said env devClass = [] := by
        unfold said receiver
        rw [if_neg hsd, hkind]
        dsimp only
        rw [if_neg fun h => absurd (hkind.symm.trans h.2.1) (by decide)]
      rw [hsilent]
      refine Sends.silent rfl ?_
      dsimp only
      unfold updateDeviceInfo
      dsimp only
      split <;> rfl
    | typeDevPartition =>
      have hself : d.said env devClass = d.added (d.announcedBy env devClass) := by
        unfold said receiver
        rw [if_neg hsd, hkind]
      rw [hself]
      exact setPartitionInfo_sends env s d devClass
    | typeDevDisk =>
      dsimp only
      have hother : getDeviceAction devClass.action ≠ .usbDevAdd →
          getDeviceAction devClass.action ≠ .usbDevChange →
          updateDiskInfo env s d devClass = ⟨s, d, ()⟩ := by
        intro hadd hchange
        unfold updateDiskInfo
        split
        · contradiction
        · contradiction
        · rfl
      by_cases hadd : getDeviceAction devClass.action = .usbDevAdd
      · exact updateDiskInfo_add_sends env s d devClass hsd' hkind hadd
      · by_cases hchange : getDeviceAction devClass.action = .usbDevChange
        · exact updateDiskInfo_change_sends env s d devClass hsd' hkind hchange
        · rw [hother hadd hchange]
          exact updateDiskInfo_other_sends env s d devClass hsd' hkind hadd hchange

/-- The event announces the device's medium. -/
def announces (env : Env) (d : StorageDevice) (devClass : DeviceClass) : Bool :=
  match receiver env d devClass with
  | some d₀ => d₀.announcedBy env devClass
  | none => false

/-- A medium that goes is not added to. -/
theorem receiver_of_dropsParts (h : d.DropsParts env devClass) : receiver env d devClass = none := by
  obtain ⟨hsd, hdisk, hgone⟩ := h
  unfold receiver
  rw [if_neg (by simp [hsd]), hdisk]
  dsimp only
  rcases hgone with ⟨hchange, hreader, -⟩ | ⟨hadd, -, hreader, -⟩
  · rw [hchange]
    exact if_neg fun h => h.1 hreader
  · split
    · contradiction
    · exact if_neg fun h => h.2.2 hreader
    · rfl

/-- So an event makes the device post ADD, or REMOVE, or nothing. -/
theorem said_eq :
    d.said env devClass = d.added (d.announces env devClass) ++
      if d.DropsParts env devClass then [(.remove, none)] else [] := by
  unfold said announces
  cases hreceiver : receiver env d devClass with
  | none => rfl
  | some d₀ =>
    have hdrops : ¬ d.DropsParts env devClass := fun h => by
      rw [receiver_of_dropsParts env d devClass h] at hreceiver
      exact absurd hreceiver (by simp)
    dsimp only
    rw [if_neg hdrops, List.append_nil]

/-! ### A device that goes -/

@[simp] theorem storageDeviceNotification_count :
    (storageDeviceNotification s d).obj.fsckThreadCount = d.fsckThreadCount := by
  unfold storageDeviceNotification
  split
  · rfl
  · split <;> rfl

/-- Every thread is counted, also one whose partition is gone. -/
theorem fsckOnDeviceAddThread_count (partition : Nat) :
    (fsckOnDeviceAddThread env s d partition).obj.fsckThreadCount = d.fsckThreadCount - 1 := by
  rw [← (fsckPartitionAt_device env s d partition).1]
  unfold fsckOnDeviceAddThread storageDeviceFsckNotification
  dsimp only
  split
  · exact storageDeviceNotification_count _ _
  · rfl

/-- A round that is over is not over again. -/
theorem joinRounds_of_done : ∀ (ts : List Nat) (d : StorageDevice),
    d.fsckThreadCount ≤ 0 → joinRounds env d ts = 0 := by
  intro ts
  induction ts with
  | nil => intro d _; rfl
  | cons t ts ih =>
      intro d hdone
      have hends : d.endsRound env t = false := by
        unfold endsRound
        rw [decide_eq_false (by omega), Bool.false_and]
      have hcount := fsckOnDeviceAddThread_count env {} d t
      have hrest : (fsckOnDeviceAddThread env {} d t).obj.fsckThreadCount ≤ 0 := by
        rw [hcount]
        omega
      unfold joinRounds
      rw [hends, ih _ hrest]
      rfl

/-- The threads that are joined end at most one round. -/
theorem joinRounds_le_one : ∀ (ts : List Nat) (d : StorageDevice), joinRounds env d ts ≤ 1 := by
  intro ts
  induction ts with
  | nil => intro d; exact Nat.zero_le 1
  | cons t ts ih =>
      intro d
      unfold joinRounds
      by_cases hends : d.endsRound env t = true
      · have hrest : (fsckOnDeviceAddThread env {} d t).obj.fsckThreadCount ≤ 0 := by
          rw [fsckOnDeviceAddThread_count]
          unfold endsRound at hends
          rw [Bool.and_eq_true, decide_eq_true_eq] at hends
          omega
        rw [if_pos hends, joinRounds_of_done env ts _ hrest]
      · rw [if_neg hends, Nat.zero_add]
        exact ih _

/-- The last round of checks ends in the medium being announced while the device goes. -/
def announcesLate (env : Env) (d : StorageDevice) : Bool :=
  decide (joinRounds env d d.fsckThreadArray = 1)

/-- What the device that goes is told by its own handler: nothing, if it was announced. -/
theorem onDeviceRemove_sends :
    Sends (d.added (d.announcesLate env)) s d (onDeviceRemove env s d).state
        (onDeviceRemove env s d).obj ∧
      ((onDeviceRemove env s d).obj.isDevAddEventNotified = false →
        ∃ r ∈ (onDeviceRemove env s d).state.calls,
          r.call = .notify .storageDevice .removeBeforeMount (some d.address)) := by
  have hjoin := joinThreads_sends env d.fsckThreadArray s d
  have hrounds : List.replicate (joinRounds env d d.fsckThreadArray)
      (EventType.add, some d.address) = d.added (d.announcesLate env) := by
    unfold announcesLate added
    have hle := joinRounds_le_one env d.fsckThreadArray d
    by_cases hone : joinRounds env d d.fsckThreadArray = 1
    · rw [hone, decide_eq_true rfl, if_pos rfl]
      rfl
    · have hzero : joinRounds env d d.fsckThreadArray = 0 := by omega
      rw [hzero]
      rfl
  rw [hrounds] at hjoin
  have hcore := (joinThreads_within env d.fsckThreadArray s d).core
  generalize hj : joinThreads env s d d.fsckThreadArray = j at hjoin hcore
  have hobj : ∀ t : Sys, ∀ e : StorageDevice,
      (removeRootDir t e).obj.isDevAddEventNotified = e.isDevAddEventNotified ∧
        (removeRootDir t e).obj.address = e.address := fun t e => by
    unfold removeRootDir
    split <;> exact ⟨rfl, rfl⟩
  have hnotified : (onDeviceRemove env s d).obj.isDevAddEventNotified =
      j.obj.isDevAddEventNotified := by
    unfold onDeviceRemove
    rw [hj]
    exact (hobj _ _).1
  refine ⟨hjoin.andThen (Sends.silent ?_ hnotified), fun hnot => ?_⟩
  · unfold onDeviceRemove
    rw [hj]
    simp
  · rw [hnotified] at hnot
    unfold onDeviceRemove
    rw [hj]
    dsimp only
    generalize hp : deletePartitionData env j.state j.obj = p
    have hkept : p.obj.isDevAddEventNotified = j.obj.isDevAddEventNotified ∧
        p.obj.address = d.address := by
      rw [← hp]
      exact ⟨rfl, address_of_core hcore⟩
    unfold checkRemovalNotifications
    rw [if_pos ((hobj p.state p.obj).1.trans (hkept.1.trans hnot)), (hobj p.state p.obj).2, hkept.2]
    refine ⟨_, List.mem_append_right _ (List.mem_singleton.mpr rfl), rfl⟩

end StorageDevice

end Pdm
