/-
What the list shows of a device, when it posts and when it is done.

Each method that posts is described by when it does (`Posted`) and by what the device it
leaves shows, against the device that was posted.
-/
import Pdm.Framework.StorageList
import Pdm.Proofs.Announcements
import Pdm.Proofs.Ownership

namespace Pdm

open Visit (visit)

namespace StorageDevice

variable (env : Env) (s : Sys) (d : StorageDevice) (devClass : DeviceClass)

/-! ### What is shown -/

/-- What the list says of a device, but for its partitions. -/
def face (d : StorageDevice) : StorageDeviceInfo := { d.deviceInfo with storageDriveList := [] }

theorem shown_none {d : StorageDevice} (h : d.diskPartitionList = []) : d.shown = none := if_pos h

theorem shown_some {d : StorageDevice} (h : d.diskPartitionList ≠ []) :
    d.shown = some d.deviceInfo := if_neg h

theorem shown_eq_none_iff : d.shown = none ↔ d.diskPartitionList = [] := by
  unfold shown
  split <;> simp_all

/-- A device shows what its partitions and its own data say. -/
theorem shown_congr {d e : StorageDevice} (hlist : d.diskPartitionList.map (·.driveInfo) =
      e.diskPartitionList.map (·.driveInfo)) (hface : d.face = e.face) : d.shown = e.shown := by
  have hempty : d.diskPartitionList = [] ↔ e.diskPartitionList = [] := by
    rw [← List.map_eq_nil_iff (f := (·.driveInfo)), hlist, List.map_eq_nil_iff]
  have hinfo : ∀ c : StorageDevice, c.deviceInfo =
      { c.face with storageDriveList := c.diskPartitionList.map (·.driveInfo) } := fun _ => rfl
  unfold shown
  rw [if_congr hempty rfl rfl, hinfo d, hinfo e, hlist, hface]

theorem deviceInfo_eq_iff {d e : StorageDevice} : d.deviceInfo = e.deviceInfo ↔
    d.diskPartitionList.map (·.driveInfo) = e.diskPartitionList.map (·.driveInfo) ∧
      d.face = e.face := by
  refine ⟨fun h => ⟨congrArg (·.storageDriveList) h,
    congrArg (fun i : StorageDeviceInfo => { i with storageDriveList := [] }) h⟩, ?_⟩
  rintro ⟨hlist, hface⟩
  have hinfo : ∀ c : StorageDevice, c.deviceInfo =
      { c.face with storageDriveList := c.diskPartitionList.map (·.driveInfo) } := fun _ => rfl
  rw [hinfo d, hinfo e, hlist, hface]

/-- Of a device with the same partitions, only its own data can look different. -/
theorem shown_eq_iff_face {d e : StorageDevice} (hlist : d.diskPartitionList.map (·.driveInfo) =
      e.diskPartitionList.map (·.driveInfo)) :
    d.shown = e.shown ↔ e.diskPartitionList = [] ∨ d.face = e.face := by
  have hempty : d.diskPartitionList = [] ↔ e.diskPartitionList = [] := by
    rw [← List.map_eq_nil_iff (f := (·.driveInfo)), hlist, List.map_eq_nil_iff]
  by_cases he : e.diskPartitionList = []
  · rw [shown_none he, shown_none (hempty.mpr he)]
    simp [he]
  · rw [shown_some he, shown_some (mt hempty.mp he), Option.some.injEq, deviceInfo_eq_iff]
    simp [he, hlist]

/-- A device with more partitions looks different. -/
theorem shown_ne_of_length {d e : StorageDevice}
    (h : d.diskPartitionList.length ≠ e.diskPartitionList.length) : d.shown ≠ e.shown := by
  have hlength : ∀ c : StorageDevice, c.diskPartitionList.length =
      (c.shown.elim [] (·.storageDriveList)).length := by
    intro c
    by_cases hc : c.diskPartitionList = []
    · rw [shown_none hc, hc]
      rfl
    · rw [shown_some hc]
      exact (List.length_map _).symm
  intro hshown
  rw [hlength d, hlength e, hshown] at h
  exact h rfl

/-- A partition that is written back looks different when the device does. -/
theorem shown_setPartition {p q q' : DiskPartitionInfo} (hnodup : d.addresses.Nodup)
    (hp : p ∈ d.diskPartitionList) (hq : q.address = p.address) (hq' : q'.address = p.address) :
    (d.setPartition q).shown = (d.setPartition q').shown ↔ q.driveInfo = q'.driveInfo := by
  have hmap := Keyed.map_put_iff (fun r : DiskPartitionInfo => r.address) (·.driveInfo) hnodup hp
    hq hq'
  have hne : ∀ r : DiskPartitionInfo, (d.setPartition r).diskPartitionList ≠ [] := by
    intro r
    rw [setPartition_list, Ne, List.map_eq_nil_iff]
    exact List.ne_nil_of_mem hp
  rw [shown_some (hne q), shown_some (hne q'), Option.some.injEq, deviceInfo_eq_iff]
  exact (and_iff_left rfl).trans hmap

theorem setPartition_self {p : DiskPartitionInfo} (hnodup : d.addresses.Nodup)
    (hp : p ∈ d.diskPartitionList) : d.setPartition p = d := by
  have hput := Keyed.put_self (fun r : DiskPartitionInfo => r.address) hnodup hp
  unfold setPartition
  rw [show (d.diskPartitionList.map fun q => if q.address = p.address then p else q) =
    d.diskPartitionList from hput]

theorem shown_setPartition_iff {p q : DiskPartitionInfo} (hnodup : d.addresses.Nodup)
    (hp : p ∈ d.diskPartitionList) (hq : q.address = p.address) :
    (d.setPartition q).shown = d.shown ↔ q.driveInfo = p.driveInfo := by
  have h := shown_setPartition d hnodup hp hq rfl
  rw [setPartition_self d hnodup hp] at h
  exact h

/-! ### The methods that announce -/

/-- A method posts when it announces, and then the device as it leaves it. -/
structure Posted (posts : Option StorageDevice) (announced : Bool) (obj : StorageDevice) : Prop where
  announced : posts.isSome = announced
  shown : ∀ e ∈ posts, e.shown = obj.shown

theorem posted_none {obj : StorageDevice} : Posted none false obj :=
  ⟨rfl, fun e he => absurd he (by simp)⟩

theorem posted_some {e obj : StorageDevice} (h : e.shown = obj.shown) : Posted (some e) true obj := by
  refine ⟨rfl, fun f hf => ?_⟩
  rw [← Option.some.inj hf]
  exact h

theorem storageDeviceNotification_posted :
    Posted d.storageDeviceNotificationPosts (Announceable d.diskPartitionList)
      (storageDeviceNotification s d).obj := by
  unfold storageDeviceNotificationPosts Announceable storageDeviceNotification
  by_cases htimeout : (d.diskPartitionList.any
      fun p => p.fsckStatus = PdmDevStatus.fsckTimeout.code) = true
  · rw [if_pos htimeout, if_pos htimeout, htimeout, Bool.true_or]
    exact posted_some (shown_congr rfl rfl)
  · rw [if_neg htimeout, if_neg htimeout, Bool.eq_false_iff.mpr htimeout, Bool.false_or]
    by_cases hmounted : d.diskPartitionList.any (·.mounted) = true
    · rw [if_pos hmounted, if_pos hmounted, hmounted]
      exact posted_some (shown_congr rfl rfl)
    · rw [if_neg hmounted, if_neg hmounted, Bool.eq_false_iff.mpr hmounted]
      exact posted_none

theorem fsckOnDeviceAddThread_posted (partition : Nat) :
    Posted (d.fsckOnDeviceAddThreadPosts env s partition) (d.endsRound env partition)
      (fsckOnDeviceAddThread env s d partition).obj := by
  have hcount := (fsckPartitionAt_device env s d partition).1
  unfold fsckOnDeviceAddThreadPosts endsRound fsckOnDeviceAddThread
  rw [← fsckPartitionAt_obj env s, ← hcount]
  generalize fsckPartitionAt env s d partition = checked
  have hzero : checked.obj.fsckThreadCount - 1 = 0 ↔ checked.obj.fsckThreadCount = 1 := by omega
  unfold storageDeviceFsckNotification
  dsimp only
  by_cases hlast : checked.obj.fsckThreadCount = 1
  · rw [if_pos (hzero.mpr hlast), if_pos (hzero.mpr hlast), decide_eq_true hlast, Bool.true_and]
    have hposted := storageDeviceNotification_posted checked.state
      { checked.obj with fsckThreadCount := checked.obj.fsckThreadCount - 1 }
    exact ⟨hposted.announced, hposted.shown⟩
  · rw [if_neg (mt hzero.mp hlast), if_neg (mt hzero.mp hlast), decide_eq_false hlast,
      Bool.false_and]
    exact posted_none

/-- A thread that does not end its round, or whose round announces nothing, leaves the
partition checked. -/
theorem fsckOnDeviceAddThread_unposted {partition : Nat}
    (hends : d.endsRound env partition = false) :
    (fsckOnDeviceAddThread env s d partition).obj.shown =
      (fsckPartitionAt env {} d partition).obj.shown := by
  unfold endsRound at hends
  rw [← fsckPartitionAt_obj env s, ← (fsckPartitionAt_device env s d partition).1] at hends
  unfold fsckOnDeviceAddThread
  rw [← fsckPartitionAt_obj env s]
  generalize fsckPartitionAt env s d partition = checked at hends
  unfold storageDeviceFsckNotification
  dsimp only
  split
  · rename_i hzero
    have hlast : checked.obj.fsckThreadCount = 1 := by omega
    rw [decide_eq_true hlast, Bool.true_and] at hends
    have hsilent : storageDeviceNotification checked.state
        { checked.obj with fsckThreadCount := checked.obj.fsckThreadCount - 1 } =
        ⟨checked.state,
          { checked.obj with fsckThreadCount := checked.obj.fsckThreadCount - 1 }, ()⟩ := by
      unfold Announceable at hends
      rw [Bool.or_eq_false_iff] at hends
      unfold storageDeviceNotification
      rw [if_neg (Bool.eq_false_iff.mp hends.1), if_neg (Bool.eq_false_iff.mp hends.2)]
    rw [hsilent]
    exact shown_congr rfl rfl
  · exact shown_congr rfl rfl

theorem startPartitions_posted :
    Posted (d.startPartitionsPosts env s) (d.startsAnnounced env) (startPartitions env s d).obj := by
  unfold startPartitionsPosts startsAnnounced startPartitions
  by_cases hsupported : d.diskPartitionList.any (·.isSupportedFs) = true
  · rw [if_pos hsupported, if_pos hsupported, if_pos hsupported]
    by_cases hreadOnly : d.isReadOnly = true
    · rw [if_pos hreadOnly, if_pos hreadOnly, hreadOnly, Bool.true_and]
      dsimp only
      have hlist := mountAllPartition_list env s d
      rw [hreadOnly] at hlist
      rw [← hlist, announceable_moved]
      exact storageDeviceNotification_posted _ _
    · rw [if_neg hreadOnly, if_neg hreadOnly, Bool.eq_false_iff.mpr hreadOnly, Bool.false_and]
      exact posted_none
  · rw [if_neg hsupported, if_neg hsupported, if_neg hsupported]
    exact posted_some (shown_congr rfl rfl)

theorem setPartitionInfo_posted :
    Posted (d.setPartitionInfoPosts env s devClass) (d.announcedBy env devClass)
      (setPartitionInfo env s d devClass).obj := by
  unfold setPartitionInfoPosts announcedBy setPartitionInfo
  cases hfound : d.findPartition devClass.devName with
  | some p => exact posted_none
  | none =>
    have hlist := addPartition_listed env s d devClass
    have hcomplete := addPartition_complete env s d devClass
    simp only [Option.isSome_none, Option.isNone_none, Bool.false_eq_true, if_false, Bool.true_and]
    by_cases hall : d.Complete (d.diskPartitionList.length + 1)
    · rw [if_pos (hcomplete.mpr hall), if_pos (hcomplete.mpr hall), decide_eq_true hall,
        Bool.true_and]
      have hstart := startPartitions_posted env (addPartition env s d devClass).state
        (addPartition env s d devClass).obj
      rw [startsAnnounced_congr env (d := (addPartition env s d devClass).obj)
        (e := { d with diskPartitionList := d.diskPartitionList ++ [d.listed devClass 0] }) rfl
        (by rw [hlist, List.map_append, List.map_append]; rfl)] at hstart
      exact hstart
    · rw [if_neg (mt hcomplete.mp hall), if_neg (mt hcomplete.mp hall), decide_eq_false hall,
        Bool.false_and]
      exact posted_none

/-! ### What an event tells of the device itself -/

/-- What `updateMultiSdCard` may change of what is shown. -/
def identity (d : StorageDevice) : Int × String × String × String × Bool :=
  (d.deviceNum, d.vendorName, d.productName, d.serialNumber, d.isPowerOnConnect)

/-- The disk's event says nothing new of the device. -/
def NothingNew (env : Env) (d : StorageDevice) (devClass : DeviceClass) : Prop :=
  (updateMultiSdCard env d devClass).identity = d.identity

instance : Decidable (d.NothingNew env devClass) := inferInstanceAs (Decidable (_ = _))

theorem nothingNew_congr {d e : StorageDevice} (hid : d.identity = e.identity)
    (hpath : d.devicePath = e.devicePath) :
    d.NothingNew env devClass ↔ e.NothingNew env devClass := by
  have hupdate : (updateMultiSdCard env d devClass).identity =
      (updateMultiSdCard env e devClass).identity := by
    simp only [identity, Prod.mk.injEq] at hid
    obtain ⟨hnum, hvendor, hproduct, hserial, hpower⟩ := hid
    unfold updateMultiSdCard
    rw [hpath]
    split
    · simp [identity, hnum, hpower]
    · simp [identity, hnum, hvendor, hproduct, hserial, hpower]
  unfold NothingNew
  rw [hupdate, hid]

theorem updateMultiSdCard_face_iff :
    (updateMultiSdCard env d devClass).face = d.face ↔ d.NothingNew env devClass := by
  have hface : ∀ e : StorageDevice, e.usbPortNum = d.usbPortNum → e.deviceType = d.deviceType →
      e.storageType = d.storageType → e.rootPath = d.rootPath → e.errorReason = d.errorReason →
      e.devSpeed = d.devSpeed → (e.face = d.face ↔ e.identity = d.identity) := by
    intro e hport htype hstorage hroot herror hspeed
    simp [face, deviceInfo, identity, hport, htype, hstorage, hroot, herror, hspeed]
  unfold NothingNew
  refine hface _ ?_ ?_ ?_ ?_ ?_ ?_ <;>
    (unfold updateMultiSdCard; split <;> rfl)

/-- An event that says nothing new does not change what is shown. -/
theorem updateMultiSdCard_shown (hparts : d.diskPartitionList ≠ []) :
    d.shown = (updateMultiSdCard env d devClass).shown ↔ d.NothingNew env devClass := by
  rw [eq_comm, shown_eq_iff_face (by rw [updateMultiSdCard_list]), updateMultiSdCard_face_iff]
  exact or_iff_right hparts

theorem updateMultiSdCard_face_congr {d e : StorageDevice} (hface : d.face = e.face)
    (hpath : d.devicePath = e.devicePath) :
    (updateMultiSdCard env d devClass).face = (updateMultiSdCard env e devClass).face := by
  have hformula : ∀ c : StorageDevice, (updateMultiSdCard env c devClass).face =
      if c.devicePath = "" then
        { c.face with
          serialNumber := devClass.idSerilShort
          productName := devClass.idModel
          isPowerOnConnect :=
            if !env.powerState || devClass.isPowerOnConnect == "true" then true
            else c.face.isPowerOnConnect
          vendorName := Device.vendorOf devClass
          deviceNum :=
            if devClass.idInstance ≠ "" ∧ instanceNumber devClass.idInstance ≠ "" then
              c.face.deviceNum + toInt (instanceNumber devClass.idInstance)
            else c.face.deviceNum }
      else c.face := by
    intro c
    unfold updateMultiSdCard
    split <;> rfl
  rw [hformula d, hformula e, hface, hpath]

/-! ### Partitions that come and go -/

theorem setPartitionInfo_found (hfound : d.findPartition devClass.devName ≠ none) :
    setPartitionInfo env s d devClass = ⟨s, d, ()⟩ ∧
      d.setPartitionInfoPosts env s devClass = none := by
  have hsome := Option.ne_none_iff_isSome.mp hfound
  unfold setPartitionInfo setPartitionInfoPosts
  rw [if_pos hsome, if_pos hsome]
  exact ⟨rfl, rfl⟩

theorem setPartitionInfo_length (hnew : d.findPartition devClass.devName = none) :
    (setPartitionInfo env s d devClass).obj.diskPartitionList.length =
      d.diskPartitionList.length + 1 := by
  rcases setPartitionInfo_cases env s d devClass with ⟨hfound, -⟩ | ⟨-, -, hidents⟩
  · rw [hnew] at hfound
    exact absurd hfound (by simp)
  · have hlength := congrArg List.length hidents
    unfold idents at hlength
    rw [List.length_map, List.length_map, addPartition_list, List.length_append] at hlength
    exact hlength

theorem setPartitionInfo_identity :
    (setPartitionInfo env s d devClass).obj.identity = d.identity ∧
      (setPartitionInfo env s d devClass).obj.devicePath = d.devicePath := by
  have hnotify : ∀ (s : Sys) (e : StorageDevice),
      (storageDeviceNotification s e).obj.identity = e.identity ∧
        (storageDeviceNotification s e).obj.devicePath = e.devicePath := by
    intro s e
    unfold storageDeviceNotification
    split
    · exact ⟨rfl, rfl⟩
    · split <;> exact ⟨rfl, rfl⟩
  unfold setPartitionInfo
  split
  · exact ⟨rfl, rfl⟩
  · dsimp only
    split
    · unfold startPartitions
      split
      · split
        · exact hnotify _ _
        · exact ⟨rfl, rfl⟩
      · exact ⟨rfl, rfl⟩
    · exact ⟨rfl, rfl⟩

/-- A card that is lost is posted, and the device has nothing left to show. -/
theorem checkSdCardAddRemove_lost (hloses : d.LosesCard env devClass) :
    (∃ e, d.checkSdCardAddRemovePosts env s devClass = some e ∧ e.shown = none) ∧
      (checkSdCardAddRemove env s d devClass).obj.shown = none := by
  obtain ⟨hstick, hreader, hmedia, hcount⟩ := hloses
  unfold checkSdCardAddRemovePosts checkSdCardAddRemove
  rw [if_neg (not_not_intro hstick), if_neg (not_not_intro hmedia),
    if_neg (not_not_intro hreader), if_neg (not_not_intro hstick), if_neg (not_not_intro hmedia),
    if_neg (not_not_intro hreader)]
  dsimp only
  rw [countPartitions_fst, if_pos hcount, if_pos hcount]
  exact ⟨⟨_, rfl, shown_none rfl⟩, shown_none rfl⟩

theorem checkSdCardAddRemove_kept (hkeeps : ¬ d.LosesCard env devClass) :
    d.checkSdCardAddRemovePosts env s devClass = none ∧
      (checkSdCardAddRemove env s d devClass).obj = d := by
  unfold checkSdCardAddRemovePosts checkSdCardAddRemove
  split
  · exact ⟨rfl, rfl⟩
  · rename_i hstick
    split
    · exact ⟨rfl, rfl⟩
    · rename_i hmedia
      split
      · exact ⟨rfl, rfl⟩
      · rename_i hreader
        have hcount : ¬ env.partitionCount d.deviceName = 0 := fun hcount =>
          hkeeps ⟨not_not.mp hstick, not_not.mp hreader, not_not.mp hmedia, hcount⟩
        dsimp only
        rw [countPartitions_fst, if_neg hcount, if_neg hcount]
        exact ⟨rfl, rfl⟩

theorem handleCardReaderDeviceChange_changed
    (hcount : env.partitionCount d.deviceName ≠ d.partitionCount ∧ d.partitionCount ≠ 0) :
    (∃ e, d.handleCardReaderDeviceChangePosts env s = some e ∧ e.shown = none) ∧
      (handleCardReaderDeviceChange env s d).obj.diskPartitionList = [] := by
  unfold handleCardReaderDeviceChangePosts handleCardReaderDeviceChange
  dsimp only
  rw [countPartitions_fst, if_pos hcount.1, if_pos hcount.2, if_pos hcount.1, if_pos hcount.2]
  exact ⟨⟨_, rfl, shown_none rfl⟩, rfl⟩

theorem handleCardReaderDeviceChange_same
    (hcount : ¬ (env.partitionCount d.deviceName ≠ d.partitionCount ∧ d.partitionCount ≠ 0)) :
    d.handleCardReaderDeviceChangePosts env s = none ∧
      (handleCardReaderDeviceChange env s d).obj.diskPartitionList = d.diskPartitionList ∧
      (handleCardReaderDeviceChange env s d).obj.face = d.face ∧
      (handleCardReaderDeviceChange env s d).obj.devicePath = d.devicePath := by
  unfold handleCardReaderDeviceChangePosts handleCardReaderDeviceChange
  dsimp only
  rw [countPartitions_fst]
  by_cases hsame : env.partitionCount d.deviceName = d.partitionCount
  · rw [if_neg (not_not_intro hsame), if_neg (not_not_intro hsame)]
    exact ⟨rfl, rfl, rfl, rfl⟩
  · have hunknown : d.partitionCount = 0 := by
      by_contra hknown
      exact hcount ⟨hsame, hknown⟩
    rw [if_pos hsame, if_neg (not_not_intro hunknown), if_pos hsame,
      if_neg (not_not_intro hunknown)]
    exact ⟨rfl, rfl, rfl, rfl⟩

/-! ### A whole event -/

/-- What an event makes of what is shown of a device, and of what is posted. -/
inductive ShownAfter (env : Env) (d : StorageDevice) (devClass : DeviceClass)
    (posts : Option StorageDevice) (obj : StorageDevice) : Prop
  /-- The card is gone, and was posted as gone. -/
  | dropped (hdrops : d.DropsParts env devClass)
      (hposts : ∃ e, posts = some e ∧ e.shown = none) (hobj : obj.shown = none)
  /-- A medium is listed in full and announced; a disk's event may say more of the device. -/
  | announced (e : StorageDevice) (hannounces : d.announces env devClass = true)
      (hposts : posts = some e) (hparts : obj.diskPartitionList ≠ [])
      (hshown : e.shown = obj.shown ↔
        sMapUsbDeviceType devClass.devType = .typeDevPartition ∨ d.NothingNew env devClass)
  /-- A partition is listed, and nothing is posted. -/
  | added (hquiet : d.announces env devClass = false) (hjoins : d.joins env devClass)
      (hposts : posts = none)
      (hlength : obj.diskPartitionList.length = d.diskPartitionList.length + 1)
  /-- The partitions stay, and nothing is posted. -/
  | kept (hdrops : ¬ d.DropsParts env devClass) (hjoins : ¬ d.joins env devClass)
      (hposts : posts = none) (hlist : obj.diskPartitionList = d.diskPartitionList)
      (hface : obj.face = (informed env d devClass).face)

theorem joins_of_announces (h : d.announces env devClass = true) : d.joins env devClass := by
  unfold announces at h
  cases hreceiver : receiver env d devClass with
  | none =>
    rw [hreceiver] at h
    exact absurd h (by simp)
  | some d₀ =>
    rw [hreceiver] at h
    unfold announcedBy at h
    rw [Bool.and_eq_true, Bool.and_eq_true, Option.isNone_iff_eq_none] at h
    refine ⟨by rw [hreceiver]; rfl, ?_⟩
    rw [← findPartition_congr (receiver_list env d devClass hreceiver).1]
    exact h.1.1

/-- What becomes of a device that receives a partition, or knows it already. -/
theorem setPartitionInfo_after {d₀ : StorageDevice} (hreceiver : receiver env d devClass = some d₀) :
    (d.announces env devClass = true ∧ ∃ e, d₀.setPartitionInfoPosts env s devClass = some e ∧
        e.shown = (setPartitionInfo env s d₀ devClass).obj.shown ∧
        (setPartitionInfo env s d₀ devClass).obj.diskPartitionList ≠ []) ∨
      (d.announces env devClass = false ∧ d.joins env devClass ∧
        d₀.setPartitionInfoPosts env s devClass = none ∧
        (setPartitionInfo env s d₀ devClass).obj.diskPartitionList.length =
          d.diskPartitionList.length + 1) ∨
      (¬ d.joins env devClass ∧ d₀.setPartitionInfoPosts env s devClass = none ∧
        setPartitionInfo env s d₀ devClass = ⟨s, d₀, ()⟩) := by
  have hlist := (receiver_list env d devClass hreceiver).1
  have hfind : d₀.findPartition devClass.devName = d.findPartition devClass.devName :=
    findPartition_congr hlist
  have hannounces : d.announces env devClass = d₀.announcedBy env devClass := by
    unfold announces
    rw [hreceiver]
  have hposted := setPartitionInfo_posted env s d₀ devClass
  rw [← hannounces] at hposted
  by_cases hnew : d₀.findPartition devClass.devName = none
  · have hlength := setPartitionInfo_length env s d₀ devClass hnew
    rw [hlist] at hlength
    cases hsent : d.announces env devClass with
    | true =>
      rw [hsent] at hposted
      obtain ⟨e, he⟩ := Option.isSome_iff_exists.mp hposted.announced
      refine Or.inl ⟨rfl, e, he, hposted.shown e he, fun hempty => ?_⟩
      rw [hempty] at hlength
      exact absurd hlength (by simp)
    | false =>
      rw [hsent] at hposted
      exact Or.inr (Or.inl ⟨rfl, ⟨by rw [hreceiver]; rfl, hfind ▸ hnew⟩,
        Option.isSome_eq_false_iff.mp hposted.announced |> Option.isNone_iff_eq_none.mp, hlength⟩)
  · obtain ⟨hsame, hposts⟩ := setPartitionInfo_found env s d₀ devClass hnew
    exact Or.inr (Or.inr ⟨fun hjoins => hnew (hfind ▸ hjoins.2), hposts, hsame⟩)

/-- After a disk event the card is looked for; where it is not lost, what was posted before
stands. -/
theorem checkSdCardAddRemove_passes {r : Out StorageDevice Unit} (posts : Option StorageDevice)
    (hkeeps : ¬ r.obj.LosesCard env devClass) :
    (checkSdCardAddRemovePosts env r.state (updateMultiSdCard env r.obj devClass) devClass).or
        posts = posts ∧
      (checkSdCardAddRemove env r.state (updateMultiSdCard env r.obj devClass) devClass).obj =
        updateMultiSdCard env r.obj devClass := by
  obtain ⟨hposts, hobj⟩ := checkSdCardAddRemove_kept env r.state
    (updateMultiSdCard env r.obj devClass) devClass
    (mt (updateMultiSdCard_losesCard env r.obj devClass).mp hkeeps)
  rw [hposts]
  exact ⟨rfl, hobj⟩

theorem checkSdCardAddRemove_loses {r : Out StorageDevice Unit} (posts : Option StorageDevice)
    (hloses : r.obj.LosesCard env devClass) :
    (∃ e, (checkSdCardAddRemovePosts env r.state (updateMultiSdCard env r.obj devClass)
        devClass).or posts = some e ∧ e.shown = none) ∧
      (checkSdCardAddRemove env r.state (updateMultiSdCard env r.obj devClass)
        devClass).obj.shown = none := by
  obtain ⟨⟨e, hposts, he⟩, hobj⟩ := checkSdCardAddRemove_lost env r.state
    (updateMultiSdCard env r.obj devClass) devClass
    ((updateMultiSdCard_losesCard env r.obj devClass).mpr hloses)
  rw [hposts]
  exact ⟨⟨e, rfl, he⟩, hobj⟩

/-- A disk event that may add a partition to the disk itself. -/
theorem shownAfter_whole {d₀ : StorageDevice} (hreceiver : receiver env d devClass = some d₀)
    (hdisk : sMapUsbDeviceType devClass.devType = .typeDevDisk)
    (hdrops : ¬ d.DropsParts env devClass)
    (hkeeps : ¬ (setPartitionInfo env s d₀ devClass).obj.LosesCard env devClass)
    (hidentity : d₀.identity = d.identity ∧ d₀.devicePath = d.devicePath)
    (hface : (updateMultiSdCard env d₀ devClass).face = (informed env d devClass).face) :
    ShownAfter env d devClass
      ((checkSdCardAddRemovePosts env (setPartitionInfo env s d₀ devClass).state
        (updateMultiSdCard env (setPartitionInfo env s d₀ devClass).obj devClass) devClass).or
          (d₀.setPartitionInfoPosts env s devClass))
      (checkSdCardAddRemove env (setPartitionInfo env s d₀ devClass).state
        (updateMultiSdCard env (setPartitionInfo env s d₀ devClass).obj devClass) devClass).obj := by
  obtain ⟨hpass, hobj⟩ := checkSdCardAddRemove_passes env devClass
    (d₀.setPartitionInfoPosts env s devClass) hkeeps
  rw [hpass, hobj]
  obtain ⟨hid, hpath⟩ := setPartitionInfo_identity env s d₀ devClass
  have hnotPart : sMapUsbDeviceType devClass.devType ≠ .typeDevPartition := by
    rw [hdisk]
    decide
  rcases setPartitionInfo_after env s d devClass hreceiver with
    ⟨hannounces, e, hposts, hshown, hparts⟩ | ⟨hquiet, hjoins, hposts, hlength⟩ |
    ⟨hjoins, hposts, hsame⟩
  · refine .announced e hannounces hposts (by rw [updateMultiSdCard_list]; exact hparts) ?_
    rw [hshown, updateMultiSdCard_shown env _ devClass hparts,
      nothingNew_congr env devClass (hid.trans hidentity.1) (hpath.trans hidentity.2)]
    exact (or_iff_right hnotPart).symm
  · exact .added hquiet hjoins hposts (by rw [updateMultiSdCard_list]; exact hlength)
  · refine .kept hdrops hjoins hposts ?_ ?_
    · rw [hsame, updateMultiSdCard_list]
      exact (receiver_list env d devClass hreceiver).1
    · rw [hsame]
      exact hface

/-- A disk event that adds no partition and leaves the card. -/
theorem shownAfter_kept {r : Out StorageDevice Unit} (hreceiver : receiver env d devClass = none)
    (hdrops : ¬ d.DropsParts env devClass) (hkeeps : ¬ r.obj.LosesCard env devClass)
    (hlist : r.obj.diskPartitionList = d.diskPartitionList)
    (hface : (updateMultiSdCard env r.obj devClass).face = (informed env d devClass).face) :
    ShownAfter env d devClass
      ((checkSdCardAddRemovePosts env r.state (updateMultiSdCard env r.obj devClass) devClass).or
        none)
      (checkSdCardAddRemove env r.state (updateMultiSdCard env r.obj devClass) devClass).obj := by
  obtain ⟨hpass, hobj⟩ := checkSdCardAddRemove_passes env devClass none hkeeps
  rw [hpass, hobj]
  refine .kept hdrops (fun hjoins => ?_) rfl (by rw [updateMultiSdCard_list]; exact hlist) hface
  have hsome := hjoins.1
  rw [hreceiver] at hsome
  exact absurd hsome (by simp)

theorem updateDiskInfo_add_shown (hsd : d.isSdCardRemoved = false)
    (hdisk : sMapUsbDeviceType devClass.devType = .typeDevDisk)
    (haction : getDeviceAction devClass.action = .usbDevAdd) :
    ShownAfter env d devClass
      ((checkSdCardAddRemovePosts env (updateDiskInfo env s d devClass).state
        (updateMultiSdCard env (updateDiskInfo env s d devClass).obj devClass) devClass).or
          (d.updateDiskInfoPosts env s devClass))
      (checkSdCardAddRemove env (updateDiskInfo env s d devClass).state
        (updateMultiSdCard env (updateDiskInfo env s d devClass).obj devClass) devClass).obj := by
  have htype := nameDisk_not_both d devClass
  have hdrops := d.not_dropsParts_of_add env devClass haction
  have hinformed : (informed env d devClass).face =
      (updateMultiSdCard env (d.nameDisk devClass) devClass).face := by
    unfold informed
    rw [if_neg (by simp [hsd]), hdisk, haction]
  have hface : (updateMultiSdCard env { d.nameDisk devClass with
        partitionCount := env.partitionCount (d.nameDisk devClass).deviceName } devClass).face =
      (informed env d devClass).face := by
    rw [hinformed]
    exact updateMultiSdCard_face_congr env devClass rfl rfl
  have hnamed : (receiver env d devClass) =
      if env.partitionCount (d.nameDisk devClass).deviceName = 0 ∧
          (d.nameDisk devClass).storageType ≠ .usbCardReader then
        some { d.nameDisk devClass with
          partitionCount := env.partitionCount (d.nameDisk devClass).deviceName }
      else none := by
    unfold receiver
    rw [if_neg (by simp [hsd]), hdisk, haction]
  unfold updateDiskInfo updateDiskInfoPosts
  rw [haction]
  dsimp only
  rw [countPartitions_fst]
  by_cases hwhole : env.partitionCount (d.nameDisk devClass).deviceName = 0 ∧
      (d.nameDisk devClass).storageType ≠ .usbCardReader
  · rw [if_pos hwhole, if_pos hwhole]
    rw [if_pos hwhole] at hnamed
    refine shownAfter_whole env _ d devClass hnamed hdisk hdrops (fun hloses => ?_) ⟨rfl, rfl⟩ hface
    refine htype ⟨?_, hloses.2.1⟩
    have hstick := hloses.1
    rw [setPartitionInfo_storageType] at hstick
    exact hstick
  · rw [if_neg hwhole, if_neg hwhole]
    rw [if_neg hwhole] at hnamed
    exact shownAfter_kept env d devClass (r := ⟨_, _, ()⟩) hnamed hdrops
      (fun hloses => htype ⟨hloses.1, hloses.2.1⟩) rfl hface

theorem updateDiskInfo_change_shown (hsd : d.isSdCardRemoved = false)
    (hdisk : sMapUsbDeviceType devClass.devType = .typeDevDisk)
    (haction : getDeviceAction devClass.action = .usbDevChange) :
    ShownAfter env d devClass
      ((checkSdCardAddRemovePosts env (updateDiskInfo env s d devClass).state
        (updateMultiSdCard env (updateDiskInfo env s d devClass).obj devClass) devClass).or
          (d.updateDiskInfoPosts env s devClass))
      (checkSdCardAddRemove env (updateDiskInfo env s d devClass).state
        (updateMultiSdCard env (updateDiskInfo env s d devClass).obj devClass) devClass).obj := by
  have hinformed : (informed env d devClass).face = (updateMultiSdCard env d devClass).face := by
    unfold informed
    rw [if_neg (by simp [hsd]), hdisk, haction]
  have hnamed : (receiver env d devClass) =
      if d.storageType ≠ .usbCardReader ∧ env.partitionCount d.deviceName = 0
          ∧ devClass.isCardReader ≠ YES then some d else none := by
    unfold receiver
    rw [if_neg (by simp [hsd]), hdisk, haction]
  have hdrops : d.DropsParts env devClass ↔
      d.ChangesCard env devClass ∨ d.LosesCard env devClass := by
    refine ⟨fun h => h.2.2.imp_right (·.2), fun h => ⟨hsd, hdisk, h.imp_right fun hloses => ?_⟩⟩
    exact ⟨by rw [haction]; decide, hloses⟩
  unfold updateDiskInfo updateDiskInfoPosts
  rw [haction]
  dsimp only
  rw [countPartitions_fst]
  by_cases hreader : d.storageType = .usbCardReader
  · rw [if_pos hreader, if_pos hreader]
    rw [if_neg fun h => h.1 hreader] at hnamed
    have hkeeps : ¬ (handleCardReaderDeviceChange env s d).obj.LosesCard env devClass := by
      intro hloses
      have hstick := hloses.1
      rw [storageType_of_core (handleCardReaderDeviceChange_core env s d), hreader] at hstick
      exact absurd hstick (by decide)
    by_cases hcount : env.partitionCount d.deviceName ≠ d.partitionCount ∧ d.partitionCount ≠ 0
    · obtain ⟨⟨e, hposts, he⟩, hempty⟩ := handleCardReaderDeviceChange_changed env s d hcount
      obtain ⟨hpass, hobj⟩ := checkSdCardAddRemove_passes env devClass
        (d.handleCardReaderDeviceChangePosts env s) hkeeps
      rw [hpass, hobj]
      refine .dropped (hdrops.mpr (Or.inl ⟨haction, hreader, hcount⟩)) ⟨e, hposts, he⟩ ?_
      exact shown_none (by rw [updateMultiSdCard_list]; exact hempty)
    · obtain ⟨hposts, hlist, hface, hpath⟩ := handleCardReaderDeviceChange_same env s d hcount
      rw [hposts]
      refine shownAfter_kept env d devClass hnamed (fun h => ?_) hkeeps hlist ?_
      · rcases hdrops.mp h with hchange | hloses
        · exact hcount hchange.2.2
        · exact absurd (hreader.symm.trans hloses.1) (by decide)
      · rw [hinformed]
        exact updateMultiSdCard_face_congr env devClass hface hpath
  · rw [if_neg hreader, if_neg hreader]
    by_cases hwhole : env.partitionCount d.deviceName = 0 ∧ devClass.isCardReader ≠ YES
    · rw [if_pos hwhole, if_pos hwhole]
      rw [if_pos ⟨hreader, hwhole⟩] at hnamed
      refine shownAfter_whole env _ d devClass hnamed hdisk (fun h => ?_)
        (fun hloses => hwhole.2 hloses.2.1) ⟨rfl, rfl⟩ hinformed.symm
      rcases hdrops.mp h with hchange | hloses
      · exact hreader hchange.2.1
      · exact hwhole.2 hloses.2.1
    · rw [if_neg hwhole, if_neg hwhole]
      rw [if_neg fun h => hwhole h.2] at hnamed
      by_cases hloses : d.LosesCard env devClass
      · obtain ⟨hposts, hobj⟩ := checkSdCardAddRemove_loses env devClass
          (r := ⟨(countPartitions env s d.deviceName).2, d, ()⟩) none hloses
        exact .dropped (hdrops.mpr (Or.inr hloses)) hposts hobj
      · refine shownAfter_kept env d devClass (r := ⟨_, d, ()⟩) hnamed (fun h => ?_) hloses rfl
          hinformed.symm
        rcases hdrops.mp h with hchange | hloses'
        · exact hreader hchange.2.1
        · exact hloses hloses'

/-- **What an event makes of what is shown of a device.** -/
theorem setDeviceInfo_shown :
    ShownAfter env d devClass (d.setDeviceInfoPosts env s devClass)
      (setDeviceInfo env s d devClass).obj := by
  unfold setDeviceInfoPosts setDeviceInfo
  dsimp only
  rw [triggerUevent_ret]
  by_cases hsd : d.isSdCardRemoved = true
  · rw [if_pos hsd, if_pos hsd]
    have hinformed : informed env d devClass = d := if_pos hsd
    refine .kept (fun h => absurd h.1 (by simp [hsd])) (fun h => ?_) rfl (triggerUevent_list env s d)
      ?_
    · have hsome := h.1
      unfold receiver at hsome
      rw [if_pos hsd] at hsome
      exact absurd hsome (by simp)
    · rw [hinformed]
      unfold triggerUevent
      rw [if_neg (by simp [hsd])]
      rfl
  · rw [if_neg hsd, if_neg hsd]
    have hsd' := Bool.eq_false_iff.mpr hsd
    cases hkind : sMapUsbDeviceType devClass.devType with
    | typeDevUsb =>
      dsimp only
      refine .kept (fun h => absurd (hkind.symm.trans h.2.1) (by decide)) (fun h => ?_) rfl
        (updateDeviceInfo_list env d devClass) ?_
      · have hsome := h.1
        unfold receiver at hsome
        rw [if_neg hsd, hkind] at hsome
        exact absurd hsome (by simp)
      · unfold informed
        rw [if_neg hsd, hkind]
    | typeDevPartition =>
      dsimp only
      have hreceiver : receiver env d devClass = some d := by
        unfold receiver
        rw [if_neg hsd, hkind]
      have hinformed : informed env d devClass = d := by
        unfold informed
        rw [if_neg hsd, hkind]
      have hdrops : ¬ d.DropsParts env devClass := fun h =>
        absurd (hkind.symm.trans h.2.1) (by decide)
      rcases setPartitionInfo_after env s d devClass hreceiver with
        ⟨hannounces, e, hposts, hshown, hparts⟩ | ⟨hquiet, hjoins, hposts, hlength⟩ |
        ⟨hjoins, hposts, hsame⟩
      · exact .announced e hannounces hposts hparts (iff_of_true hshown (Or.inl hkind))
      · exact .added hquiet hjoins hposts hlength
      · exact .kept hdrops hjoins hposts (by rw [hsame]) (by rw [hsame, hinformed])
    | typeDevDisk =>
      dsimp only
      by_cases hadd : getDeviceAction devClass.action = .usbDevAdd
      · exact updateDiskInfo_add_shown env s d devClass hsd' hkind hadd
      · by_cases hchange : getDeviceAction devClass.action = .usbDevChange
        · exact updateDiskInfo_change_shown env s d devClass hsd' hkind hchange
        · have hother : updateDiskInfo env s d devClass = ⟨s, d, ()⟩ ∧
              d.updateDiskInfoPosts env s devClass = none := by
            refine ⟨?_, ?_⟩
            · unfold updateDiskInfo
              split
              · contradiction
              · contradiction
              · rfl
            · unfold updateDiskInfoPosts
              split
              · contradiction
              · contradiction
              · rfl
          have hreceiver : receiver env d devClass = none := by
            unfold receiver
            rw [if_neg hsd, hkind]
            dsimp only
            split
            · contradiction
            · contradiction
            · rfl
          have hinformed : informed env d devClass = updateMultiSdCard env d devClass := by
            unfold informed
            rw [if_neg hsd, hkind]
            dsimp only
            split
            · contradiction
            · rfl
          have hdrops : d.DropsParts env devClass ↔ d.LosesCard env devClass := by
            refine ⟨?_, fun h => ⟨hsd', hkind, Or.inr ⟨hadd, h⟩⟩⟩
            rintro ⟨-, -, hchanges | ⟨-, hloses⟩⟩
            · exact absurd hchanges.1 hchange
            · exact hloses
          rw [hother.1, hother.2]
          by_cases hloses : d.LosesCard env devClass
          · obtain ⟨hposts, hobj⟩ := checkSdCardAddRemove_loses env devClass (r := ⟨s, d, ()⟩) none
              hloses
            exact .dropped (hdrops.mpr hloses) hposts hobj
          · exact shownAfter_kept env d devClass (r := ⟨s, d, ()⟩) hreceiver (mt hdrops.mp hloses)
              hloses rfl (by rw [hinformed])

/-- The list shows nothing of an event that is handed to the device, or is posted after it. -/
def EventUnseen (env : Env) (d : StorageDevice) (devClass : DeviceClass) : Prop :=
  if d.DropsParts env devClass then True
  else if d.announces env devClass then
    sMapUsbDeviceType devClass.devType = .typeDevPartition ∨ d.NothingNew env devClass
  else (receiver env d devClass = none ∨ d.findPartition devClass.devName ≠ none) ∧
    (d.diskPartitionList = [] ∨ (informed env d devClass).face = d.face)

instance : Decidable (d.EventUnseen env devClass) := by
  unfold EventUnseen
  infer_instance

theorem not_joins_iff : ¬ d.joins env devClass ↔
    receiver env d devClass = none ∨ d.findPartition devClass.devName ≠ none := by
  unfold joins
  rw [not_and_or, Bool.not_eq_true, Option.isSome_eq_false_iff, Option.isNone_iff_eq_none]

theorem not_joins_of_drops (h : d.DropsParts env devClass) : ¬ d.joins env devClass :=
  (not_joins_iff env d devClass).mpr (Or.inl (receiver_of_dropsParts env d devClass h))

theorem setDeviceInfo_unseen :
    ((d.setDeviceInfoPosts env s devClass).getD d).shown =
        (setDeviceInfo env s d devClass).obj.shown ↔ d.EventUnseen env devClass := by
  unfold EventUnseen
  cases setDeviceInfo_shown env s d devClass with
  | dropped hdrops hposts hobj =>
    obtain ⟨e, he, hnone⟩ := hposts
    rw [he, hobj, if_pos hdrops]
    exact iff_of_true hnone trivial
  | announced e hannounces hposts hparts hshown =>
    have hkeeps : ¬ d.DropsParts env devClass := fun h =>
      not_joins_of_drops env d devClass h (joins_of_announces env d devClass hannounces)
    rw [hposts, if_neg hkeeps, if_pos hannounces]
    exact hshown
  | added hquiet hjoins hposts hlength =>
    have hkeeps : ¬ d.DropsParts env devClass := fun h =>
      not_joins_of_drops env d devClass h hjoins
    rw [hposts, Option.getD_none, if_neg hkeeps, if_neg (by simp [hquiet])]
    refine iff_of_false (fun h => ?_) fun h => (not_joins_iff env d devClass).mpr h.1 hjoins
    refine shown_ne_of_length ?_ h.symm
    omega
  | kept hdrops hjoins hposts hlist hface =>
    have hquiet : ¬ d.announces env devClass = true :=
      fun h => hjoins (joins_of_announces env d devClass h)
    rw [hposts, Option.getD_none, if_neg hdrops, if_neg hquiet,
      and_iff_right ((not_joins_iff env d devClass).mp hjoins), ← hface]
    exact eq_comm.trans (shown_eq_iff_face (by rw [hlist]))

/-- A device without partitions is listed once one joins it. -/
theorem setDeviceInfo_shown_new (hempty : d.diskPartitionList = []) :
    (setDeviceInfo env s d devClass).obj.shown = none ↔ receiver env d devClass = none := by
  have hnew : ¬ d.joins env devClass ↔ receiver env d devClass = none := by
    rw [not_joins_iff]
    refine or_iff_left (not_not_intro ?_)
    unfold findPartition
    rw [hempty]
    split <;> rfl
  rw [← hnew]
  cases setDeviceInfo_shown env s d devClass with
  | dropped hdrops hposts hobj =>
    exact iff_of_true hobj (not_joins_of_drops env d devClass hdrops)
  | announced e hannounces hposts hparts hshown =>
    refine iff_of_false (mt (shown_eq_none_iff _).mp hparts) fun h => ?_
    exact h (joins_of_announces env d devClass hannounces)
  | added hquiet hjoins hposts hlength =>
    refine iff_of_false (fun h => ?_) fun h => h hjoins
    rw [(shown_eq_none_iff _).mp h] at hlength
    exact absurd hlength (by simp)
  | kept hdrops hjoins hposts hlist hface =>
    exact iff_of_true ((shown_eq_none_iff _).mpr (hlist.trans hempty)) hjoins

/-! ### Which device is posted -/

theorem storageDeviceNotificationPosts_address :
    ∀ e ∈ d.storageDeviceNotificationPosts, e.address = d.address := by
  unfold storageDeviceNotificationPosts
  intro e he
  split at he
  · rw [← Option.some.inj he]
  · split at he
    · rw [← Option.some.inj he]
    · exact absurd he (by simp)

theorem fsckOnDeviceAddThreadPosts_address (partition : Nat) :
    ∀ e ∈ d.fsckOnDeviceAddThreadPosts env s partition, e.address = d.address := by
  unfold fsckOnDeviceAddThreadPosts
  intro e he
  dsimp only at he
  split at he
  · exact (storageDeviceNotificationPosts_address _ e he).trans
      (address_of_core (fsckPartitionAt_core env s d partition))
  · exact absurd he (by simp)

theorem startPartitionsPosts_address :
    ∀ e ∈ d.startPartitionsPosts env s, e.address = d.address := by
  unfold startPartitionsPosts
  intro e he
  split at he
  · split at he
    · exact (storageDeviceNotificationPosts_address _ e he).trans
        (address_of_core (mountAllPartition_core env s d))
    · exact absurd he (by simp)
  · rw [← Option.some.inj he]

theorem setPartitionInfoPosts_address :
    ∀ e ∈ d.setPartitionInfoPosts env s devClass, e.address = d.address := by
  unfold setPartitionInfoPosts
  intro e he
  split at he
  · exact absurd he (by simp)
  · dsimp only at he
    split at he
    · exact (startPartitionsPosts_address _ _ _ e he).trans
        (address_of_core (addPartition_core env s d devClass))
    · exact absurd he (by simp)

theorem updateDiskInfoPosts_address :
    ∀ e ∈ d.updateDiskInfoPosts env s devClass, e.address = d.address := by
  unfold updateDiskInfoPosts
  intro e he
  split at he
  · dsimp only at he
    split at he
    · exact (setPartitionInfoPosts_address _ _ _ _ e he).trans rfl
    · exact absurd he (by simp)
  · split at he
    · unfold handleCardReaderDeviceChangePosts at he
      dsimp only at he
      split at he
      · split at he
        · rw [← Option.some.inj he]
          rfl
        · exact absurd he (by simp)
      · exact absurd he (by simp)
    · dsimp only at he
      split at he
      · exact setPartitionInfoPosts_address _ _ _ _ e he
      · exact absurd he (by simp)
  · exact absurd he (by simp)

theorem checkSdCardAddRemovePosts_address :
    ∀ e ∈ d.checkSdCardAddRemovePosts env s devClass, e.address = d.address := by
  unfold checkSdCardAddRemovePosts
  intro e he
  split at he
  · exact absurd he (by simp)
  · split at he
    · exact absurd he (by simp)
    · split at he
      · exact absurd he (by simp)
      · dsimp only at he
        split at he
        · rw [← Option.some.inj he]
          rfl
        · exact absurd he (by simp)

theorem setDeviceInfoPosts_address :
    ∀ e ∈ d.setDeviceInfoPosts env s devClass, e.address = d.address := by
  unfold setDeviceInfoPosts
  intro e he
  split at he
  · exact absurd he (by simp)
  · rename_i hret
    cases hkind : sMapUsbDeviceType devClass.devType with
    | typeDevUsb =>
      rw [hkind] at he
      exact absurd he (by simp)
    | typeDevPartition =>
      rw [hkind] at he
      exact setPartitionInfoPosts_address env s d devClass e he
    | typeDevDisk =>
      rw [hkind] at he
      rcases Option.or_eq_some_iff.mp he with hcard | ⟨-, hdisk⟩
      · have haddress : (updateMultiSdCard env (updateDiskInfo env s d devClass).obj devClass).address =
            d.address := by
          have hdone : (setDeviceInfo env s d devClass).obj.core =
              (updateMultiSdCard env (updateDiskInfo env s d devClass).obj devClass).core := by
            unfold setDeviceInfo
            dsimp only
            rw [if_neg hret, hkind]
            exact checkSdCardAddRemove_core ..
          exact (address_of_core hdone).symm.trans (setDeviceInfo_address env s d devClass)
        exact (checkSdCardAddRemovePosts_address _ _ _ _ e hcard).trans haddress
      · exact updateDiskInfoPosts_address env s d devClass e hdisk

end StorageDevice

end Pdm
