/-
Media one after the other in one disk.

What a session leaves behind decides over the next: a device that still holds the count
and the partitions of one medium (`Holds`) must be told that it was taken out before the
next one is reported.  A change that reports another count instead makes the device drop
its partitions, but also its count, and no later session can go right.
-/
import Pdm.Proofs.SessionOutcomes

namespace Pdm

namespace SessionState

open StorageDevice
open MediumSession (arrive)

variable {env : Env} {b t : SessionState} {m : MediumSession} {name : String}

/-! ### The events of the disk -/

/-- A card reader that has been added. -/
structure Reader (name : String) (t : SessionState) : Prop where
  placed : t.Placed
  removed : t.device.isSdCardRemoved = false
  storageType : t.device.storageType = .usbCardReader
  deviceName : t.device.deviceName = name

/-- What a session makes of the disk's own events. -/
structure Outline (d e : StorageDevice) : Prop where
  list : e.diskPartitionList = d.diskPartitionList
  count : e.partitionCount = d.partitionCount
  threads : e.fsckThreadArray = d.fsckThreadArray
  removed : e.isSdCardRemoved = d.isSdCardRemoved
  storageType : e.storageType = d.storageType
  deviceName : e.deviceName = d.deviceName

theorem updateMultiSdCard_outline (env : Env) (d : StorageDevice) (devClass : DeviceClass) :
    Outline d (updateMultiSdCard env d devClass) := by
  unfold updateMultiSdCard
  split <;> exact ⟨rfl, rfl, rfl, rfl, rfl, rfl⟩

/-- The disk that an add event names. -/
theorem nameDisk_outline (d : StorageDevice) (devClass : DeviceClass) :
    (d.nameDisk devClass).diskPartitionList = d.diskPartitionList ∧
      (d.nameDisk devClass).fsckThreadArray = d.fsckThreadArray ∧
      (d.nameDisk devClass).isSdCardRemoved = d.isSdCardRemoved ∧
      (d.nameDisk devClass).deviceName = devClass.devName := ⟨rfl, rfl, rfl, rfl⟩

theorem nameDisk_reader (d : StorageDevice) {devClass : DeviceClass}
    (h : devClass.isCardReader = YES) : (d.nameDisk devClass).storageType = .usbCardReader :=
  if_pos h

theorem nameDisk_stick (d : StorageDevice) {devClass : DeviceClass}
    (h : (d.nameDisk devClass).storageType = .usbStick) : devClass.isCardReader ≠ YES := by
  intro hreader
  rw [nameDisk_reader d hreader] at h
  exact absurd h (by decide)

theorem checkSdCardAddRemove_none (env : Env) (s : Sys) (d : StorageDevice)
    {devClass : DeviceClass} (h : d.storageType = .usbStick → devClass.isCardReader ≠ YES) :
    checkSdCardAddRemove env s d devClass = ⟨s, d, ()⟩ := by
  unfold checkSdCardAddRemove
  split
  · rfl
  · rename_i hstick
    split
    · rfl
    · rw [if_pos (h (not_not.mp hstick))]

/-- A change event in a card reader. -/
theorem disk_change {devClass : DeviceClass} (env : Env) (hr : Reader name t)
    (hchange : MediumSession.Changes devClass) :
    (t.disk env devClass).sys = (handleCardReaderDeviceChange env t.sys t.device).state ∧
      Outline (handleCardReaderDeviceChange env t.sys t.device).obj
        (t.disk env devClass).device := by
  have hret : ¬ (triggerUevent env t.sys t.device).ret = true := by
    rw [triggerUevent_ret, hr.removed]
    exact Bool.false_ne_true
  have hupdate : updateDiskInfo env t.sys t.device devClass =
      handleCardReaderDeviceChange env t.sys t.device := by
    unfold updateDiskInfo
    rw [hchange.2]
    exact if_pos hr.storageType
  have houtline := updateMultiSdCard_outline env
    (handleCardReaderDeviceChange env t.sys t.device).obj devClass
  have hreader : (updateMultiSdCard env
      (handleCardReaderDeviceChange env t.sys t.device).obj devClass).storageType =
      .usbCardReader := by
    rw [houtline.storageType, storageType_of_core (handleCardReaderDeviceChange_core ..),
      hr.storageType]
  unfold disk setDeviceInfo
  dsimp only
  rw [if_neg hret, hchange.1]
  dsimp only
  rw [hupdate, checkSdCardAddRemove_none env _ _ fun hstick => absurd (hreader.symm.trans hstick)
    (by decide)]
  exact ⟨rfl, houtline⟩

/-- The list and the count that a change leaves which counts this many partitions. -/
def afterChange (d : StorageDevice) (counted : Int) : List DiskPartitionInfo × Int :=
  if counted = d.partitionCount then (d.diskPartitionList, d.partitionCount)
  else if d.partitionCount = 0 then (d.diskPartitionList, counted)
  else ([], 0)

theorem afterChange_list (d : StorageDevice) (counted : Int) :
    (afterChange d counted).1 = d.diskPartitionList ∨ (afterChange d counted).1 = [] := by
  unfold afterChange
  split
  · exact Or.inl rfl
  · split
    · exact Or.inl rfl
    · exact Or.inr rfl

theorem handleCardReaderDeviceChange_leaves (env : Env) (s : Sys) (d : StorageDevice) :
    (handleCardReaderDeviceChange env s d).obj.fsckThreadArray = d.fsckThreadArray ∧
      (handleCardReaderDeviceChange env s d).obj.isSdCardRemoved = d.isSdCardRemoved ∧
      (handleCardReaderDeviceChange env s d).obj.diskPartitionList =
        (afterChange d (env.partitionCount d.deviceName)).1 ∧
      (handleCardReaderDeviceChange env s d).obj.partitionCount =
        (afterChange d (env.partitionCount d.deviceName)).2 := by
  unfold handleCardReaderDeviceChange afterChange
  dsimp only
  rw [countPartitions_fst]
  by_cases hsame : env.partitionCount d.deviceName = d.partitionCount
  · rw [if_neg (not_not_intro hsame), if_pos hsame]
    exact ⟨rfl, rfl, rfl, rfl⟩
  · rw [if_pos hsame, if_neg hsame]
    by_cases hzero : d.partitionCount = 0
    · rw [if_neg (not_not_intro hzero), if_pos hzero]
      exact ⟨rfl, rfl, rfl, rfl⟩
    · rw [if_pos hzero, if_neg hzero]
      exact ⟨rfl, rfl, rfl, rfl⟩

/-- What it leaves of the session. -/
theorem disk_change_reader {devClass : DeviceClass} (env : Env) (hr : Reader name t)
    (hchange : MediumSession.Changes devClass) :
    Reader name (t.disk env devClass) ∧ (t.disk env devClass).sys.next = t.sys.next ∧
      (t.disk env devClass).device.fsckThreadArray = t.device.fsckThreadArray ∧
      (t.disk env devClass).device.diskPartitionList =
        (afterChange t.device (env.partitionCount name)).1 ∧
      (t.disk env devClass).device.partitionCount =
        (afterChange t.device (env.partitionCount name)).2 := by
  obtain ⟨hsys, houtline⟩ := disk_change env hr hchange
  obtain ⟨hthreads, hremoved, hlist, hcount⟩ :=
    handleCardReaderDeviceChange_leaves env t.sys t.device
  rw [hr.deviceName] at hlist hcount
  have hcore := handleCardReaderDeviceChange_core env t.sys t.device
  have hnext : (t.disk env devClass).sys.next = t.sys.next := by
    rw [hsys]
    exact handleCardReaderDeviceChange_next env t.sys t.device
  have haddresses : (t.disk env devClass).device.addresses = t.device.addresses ∨
      (t.disk env devClass).device.addresses = [] := by
    unfold addresses
    rw [houtline.list, hlist]
    rcases afterChange_list t.device (env.partitionCount name) with h | h
    · exact Or.inl (congrArg _ h)
    · exact Or.inr (congrArg _ h)
  refine ⟨⟨⟨?_, ?_, ?_⟩, ?_, ?_, ?_⟩, hnext, houtline.threads.trans hthreads,
    houtline.list.trans hlist, houtline.count.trans hcount⟩
  · rcases haddresses with h | h
    · rw [h]
      exact hr.placed.nodup
    · rw [h]
      exact List.nodup_nil
  · intro a ha
    rw [hnext]
    rcases haddresses with h | h
    · rw [h] at ha
      exact hr.placed.partitions a ha
    · rw [h] at ha
      exact absurd ha List.not_mem_nil
  · intro a ha
    rw [houtline.threads, hthreads] at ha
    rw [hnext]
    exact hr.placed.threads a ha
  · exact houtline.removed.trans (hremoved.trans hr.removed)
  · exact houtline.storageType.trans ((storageType_of_core hcore).trans hr.storageType)
  · exact houtline.deviceName.trans ((deviceName_of_core hcore).trans hr.deviceName)

/-- A disk that is added with a medium in it. -/
theorem disk_add {devClass : DeviceClass} (env : Env)
    (hempty : t.device.diskPartitionList = []) (hidle : t.device.fsckThreadArray = [])
    (hremoved : t.device.isSdCardRemoved = false)
    (hkind : sMapUsbDeviceType devClass.devType = .typeDevDisk)
    (hadd : getDeviceAction devClass.action = .usbDevAdd)
    (hcounted : env.partitionCount devClass.devName ≠ 0) :
    Fresh { t.disk env devClass with submitted := [] } ∧
      (t.disk env devClass).device.partitionCount = env.partitionCount devClass.devName ∧
      (t.disk env devClass).device.deviceName = devClass.devName ∧
      (devClass.isCardReader = YES → (t.disk env devClass).device.storageType = .usbCardReader) := by
  have hret : ¬ (triggerUevent env t.sys t.device).ret = true := by
    rw [triggerUevent_ret, hremoved]
    exact Bool.false_ne_true
  obtain ⟨hlist, hthreads, hflag, hname⟩ := nameDisk_outline t.device devClass
  have hcount : (countPartitions env t.sys (t.device.nameDisk devClass).deviceName).1 =
      env.partitionCount devClass.devName :=
    hname ▸ countPartitions_fst env t.sys (t.device.nameDisk devClass).deviceName
  have hupdate : updateDiskInfo env t.sys t.device devClass =
      ⟨(countPartitions env t.sys (t.device.nameDisk devClass).deviceName).2,
        { t.device.nameDisk devClass with partitionCount := env.partitionCount devClass.devName },
        ()⟩ := by
    unfold updateDiskInfo
    rw [hadd]
    dsimp only
    rw [hcount, if_neg fun h => hcounted h.1]
  have houtline := updateMultiSdCard_outline env
    { t.device.nameDisk devClass with partitionCount := env.partitionCount devClass.devName } devClass
  have hdisk : t.disk env devClass =
      { t with
        sys := (countPartitions env t.sys (t.device.nameDisk devClass).deviceName).2
        device := updateMultiSdCard env
          { t.device.nameDisk devClass with
            partitionCount := env.partitionCount devClass.devName } devClass } := by
    unfold disk setDeviceInfo
    dsimp only
    rw [if_neg hret, hkind]
    dsimp only
    rw [hupdate, checkSdCardAddRemove_none]
    exact fun hstick => nameDisk_stick t.device (houtline.storageType.symm.trans hstick)
  rw [hdisk]
  refine ⟨⟨houtline.list.trans (hlist.trans hempty), fun a ha => ?_,
    houtline.removed.trans (hflag.trans hremoved), rfl⟩, houtline.count,
    houtline.deviceName.trans hname, fun hreader => ?_⟩
  · have hnone : a ∈ t.device.fsckThreadArray := (houtline.threads.trans hthreads) ▸ ha
    rw [hidle] at hnone
    exact absurd hnone List.not_mem_nil
  · exact houtline.storageType.trans (nameDisk_reader t.device hreader)

/-! ### Between the sessions -/

/-- Sessions that begin and end as they should, one after the other. -/
def AllSound : SessionState → List MediumSession → Prop
  | _, [] => True
  | t, m :: ms => Sound m.env m.parts (t.begin m) (t.play m) ∧ AllSound (t.play m) ms

/-- What is true when a session ends in a card reader, of a card with `count` partitions
or, where `count` is 0, of one that was not counted. -/
structure Holds (name : String) (count : Int) (t : SessionState) : Prop where
  reader : Reader name t
  count : t.device.partitionCount = count
  stale : t.device.diskPartitionList ≠ []

/-- A session on an empty disk lists the partitions that were announced. -/
theorem Tracks.run (env : Env) (hplaced : b.Placed)
    (hremoved : b.device.isSdCardRemoved = false) {es : List MediumEvent} :
    ∀ {known : List DeviceClass} {t : SessionState}, (∀ e ∈ es, Usual e) → Tracks b known t →
      Tracks b (Runs.run arrive known es) (Runs.run (SessionState.step env) t es) := by
  induction es with
  | nil => intro known t _ h; exact h
  | cons e es ih =>
      intro known t husual h
      exact ih (fun e he => husual e (by simp [he]))
        (h.step env hplaced hremoved (husual e (by simp)))

theorem holds_of_fresh (hm : m.Proper) (hfresh : Fresh b)
    (htype : b.device.storageType = .usbCardReader) (hname : b.device.deviceName = name) :
    Holds name b.device.partitionCount (Runs.run (step m.env) b m.events) := by
  have htracks : Tracks b m.arrivals (Runs.run (step m.env) b m.events) :=
    Tracks.run m.env hfresh.placed hfresh.removed hm.usual hfresh.tracks
  have hsame := htracks.follows.same
  refine ⟨⟨htracks.follows.placed hfresh.placed, htracks.removed hfresh.removed,
    (storageType_of_core hsame.core).trans htype, (deviceName_of_core hsame.core).trans hname⟩,
    hsame.partitionCount, fun hnil => ?_⟩
  have hlength := htracks.length
  rw [hnil, hm.arrivals_perm.length_eq] at hlength
  exact hm.nonempty (List.length_eq_zero_iff.mp hlength.symm)

/-- A session that begins with partitions of an earlier medium. -/
theorem Holds.not_sound {count : Int} (h : Holds name count b) (hm : m.Proper) :
    ¬ Sound m.env m.parts b (Runs.run (step m.env) b m.events) :=
  not_sound_of_stale hm h.reader.placed h.reader.removed h.stale

/-! ### How a later session begins -/

section Begin

variable {n : Int} (h : Holds name n t) (hin : m.Inserted name)
include h

theorem Holds.forget : Holds name n { t with submitted := [] } :=
  ⟨⟨⟨h.reader.placed.nodup, h.reader.placed.partitions, h.reader.placed.threads⟩,
    h.reader.removed, h.reader.storageType, h.reader.deviceName⟩, h.count, h.stale⟩

/-- A change that counts something else makes the device drop everything. -/
theorem Holds.dropped (env : Env) (hn : n ≠ 0) {devClass : DeviceClass}
    (hchange : MediumSession.Changes devClass) (hother : env.partitionCount name ≠ n) :
    Reader name (t.disk env devClass) ∧ (t.disk env devClass).device.diskPartitionList = [] ∧
      (t.disk env devClass).device.partitionCount = 0 := by
  obtain ⟨hreader, -, -, hlist, hcount⟩ := disk_change_reader env h.reader hchange
  have hleft : afterChange t.device (env.partitionCount name) = ([], 0) := by
    unfold afterChange
    rw [h.count, if_neg hother, if_neg hn]
  rw [hleft] at hlist hcount
  exact ⟨hreader, hlist, hcount⟩

/-- A change that counts the same is not noticed. -/
theorem Holds.unnoticed {devClass : DeviceClass} (hchange : MediumSession.Changes devClass)
    (hsame : env.partitionCount name = n) : Holds name n (t.disk env devClass) := by
  obtain ⟨hreader, -, -, hlist, hcount⟩ := disk_change_reader env h.reader hchange
  have hleft : afterChange t.device (env.partitionCount name) =
      (t.device.diskPartitionList, t.device.partitionCount) := by
    unfold afterChange
    rw [h.count, if_pos hsame]
  rw [hleft] at hlist hcount
  refine ⟨hreader, hcount.trans h.count, ?_⟩
  rw [hlist]
  exact h.stale

omit h in
/-- A reader that expects nothing takes over what a change counts. -/
theorem Reader.counts (env : Env) (hr : Reader name t) (hzero : t.device.partitionCount = 0)
    {devClass : DeviceClass} (hchange : MediumSession.Changes devClass) :
    Reader name (t.disk env devClass) ∧
      (t.disk env devClass).device.diskPartitionList = t.device.diskPartitionList ∧
      (t.disk env devClass).device.partitionCount = env.partitionCount name := by
  obtain ⟨hreader, -, -, hlist, hcount⟩ := disk_change_reader env hr hchange
  have hleft : (afterChange t.device (env.partitionCount name)).1 = t.device.diskPartitionList ∧
      (afterChange t.device (env.partitionCount name)).2 = env.partitionCount name := by
    unfold afterChange
    rw [hzero]
    by_cases hnone : env.partitionCount name = 0
    · rw [if_pos hnone]
      exact ⟨rfl, hnone.symm⟩
    · rw [if_neg hnone, if_pos rfl]
      exact ⟨rfl, rfl⟩
  exact ⟨hreader, hlist.trans hleft.1, hcount.trans hleft.2⟩

include hin

/-- The card before was reported as taken out. -/
theorem Holds.begin_takenOut (hn : n ≠ 0) (hout : m.takenOut.isSome = true) :
    Fresh (t.begin m) ∧ (t.begin m).device.partitionCount = m.parts.length ∧
      Reader name (t.begin m) := by
  obtain ⟨⟨env, devClass⟩, hsome⟩ := Option.isSome_iff_exists.mp hout
  obtain ⟨hchange, hnone⟩ := hin.takenOut env devClass hsome
  obtain ⟨hreader, hempty, hzero⟩ := h.forget.dropped env hn hchange (hnone ▸ hn.symm)
  obtain ⟨hreader', hlist, hcount⟩ := hreader.counts m.env hzero hin.start
  have hbegin : t.begin m = (({ t with submitted := [] } : SessionState).disk env devClass).disk
      m.env m.start := by
    unfold SessionState.begin
    rw [hsome]
  rw [hbegin]
  exact ⟨⟨hlist.trans hempty, hreader'.placed.threads, hreader'.removed, rfl⟩,
    hcount.trans hin.counted, hreader'⟩

omit h hin in
theorem begin_direct (hout : m.takenOut = none) :
    t.begin m = ({ t with submitted := [] } : SessionState).disk m.env m.start := by
  unfold SessionState.begin
  rw [hout]

/-- It was not, and the two have as many partitions. -/
theorem Holds.begin_same (hout : m.takenOut = none) (hsame : (m.parts.length : Int) = n) :
    Holds name n (t.begin m) := by
  rw [begin_direct hout]
  exact h.forget.unnoticed hin.start (hin.counted.trans hsame)

/-- It was not, and they differ. -/
theorem Holds.begin_swapped (hn : n ≠ 0) (hout : m.takenOut = none)
    (hother : (m.parts.length : Int) ≠ n) :
    Fresh (t.begin m) ∧ (t.begin m).device.partitionCount = 0 ∧ Reader name (t.begin m) := by
  obtain ⟨hreader, hempty, hzero⟩ :=
    h.forget.dropped m.env hn hin.start (hin.counted ▸ hother)
  rw [begin_direct hout]
  exact ⟨⟨hempty, hreader.placed.threads, hreader.removed, rfl⟩, hzero, hreader⟩

/-- The session before had not been counted: its partitions stay. -/
theorem Holds.begin_lost (hn : n = 0) : ∃ count, Holds name count (t.begin m) := by
  subst hn
  have hkeeps : ∀ {t : SessionState} (env : Env) {devClass : DeviceClass}, Holds name 0 t →
      MediumSession.Changes devClass →
      Holds name (env.partitionCount name) (t.disk env devClass) := by
    intro t env devClass h hchange
    obtain ⟨hreader, hlist, hcount⟩ := h.reader.counts env h.count hchange
    exact ⟨hreader, hcount, by rw [hlist]; exact h.stale⟩
  cases hout : m.takenOut with
  | none =>
    rw [begin_direct hout]
    exact ⟨_, hkeeps m.env h.forget hin.start⟩
  | some out =>
    obtain ⟨hchange, hnone⟩ := hin.takenOut out.1 out.2 hout
    have hbegin : t.begin m =
        (({ t with submitted := [] } : SessionState).disk out.1 out.2).disk m.env m.start := by
      unfold SessionState.begin
      rw [hout]
    have hfirst := hkeeps out.1 h.forget hchange
    rw [hnone] at hfirst
    rw [hbegin]
    exact ⟨_, hkeeps m.env hfirst hin.start⟩

end Begin

end SessionState

/-! ### Every sequence of sessions -/

/-- Only the partition that arrives last has a file system pdm supports on a card. -/
def MediumSession.OnlyLast (m : MediumSession) : Prop :=
  ∀ q ∈ m.arrivals.dropLast,
    PdmFs.isSupportedFileSystem q.fsType (sMapStorageType .usbCardReader) = false

instance (m : MediumSession) : Decidable m.OnlyLast :=
  inferInstanceAs (Decidable (∀ q ∈ m.arrivals.dropLast, _))

/-- The sessions after one whose medium has `n` partitions: every card is reported as
taken out before the next one, but for the last exchange, when the cards have different
numbers of partitions and only the partition that arrives last is supported. -/
def Clean : Nat → List MediumSession → Prop
  | _, [] => True
  | n, m :: ms =>
    (m.takenOut.isSome = true ∧ Clean m.parts.length ms) ∨
      (m.takenOut = none ∧ ms = [] ∧ m.parts.length ≠ n ∧ m.OnlyLast)

namespace SessionState

open StorageDevice

variable {t : SessionState} {name : String}

theorem supports_of_reader {d : StorageDevice} (h : d.storageType = .usbCardReader)
    (part : DeviceClass) :
    d.supports part =
      PdmFs.isSupportedFileSystem part.fsType (sMapStorageType .usbCardReader) := by
  unfold supports listed
  dsimp only
  rw [h]
  unfold newPartition DiskPartitionInfo.setPartitionInfo
  dsimp only
  by_cases hfs : part.fsType = ""
  · rw [hfs]
    rfl
  · rw [if_pos hfs]

/-- After a session that was not counted, none can go right. -/
theorem allSound_iff_of_lost (h : Holds name 0 t) {ms : List MediumSession}
    (hproper : ∀ m ∈ ms, m.Proper) (hins : ∀ m ∈ ms, m.Inserted name) :
    AllSound t ms ↔ ms = [] := by
  cases ms with
  | nil => exact iff_of_true trivial rfl
  | cons m ms =>
    obtain ⟨count, hbegin⟩ := h.begin_lost (hins m (by simp)) rfl
    refine iff_of_false (fun hsound => ?_) (by simp)
    exact hbegin.not_sound (hproper m (by simp)) hsound.1

/-- **The sessions after one that was counted.**  The induction is on the sessions; each
of them begins with what the one before it left. -/
theorem allSound_iff_of_holds {ms : List MediumSession} :
    ∀ {t : SessionState} {n : Nat}, n ≠ 0 → Holds name n t → (∀ m ∈ ms, m.Proper) →
      (∀ m ∈ ms, m.Inserted name) → (AllSound t ms ↔ Clean n ms) := by
  induction ms with
  | nil => intro t n _ _ _ _; exact iff_of_true trivial trivial
  | cons m ms ih =>
      intro t n hn h hproper hins
      have hm := hproper m (by simp)
      have hin := hins m (by simp)
      have hn' : (n : Int) ≠ 0 := Int.natCast_ne_zero.mpr hn
      have hproper' : ∀ m ∈ ms, m.Proper := fun m hm => hproper m (by simp [hm])
      have hins' : ∀ m ∈ ms, m.Inserted name := fun m hm => hins m (by simp [hm])
      cases hout : m.takenOut with
      | some out =>
        have hisSome : m.takenOut.isSome = true := by rw [hout]; rfl
        obtain ⟨hfresh, hcount, hreader⟩ := h.begin_takenOut hin hn' hisSome
        have hsound := sound_of_counted hm hfresh hcount
        have hend := holds_of_fresh hm hfresh hreader.storageType hreader.deviceName
        rw [hcount] at hend
        have hpos : m.parts.length ≠ 0 := fun hnil =>
          hm.nonempty (List.length_eq_zero_iff.mp hnil)
        have hrest := ih hpos hend hproper' hins'
        constructor
        · intro hall
          exact Or.inl ⟨hisSome, hrest.mp hall.2⟩
        · rintro (⟨-, hclean⟩ | ⟨hnone, -⟩)
          · exact ⟨hsound, hrest.mpr hclean⟩
          · rw [hout] at hnone
            exact absurd hnone (by simp)
      | none =>
        by_cases hsame : m.parts.length = n
        · -- the exchange is not noticed
          have hbegin := h.begin_same hin hout (congrArg _ hsame)
          refine iff_of_false (fun hall => hbegin.not_sound hm hall.1) ?_
          rintro (⟨hsome, -⟩ | ⟨-, -, hdiffer, -⟩)
          · rw [hout] at hsome
            exact absurd hsome (by simp)
          · exact hdiffer hsame
        · obtain ⟨hfresh, hzero, hreader⟩ :=
            h.begin_swapped hin hn' hout (fun heq => hsame (Int.ofNat.inj heq))
          have hsound := sound_iff_of_uncounted hm hfresh hzero
          have hend := holds_of_fresh hm hfresh hreader.storageType hreader.deviceName
          rw [hzero] at hend
          have hrest := allSound_iff_of_lost hend hproper' hins'
          have hlast : m.OnlyLast ↔
              ∀ q ∈ m.arrivals.dropLast, (t.begin m).device.supports q = false := by
            unfold MediumSession.OnlyLast
            refine forall₂_congr fun q _ => ?_
            rw [supports_of_reader hreader.storageType]
          constructor
          · intro hall
            exact Or.inr ⟨hout, hrest.mp hall.2, hsame, hlast.mpr (hsound.mp hall.1)⟩
          · rintro (⟨hsome, -⟩ | ⟨-, hnil, -, honly⟩)
            · rw [hout] at hsome
              exact absurd hsome (by simp)
            · exact ⟨hsound.mpr (hlast.mp honly), hrest.mpr hnil⟩

/-- How the first session begins. -/
theorem begin_first (s : Sys) {d : StorageDevice} {first : MediumSession}
    {later : List MediumSession} (h : MediumSession.OneDisk d first later) :
    Fresh (begin ⟨s, d, []⟩ first) ∧
      (begin ⟨s, d, []⟩ first).device.partitionCount = first.parts.length ∧
      (begin ⟨s, d, []⟩ first).device.deviceName = first.diskName d ∧
      (first.IsReader d → (begin ⟨s, d, []⟩ first).device.storageType = .usbCardReader) := by
  have hparts : (first.parts.length : Int) ≠ 0 := by
    have hnonempty := (h.proper first (by simp)).nonempty
    exact Int.natCast_ne_zero.mpr fun hnil => hnonempty (List.length_eq_zero_iff.mp hnil)
  rw [begin_direct h.opens.takenOut]
  rcases h.opens.start with ⟨hkind, hadd, hcounted⟩ | ⟨htype, hzero, hin⟩
  · obtain ⟨hfresh, hcount, hname, hreader⟩ := disk_add (t := ⟨s, d, []⟩) first.env h.empty h.idle
      h.removed hkind hadd (hcounted ▸ hparts)
    refine ⟨hfresh, hcount.trans hcounted, ?_, fun his => hreader ?_⟩
    · unfold MediumSession.diskName
      rw [if_pos hadd]
      exact hname
    · unfold MediumSession.IsReader at his
      rw [if_pos hadd] at his
      exact his
  · have hchange : ¬ getDeviceAction first.start.action = .usbDevAdd := by
      rw [hin.start.2]
      decide
    have hplaced : Placed ⟨s, d, []⟩ := by
      refine ⟨?_, ?_, ?_⟩
      · show (d.diskPartitionList.map _).Nodup
        rw [h.empty]
        exact List.nodup_nil
      · intro a ha
        change a ∈ d.diskPartitionList.map _ at ha
        rw [h.empty] at ha
        exact absurd ha List.not_mem_nil
      · intro a ha
        change a ∈ d.fsckThreadArray at ha
        rw [h.idle] at ha
        exact absurd ha List.not_mem_nil
    have hreader : Reader d.deviceName ⟨s, d, []⟩ := ⟨hplaced, h.removed, htype, rfl⟩
    obtain ⟨hreader', hlist, hcount⟩ := hreader.counts first.env hzero hin.start
    refine ⟨⟨hlist.trans h.empty, hreader'.placed.threads, hreader'.removed, rfl⟩,
      hcount.trans hin.counted, ?_, fun _ => hreader'.storageType⟩
    unfold MediumSession.diskName
    rw [if_neg hchange]
    exact hreader'.deviceName

/-- **When every medium of a disk is mounted as it should be.** -/
theorem allSound_iff (s : Sys) (d : StorageDevice) (first : MediumSession)
    (later : List MediumSession) (h : MediumSession.OneDisk d first later) :
    AllSound ⟨s, d, []⟩ (first :: later) ↔ Clean first.parts.length later := by
  obtain ⟨hfresh, hcount, hname, htype⟩ := begin_first s h
  have hm := h.proper first (by simp)
  have hsound : Sound first.env first.parts (begin ⟨s, d, []⟩ first) (play ⟨s, d, []⟩ first) :=
    sound_of_counted hm hfresh hcount
  have hpos : first.parts.length ≠ 0 := fun hnil => hm.nonempty (List.length_eq_zero_iff.mp hnil)
  by_cases hnone : later = []
  · subst hnone
    exact iff_of_true ⟨hsound, trivial⟩ trivial
  · have hend := holds_of_fresh hm hfresh (htype (h.reader hnone)) hname
    rw [hcount] at hend
    have hrest := allSound_iff_of_holds hpos hend (fun m hm => h.proper m (by simp [hm])) h.inserted
    constructor
    · intro hall
      exact hrest.mp hall.2
    · intro hclean
      exact ⟨hsound, hrest.mpr hclean⟩

/-! ### A card that is exchanged -/

/-- A card reader, added with a card that has one partition. -/
def cardWithOne : MediumSession where
  env := { execShellCmd := fun _ => "1" }
  start := { action := "add", devType := "disk", devName := "sda", isCardReader := YES }
  parts := [{ action := "add", devType := "partition", devName := "sda1", fsType := "vfat" }]
  events :=
    [.announce { action := "add", devType := "partition", devName := "sda1", fsType := "vfat" }]

/-- A card with two, put into it later. -/
def cardWithTwo (takenOut : Option (Env × DeviceClass)) : MediumSession where
  takenOut := takenOut
  env := { execShellCmd := fun _ => "2" }
  start := { action := "change", devType := "disk", devName := "sda" }
  parts :=
    [{ action := "add", devType := "partition", devName := "sda1", fsType := "vfat" },
      { action := "add", devType := "partition", devName := "sda2", fsType := "ext4" }]
  events :=
    [.announce { action := "add", devType := "partition", devName := "sda2", fsType := "ext4" },
      .announce { action := "add", devType := "partition", devName := "sda1", fsType := "vfat" }]

/-- The reader says that there is no card in it any more. -/
def cardTakenOut : Env × DeviceClass :=
  ({ execShellCmd := fun _ => "0" }, { action := "change", devType := "disk", devName := "sda" })

theorem cardWithOne_proper : cardWithOne.Proper :=
  ⟨by decide, by decide, by decide, by decide, by simp [cardWithOne]⟩

theorem cardWithTwo_proper (takenOut : Option (Env × DeviceClass)) :
    (cardWithTwo takenOut).Proper := by
  refine ⟨by simp [cardWithTwo], ?_, ?_, ?_, ?_⟩
  · show ["sda1", "sda2"].Nodup
    decide
  · simp [cardWithTwo]
  · intro part hpart
    simp only [cardWithTwo, List.mem_cons, List.not_mem_nil, or_false] at hpart
    rcases hpart with rfl | rfl <;> decide
  · intro part
    simp [cardWithTwo, or_comm]

/-- The two cards, one after the other in one reader. -/
theorem twoCards {takenOut : Option (Env × DeviceClass)}
    (h : takenOut = none ∨ takenOut = some cardTakenOut) :
    MediumSession.OneDisk (StorageDevice.new 0 "/devices/usb1" "") cardWithOne
      [cardWithTwo takenOut] where
  empty := rfl
  idle := rfl
  removed := rfl
  opens := ⟨rfl, Or.inl ⟨by decide, by decide, by decide⟩⟩
  proper := by
    intro m hm
    rcases List.mem_pair.mp hm with rfl | rfl
    · exact cardWithOne_proper
    · exact cardWithTwo_proper takenOut
  inserted := by
    intro m hm
    rw [List.mem_singleton] at hm
    subst hm
    rcases h with rfl | rfl
    · refine ⟨⟨by decide, by decide⟩, by decide, fun env devClass hsome => ?_⟩
      exact absurd hsome (by simp [cardWithTwo])
    · refine ⟨⟨by decide, by decide⟩, by decide, fun env devClass hsome => ?_⟩
      cases hsome
      exact ⟨⟨by decide, by decide⟩, by decide⟩
  reader := by
    intro _
    unfold MediumSession.IsReader
    rw [if_pos (by decide)]
    rfl

/-- Exchanged without a word, the second card has a partition submitted twice. -/
theorem exchanged_card_submitted_twice :
    MediumSession.OneDisk (StorageDevice.new 0 "/devices/usb1" "") cardWithOne
        [cardWithTwo none] ∧
      (play (play ⟨{}, StorageDevice.new 0 "/devices/usb1" "", []⟩ cardWithOne)
        (cardWithTwo none)).submitted = ["sda2", "sda2", "sda1"] ∧
      ¬ AllSound ⟨{}, StorageDevice.new 0 "/devices/usb1" "", []⟩
        [cardWithOne, cardWithTwo none] := by
  have htwice : (play (play ⟨{}, StorageDevice.new 0 "/devices/usb1" "", []⟩ cardWithOne)
      (cardWithTwo none)).submitted = ["sda2", "sda2", "sda1"] := by decide
  refine ⟨twoCards (Or.inl rfl), htwice, fun hall => ?_⟩
  have hnodup := hall.2.1.once.nodup_iff.mpr
    (supportedNames_nodup (cardWithTwo_proper none).distinct)
  rw [htwice] at hnodup
  exact absurd hnodup (by decide)

/-- Taken out before, it has both mounted. -/
theorem allSound_taken_out :
    AllSound ⟨{}, StorageDevice.new 0 "/devices/usb1" "", []⟩
      [cardWithOne, cardWithTwo (some cardTakenOut)] :=
  (allSound_iff {} (StorageDevice.new 0 "/devices/usb1" "") cardWithOne
    [cardWithTwo (some cardTakenOut)] (twoCards (Or.inr rfl))).mpr (Or.inl ⟨rfl, trivial⟩)

end SessionState

end Pdm
