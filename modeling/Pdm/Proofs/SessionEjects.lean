/-
What an eject replies and stores in the build with `WEBOS_SESSION`.

`ejectDevice` resets its flag for each drive, so that the last drive decides, and where the
flag is not set it returns without a reply.  The reply and the record are true, then, exactly
when the device is ejected already, or is a storage device of which the last drive and every
mounted one could be unmounted; a device that db8 does not name is always answered.
-/
import Pdm.Framework.SessionEject

namespace Pdm

namespace SessionService

variable (facts : EjectFacts) (deviceSetId : String)

/-! ### The loop over the drives -/

@[simp] theorem ejectDrive_isMounted (facts : SessionFacts) (deviceSetId : String)
    (drive : SessionDrive) :
    (ejectDrive facts deviceSetId drive).isMounted =
      (drive.isMounted && !facts.umount drive.mountName) := by
  unfold ejectDrive
  by_cases hok : facts.umount drive.mountName = true
  · rw [if_pos hok, hok, Bool.not_true, Bool.and_false]
    split <;> rfl
  · rw [if_neg hok, Bool.eq_false_iff.mpr hok, Bool.not_false, Bool.and_true]

/-- Each drive is treated for itself. -/
theorem ejectDrives_getElem? (drives : List SessionDrive) (start : Nat) (all : Bool) (idx : Nat) :
    (ejectDrives facts deviceSetId start all drives).1[idx]? =
      drives[idx]?.map (ejectDrive (facts.of (start + idx)) deviceSetId) := by
  induction drives generalizing start all idx with
  | nil => simp [ejectDrives]
  | cons drive drives ih =>
      unfold ejectDrives
      cases idx with
      | zero => simp
      | succ idx =>
          rw [List.getElem?_cons_succ, List.getElem?_cons_succ, ih]
          rw [show start + 1 + idx = start + (idx + 1) by omega]

/-- The flag is the outcome of the last drive. -/
theorem ejectDrives_flag (drives : List SessionDrive) (start : Nat) (all : Bool)
    (hdrives : drives ≠ []) :
    (ejectDrives facts deviceSetId start all drives).2 = facts.umount (start + drives.length - 1) := by
  induction drives generalizing start all with
  | nil => exact absurd rfl hdrives
  | cons drive drives ih =>
      unfold ejectDrives
      by_cases hlast : drives = []
      · rw [hlast]
        rfl
      · rw [ih (start + 1) _ hlast, List.length_cons,
          show start + 1 + drives.length = start + (drives.length + 1) by omega]

/-! ### The other models of an eject

Where what becomes of a drive depends on its mount name alone, the record is the one of
`SessionService.ejected` and the reply the one of `LunaService.ejectDevice`. -/

end SessionService

/-- The outcomes drive by drive. -/
def EjectFacts.byName (names : SessionFacts) (drives : List SessionDrive) : EjectFacts where
  umount idx := (drives[idx]?.map fun drive => names.umount drive.mountName).getD false
  removeDirRecursive idx :=
    (drives[idx]?.map fun drive => names.removeDirRecursive drive.mountName).getD false
  userId := names.userId

namespace SessionService

theorem ejectDrives_byName (deviceSetId : String) (names : SessionFacts)
    (drives : List SessionDrive) :
    (ejectDrives (.byName names drives) deviceSetId 0 false drives).1 =
      drives.map (ejectDrive names deviceSetId) := by
  refine List.ext_getElem? fun idx => ?_
  rw [ejectDrives_getElem?, List.getElem?_map, Nat.zero_add]
  cases hdrive : drives[idx]? with
  | none => rfl
  | some drive =>
      unfold ejectDrive EjectFacts.of EjectFacts.byName
      simp only [hdrive, Option.map_some, Option.getD_some]

theorem ejectDrives_byName_flag (deviceSetId : String) (names : SessionFacts)
    (drives : List SessionDrive) :
    (ejectDrives (.byName names drives) deviceSetId 0 false drives).2 =
      drives.foldl (fun _ drive => names.umount drive.mountName) false := by
  rcases List.eq_nil_or_concat drives with rfl | ⟨init, last, rfl⟩
  · rfl
  · rw [ejectDrives_flag _ _ _ _ _ (by simp), List.concat_eq_append, List.foldl_append]
    show (((init ++ [last])[0 + (init ++ [last]).length - 1]?).map _).getD false = _
    simp

theorem ejectFound_byName (names : SessionFacts) (d : SessionDevice)
    (hnew : d.errorReason ≠ "Ejected") :
    (ejectFound (.byName names d.storageDriveList) d).stored = some (ejected names d) ∧
      (ejectFound (.byName names d.storageDriveList) d).replies =
        (LunaService.ejectDevice
          { deviceType := d.deviceType
            errorReason := d.errorReason
            storageDriveList := d.storageDriveList.map fun drive =>
              { driveName := drive.driveName, mountName := drive.mountName } }
          { umount := names.umount }).toList := by
  have hflag := ejectDrives_byName_flag d.deviceSetId names d.storageDriveList
  have hdrives := ejectDrives_byName d.deviceSetId names d.storageDriveList
  unfold ejectFound ejected LunaService.ejectDevice LunaService.allPartitionUnmounted
  rw [if_neg hnew, if_neg hnew]
  dsimp only
  rw [hflag, hdrives]
  have hwritten : ¬ (EjectFacts.byName names d.storageDriveList).mergePut = false := by
    intro h
    cases h
  simp only [hwritten, List.foldl_map]
  unfold partitionsUnmounted SessionDevice.isStorage
  by_cases hstorage : d.deviceType = "USB_STORAGE"
  · simp only [hstorage, decide_true, if_true, Bool.true_and]
    cases d.storageDriveList.foldl (fun _ drive => names.umount drive.mountName) false
    · exact ⟨rfl, rfl⟩
    · exact ⟨rfl, rfl⟩
  · simp only [hstorage, decide_false, if_false, Bool.false_and, Bool.false_eq_true]
    exact ⟨rfl, rfl⟩

end SessionService

/-! ### What an eject promises -/

namespace EjectOutcome

/-- The record after the eject. -/
def record (outcome : EjectOutcome) (d : SessionDevice) : SessionDevice := outcome.stored.getD d

end EjectOutcome

namespace SessionDevice

variable (facts : EjectFacts) (outcome : EjectOutcome) (d : SessionDevice)

/-- Every drive that is mounted by the record was unmounted. -/
def AllUnmounted : Prop :=
  ∀ idx drive, d.storageDriveList[idx]? = some drive → drive.isMounted = true →
    outcome.umounts[idx]? = some drive.mountName ∧ facts.umount idx = true

/-- The device is ejected: it was already, or each of its mounted drives has been unmounted. -/
def IsEjected : Prop :=
  d.errorReason = "Ejected" ∨ d.AllUnmounted facts outcome

/-- Each drive of the record is unmounted exactly if its `umount` succeeded. -/
def DrivesTrue : Prop :=
  ∀ idx drive, d.storageDriveList[idx]? = some drive →
    ∃ drive', (outcome.record d).storageDriveList[idx]? = some drive' ∧
      (drive'.isMounted = false ↔ drive.isMounted = false ∨
        (outcome.umounts[idx]? = some drive.mountName ∧ facts.umount idx = true))

end SessionDevice

/-- The eject replies once, and the reply and the record say what became of the device. -/
structure EjectTruthful (payload : Option FindAnswer) (facts : EjectFacts)
    (outcome : EjectOutcome) : Prop where
  oneReply : outcome.replies.length = 1
  reply : (∃ reply ∈ outcome.replies, reply.returnValue = true) ↔
    ∃ d, payload.bind FindAnswer.device = some d ∧ d.IsEjected facts outcome
  record : ∀ d, payload.bind FindAnswer.device = some d →
    ((outcome.record d).errorReason = "Ejected" ↔ d.IsEjected facts outcome)
  drives : ∀ d, payload.bind FindAnswer.device = some d → d.DrivesTrue facts outcome

/-- The last drive and every mounted one can be unmounted, and the record is written. -/
structure SessionDevice.CanEject (facts : EjectFacts) (d : SessionDevice) : Prop where
  isStorage : d.isStorage = true
  written : facts.mergePut = true
  nonempty : d.storageDriveList ≠ []
  last : facts.umount (d.storageDriveList.length - 1) = true
  mounted : ∀ idx drive, d.storageDriveList[idx]? = some drive → drive.isMounted = true →
    facts.umount idx = true

/-- db8 answers with an array, and the device it names is ejected already or can be. -/
structure EjectSpeaks (payload : Option FindAnswer) (facts : EjectFacts) : Prop where
  answered : ∃ answer, payload = some answer ∧ (answer.returnValue = true → answer.results.isSome)
  device : ∀ d, payload.bind FindAnswer.device = some d →
    d.errorReason = "Ejected" ∨ d.CanEject facts

/-! ### A device that is found -/

namespace SessionService

variable {facts : EjectFacts} {d : SessionDevice}

theorem ejectFound_of_ejected (h : d.errorReason = "Ejected") :
    ejectFound facts d =
      { replies := [{ returnValue := true, ejectText := some "Already ejected" }] } := if_pos h

/-- The outcome for a device that can be ejected. -/
theorem ejectFound_of_canEject (hnew : d.errorReason ≠ "Ejected") (h : d.CanEject facts) :
    ejectFound facts d =
      { replies := [{ returnValue := true }]
        umounts := d.storageDriveList.map SessionDrive.mountName
        stored := some
          { d with
            storageDriveList := (ejectDrives facts d.deviceSetId 0 false d.storageDriveList).1
            errorReason := "Ejected" } } := by
  have hflag : (ejectDrives facts d.deviceSetId 0 false d.storageDriveList).2 = true := by
    rw [ejectDrives_flag _ _ _ _ _ h.nonempty, Nat.zero_add]
    exact h.last
  unfold ejectFound
  rw [if_neg hnew]
  simp only [h.isStorage, h.written, hflag, Bool.and_self, if_true, Bool.true_eq_false, if_false]

/-- A new eject that is answered is one of a storage device with the flag set. -/
theorem answered_of_new (hnew : d.errorReason ≠ "Ejected")
    (h : (ejectFound facts d).replies ≠ []) :
    (ejectFound facts d).replies = [{ returnValue := true }] ∧ d.isStorage = true ∧
      facts.mergePut = true ∧ d.storageDriveList ≠ [] ∧
      facts.umount (d.storageDriveList.length - 1) = true := by
  unfold ejectFound at h ⊢
  rw [if_neg hnew] at h ⊢
  dsimp only at h ⊢
  by_cases hwritten : facts.mergePut = false
  · rw [if_pos hwritten] at h
    exact absurd rfl h
  rw [if_neg hwritten] at h ⊢
  by_cases hflag : (d.isStorage &&
      (ejectDrives facts d.deviceSetId 0 false d.storageDriveList).2) = false
  · rw [if_pos hflag] at h
    exact absurd rfl h
  rw [if_neg hflag]
  rw [Bool.not_eq_false, Bool.and_eq_true] at hflag
  have hdrives : d.storageDriveList ≠ [] := by
    intro hnil
    have hall := hflag.2
    rw [hnil] at hall
    exact Bool.noConfusion hall
  refine ⟨rfl, hflag.1, by simpa using hwritten, hdrives, ?_⟩
  rw [← hflag.2, ejectDrives_flag _ _ _ _ _ hdrives, Nat.zero_add]

/-- The drives of a record that was written. -/
theorem drivesTrue_of_canEject (hnew : d.errorReason ≠ "Ejected") (h : d.CanEject facts) :
    d.DrivesTrue facts (ejectFound facts d) := by
  rw [ejectFound_of_canEject hnew h]
  intro idx drive hdrive
  refine ⟨ejectDrive (facts.of (0 + idx)) d.deviceSetId drive, ?_, ?_⟩
  · show (ejectDrives facts d.deviceSetId 0 false d.storageDriveList).1[idx]? = _
    rw [ejectDrives_getElem?, hdrive]
    rfl
  · have hasked : (d.storageDriveList.map SessionDrive.mountName)[idx]? = some drive.mountName := by
      rw [List.getElem?_map, hdrive]
      rfl
    have hok : (facts.of (0 + idx)).umount drive.mountName = facts.umount idx := by
      rw [Nat.zero_add]
      rfl
    rw [ejectDrive_isMounted, hok]
    cases drive.isMounted <;> cases facts.umount idx <;> simp [hasked]

/-- An eject of a device that db8 names. -/
theorem ejectFound_truthful_iff {payload : Option FindAnswer}
    (hdevice : payload.bind FindAnswer.device = some d) :
    EjectTruthful payload facts (ejectFound facts d) ↔
      (d.errorReason = "Ejected" ∨ d.CanEject facts) := by
  have hnamed : ∀ {p : SessionDevice → Prop},
      (∃ e, payload.bind FindAnswer.device = some e ∧ p e) ↔ p d := by
    intro p
    rw [hdevice]
    exact ⟨fun ⟨e, he, hp⟩ => Option.some.inj he ▸ hp, fun hp => ⟨d, rfl, hp⟩⟩
  have hnamed' : ∀ {p : SessionDevice → Prop},
      p d → ∀ e, payload.bind FindAnswer.device = some e → p e := by
    intro p hp e he
    rw [hdevice] at he
    exact Option.some.inj he ▸ hp
  by_cases hnew : d.errorReason = "Ejected"
  · refine ⟨fun _ => Or.inl hnew, fun _ => ?_⟩
    rw [ejectFound_of_ejected hnew]
    refine ⟨rfl, ⟨fun _ => hnamed.mpr (Or.inl hnew), fun _ => ⟨_, List.mem_cons_self, rfl⟩⟩,
      hnamed' ⟨fun _ => Or.inl hnew, fun _ => hnew⟩, hnamed' fun idx drive hdrive => ?_⟩
    refine ⟨drive, hdrive, ⟨Or.inl, ?_⟩⟩
    rintro (hidle | ⟨hasked, -⟩)
    · exact hidle
    · cases hasked
  · constructor
    · intro h
      have hreplies : (ejectFound facts d).replies ≠ [] := by
        intro hnil
        have hone := h.oneReply
        rw [hnil] at hone
        cases hone
      obtain ⟨hreply, hstorage, hwritten, hdrives, hlast⟩ := answered_of_new hnew hreplies
      refine Or.inr ⟨hstorage, hwritten, hdrives, hlast, fun idx drive hdrive hmounted => ?_⟩
      have hsaid : ∃ reply ∈ (ejectFound facts d).replies, reply.returnValue = true := by
        rw [hreply]
        exact ⟨_, List.mem_cons_self, rfl⟩
      rcases hnamed.mp (h.reply.mp hsaid) with hold | hall
      · exact absurd hold hnew
      · exact (hall idx drive hdrive hmounted).2
    · rintro (hold | h)
      · exact absurd hold hnew
      have hall : d.AllUnmounted facts (ejectFound facts d) := by
        intro idx drive hdrive hmounted
        refine ⟨?_, h.mounted idx drive hdrive hmounted⟩
        rw [ejectFound_of_canEject hnew h]
        show (d.storageDriveList.map SessionDrive.mountName)[idx]? = _
        rw [List.getElem?_map, hdrive]
        rfl
      have htrue := drivesTrue_of_canEject hnew h
      have hejected : d.IsEjected facts (ejectFound facts d) := Or.inr hall
      rw [ejectFound_of_canEject hnew h] at hejected htrue ⊢
      exact ⟨rfl, ⟨fun _ => hnamed.mpr hejected, fun _ => ⟨_, List.mem_cons_self, rfl⟩⟩,
        hnamed' ⟨fun _ => hejected, fun _ => rfl⟩, hnamed' htrue⟩

/-! ### Every answer of db8 -/

/-- A device that is not found is answered. -/
theorem truthful_of_unnamed {payload : Option FindAnswer}
    (hdevice : payload.bind FindAnswer.device = none) :
    EjectTruthful payload facts { replies := [{ errorText := some "No device found" }] } := by
  have hno : ∀ {p : SessionDevice → Prop} e, payload.bind FindAnswer.device = some e → p e := by
    intro p e he
    rw [hdevice] at he
    cases he
  refine ⟨rfl, ⟨?_, fun ⟨e, he, _⟩ => absurd (hdevice.symm.trans he) (by simp)⟩, hno, hno⟩
  rintro ⟨reply, hmem, htrue⟩
  rw [List.mem_singleton.mp hmem] at htrue
  cases htrue

theorem speaks_of_unnamed {answer : FindAnswer} (hdevice : answer.device = none)
    (harray : answer.returnValue = true → answer.results.isSome) :
    EjectSpeaks (some answer) facts := by
  refine ⟨⟨answer, rfl, harray⟩, fun d hd => ?_⟩
  rw [Option.bind_some, hdevice] at hd
  cases hd

/-- The eject of a device keeps its promise exactly when db8 names no device, one that is
ejected, or one that can be. -/
theorem eject_truthful_iff (payload : Option FindAnswer) (facts : EjectFacts) :
    EjectTruthful payload facts (cbEjectDevice payload facts) ↔ EjectSpeaks payload facts := by
  have hsilent : ¬ EjectTruthful payload facts {} := fun h => by cases h.oneReply
  match payload with
  | none =>
    refine ⟨fun h => absurd h hsilent, fun h => ?_⟩
    obtain ⟨answer, hanswer, -⟩ := h.answered
    cases hanswer
  | some ⟨false, results⟩ =>
    exact ⟨fun _ => speaks_of_unnamed rfl (by simp), fun _ => truthful_of_unnamed rfl⟩
  | some ⟨true, none⟩ =>
    refine ⟨fun h => absurd h hsilent, fun h => ?_⟩
    obtain ⟨answer, hanswer, harray⟩ := h.answered
    rw [← Option.some.inj hanswer] at harray
    exact absurd (harray rfl) (by simp)
  | some ⟨true, some []⟩ =>
    exact ⟨fun _ => speaks_of_unnamed rfl (by simp), fun _ => truthful_of_unnamed rfl⟩
  | some ⟨true, some (d :: rest)⟩ =>
    have hdevice : (some (FindAnswer.mk true (some (d :: rest)))).bind FindAnswer.device = some d :=
      rfl
    refine (ejectFound_truthful_iff hdevice).trans ⟨fun h => ⟨⟨_, rfl, by simp⟩, ?_⟩, fun h => ?_⟩
    · intro e he
      rw [hdevice] at he
      exact Option.some.inj he ▸ h
    · exact h.device d hdevice

/-- A stick with two partitions, both mounted. -/
def twoPartitions : SessionDevice where
  hubPortPath := "1-1"
  deviceSetId := "AVN"
  deviceType := "USB_STORAGE"
  storageDriveList :=
    [{ driveName := "sda1", mountName := "/tmp/usb/sda/sda1", isMounted := true },
      { driveName := "sda2", mountName := "/tmp/usb/sda/sda2", isMounted := true }]

/-- Its first partition cannot be unmounted, and the eject is said to have succeeded. -/
theorem first_partition_left_mounted :
    ¬ EjectTruthful (some ⟨true, some [twoPartitions]⟩) { umount := (· ≠ 0) }
      (cbEjectDevice (some ⟨true, some [twoPartitions]⟩) { umount := (· ≠ 0) }) := by
  intro h
  rcases (ejectFound_truthful_iff (d := twoPartitions) rfl).mp h with hold | hcan
  · exact absurd hold (by decide)
  · have hok := hcan.mounted 0 _ rfl rfl
    exact absurd hok (by decide)

end SessionService

end Pdm
