/-
What the reply of `setDeviceForSession` says of the devices of the request.

The two loops of the callback write one flag and copy it into the response, so that the reply
is the last outcome before the last copy and no other.  It is true of all devices exactly when
that outcome is the one of all: when a failure, if there is any, is the last that is heard, and
when something is heard otherwise.  An order of the devices that puts another outcome last
changes the reply.
-/
import Pdm.Framework.SessionAnswers
import Pdm.Lib.Overwrites

namespace Pdm

open Overwrites

/-! ### The loops, as writes of the flag -/

namespace DeviceTry

variable (t : DeviceTry)

def driveWrites (drive : SessionDrive × Nat) : List (Write Bool) :=
  (if SessionService.mountable drive.1.fsType = true ∧ t.device.deviceSetId ≠ "" then
      [.set (t.mounted drive.2)] else []) ++ [.copy]

def storageWrites : List (Write Bool) :=
  (if t.device.deviceSetId ≠ "" then [.set t.stored] else []) ++
    if t.device.isStorage then t.device.storageDriveList.zipIdx.flatMap t.driveWrites else []

def nonStorageWrites : List (Write Bool) :=
  (if t.device.deviceSetId ≠ "" ∧ t.device.deviceSetId ≠ "Select" then [.set t.stored] else []) ++
    [.copy]

end DeviceTry

def TriedRequest.writes (r : TriedRequest) : List (Write Bool) :=
  r.storageDeviceList.flatMap DeviceTry.storageWrites ++
    r.nonStorageDeviceList.flatMap DeviceTry.nonStorageWrites

namespace SessionAnswer

def cell (a : SessionAnswer) : Cell Bool := { flag := a.success, answer := a.returnValue }

theorem cell_mountDrive (t : DeviceTry) (a : SessionAnswer) (drive : SessionDrive × Nat) :
    (mountDrive t a drive).cell = a.cell.run (t.driveWrites drive) := by
  unfold mountDrive DeviceTry.driveWrites
  split <;> rfl

theorem cell_setStorageDevice (a : SessionAnswer) (t : DeviceTry) :
    (setStorageDevice a t).cell = a.cell.run t.storageWrites := by
  have hdrives := Cell.run_flatMap cell (mountDrive t) t.driveWrites (cell_mountDrive t)
  unfold setStorageDevice DeviceTry.storageWrites
  rw [Cell.run_append]
  by_cases hset : t.device.deviceSetId ≠ ""
  · rw [if_pos hset, if_pos hset]
    split
    · exact hdrives _ _
    · rfl
  · rw [if_neg hset, if_neg hset]
    split
    · exact hdrives _ _
    · rfl

theorem cell_setNonStorageDevice (a : SessionAnswer) (t : DeviceTry) :
    (setNonStorageDevice a t).cell = a.cell.run t.nonStorageWrites := by
  unfold setNonStorageDevice DeviceTry.nonStorageWrites
  split <;> rfl

end SessionAnswer

namespace TriedRequest

/-- The outcomes before the last copy. -/
def heard (r : TriedRequest) : List Bool := (Overwrites.heard r.writes).getD []

theorem response_eq (r : TriedRequest) :
    r.response =
      if Write.copy ∈ r.writes then some (r.heard.getLast?.getD false) else none := by
  have hcell : r.response = (Cell.run { flag := false } r.writes).answer := by
    unfold writes
    rw [Cell.run_append]
    have hstorage := Cell.run_flatMap SessionAnswer.cell SessionAnswer.setStorageDevice
      DeviceTry.storageWrites SessionAnswer.cell_setStorageDevice {} r.storageDeviceList
    have hnonStorage := Cell.run_flatMap SessionAnswer.cell SessionAnswer.setNonStorageDevice
      DeviceTry.nonStorageWrites SessionAnswer.cell_setNonStorageDevice
      (r.storageDeviceList.foldl SessionAnswer.setStorageDevice {}) r.nonStorageDeviceList
    rw [hstorage] at hnonStorage
    exact congrArg Cell.answer hnonStorage
  rw [hcell, run_answer]
  unfold heard
  by_cases hcopy : Write.copy ∈ r.writes
  · rw [if_pos hcopy]
    obtain ⟨l, hl⟩ := Option.isSome_iff_exists.mp (heard_isSome_iff.mpr hcopy)
    rw [hl]
    rfl
  · rw [if_neg hcopy]
    have hnone : Overwrites.heard r.writes = none := by
      rw [← Option.not_isSome_iff_eq_none, heard_isSome_iff]
      exact hcopy
    rw [hnone]

end TriedRequest

/-! ### What a request requires -/

namespace DeviceTry

variable (t : DeviceTry)

/-- The outcomes of what a storage device of a request requires: that its record is stored and
that its drives are mounted, where it is set to a display. -/
def storageRequired : List Bool :=
  if t.device.deviceSetId = "" then []
  else
    t.stored ::
      if t.device.isStorage then
        (t.device.storageDriveList.zipIdx.filter fun drive =>
          SessionService.mountable drive.1.fsType).map fun drive => t.mounted drive.2
      else []

/-- Of any other device: that its record is stored. -/
def nonStorageRequired : List Bool :=
  if t.device.deviceSetId = "" ∨ t.device.deviceSetId = "Select" then [] else [t.stored]

theorem outcomes_storageWrites : outcomes t.storageWrites = t.storageRequired := by
  have hdrives : ∀ drives : List (SessionDrive × Nat),
      outcomes (drives.flatMap t.driveWrites) =
        if t.device.deviceSetId = "" then []
        else (drives.filter fun drive => SessionService.mountable drive.1.fsType).map
          fun drive => t.mounted drive.2 := by
    intro drives
    induction drives with
    | nil => split <;> rfl
    | cons drive drives ih =>
        rw [List.flatMap_cons, outcomes_append, ih]
        unfold driveWrites
        by_cases hset : t.device.deviceSetId = ""
        · simp [hset, outcomes]
        · by_cases hmount : SessionService.mountable drive.1.fsType = true
          · simp [hset, hmount, outcomes]
          · simp [hset, hmount, outcomes]
  unfold storageWrites storageRequired
  rw [outcomes_append]
  by_cases hset : t.device.deviceSetId = ""
  · by_cases hstorage : t.device.isStorage = true
    · simp [hset, hstorage, hdrives, outcomes]
    · simp [hset, hstorage, outcomes]
  · by_cases hstorage : t.device.isStorage = true
    · simp [hset, hstorage, hdrives, outcomes]
    · simp [hset, hstorage, outcomes]

theorem outcomes_nonStorageWrites : outcomes t.nonStorageWrites = t.nonStorageRequired := by
  unfold nonStorageWrites nonStorageRequired
  by_cases hset : t.device.deviceSetId = "" ∨ t.device.deviceSetId = "Select"
  · rw [if_pos hset, if_neg (by tauto)]
    rfl
  · rw [if_neg hset, if_pos (by tauto)]
    rfl

/-- Where the loop over the storage devices answers. -/
theorem copy_mem_storageWrites :
    Write.copy ∈ t.storageWrites ↔
      t.device.isStorage = true ∧ t.device.storageDriveList ≠ [] := by
  have hdrive : ∀ drive, Write.copy ∈ t.driveWrites drive := fun drive => by simp [driveWrites]
  unfold storageWrites
  by_cases hstorage : t.device.isStorage = true
  · cases hlist : t.device.storageDriveList with
    | nil => split <;> simp
    | cons drive drives => simp [hstorage, List.zipIdx_cons, hdrive]
  · simp only [hstorage]
    split <;> simp

theorem copy_mem_nonStorageWrites : Write.copy ∈ t.nonStorageWrites := by
  simp [nonStorageWrites]

end DeviceTry

namespace TriedRequest

/-- The outcomes of all that a request requires. -/
def required (r : TriedRequest) : List Bool :=
  r.storageDeviceList.flatMap DeviceTry.storageRequired ++
    r.nonStorageDeviceList.flatMap DeviceTry.nonStorageRequired

def AllSucceed (r : TriedRequest) : Prop := ∀ outcome ∈ r.required, outcome = true

/-- The devices of the request in another order. -/
def Rearranged (r r' : TriedRequest) : Prop :=
  r.storageDeviceList.Perm r'.storageDeviceList ∧
    r.nonStorageDeviceList.Perm r'.nonStorageDeviceList

theorem outcomes_writes (r : TriedRequest) : outcomes r.writes = r.required := by
  unfold writes required
  rw [outcomes_append, outcomes_flatMap, outcomes_flatMap]
  simp only [DeviceTry.outcomes_storageWrites, DeviceTry.outcomes_nonStorageWrites]

theorem allSucceed_congr {r r' : TriedRequest} (h : r.Rearranged r') :
    r.AllSucceed ↔ r'.AllSucceed := by
  have hperm : r.required.Perm r'.required := (h.1.flatMap_right _).append (h.2.flatMap_right _)
  unfold AllSucceed
  simp only [hperm.mem_iff]

/-- There is something to answer with: a device without storage, or a storage device with a
drive. -/
def Answered (r : TriedRequest) : Prop :=
  r.nonStorageDeviceList ≠ [] ∨
    ∃ t ∈ r.storageDeviceList, t.device.isStorage = true ∧ t.device.storageDriveList ≠ []

theorem answered_iff (r : TriedRequest) : Write.copy ∈ r.writes ↔ r.Answered := by
  unfold writes Answered
  rw [List.mem_append, List.mem_flatMap, List.mem_flatMap, or_comm]
  simp only [DeviceTry.copy_mem_storageWrites, DeviceTry.copy_mem_nonStorageWrites, and_true]
  exact or_congr_left ⟨fun ⟨_, ht⟩ => List.ne_nil_of_mem ht, List.exists_mem_of_ne_nil _⟩

/-- The last outcome that is heard is that of all. -/
structure Decided (r : TriedRequest) : Prop where
  answered : r.Answered
  /-- Where all succeeds, something is heard. -/
  heard : r.AllSucceed → r.heard ≠ []
  /-- Where something fails, what is heard last is a failure. -/
  last : ¬ r.AllSucceed → r.heard.getLast? ≠ some true

/-- The reply carries the outcome of all that is required. -/
def AnswerTrue (r : TriedRequest) : Prop :=
  ∃ returnValue, r.response = some returnValue ∧ (returnValue = true ↔ r.AllSucceed)

theorem heard_required {r : TriedRequest} {outcome : Bool} (h : outcome ∈ r.heard) :
    outcome ∈ r.required := by
  rw [← outcomes_writes]
  unfold heard at h
  cases hheard : Overwrites.heard r.writes with
  | none =>
      rw [hheard] at h
      cases h
  | some l =>
      rw [hheard] at h
      exact heard_subset hheard outcome h

theorem answerTrue_iff (r : TriedRequest) : r.AnswerTrue ↔ r.Decided := by
  unfold AnswerTrue
  rw [response_eq]
  constructor
  · rintro ⟨returnValue, hresponse, htrue⟩
    by_cases hcopy : Write.copy ∈ r.writes
    · rw [if_pos hcopy] at hresponse
      obtain rfl := Option.some.inj hresponse
      refine ⟨r.answered_iff.mp hcopy, fun hall hnil => ?_, fun hfail hlast => ?_⟩
      · have hget := htrue.mpr hall
        rw [hnil] at hget
        cases hget
      · exact hfail (htrue.mp (by rw [hlast]; rfl))
    · rw [if_neg hcopy] at hresponse
      cases hresponse
  · intro h
    rw [if_pos (r.answered_iff.mpr h.answered)]
    refine ⟨_, rfl, fun hget => ?_, fun hall => ?_⟩
    · by_contra hfail
      have hlast := h.last hfail
      cases hheard : r.heard.getLast? with
      | none =>
          rw [hheard] at hget
          cases hget
      | some outcome =>
          rw [hheard] at hget hlast
          exact hlast (congrArg some hget)
    · have hlast := List.getLast?_eq_some_getLast (h.heard hall)
      rw [hlast]
      exact hall _ (heard_required (List.getLast_mem _))

/-- The reply to a request is the outcome of all devices, and remains it in another order,
exactly when the outcome is decided in both. -/
theorem answer_covers_iff (r r' : TriedRequest) (h : r.Rearranged r') :
    (r.AnswerTrue ∧ r'.response = r.response) ↔ (r.Decided ∧ r'.Decided) := by
  rw [← answerTrue_iff, ← answerTrue_iff]
  constructor
  · rintro ⟨htrue, hsame⟩
    refine ⟨htrue, ?_⟩
    obtain ⟨returnValue, hresponse, hall⟩ := htrue
    exact ⟨returnValue, hsame.trans hresponse, hall.trans (allSucceed_congr h)⟩
  · rintro ⟨htrue, htrue'⟩
    refine ⟨htrue, ?_⟩
    obtain ⟨returnValue, hresponse, hall⟩ := htrue
    obtain ⟨returnValue', hresponse', hall'⟩ := htrue'
    have hsame : returnValue' = returnValue := by
      rw [Bool.eq_iff_iff, hall, hall', allSucceed_congr h]
    rw [hresponse, hresponse', hsame]

/-- A camera and a keyboard, both of which are stored. -/
theorem answer_covers_iff_two_devices :
    let camera : DeviceTry :=
      { device := { hubPortPath := "1-1", deviceSetId := "AVN", deviceType := "CAM" } }
    let keyboard : DeviceTry :=
      { device := { hubPortPath := "1-2", deviceSetId := "RSE-L", deviceType := "HID" } }
    AnswerTrue { nonStorageDeviceList := [camera, keyboard] } ∧
      response { nonStorageDeviceList := [keyboard, camera] } =
        response { nonStorageDeviceList := [camera, keyboard] } := by
  intro camera keyboard
  refine (answer_covers_iff { nonStorageDeviceList := [camera, keyboard] }
    { nonStorageDeviceList := [keyboard, camera] } ⟨.refl _, .swap _ _ _⟩).mpr ⟨?_, ?_⟩
  · exact ⟨Or.inl (by simp), fun _ => by decide,
      fun hfail => absurd (show ∀ outcome ∈ _, _ by decide) hfail⟩
  · exact ⟨Or.inl (by simp), fun _ => by decide,
      fun hfail => absurd (show ∀ outcome ∈ _, _ by decide) hfail⟩

/-- Of two drives the first cannot be mounted, and the reply is that all went well. -/
theorem failed_mount_unanswered :
    ¬ AnswerTrue
      { storageDeviceList :=
          [{ device :=
              { hubPortPath := "1-1", deviceSetId := "AVN", deviceType := "USB_STORAGE"
                storageDriveList :=
                  [{ driveName := "sda1", fsType := "vfat" }, { driveName := "sda2", fsType := "vfat" }] }
             mounted := (· ≠ 0) }] } := by
  rintro ⟨returnValue, hresponse, htrue⟩
  have hvalue : returnValue = true := by
    have hreply : some true = some returnValue := hresponse
    exact (Option.some.inj hreply).symm
  have hfail := htrue.mp hvalue false (by decide)
  exact Bool.noConfusion hfail

end TriedRequest

end Pdm
