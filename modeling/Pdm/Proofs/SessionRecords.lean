/-
No record is lost when what db8 has found is split into two lists.

Each loop is a filter followed by a copy of fields, and the two filters have opposite tests.
So every record is in one of the lists and in one only, in the order of the records and with
no hole between them, and a storage device comes with all of its drives.
-/
import Pdm.Framework.SessionRecords
import Pdm.Lib.Splits

namespace Pdm

open JValue

/-- What a drive of a payload keeps of the drive in the record. -/
structure KeepsDrive (drive entry : JValue) : Prop where
  volumeLabel : entry.get "volumeLabel" = drive.get "volumeLabel"
  fsType : entry.get "fsType" = drive.get "fsType"
  uuid : entry.get "uuid" = drive.get "uuid"
  driveSize : entry.get "driveSize" = drive.get "driveSize"
  driveName : entry.get "driveName" = drive.get "driveName"
  mountName : entry.get "mountName" = drive.get "mountName"
  isMounted : entry.get "isMounted" = drive.get "isMounted"

/-- What a storage device of a payload keeps of its record: its drives, all of them and in
their order, and its fields. -/
structure KeepsStorage (record entry : JValue) : Prop where
  drives : List.Forall₂ KeepsDrive (record.get "storageDriveList").elements
    (entry.get "storageDriveList").elements
  fields : ∀ key ∈ SessionService.storageDeviceFields, entry.get key = record.get key

structure KeepsNonStorage (record entry : JValue) : Prop where
  fields : ∀ key ∈ SessionService.nonStorageDeviceFields, entry.get key = record.get key

namespace SessionService

/-! ### The entries -/

theorem driveEntry_keeps (drive : JValue) : KeepsDrive drive (driveEntry drive) := by
  have hkept : ∀ key ∈ driveFields, (driveEntry drive).get key = drive.get key := by
    intro key hkey
    exact get_copy_of_mem hkey
  constructor <;> (apply hkept; decide)

theorem driveEntries_eq (storageDriveList : JValue) :
    driveEntries storageDriveList = array (storageDriveList.elements.map driveEntry) :=
  elements_each storageDriveList driveEntry

theorem storageEntry_drives (record : JValue) :
    (storageEntry record).get "storageDriveList"
      = array ((record.get "storageDriveList").elements.map driveEntry) := by
  have hother : "storageDriveList" ∉ storageDeviceFields := by decide
  unfold storageEntry
  rw [driveEntries_eq]
  exact (get_copy record storageDeviceFields _ _).trans (by rw [if_neg hother]; rfl)

theorem storageEntry_get {record : JValue} {key : String} (h : key ∈ storageDeviceFields) :
    (storageEntry record).get key = record.get key :=
  get_copy_of_mem h

theorem nonStorageEntry_get {record : JValue} {key : String}
    (h : key ∈ nonStorageDeviceFields) : (nonStorageEntry record).get key = record.get key :=
  get_copy_of_mem h

theorem storageEntry_keeps (record : JValue) : KeepsStorage record (storageEntry record) where
  drives := by
    rw [storageEntry_drives, elements_array, List.forall₂_map_right_iff, List.forall₂_same]
    intro drive _
    exact driveEntry_keeps drive
  fields _ hkey := storageEntry_get hkey

theorem nonStorageEntry_keeps (record : JValue) :
    KeepsNonStorage record (nonStorageEntry record) where
  fields _ hkey := nonStorageEntry_get hkey

/-! ### The loops -/

theorem getStorageDevicePayload_list (resultArray : JValue) :
    (getStorageDevicePayload resultArray).get "storageDeviceList"
      = array ((resultArray.elements.filter isStorageRecord).map storageEntry) := by
  unfold getStorageDevicePayload
  rw [nth_select resultArray isStorageRecord storageEntry]
  rfl

theorem getNonStorageDevicePayload_list (resultArray : JValue) :
    (getNonStorageDevicePayload resultArray).get "nonStorageDeviceList"
      = array ((resultArray.elements.filter fun record => !isStorageRecord record).map
          nonStorageEntry) := by
  unfold getNonStorageDevicePayload
  rw [nth_select resultArray (fun record => !isStorageRecord record) nonStorageEntry]
  rfl

/--
**The two payloads split the records.**

Each record goes to one of the two lists, the list of storage devices exactly where its type
says so.  What stands there for it keeps its fields, and all of its drives.
-/
theorem payloads_split (resultArray : JValue) :
    ∃ storage nonStorage,
      (getStorageDevicePayload resultArray).get "storageDeviceList" = array storage ∧
      (getNonStorageDevicePayload resultArray).get "nonStorageDeviceList" = array nonStorage ∧
      ListSplit (fun record => (record.get "deviceType").isText "USB_STORAGE" = true)
        KeepsStorage KeepsNonStorage resultArray.elements storage nonStorage := by
  refine ⟨_, _, getStorageDevicePayload_list resultArray,
    getNonStorageDevicePayload_list resultArray, ?_⟩
  exact ListSplit.filter_map isStorageRecord storageEntry_keeps nonStorageEntry_keeps
    resultArray.elements

end SessionService

/-! ### The devices of the display lists

`allDevicePayload` lists devices as the service reads them from the records.
-/

theorem SessionDrive.ofRecord_driveEntry (drive : JValue) :
    SessionDrive.ofRecord (SessionService.driveEntry drive) = SessionDrive.ofRecord drive := by
  have h := SessionService.driveEntry_keeps drive
  unfold SessionDrive.ofRecord
  rw [h.driveName, h.mountName, h.fsType, h.isMounted]

namespace SessionDevice

theorem ofRecord_isStorage (record : JValue) :
    (ofRecord record).isStorage = SessionService.isStorageRecord record := by
  unfold isStorage SessionService.isStorageRecord ofRecord
  cases record.get "deviceType" with
  | string s => rfl
  | _ => simp [asString, isText]

/-- A storage device of a payload is read as its record is. -/
theorem ofRecord_storageEntry (record : JValue) :
    ofRecord (SessionService.storageEntry record) = ofRecord record := by
  have hfield : ∀ key ∈ SessionService.storageDeviceFields,
      (SessionService.storageEntry record).get key = record.get key :=
    fun _ => SessionService.storageEntry_get
  have hdrives := SessionService.storageEntry_drives record
  have hread : SessionDrive.ofRecord ∘ SessionService.driveEntry = SessionDrive.ofRecord :=
    funext SessionDrive.ofRecord_driveEntry
  unfold ofRecord
  rw [hdrives, elements_array, List.map_map, hread, hfield "hubPortPath" (by decide),
    hfield "deviceSetId" (by decide), hfield "deviceType" (by decide),
    hfield "deviceNum" (by decide), hfield "errorReason" (by decide),
    hfield "rootPath" (by decide)]

/-- What a display is told of a device that is not a storage device. -/
def shown (d : SessionDevice) : String × String × String × Int :=
  (d.hubPortPath, d.deviceSetId, d.deviceType, d.deviceNum)

theorem shown_nonStorageEntry (record : JValue) :
    (ofRecord (SessionService.nonStorageEntry record)).shown = (ofRecord record).shown := by
  have hfield : ∀ key ∈ SessionService.nonStorageDeviceFields,
      (SessionService.nonStorageEntry record).get key = record.get key :=
    fun _ => SessionService.nonStorageEntry_get
  unfold shown ofRecord
  rw [hfield "hubPortPath" (by decide), hfield "deviceSetId" (by decide),
    hfield "deviceType" (by decide), hfield "deviceNum" (by decide)]

end SessionDevice

/-- **The storage devices of `allDevicePayload` are those of the payload.** -/
theorem allDevicePayload_storage (resultArray : JValue) :
    (allDevicePayload (resultArray.elements.map SessionDevice.ofRecord)).storageDeviceList
      = some (((SessionService.getStorageDevicePayload resultArray).get
          "storageDeviceList").elements.map SessionDevice.ofRecord) := by
  have hread : SessionDevice.ofRecord ∘ SessionService.storageEntry = SessionDevice.ofRecord :=
    funext SessionDevice.ofRecord_storageEntry
  have htest : SessionDevice.isStorage ∘ SessionDevice.ofRecord = SessionService.isStorageRecord :=
    funext SessionDevice.ofRecord_isStorage
  rw [SessionService.getStorageDevicePayload_list, elements_array, List.map_map, hread]
  unfold allDevicePayload
  rw [List.filter_map, htest]

/-- And so are the others, as the displays are told of them. -/
theorem allDevicePayload_nonStorage (resultArray : JValue) :
    (allDevicePayload (resultArray.elements.map SessionDevice.ofRecord)).nonStorageDeviceList.map
        (List.map SessionDevice.shown)
      = some (((SessionService.getNonStorageDevicePayload resultArray).get
          "nonStorageDeviceList").elements.map
            (SessionDevice.shown ∘ SessionDevice.ofRecord)) := by
  have hread : (SessionDevice.shown ∘ SessionDevice.ofRecord) ∘ SessionService.nonStorageEntry
      = SessionDevice.shown ∘ SessionDevice.ofRecord :=
    funext SessionDevice.shown_nonStorageEntry
  have htest : (fun d : SessionDevice => !d.isStorage) ∘ SessionDevice.ofRecord
      = fun record => !SessionService.isStorageRecord record := by
    funext record
    rw [Function.comp_apply, SessionDevice.ofRecord_isStorage]
  rw [SessionService.getNonStorageDevicePayload_list, elements_array, List.map_map, hread]
  unfold allDevicePayload
  rw [List.filter_map (p := fun d : SessionDevice => !d.isStorage), htest]
  rw [Option.map_some, List.map_map]

end Pdm
