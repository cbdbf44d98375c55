/-
What db8 has found, split into the two device lists that are posted, in the build with
`WEBOS_SESSION`.

The records are JSON as db8 answers it: any array, with any fields.  Both functions go over
the records with an index of the array and a counter of their own for the list they build.
-/
import Pdm.Framework.DeviceSessions
import Pdm.Lib.Json

namespace Pdm

open JValue

namespace SessionService

/-- The fields of a drive that are put, in the order of the puts. -/
def driveFields : List String :=
  ["volumeLabel", "fsType", "uuid", "driveSize", "driveName", "mountName", "isMounted"]

/-- The fields of a storage device that are put after its drives. -/
def storageDeviceFields : List String :=
  ["hubPortPath", "rootPath", "deviceType", "deviceSetId", "deviceType", "productId", "vendorId",
   "devPath", "productName", "vendorName", "serialNumber", "deviceNum", "deviceSubtype",
   "devSpeed", "errorReason"]

/-- The fields of any other device that are put. -/
def nonStorageDeviceFields : List String :=
  ["hubPortPath", "deviceSetId", "deviceType", "productId", "vendorId", "deviceNum", "usbPortNum",
   "serialNumber", "vendorName", "productName", "deviceSubtype", "isPowerOnConnect", "devSpeed",
   "devPath", "deviceName"]

/-- `driveListObj` -/
def driveEntry (drive : JValue) : JValue := copy drive driveFields (object [])

/-- The loop over the drives of a record, with `idx`. -/
def driveEntries (storageDriveList : JValue) : JValue :=
  (List.range storageDriveList.arraySize).foldl
    (fun list idx => list.putNth idx (driveEntry (storageDriveList.nth idx))) (array [])

/-- `deviceInfoObj` of a storage device. -/
def storageEntry (record : JValue) : JValue :=
  copy record storageDeviceFields
    ((object []).put "storageDriveList" (driveEntries (record.get "storageDriveList")))

/-- `deviceInfoObj` of any other device. -/
def nonStorageEntry (record : JValue) : JValue :=
  copy record nonStorageDeviceFields (object [])

/-- `resultArray[index]["deviceType"] == "USB_STORAGE"` -/
def isStorageRecord (record : JValue) : Bool := (record.get "deviceType").isText "USB_STORAGE"

/-- `PdmLunaService::getStorageDevicePayload` -/
def getStorageDevicePayload (resultArray : JValue) : JValue :=
  let (storageDeviceList, _) := (List.range resultArray.arraySize).foldl
    (fun (storageDeviceList, storageDeviceCount) index =>
      if isStorageRecord (resultArray.nth index) then
        (storageDeviceList.putNth storageDeviceCount (storageEntry (resultArray.nth index)),
          storageDeviceCount + 1)
      else (storageDeviceList, storageDeviceCount))
    (array [], 0)
  (object []).put "storageDeviceList" storageDeviceList

/-- `PdmLunaService::getNonStorageDevicePayload` -/
def getNonStorageDevicePayload (resultArray : JValue) : JValue :=
  let (nonStorageDeviceList, _) := (List.range resultArray.arraySize).foldl
    (fun (nonStorageDeviceList, nonStorageDeviceCount) index =>
      if !isStorageRecord (resultArray.nth index) then
        (nonStorageDeviceList.putNth nonStorageDeviceCount
          (nonStorageEntry (resultArray.nth index)), nonStorageDeviceCount + 1)
      else (nonStorageDeviceList, nonStorageDeviceCount))
    (array [], 0)
  (object []).put "nonStorageDeviceList" nonStorageDeviceList

end SessionService

/-! ### A record as the service reads it -/

def SessionDrive.ofRecord (drive : JValue) : SessionDrive where
  driveName := (drive.get "driveName").asString
  mountName := (drive.get "mountName").asString
  fsType := (drive.get "fsType").asString
  isMounted := (drive.get "isMounted").asBool

def SessionDevice.ofRecord (record : JValue) : SessionDevice where
  hubPortPath := (record.get "hubPortPath").asString
  deviceSetId := (record.get "deviceSetId").asString
  deviceType := (record.get "deviceType").asString
  deviceNum := (record.get "deviceNum").asNumber
  errorReason := (record.get "errorReason").asString
  rootPath := (record.get "rootPath").asString
  storageDriveList := (record.get "storageDriveList").elements.map SessionDrive.ofRecord

end Pdm
